import Mathlib.Data.List.Nodup
import InstrumentLink.Proofs.LinkConfig.Fields

namespace InstrumentLink

open Json (Value)

namespace ConfigField

/-- The width of the words that a numeric field holds. -/
def width? : ConfigField → Option Nat
  | dataPort | commandPort | dataTxPort | dataRxPort => some 16
  | baud => some 32
  | parity | flowControl | dataBits | stopBits => some 8
  | topology | host | devicePath | blocking => none

/-- The values that are acceptable for the type of a field. -/
def Accepts (field : ConfigField) (v : Value) : Prop :=
  match field with
  | topology => ∃ topology : Topology,
      v = .ofText topology.name ∨ v = .object [(some topology.name, .null)]
  | host | devicePath => v = .null ∨ ∃ text, v = .ofText text
  | blocking => ∃ b, v = .bool b
  | _ => v = .null ∨ ∃ width n, field.width? = some width ∧ n < 2 ^ width ∧ v = .ofNat n

end ConfigField

namespace LinkConfig

/-! ### One field -/

private theorem isSome_map_put_iff {α : Type} {decode? : Value → Option α} {encode : α → Value}
    (inverts : Json.Inverts decode? encode) (put : α → LinkConfig) (v : Value) :
    ((decode? v).map put).isSome = true ↔ ∃ a, v = encode a := by
  rw [Option.isSome_map, Option.isSome_iff_exists]
  exact exists_congr fun a => inverts v a

private theorem exists_ofOption_iff {α : Type} (encode : α → Value) (v : Value) :
    (∃ a, v = .ofOption encode a) ↔ v = .null ∨ ∃ a, v = encode a :=
  Option.exists

private theorem exists_word_iff {α : Type} {width : Nat} {field : ConfigField} {ofNat : Nat → α}
    {toNat : α → Nat} (wide : field.width? = some width) (below : ∀ a, toNat a < 2 ^ width)
    (toNat_ofNat : ∀ n < 2 ^ width, toNat (ofNat n) = n) (v : Value) :
    (∃ a, v = .ofNat (toNat a)) ↔
      ∃ width n, field.width? = some width ∧ n < 2 ^ width ∧ v = .ofNat n := by
  constructor
  · rintro ⟨a, written⟩
    exact ⟨width, toNat a, wide, below a, written⟩
  · rintro ⟨width', n, wide', small, written⟩
    obtain rfl := Option.some.inj (wide.symm.trans wide')
    refine ⟨ofNat n, ?_⟩
    rw [toNat_ofNat n small]
    exact written

theorem isSome_set?_iff (config : LinkConfig) (field : ConfigField) (v : Value) :
    (config.set? field v).isSome = true ↔ field.Accepts v := by
  have texts := Json.inverts_text?.nullable? nofun
  have words16 := Json.inverts_word16?.nullable? nofun
  have words32 := Json.inverts_word32?.nullable? nofun
  have words8 := Json.inverts_word8?.nullable? nofun
  cases field with
  | topology =>
    rw [set?, Option.isSome_map, Option.isSome_iff_exists]
    exact exists_congr fun topology => named?_eq_some_iff v topology
  | host | devicePath =>
    exact (isSome_map_put_iff texts _ v).trans (exists_ofOption_iff _ v)
  | blocking => exact isSome_map_put_iff Json.inverts_bool? _ v
  | dataPort | commandPort | dataTxPort | dataRxPort =>
    refine (isSome_map_put_iff words16 _ v).trans ((exists_ofOption_iff _ v).trans ?_)
    exact or_congr Iff.rfl (exists_word_iff rfl UInt16.toNat_lt
      (fun _ => UInt16.toNat_ofNat_of_lt') v)
  | baud =>
    refine (isSome_map_put_iff words32 _ v).trans ((exists_ofOption_iff _ v).trans ?_)
    exact or_congr Iff.rfl (exists_word_iff rfl UInt32.toNat_lt
      (fun _ => UInt32.toNat_ofNat_of_lt') v)
  | parity | flowControl | dataBits | stopBits =>
    refine (isSome_map_put_iff words8 _ v).trans ((exists_ofOption_iff _ v).trans ?_)
    exact or_congr Iff.rfl (exists_word_iff rfl UInt8.toNat_lt
      (fun _ => UInt8.toNat_ofNat_of_lt') v)

private theorem Gives.of_get_eq {config config' : LinkConfig} {field : ConfigField} {v : Value}
    (gives : config.Gives field v) (same : config'.get field = config.get field) :
    config'.Gives field v := by
  rcases gives with rfl | ⟨rfl, rfl⟩
  · exact Or.inl same.symm
  · have names : config'.topology.name = config.topology.name := by
      simpa [get, Value.ofText] using same
    exact Or.inr ⟨rfl, by rw [names]⟩

/-! ### Lists of fields -/

/-- Puts values into fields, in the order of the list. -/
def assign? (config : LinkConfig) (pairs : List (ConfigField × Value)) : Option LinkConfig :=
  pairs.foldlM (fun config pair => config.set? pair.1 pair.2) config

private theorem assign?_cons (config : LinkConfig) (field : ConfigField) (v : Value)
    (rest : List (ConfigField × Value)) :
    config.assign? ((field, v) :: rest) =
      (config.set? field v).bind fun config => config.assign? rest :=
  rfl

theorem isSome_assign?_iff (config : LinkConfig) (pairs : List (ConfigField × Value)) :
    (config.assign? pairs).isSome = true ↔ ∀ pair ∈ pairs, pair.1.Accepts pair.2 := by
  induction pairs generalizing config with
  | nil => exact ⟨fun _ _ mem => absurd mem List.not_mem_nil, fun _ => rfl⟩
  | cons pair rest ih =>
    rw [List.forall_mem_cons, ← isSome_set?_iff config, assign?_cons]
    cases config.set? pair.1 pair.2 with
    | none => simp
    | some next => simpa using ih next

/-- Fields that come once hold what their values say, all others what they held before. -/
theorem assign?_eq_some_iff {pairs : List (ConfigField × Value)}
    (nodup : (pairs.map Prod.fst).Nodup) (config result : LinkConfig) :
    config.assign? pairs = some result ↔
      (∀ pair ∈ pairs, result.Gives pair.1 pair.2) ∧
        ∀ field, field ∉ pairs.map Prod.fst → result.get field = config.get field := by
  induction pairs generalizing config with
  | nil =>
    refine ⟨?_, fun ⟨_, same⟩ => ?_⟩
    · rintro ⟨⟩
      exact ⟨nofun, fun _ _ => rfl⟩
    · rw [ext_get fun field => same field List.not_mem_nil]
      rfl
  | cons pair rest ih =>
    obtain ⟨field, v⟩ := pair
    obtain ⟨absent, nodup_rest⟩ := List.nodup_cons.mp nodup
    rw [assign?_cons, Option.bind_eq_some_iff]
    constructor
    · rintro ⟨next, read, read_rest⟩
      obtain ⟨given, next_eq⟩ := (set?_eq_some_iff config next field v).mp read
      obtain ⟨given_rest, others⟩ := (ih nodup_rest next).mp read_rest
      refine ⟨List.forall_mem_cons.mpr ⟨given.of_get_eq (others field absent), given_rest⟩, ?_⟩
      intro other other_absent
      obtain ⟨apart, rest_absent⟩ := not_or.mp (List.mem_cons.not.mp other_absent)
      rw [others other rest_absent, next_eq]
      exact get_withField_of_ne config next apart
    -- the first field is put as the result has it, which the fields after it leave alone
    · rintro ⟨given, others⟩
      obtain ⟨own, given_rest⟩ := List.forall_mem_cons.mp given
      have same := get_withField_self config result field
      refine ⟨config.withField result field, ?_, (ih nodup_rest _).mpr ⟨given_rest, ?_⟩⟩
      · exact (set?_eq_some_iff config _ field v).mpr
          ⟨own.of_get_eq same, (config.withField_withField result field).symm⟩
      · intro other rest_absent
        by_cases own_field : other = field
        · rw [own_field, same]
        · rw [get_withField_of_ne config result own_field]
          exact others other (List.mem_cons.not.mpr (not_or.mpr ⟨own_field, rest_absent⟩))

theorem assign?_perm {pairs pairs' : List (ConfigField × Value)}
    (nodup : (pairs.map Prod.fst).Nodup) (perm : pairs.Perm pairs') (config : LinkConfig) :
    config.assign? pairs = config.assign? pairs' := by
  have keys := perm.map Prod.fst
  ext result
  rw [assign?_eq_some_iff nodup, assign?_eq_some_iff (keys.nodup_iff.mp nodup)]
  simp only [perm.mem_iff, keys.mem_iff]

/-! ### Members and items -/

/-- The members that name a field, with the field in place of the name. -/
def known (members : List (String × Value)) : List (ConfigField × Value) :=
  members.filterMap fun member => (ConfigField.ofName? member.1).map (·, member.2)

private theorem known_cons_of_unknown {name : String} (unknown : ConfigField.ofName? name = none)
    (v : Value) (rest : List (String × Value)) : known ((name, v) :: rest) = known rest := by
  simp [known, unknown]

theorem known_cons {name : String} {field : ConfigField}
    (names : ConfigField.ofName? name = some field) (v : Value) (rest : List (String × Value)) :
    known ((name, v) :: rest) = (field, v) :: known rest := by
  simp [known, names]

theorem known_map_name (pairs : List (ConfigField × Value)) :
    known (pairs.map fun pair => (pair.1.name, pair.2)) = pairs := by
  induction pairs with
  | nil => rfl
  | cons pair rest ih => rw [List.map_cons, known_cons (ConfigField.ofName?_name pair.1), ih]

theorem mem_known_iff (members : List (String × Value)) (field : ConfigField) (v : Value) :
    (field, v) ∈ known members ↔ (field.name, v) ∈ members := by
  simp [known, ConfigField.ofName?_eq_some_iff]

theorem count_known (members : List (String × Value)) (field : ConfigField) :
    ((known members).map Prod.fst).count field = (members.map Prod.fst).count field.name := by
  induction members with
  | nil => rfl
  | cons member rest ih =>
    obtain ⟨name, v⟩ := member
    have found := ConfigField.ofName?_eq_some_iff name
    rw [List.map_cons, List.count_cons, ← ih]
    cases names : ConfigField.ofName? name with
    | none =>
      have apart : name ≠ field.name := fun same => by simp [(found field).mpr same] at names
      simp [known_cons_of_unknown names, apart]
    | some field' =>
      rw [known_cons names, List.map_cons, List.count_cons, (found field').mp names]
      simp [ConfigField.name_inj]

/-- Each field comes once, and none of them has been seen before. -/
def Once (seen fields : List ConfigField) : Prop :=
  fields.Nodup ∧ ∀ field ∈ fields, field ∉ seen

instance (seen fields : List ConfigField) : Decidable (Once seen fields) :=
  inferInstanceAs (Decidable (_ ∧ _))

theorem once_nil (fields : List ConfigField) : Once [] fields ↔ fields.Nodup :=
  and_iff_left fun _ _ => List.not_mem_nil

private theorem once_cons (seen : List ConfigField) (field : ConfigField)
    (rest : List ConfigField) :
    Once seen (field :: rest) ↔ field ∉ seen ∧ Once (field :: seen) rest := by
  rw [Once, Once, List.nodup_cons, List.forall_mem_cons]
  constructor
  · rintro ⟨⟨absent, nodup⟩, new, fresh⟩
    refine ⟨new, nodup, fun later mem => ?_⟩
    rw [List.mem_cons, not_or]
    exact ⟨fun same => absent (same ▸ mem), fresh later mem⟩
  · rintro ⟨new, nodup, fresh⟩
    have absent : field ∉ rest := fun mem => fresh field mem List.mem_cons_self
    exact ⟨⟨absent, nodup⟩, new, fun later mem old =>
      fresh later mem (List.mem_cons_of_mem field old)⟩

private theorem setMembers?_named (config : LinkConfig) (seen : List ConfigField)
    (members : List (String × Value)) :
    config.setMembers? seen (members.map fun member => (some member.1, member.2)) =
      if Once seen ((known members).map Prod.fst) then config.assign? (known members)
      else none := by
  induction members generalizing config seen with
  | nil => rfl
  | cons member rest ih =>
    obtain ⟨name, v⟩ := member
    rw [List.map_cons, setMembers?]
    cases names : ConfigField.ofName? name with
    | none =>
      rw [known_cons_of_unknown names]
      exact ih config seen
    | some field =>
      simp only [ih, known_cons names, List.map_cons, assign?_cons, once_cons]
      by_cases again : field ∈ seen
      · simp [again]
      · by_cases once : Once (field :: seen) ((known rest).map Prod.fst)
        · simp [again, once]
        · simp [again, once]

theorem ofValue?_ofMembers (members : List (String × Value)) :
    ofValue? (.ofMembers members) =
      if Once [] ((known members).map Prod.fst) then assign? {} (known members) else none :=
  setMembers?_named {} [] members

/-- A name that is no text is refused, so the members of a configuration have texts for names. -/
theorem exists_named {config result : LinkConfig} {seen : List ConfigField}
    {members : List (Json.Text × Value)} (read : config.setMembers? seen members = some result) :
    ∃ named : List (String × Value),
      members = named.map fun member => (some member.1, member.2) := by
  induction members generalizing config seen with
  | nil => exact ⟨[], rfl⟩
  | cons member rest ih =>
    obtain ⟨_ | name, v⟩ := member
    · cases read
    · have read_rest : ∃ (config : LinkConfig) (seen : List ConfigField),
          config.setMembers? seen rest = some result := by
        rw [setMembers?] at read
        split at read
        · exact ⟨config, seen, read⟩
        · split at read
          · cases read
          · obtain ⟨next, -, read⟩ := Option.bind_eq_some_iff.mp read
            exact ⟨next, _, read⟩
      obtain ⟨next, seen, read_rest⟩ := read_rest
      obtain ⟨named, rfl⟩ := ih read_rest
      exact ⟨(name, v) :: named, rfl⟩

/-- Items are put into the fields that they are at. There may not be more of them than fields. -/
theorem setItems?_eq (config : LinkConfig) (fields : List ConfigField) (items : List Value) :
    config.setItems? fields items =
      if items.length ≤ fields.length then config.assign? (fields.zip items) else none := by
  induction items generalizing config fields with
  | nil =>
    rw [List.zip_nil_right]
    cases fields <;> rfl
  | cons v rest ih =>
    cases fields with
    | nil => rfl
    | cons field fields =>
      rw [setItems?, List.zip_cons_cons, assign?_cons, List.length_cons, List.length_cons]
      simp only [ih, Nat.add_le_add_iff_right]
      by_cases fits : rest.length ≤ fields.length
      · simp [fits]
      · simp [fits]

end LinkConfig

end InstrumentLink
