import InstrumentLink.Proofs.LinkConfig.ArrayForm

/-!
# Numbers in configurations

A number is taken by a numeric field just if it is a plain natural number that fits the width of the
field, and the field then holds this number. No other literal is brought into range.
-/

namespace InstrumentLink

namespace LinkConfig

open Json (Value Numeral)

/-- The number that a numeric field holds. -/
def number? (config : LinkConfig) : ConfigField → Option Nat
  | .dataPort => config.dataPort.map UInt16.toNat
  | .commandPort => config.commandPort.map UInt16.toNat
  | .dataTxPort => config.dataTxPort.map UInt16.toNat
  | .dataRxPort => config.dataRxPort.map UInt16.toNat
  | .baud => config.baud.map UInt32.toNat
  | .parity => config.parity.map UInt8.toNat
  | .flowControl => config.flowControl.map UInt8.toNat
  | .dataBits => config.dataBits.map UInt8.toNat
  | .stopBits => config.stopBits.map UInt8.toNat
  | .topology | .host | .devicePath | .blocking => none

variable {field : ConfigField} {width : Nat}

private theorem ne_topology (numeric : field.width? = some width) : field ≠ .topology := by
  rintro rfl
  cases numeric

private theorem ofOption_map {α : Type} (toNat : α → Nat) (held : Option α) :
    Value.ofOption (fun a => Value.ofNat (toNat a)) held =
      Value.ofOption Value.ofNat (held.map toNat) := by
  cases held <;> rfl

private theorem get_eq_number (config : LinkConfig) (numeric : field.width? = some width) :
    config.get field = .ofOption .ofNat (config.number? field) := by
  cases field with
  | topology | host | devicePath | blocking => cases numeric
  | _ => exact ofOption_map _ _

private theorem gives_number_iff (config : LinkConfig) (numeric : field.width? = some width)
    (numeral : Numeral) :
    config.Gives field (.number (String.ofList numeral.chars)) ↔
      numeral.IsPlain ∧ config.number? field = some numeral.integer.value := by
  rw [gives_iff_of_ne (ne_topology numeric), config.get_eq_number numeric]
  cases config.number? field with
  | none => exact ⟨nofun, nofun⟩
  | some n =>
    change Value.number _ = .number (toString n) ↔ _
    rw [Value.number.injEq, numeral.chars_eq_toString_iff, Option.some_inj]

private theorem accepts_iff_of_width (numeric : field.width? = some width) (v : Value) :
    field.Accepts v ↔ v = .null ∨ ∃ n < 2 ^ width, v = .ofNat n := by
  have accepts_iff : field.Accepts v ↔
      v = .null ∨ ∃ width n, field.width? = some width ∧ n < 2 ^ width ∧ v = .ofNat n := by
    cases field with
    | topology | host | devicePath | blocking => cases numeric
    | _ => exact Iff.rfl
  rw [accepts_iff, numeric]
  simp only [Option.some_inj, exists_and_left, exists_eq_left']

theorem accepts_number_iff (numeric : field.width? = some width) (numeral : Numeral) :
    field.Accepts (.number (String.ofList numeral.chars)) ↔
      numeral.IsPlain ∧ numeral.integer.value < 2 ^ width := by
  rw [accepts_iff_of_width numeric]
  constructor
  · rintro (absent | ⟨n, small, written⟩)
    · cases absent
    · obtain ⟨plain, rfl⟩ := (numeral.chars_eq_toString_iff n).mp (Value.number.inj written)
      exact ⟨plain, small⟩
  · rintro ⟨plain, small⟩
    have written := (numeral.chars_eq_toString_iff _).mpr ⟨plain, rfl⟩
    exact Or.inr ⟨_, small, congrArg Value.number written⟩

/-! ### One value in place of another -/

private theorem eq_withField_iff {config others : LinkConfig} :
    config = others.withField config field ↔
      ∀ other, other ≠ field → config.get other = others.get other := by
  constructor
  · intro same other apart
    rw [same, get_withField_of_ne others config apart]
  · intro same
    apply ext_get
    intro other
    by_cases own : other = field
    · rw [own, get_withField_self]
    · rw [get_withField_of_ne others config own, same other own]

private theorem set?_of_set? {config next : LinkConfig} {v : Value}
    (first : config.set? field v = some next) (w : Value) :
    next.set? field w = config.set? field w := by
  obtain ⟨-, next_eq⟩ := (set?_eq_some_iff config next field v).mp first
  ext result
  rw [set?_eq_some_iff, set?_eq_some_iff, next_eq, withField_again]

private theorem assign?_middle (config : LinkConfig) {front back : List (ConfigField × Value)}
    {v : Value} (nodup : ((front ++ (field, v) :: back).map Prod.fst).Nodup) :
    config.assign? (front ++ (field, v) :: back) =
      (config.assign? (front ++ back)).bind fun config => config.set? field v := by
  have last : (front ++ (field, v) :: back).Perm (front ++ back ++ [(field, v)]) :=
    List.perm_middle.trans (List.perm_append_singleton _ _).symm
  rw [assign?_perm nodup last, assign?, List.foldlM_append]
  simp only [List.foldlM_cons, List.foldlM_nil, bind_pure]
  rfl

private theorem assign?_replace (config : LinkConfig) {front back : List (ConfigField × Value)}
    {v w : Value} (nodup : ((front ++ (field, v) :: back).map Prod.fst).Nodup)
    (accepts : field.Accepts w) :
    config.assign? (front ++ (field, v) :: back) =
      (config.assign? (front ++ (field, w) :: back)).bind fun config => config.set? field v := by
  have nodup' : ((front ++ (field, w) :: back).map Prod.fst).Nodup := by
    rw [List.map_append, List.map_cons] at nodup ⊢
    exact nodup
  rw [assign?_middle config nodup, assign?_middle config nodup']
  cases config.assign? (front ++ back) with
  | none => rfl
  | some others =>
    have taken := (isSome_set?_iff others field w).mpr accepts
    obtain ⟨next, read⟩ := Option.isSome_iff_exists.mp taken
    rw [Option.bind_some, Option.bind_some, read, Option.bind_some, set?_of_set? read]

/-- Two objects or arrays that differ in the value of one field, which is given by its name or at
its place. -/
inductive Differ (field : ConfigField) (v w : Value) : Value → Value → Prop
  | object (front back : List (String × Value)) :
      Differ field v w (.ofMembers (front ++ (field.name, v) :: back))
        (.ofMembers (front ++ (field.name, w) :: back))
  | array (front back : List Value) (place : ConfigField.all[front.length]? = some field) :
      Differ field v w (.array (front ++ v :: back)) (.array (front ++ w :: back))

private theorem known_middle (field : ConfigField) (front : List (String × Value)) (v : Value)
    (back : List (String × Value)) :
    known (front ++ (field.name, v) :: back) = known front ++ (field, v) :: known back := by
  rw [known, List.filterMap_append]
  exact congrArg (known front ++ ·) (known_cons (ConfigField.ofName?_name field) v back)

private theorem exists_zip_middle {front : List Value}
    (place : ConfigField.all[front.length]? = some field) (back : List Value) : ∃ before after, ∀ v,
      ConfigField.all.zip (front ++ v :: back) = before ++ (field, v) :: after := by
  obtain ⟨before, after, split, length⟩ : ∃ before after,
      ConfigField.all = before ++ field :: after ∧ before.length = front.length := by
    obtain ⟨within, at_place⟩ := List.getElem?_eq_some_iff.mp place
    refine ⟨ConfigField.all.take front.length, ConfigField.all.drop (front.length + 1), ?_,
      List.length_take_of_le (Nat.le_of_lt within)⟩
    rw [← at_place, ← List.drop_eq_getElem_cons within, List.take_append_drop]
  refine ⟨before.zip front, after.zip back, fun v => ?_⟩
  rw [split, List.zip_append length, List.zip_cons_cons]

private theorem Differ.ofValue?_eq {v w whole rest : Value} (differ : Differ field v w whole rest)
    (accepts : field.Accepts w) :
    ofValue? whole = (ofValue? rest).bind fun config => config.set? field v := by
  cases differ with
  | object front back =>
    have keys : (known (front ++ (field.name, v) :: back)).map Prod.fst =
        (known (front ++ (field.name, w) :: back)).map Prod.fst := by
      simp only [known_middle, List.map_append, List.map_cons]
    -- both objects name the same fields, so a field that is named twice refuses both
    rw [ofValue?_ofMembers, ofValue?_ofMembers, keys]
    by_cases once : Once [] ((known (front ++ (field.name, w) :: back)).map Prod.fst)
    · rw [if_pos once, if_pos once, known_middle, known_middle]
      rw [← keys, once_nil, known_middle] at once
      exact assign?_replace {} once accepts
    · rw [if_neg once, if_neg once]
      rfl
  | array front back place =>
    obtain ⟨before, after, zipped⟩ := exists_zip_middle place back
    have once := (once_nil _).mp (once_zip (front ++ v :: back))
    rw [zipped] at once
    have length (u : Value) : (front ++ u :: back).length = (front ++ w :: back).length := by simp
    change setItems? {} _ _ = (setItems? {} _ _).bind _
    -- both arrays are of one length, so both fit or neither does
    rw [setItems?_eq, setItems?_eq, length v, zipped, zipped]
    split
    · exact assign?_replace {} once accepts
    · rfl

/-- How a text is read that gives a numeric field a literal. The bare text gives it null instead. -/
structure NumberForm (field : ConfigField) (width : Nat) (numeral : Numeral) (text bare : String) :
    Prop where
  /-- The literal is accepted just if it is a plain number within the width of the field. -/
  accepted_iff : (parse? text).isSome = true ↔
    numeral.IsPlain ∧ numeral.integer.value < 2 ^ width ∧ (parse? bare).isSome = true
  /-- The field holds this number, and all other fields are as they would be without it. -/
  result : ∀ config, parse? text = some config →
    config.number? field = some numeral.integer.value ∧ ∃ others, parse? bare = some others ∧
      ∀ other, other ≠ field → config.get other = others.get other

/-- A number is never brought into range: it is held as it is, or refused. -/
theorem numberForm {numeral : Numeral} {whole rest : Value} {text bare : String}
    (numeric : field.width? = some width)
    (differ : Differ field (.number (String.ofList numeral.chars)) .null whole rest)
    (writes : whole.Writes text) (writes_rest : rest.Writes bare) :
    NumberForm field width numeral text bare := by
  have accepts : field.Accepts .null := (accepts_iff_of_width numeric .null).mpr (Or.inl rfl)
  have read : parse? text = (parse? bare).bind fun config =>
      config.set? field (.number (String.ofList numeral.chars)) := by
    rw [parse?_of_writes writes, parse?_of_writes writes_rest, differ.ofValue?_eq accepts]
  constructor
  · rw [read, ← and_assoc, ← accepts_number_iff numeric]
    cases parse? bare with
    | none => simp
    | some others => simp [isSome_set?_iff]
  · intro config accepted
    rw [read] at accepted
    obtain ⟨others, read_bare, put⟩ := Option.bind_eq_some_iff.mp accepted
    obtain ⟨given, same⟩ := (set?_eq_some_iff others config field _).mp put
    obtain ⟨-, holds⟩ := (config.gives_number_iff numeric numeral).mp given
    exact ⟨holds, others, read_bare, eq_withField_iff.mp same⟩

/-- The largest code that fits is held, and the next number is refused. -/
theorem numberForm_at_limit :
    (∃ config, parse? "\x7b\"data_bits\": 255\x7d" = some config ∧
        config.number? .dataBits = some 255) ∧
      (parse? "\x7b\"data_bits\": 256\x7d").isSome = false := by
  have bare : (Value.ofMembers [("data_bits", .null)]).Writes "\x7b\"data_bits\": null\x7d" :=
    (Json.parse?_eq_some_iff _ _).mp rfl
  have differs (numeral : Numeral) :
      Differ .dataBits (.number (String.ofList numeral.chars)) .null
        (.ofMembers [("data_bits", .number (String.ofList numeral.chars))])
        (.ofMembers [("data_bits", .null)]) := .object [] []
  constructor
  · have writes : (Value.ofMembers [("data_bits", .number (String.ofList
        (Numeral.chars ⟨false, ⟨2, [5, 5]⟩, none, none, nofun⟩)))]).Writes
          "\x7b\"data_bits\": 255\x7d" := (Json.parse?_eq_some_iff _ _).mp rfl
    have form := numberForm rfl (differs _) writes bare
    have accepted := form.accepted_iff.mpr ⟨⟨rfl, rfl, rfl⟩, by decide, rfl⟩
    obtain ⟨config, read⟩ := Option.isSome_iff_exists.mp accepted
    exact ⟨config, read, (form.result config read).1⟩
  · have writes : (Value.ofMembers [("data_bits", .number (String.ofList
        (Numeral.chars ⟨false, ⟨2, [5, 6]⟩, none, none, nofun⟩)))]).Writes
          "\x7b\"data_bits\": 256\x7d" := (Json.parse?_eq_some_iff _ _).mp rfl
    rw [Bool.eq_false_iff]
    intro accepted
    have form := numberForm rfl (differs _) writes bare
    exact absurd (form.accepted_iff.mp accepted).2.1 (by decide)

end LinkConfig

end InstrumentLink
