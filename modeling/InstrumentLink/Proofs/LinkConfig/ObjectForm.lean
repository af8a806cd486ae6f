import InstrumentLink.Proofs.Json.Parsing
import InstrumentLink.Proofs.LinkConfig.Members

/-!
# Configurations from objects

What an object says about a configuration is in the members that name a field. Their order, the
blanks and spellings of the text, and all other members have no effect; a field that is named twice
is refused.
-/

namespace InstrumentLink

namespace Json

/-! ### Texts of objects -/

/-- The text starts as an object does, after blanks. -/
def OpensObject (text : String) : Prop :=
  (text.toList.dropWhile Token.isBlank).head? = some '{'

instance (text : String) : Decidable (OpensObject text) :=
  inferInstanceAs (Decidable (_ = _))

private theorem exists_first_of_spells {token : Token} {chars : List Char}
    (spells : token.Spells chars) :
    ∃ c rest, chars = c :: rest ∧ Token.isBlank c = false ∧ (c = '{' → token = .objectStart) := by
  cases spells with
  | mark is_mark =>
    refine ⟨_, [], rfl, ?_, ?_⟩
    · unfold Token.ofMark? at is_mark
      split at is_mark <;> first | rfl | cases is_mark
    · rintro rfl
      exact (Option.some.inj is_mark).symm
  | null | true | false => exact ⟨_, _, rfl, rfl, nofun⟩
  | number numeral =>
    cases chars : numeral.chars with
    | nil =>
      have number := numeral.isNumber_chars
      rw [chars] at number
      cases number
    | cons c rest =>
      have word := numeral.isWord_of_mem_chars (chars ▸ List.mem_cons_self)
      refine ⟨c, rest, rfl, Lexer.isBlank_of_isWord word, ?_⟩
      rintro rfl
      cases word
  | string pieces => exact ⟨_, _, rfl, rfl, nofun⟩

private theorem Layout.exists_objectStart {tokens : List Token} {text : List Char}
    (laid : Layout tokens text) (opens : (text.dropWhile Token.isBlank).head? = some '{') :
    ∃ rest, tokens = .objectStart :: rest := by
  cases laid with
  | blanks blank =>
    rw [List.dropWhile_eq_nil_iff.mpr blank] at opens
    cases opens
  | token blank spells later =>
    obtain ⟨c, more, rfl, no_blank, brace⟩ := exists_first_of_spells spells
    rw [List.dropWhile_append_of_pos blank, List.cons_append,
      List.dropWhile_cons_of_neg (Bool.eq_false_iff.mp no_blank)] at opens
    rw [brace (Option.some.inj opens)]
    exact ⟨_, rfl⟩

private theorem Value.Writes.exists_object {v : Value} {text : String} (writes : v.Writes text)
    (opens : OpensObject text) : ∃ members, v = .object members := by
  obtain ⟨rest, tokens⟩ := Layout.exists_objectStart writes opens
  cases v with
  | object members => exact ⟨members, rfl⟩
  | null | bool | number | string | array => cases tokens

end Json

namespace LinkConfig

open Json (Value OpensObject)

theorem parse?_of_writes {v : Value} {text : String} (writes : v.Writes text) :
    parse? text = ofValue? v := by
  rw [parse?, (Json.parse?_eq_some_iff text v).mpr writes, Option.bind_some]

/-- Each field is named at most once. -/
def NamesOnce (members : List (String × Value)) : Prop :=
  ∀ field : ConfigField, (members.map Prod.fst).count field.name ≤ 1

/-- The members whose names are those of fields. -/
def fieldMembers (members : List (String × Value)) : List (String × Value) :=
  members.filter fun member => member.1 ∈ ConfigField.all.map ConfigField.name

private theorem once_known_iff (members : List (String × Value)) :
    Once [] ((known members).map Prod.fst) ↔ NamesOnce members := by
  rw [once_nil, List.nodup_iff_count_le_one, NamesOnce]
  simp only [count_known]

private theorem known_fieldMembers (members : List (String × Value)) :
    known (fieldMembers members) = known members := by
  rw [known, fieldMembers, List.filterMap_filter, known]
  apply List.filterMap_congr
  intro member _
  by_cases named : member.1 ∈ ConfigField.all.map ConfigField.name
  · rw [if_pos (decide_eq_true named)]
  · rw [if_neg (Bool.not_eq_true _ ▸ decide_eq_false named), ConfigField.ofName?_eq_none named]
    rfl

private theorem ofValue?_perm {members members' : List (String × Value)}
    (perm : (fieldMembers members).Perm (fieldMembers members')) :
    ofValue? (.ofMembers members) = ofValue? (.ofMembers members') := by
  have known_perm : (known members).Perm (known members') := by
    rw [← known_fieldMembers members, ← known_fieldMembers members']
    exact perm.filterMap _
  have keys := (known_perm.map Prod.fst).nodup_iff
  simp only [ofValue?_ofMembers, once_nil]
  -- a field that is named twice refuses both, otherwise the order of the fields is free
  by_cases nodup : ((known members).map Prod.fst).Nodup
  · rw [if_pos nodup, if_pos (keys.mp nodup), assign?_perm nodup known_perm]
  · rw [if_neg nodup, if_neg (mt keys.mpr nodup)]

/-- How a text that starts as an object is read as a configuration. -/
structure ObjectForm (text : String) : Prop where
  /-- It is accepted just if it writes an object that names each field at most once, with values
  that the fields take. -/
  accepted_iff : (parse? text).isSome = true ↔
    ∃ members, (Value.ofMembers members).Writes text ∧ NamesOnce members ∧
      ∀ (field : ConfigField) (v : Value), (field.name, v) ∈ members → field.Accepts v
  /-- The configuration has these values, and the default in all fields that are not named. -/
  result : ∀ members config, (Value.ofMembers members).Writes text → parse? text = some config →
    (∀ (field : ConfigField) (v : Value), (field.name, v) ∈ members → config.Gives field v) ∧
      ∀ field : ConfigField, field.name ∉ members.map Prod.fst → config.get field = get {} field
  /-- No other text that names the same fields with the same values, in any order and among any
  other members, is read as anything else. -/
  determined : ∀ members text' members', (Value.ofMembers members).Writes text →
    (Value.ofMembers members').Writes text' →
      (fieldMembers members').Perm (fieldMembers members) → parse? text' = parse? text
  /-- A field that is named twice is refused, whatever its values are. -/
  refused : ∀ members (field : ConfigField), (Value.ofMembers members).Writes text →
    1 < (members.map Prod.fst).count field.name → parse? text = none

private theorem isSome_ofValue?_ofMembers_iff (members : List (String × Value)) :
    (ofValue? (.ofMembers members)).isSome = true ↔
      NamesOnce members ∧
        ∀ (field : ConfigField) (v : Value), (field.name, v) ∈ members → field.Accepts v := by
  rw [ofValue?_ofMembers, ← once_known_iff]
  simp only [← mem_known_iff]
  split
  · next once =>
    rw [isSome_assign?_iff, Prod.forall]
    exact (and_iff_right once).symm
  · next twice =>
    exact ⟨nofun, fun accepted => absurd accepted.1 twice⟩

/-- An object says what its fields are, and leaves the others at their defaults. -/
theorem objectForm (text : String) (opens : OpensObject text) : ObjectForm text := by
  refine ⟨⟨?_, ?_⟩, ?_, ?_, ?_⟩
  · intro accepted
    obtain ⟨config, read⟩ := Option.isSome_iff_exists.mp accepted
    obtain ⟨v, parsed, decoded⟩ := Option.bind_eq_some_iff.mp read
    have writes := (Json.parse?_eq_some_iff text v).mp parsed
    obtain ⟨members, rfl⟩ := writes.exists_object opens
    obtain ⟨named, rfl⟩ := exists_named decoded
    rw [parse?_of_writes writes] at accepted
    exact ⟨named, writes, (isSome_ofValue?_ofMembers_iff named).mp accepted⟩
  · rintro ⟨members, writes, accepted⟩
    rw [parse?_of_writes writes]
    exact (isSome_ofValue?_ofMembers_iff members).mpr accepted
  · intro members config writes read
    rw [parse?_of_writes writes, ofValue?_ofMembers, Option.ite_none_right_eq_some] at read
    obtain ⟨once, assigned⟩ := read
    obtain ⟨given, others⟩ := (assign?_eq_some_iff ((once_nil _).mp once) {} config).mp assigned
    refine ⟨fun field v mem => given (field, v) ((mem_known_iff members field v).mpr mem), ?_⟩
    intro field absent
    apply others
    rw [← List.count_pos_iff, count_known, List.count_pos_iff]
    exact absent
  · intro members text' members' writes writes' perm
    rw [parse?_of_writes writes, parse?_of_writes writes', ofValue?_perm perm]
  · intro members field writes twice
    rw [parse?_of_writes writes, ofValue?_ofMembers, if_neg]
    intro once
    exact absurd ((once_known_iff members).mp once field) (Nat.not_le.mpr twice)

/-- A field is named twice, once with an escape in its name, and holds null both times. -/
theorem objectForm_refuses_repeated_null :
    OpensObject " \x7b\"host\": null, \"\\u0068ost\": null\x7d" ∧
      parse? " \x7b\"host\": null, \"\\u0068ost\": null\x7d" = none := by
  have opens : OpensObject " \x7b\"host\": null, \"\\u0068ost\": null\x7d" := by decide
  refine ⟨opens, (objectForm _ opens).refused [("host", .null), ("host", .null)] .host ?_ ?_⟩
  · exact (Json.parse?_eq_some_iff _ _).mp rfl
  · decide

end LinkConfig

end InstrumentLink
