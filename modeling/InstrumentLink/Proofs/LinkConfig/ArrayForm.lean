import Mathlib.Data.List.Forall2
import InstrumentLink.Proofs.Json.Printing
import InstrumentLink.Proofs.LinkConfig.ObjectForm

/-!
# Configurations from arrays

An array gives its items to the fields in their order. It is read like the object that names these
fields, and refused if it has more items than there are fields.
-/

namespace InstrumentLink

namespace Json

/-! ### Texts of lists -/

private theorem intercalate_singleton_cons {α : Type} (separator : α) (first next : List α)
    (rest : List (List α)) :
    [separator].intercalate (first :: next :: rest) =
      first ++ separator :: [separator].intercalate (next :: rest) := by
  rw [List.intercalate_cons_cons, List.append_assoc]
  rfl

theorem Value.itemTokens_eq_intercalate (items : List Value) :
    itemTokens items = [Token.comma].intercalate (items.map tokens) := by
  induction items with
  | nil => rfl
  | cons v rest ih =>
    cases rest with
    | nil => exact List.intercalate_singleton.symm
    | cons w rest =>
      change v.tokens ++ .comma :: itemTokens (w :: rest) = _
      rw [ih]
      exact (intercalate_singleton_cons _ _ _ _).symm

theorem Value.memberTokens_eq_intercalate (members : List (Text × Value)) :
    memberTokens members = [Token.comma].intercalate (members.map Parser.entryTokens) := by
  induction members with
  | nil => rfl
  | cons member rest ih =>
    cases rest with
    | nil => exact List.intercalate_singleton.symm
    | cons next rest =>
      change Parser.entryTokens member ++ .comma :: memberTokens (next :: rest) = _
      rw [ih]
      exact (intercalate_singleton_cons _ (Parser.entryTokens member) _ _).symm

theorem Layout.intercalate {rows : List (List Token)} {texts : List (List Char)}
    (laid : List.Forall₂ Layout rows texts) :
    Layout ([Token.comma].intercalate rows) ([','].intercalate texts) := by
  induction laid with
  | nil => exact .blanks areBlank_nil
  | @cons row text rows texts own others ih =>
    cases others with
    | nil =>
      rw [List.intercalate_singleton, List.intercalate_singleton]
      exact own
    | cons next others =>
      rw [List.intercalate_cons_cons, List.intercalate_cons_cons]
      exact (own.append (.single (.mark rfl))).append ih

private theorem Layout.enclosed {opening closing : Char} {first last : Token} {tokens : List Token}
    {text : List Char} (opens : Token.ofMark? opening = some first)
    (closes : Token.ofMark? closing = some last) (laid : Layout tokens text) :
    Layout (first :: tokens ++ [last]) (opening :: text ++ [closing]) :=
  ((Layout.single (.mark opens)).append laid).append (.single (.mark closes))

end Json

namespace LinkConfig

open Json (Value Layout)

/-- The text of an array with the given texts as its items. -/
def arrayText (texts : List String) : String :=
  "[" ++ ",".intercalate texts ++ "]"

/-- The text of a member that gives a field the value with the given text. -/
def memberText (field : ConfigField) (text : String) : String :=
  "\"" ++ field.name ++ "\":" ++ text

/-- The text of an object that gives the first fields the values with the given texts. -/
def leadingFieldsText (texts : List String) : String :=
  "\x7b" ++ ",".intercalate (ConfigField.all.zipWith memberText texts) ++ "\x7d"

example : leadingFieldsText ["\"instrument_serial\"", "null"] =
    "\x7b\"topology\":\"instrument_serial\",\"host\":null\x7d" := by rfl

/-- The members that give the first fields the given values. -/
private def leadingFields (values : List Value) : List (String × Value) :=
  (ConfigField.all.zip values).map fun pair => (pair.1.name, pair.2)

private theorem writes_array {values : List Value} {texts : List String}
    (writes : List.Forall₂ Value.Writes values texts) :
    (Value.array values).Writes (arrayText texts) := by
  have laid : List.Forall₂ Layout (values.map Value.tokens) (texts.map String.toList) := by
    rw [List.forall₂_map_left_iff, List.forall₂_map_right_iff]
    exact writes
  have opens : Json.Token.ofMark? '[' = some .arrayStart := rfl
  have closes : Json.Token.ofMark? ']' = some .arrayEnd := rfl
  have enclosed := (Layout.intercalate laid).enclosed opens closes
  rw [← Value.itemTokens_eq_intercalate] at enclosed
  rw [Value.Writes, arrayText, String.toList_append, String.toList_append,
    String.toList_intercalate]
  exact enclosed

private theorem layout_memberText (field : ConfigField) {v : Value} {text : String}
    (writes : v.Writes text) :
    Layout (Json.Parser.entryTokens (some field.name, v)) (memberText field text).toList := by
  have spelled : ('"' :: (field.name.toList ++ ['"'])) = Json.quote (some field.name) := by
    cases field <;> decide
  have named := Layout.single (Json.spells_quote (some field.name))
  have colon := Layout.single (.mark (c := ':') rfl)
  rw [← spelled] at named
  simpa [memberText, Json.Parser.entryTokens] using (named.append colon).append writes

private theorem layout_memberTexts (fields : List ConfigField) {values : List Value}
    {texts : List String} (writes : List.Forall₂ Value.Writes values texts) :
    List.Forall₂ Layout
      ((fields.zip values).map fun pair => Json.Parser.entryTokens (some pair.1.name, pair.2))
      ((fields.zipWith memberText texts).map String.toList) := by
  induction writes generalizing fields with
  | nil =>
    rw [List.zip_nil_right, List.zipWith_nil_right]
    exact .nil
  | cons own _ ih =>
    cases fields with
    | nil => exact .nil
    | cons field fields => exact .cons (layout_memberText field own) (ih fields)

private theorem writes_leadingFields {values : List Value} {texts : List String}
    (writes : List.Forall₂ Value.Writes values texts) :
    (Value.ofMembers (leadingFields values)).Writes (leadingFieldsText texts) := by
  have laid := layout_memberTexts ConfigField.all writes
  have opens : Json.Token.ofMark? '\x7b' = some .objectStart := rfl
  have closes : Json.Token.ofMark? '\x7d' = some .objectEnd := rfl
  have members : (leadingFields values).map (fun member => (some member.1, member.2)) =
      (ConfigField.all.zip values).map fun pair => (some pair.1.name, pair.2) := List.map_map
  have enclosed := (Layout.intercalate laid).enclosed opens closes
  rw [Value.Writes, Value.ofMembers, members, Value.tokens, Value.memberTokens_eq_intercalate,
    List.map_map, leadingFieldsText, String.toList_append, String.toList_append,
    String.toList_intercalate]
  exact enclosed

/-! ### Reading arrays -/

theorem once_zip (values : List Value) :
    Once [] ((ConfigField.all.zip values).map Prod.fst) := by
  rw [once_nil, List.zip_eq_zip_take_min, List.map_fst_zip (by simp)]
  exact ConfigField.nodup_all.sublist (List.take_sublist _ _)

private theorem ofValue?_array (values : List Value) :
    ofValue? (.array values) =
      if values.length ≤ 13 then ofValue? (.ofMembers (leadingFields values)) else none := by
  rw [ofValue?_ofMembers, leadingFields, known_map_name, if_pos (once_zip values)]
  exact setItems?_eq {} ConfigField.all values

private theorem exists_values {texts : List String}
    (valid : ∀ text ∈ texts, ∃ v : Value, v.Writes text) :
    ∃ values, List.Forall₂ Value.Writes values texts := by
  induction texts with
  | nil => exact ⟨[], .nil⟩
  | cons text rest ih =>
    obtain ⟨⟨v, writes⟩, valid_rest⟩ := List.forall_mem_cons.mp valid
    obtain ⟨values, writes_rest⟩ := ih valid_rest
    exact ⟨v :: values, .cons writes writes_rest⟩

/-- Up to thirteen items say what the members of the first fields say; more are refused. -/
theorem arrayForm (texts : List String) (valid : ∀ text ∈ texts, ∃ v : Value, v.Writes text) :
    (texts.length ≤ 13 → parse? (arrayText texts) = parse? (leadingFieldsText texts)) ∧
      (13 < texts.length → parse? (arrayText texts) = none) := by
  obtain ⟨values, writes⟩ := exists_values valid
  rw [parse?_of_writes (writes_array writes), parse?_of_writes (writes_leadingFields writes),
    ofValue?_array, ← writes.length_eq]
  exact ⟨fun fits => if_pos fits, fun beyond => if_neg (Nat.not_le.mpr beyond)⟩

theorem arrayForm_within_and_over :
    parse? (arrayText ["\"instrument_serial\"", " null "]) =
        parse? (leadingFieldsText ["\"instrument_serial\"", " null "]) ∧
      parse? (arrayText (List.replicate 14 "null")) = none := by
  have serial : (Value.ofText "instrument_serial").Writes "\"instrument_serial\"" :=
    (Json.parse?_eq_some_iff _ _).mp rfl
  have spaced : Value.null.Writes " null " := (Json.parse?_eq_some_iff _ _).mp rfl
  have null : Value.null.Writes "null" := (Json.parse?_eq_some_iff _ _).mp rfl
  refine ⟨(arrayForm _ ?_).1 (by decide), (arrayForm _ ?_).2 (by decide)⟩
  · exact List.forall_mem_cons.mpr ⟨⟨_, serial⟩, List.forall_mem_singleton.mpr ⟨_, spaced⟩⟩
  · exact fun text mem => ⟨_, List.eq_of_mem_replicate mem ▸ null⟩

end LinkConfig

end InstrumentLink
