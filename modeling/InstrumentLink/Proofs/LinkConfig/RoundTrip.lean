import InstrumentLink.Proofs.Json.Printing
import InstrumentLink.Proofs.LinkConfig.Members

namespace InstrumentLink

namespace Json

private theorem areLiterals_nil : AreLiterals [] := nofun

private theorem areLiterals_cons_of_ne {token : Token} {rest : List Token}
    (apart : ∀ literal, token ≠ .number literal) (literals : AreLiterals rest) :
    AreLiterals (token :: rest) := by
  intro literal mem
  rcases List.mem_cons.mp mem with same | mem
  · exact absurd same.symm (apart literal)
  · exact literals literal mem

private theorem areLiterals_ofNat (n : Nat) : AreLiterals (Value.ofNat n).tokens := by
  intro literal mem
  obtain rfl : literal = toString n := by simpa [Value.ofNat, Value.tokens] using mem
  rw [Nat.toString_eq_ofList_toDigits, String.toList_ofList]
  exact isNumber_of_isNatural (isNatural_toDigits n)

private theorem areLiterals_ofText (text : String) : AreLiterals (Value.ofText text).tokens :=
  areLiterals_cons_of_ne nofun areLiterals_nil

private theorem areLiterals_ofOption {α : Type} {encode : α → Value}
    (literals : ∀ a, AreLiterals (encode a).tokens) (field : Option α) :
    AreLiterals (Value.ofOption encode field).tokens := by
  cases field with
  | none => exact areLiterals_cons_of_ne nofun areLiterals_nil
  | some a => exact literals a

private theorem areLiterals_memberTokens {members : List (Text × Value)}
    (literals : ∀ member ∈ members, AreLiterals member.2.tokens) :
    AreLiterals (Value.memberTokens members) := by
  induction members with
  | nil => exact areLiterals_nil
  | cons member rest ih =>
    obtain ⟨own, others⟩ := List.forall_mem_cons.mp literals
    have member_literals : AreLiterals (.string member.1 :: .colon :: member.2.tokens) :=
      areLiterals_cons_of_ne nofun (areLiterals_cons_of_ne nofun own)
    cases rest with
    | nil => exact member_literals
    | cons next rest =>
      exact areLiterals_append.mpr ⟨member_literals, areLiterals_cons_of_ne nofun (ih others)⟩

end Json

namespace LinkConfig

open Json (Value)

private theorem ofValue?_toValue (config : LinkConfig) : ofValue? config.toValue = some config := by
  have pairs : known (ConfigField.all.map fun field => (field.name, config.get field)) =
      ConfigField.all.map fun field => (field, config.get field) :=
    known_map_name (ConfigField.all.map fun field => (field, config.get field))
  have keys : (ConfigField.all.map fun field => (field, config.get field)).map Prod.fst =
      ConfigField.all := rfl
  rw [toValue, ofValue?_ofMembers, pairs, keys, if_pos ((once_nil _).mpr ConfigField.nodup_all),
    assign?_eq_some_iff (keys ▸ ConfigField.nodup_all), keys]
  constructor
  · intro pair mem
    obtain ⟨field, -, rfl⟩ := List.mem_map.mp mem
    exact Or.inl rfl
  · intro field absent
    exact absurd (ConfigField.mem_all field) absent

private theorem areLiterals_get (config : LinkConfig) (field : ConfigField) :
    Json.AreLiterals (config.get field).tokens := by
  cases field with
  | topology => exact Json.areLiterals_ofText _
  | blocking => exact Json.areLiterals_cons_of_ne nofun Json.areLiterals_nil
  | host | devicePath => exact Json.areLiterals_ofOption Json.areLiterals_ofText _
  | _ => exact Json.areLiterals_ofOption (fun _ => Json.areLiterals_ofNat _) _

private theorem areLiterals_toValue (config : LinkConfig) :
    Json.AreLiterals config.toValue.tokens := by
  have members : Json.AreLiterals (Value.memberTokens
      ((ConfigField.all.map fun field => (field.name, config.get field)).map
        fun member => (some member.1, member.2))) := by
    apply Json.areLiterals_memberTokens
    intro member mem
    simp only [List.map_map, List.mem_map] at mem
    obtain ⟨field, -, rfl⟩ := mem
    exact config.areLiterals_get field
  exact Json.areLiterals_cons_of_ne nofun
    (Json.areLiterals_append.mpr ⟨members, Json.areLiterals_cons_of_ne nofun Json.areLiterals_nil⟩)

private theorem parse?_render (config : LinkConfig) : parse? config.render = some config := by
  rw [parse?, render, Json.parse?_render config.areLiterals_toValue, Option.bind_some,
    ofValue?_toValue]

/-- A configuration is read back from its text, so its text is no other configuration's. -/
theorem render_round_trip (config : LinkConfig) :
    parse? config.render = some config ∧ ∀ other, render other = render config → other = config := by
  refine ⟨config.parse?_render, ?_⟩
  intro other same
  have read := other.parse?_render
  rw [same, parse?_render] at read
  exact (Option.some.inj read).symm

end LinkConfig

end InstrumentLink
