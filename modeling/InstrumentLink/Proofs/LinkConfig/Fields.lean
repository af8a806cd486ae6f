import InstrumentLink.LinkConfig.Json
import InstrumentLink.Proofs.Json.Numeral

namespace InstrumentLink

namespace Topology

private theorem ofName?_eq_some_iff (name : String) (topology : Topology) :
    ofName? name = some topology ↔ name = topology.name := by
  constructor
  · intro found
    have same := List.find?_some found
    exact (of_decide_eq_true same).symm
  · rintro rfl
    cases topology <;> rfl

end Topology

namespace ConfigField

theorem ofName?_eq_some_iff (name : String) (field : ConfigField) :
    ofName? name = some field ↔ name = field.name := by
  constructor
  · intro found
    have same := List.find?_some found
    exact (of_decide_eq_true same).symm
  · rintro rfl
    cases field <;> rfl

theorem ofName?_name (field : ConfigField) : ofName? field.name = some field :=
  (ofName?_eq_some_iff field.name field).mpr rfl

theorem name_inj {field field' : ConfigField} : field.name = field'.name ↔ field = field' := by
  rw [← ofName?_eq_some_iff, ofName?_name, Option.some_inj]

theorem nodup_all : all.Nodup := by decide

theorem mem_all (field : ConfigField) : field ∈ all := by
  cases field <;> decide

theorem ofName?_eq_none {unknown : String} (absent : unknown ∉ all.map name) :
    ofName? unknown = none := by
  rw [Option.eq_none_iff_forall_ne_some]
  intro field found
  rw [(ofName?_eq_some_iff unknown field).mp found] at absent
  exact absent (List.mem_map_of_mem (mem_all field))

end ConfigField

namespace Json

/-! ### Values of a type -/

/-- A decoder takes just the values that are written from what it gives. -/
def Inverts {α : Type} (decode? : Value → Option α) (encode : α → Value) : Prop :=
  ∀ v a, decode? v = some a ↔ v = encode a

theorem Inverts.nullable? {α : Type} {decode? : Value → Option α} {encode : α → Value}
    (inverts : Inverts decode? encode) (present : ∀ a, encode a ≠ .null) :
    Inverts (Json.nullable? decode?) (.ofOption encode) := by
  intro v field
  have null : decode? .null = none := by
    rw [Option.eq_none_iff_forall_ne_some]
    exact fun a read => present a ((inverts .null a).mp read).symm
  cases field with
  | none =>
    constructor
    · intro read
      unfold Json.nullable? at read
      split at read
      · rfl
      · obtain ⟨a, -, absent⟩ := Option.map_eq_some_iff.mp read
        cases absent
    · rintro rfl
      rfl
  | some a =>
    rw [Value.ofOption, ← inverts v a]
    unfold Json.nullable?
    split
    · rw [null]
      exact ⟨nofun, nofun⟩
    · simp

theorem inverts_text? : Inverts Value.text? .ofText := by
  intro v text
  constructor
  · intro read
    unfold Value.text? at read
    split at read
    · rw [read]
      rfl
    · cases read
  · rintro rfl
    rfl

theorem inverts_bool? : Inverts Value.bool? .bool := by
  intro v b
  constructor
  · intro read
    unfold Value.bool? at read
    split at read
    · rw [Option.some.inj read]
    · cases read
  · rintro rfl
    rfl

private theorem naturalBelow?_eq_some_iff (bound : Nat) (literal : String) (n : Nat) :
    naturalBelow? bound literal = some n ↔ n < bound ∧ literal = toString n := by
  rw [naturalBelow?, Option.filter_eq_some_iff, natural?_eq_some_iff, decide_eq_true_eq, and_comm]

/-- The word that a number literal writes, for words that are the numbers below a bound. -/
private def wordBelow? {α : Type} (bound : Nat) (ofNat : Nat → α) : Value → Option α
  | .number literal => (naturalBelow? bound literal).map ofNat
  | _ => none

private theorem inverts_wordBelow? {α : Type} {bound : Nat} {ofNat : Nat → α} {toNat : α → Nat}
    (below : ∀ a, toNat a < bound) (ofNat_toNat : ∀ a, ofNat (toNat a) = a)
    (toNat_ofNat : ∀ n < bound, toNat (ofNat n) = n) :
    Inverts (wordBelow? bound ofNat) fun a => .ofNat (toNat a) := by
  intro v a
  constructor
  · intro read
    unfold wordBelow? at read
    split at read
    · next literal =>
      obtain ⟨n, natural, rfl⟩ := Option.map_eq_some_iff.mp read
      obtain ⟨small, rfl⟩ := (naturalBelow?_eq_some_iff bound literal n).mp natural
      change _ = Value.ofNat (toNat (ofNat n))
      rw [toNat_ofNat n small]
      rfl
    · cases read
  · rintro rfl
    have natural : naturalBelow? bound (toString (toNat a)) = some (toNat a) :=
      (naturalBelow?_eq_some_iff bound _ _).mpr ⟨below a, rfl⟩
    change (naturalBelow? bound (toString (toNat a))).map ofNat = some a
    rw [natural, Option.map_some, ofNat_toNat]

theorem inverts_word16? : Inverts word16? fun n => .ofNat n.toNat :=
  inverts_wordBelow? UInt16.toNat_lt (fun _ => UInt16.ofNat_toNat) fun _ =>
    UInt16.toNat_ofNat_of_lt'

theorem inverts_word32? : Inverts word32? fun n => .ofNat n.toNat :=
  inverts_wordBelow? UInt32.toNat_lt (fun _ => UInt32.ofNat_toNat) fun _ =>
    UInt32.toNat_ofNat_of_lt'

theorem inverts_word8? : Inverts word8? fun n => .ofNat n.toNat :=
  inverts_wordBelow? UInt8.toNat_lt (fun _ => UInt8.ofNat_toNat) fun _ =>
    UInt8.toNat_ofNat_of_lt'

end Json

namespace LinkConfig

open Json (Value)

/-! ### Fields -/

/-- The first configuration with a field of the second. -/
def withField (config other : LinkConfig) : ConfigField → LinkConfig
  | .topology => { config with topology := other.topology }
  | .host => { config with host := other.host }
  | .dataPort => { config with dataPort := other.dataPort }
  | .commandPort => { config with commandPort := other.commandPort }
  | .dataTxPort => { config with dataTxPort := other.dataTxPort }
  | .dataRxPort => { config with dataRxPort := other.dataRxPort }
  | .devicePath => { config with devicePath := other.devicePath }
  | .baud => { config with baud := other.baud }
  | .parity => { config with parity := other.parity }
  | .flowControl => { config with flowControl := other.flowControl }
  | .dataBits => { config with dataBits := other.dataBits }
  | .stopBits => { config with stopBits := other.stopBits }
  | .blocking => { config with blocking := other.blocking }

theorem get_withField_self (config other : LinkConfig) (field : ConfigField) :
    (config.withField other field).get field = other.get field := by
  cases field <;> rfl

theorem withField_withField (config other : LinkConfig) (field : ConfigField) :
    config.withField (config.withField other field) field = config.withField other field := by
  cases field <;> rfl

theorem withField_again (config first second : LinkConfig) (field : ConfigField) :
    (config.withField first field).withField second field = config.withField second field := by
  cases field <;> rfl

theorem get_withField_of_ne (config other : LinkConfig) {field field' : ConfigField}
    (apart : field' ≠ field) : (config.withField other field).get field' = config.get field' := by
  cases field with
  | _ => cases field' <;> first | rfl | exact absurd rfl apart

/-- A value says what a field of the configuration is: it is what the field is written as. A
topology may also be named by the only key of an object that holds null. -/
def Gives (config : LinkConfig) (field : ConfigField) (v : Value) : Prop :=
  v = config.get field ∨ field = .topology ∧ v = .object [(some config.topology.name, .null)]

theorem gives_iff_of_ne {config : LinkConfig} {field : ConfigField} (apart : field ≠ .topology)
    (v : Value) : config.Gives field v ↔ v = config.get field := by
  simp [Gives, apart]

theorem named?_eq_some_iff (v : Value) (topology : Topology) :
    Json.named? Topology.ofName? v = some topology ↔
      v = .ofText topology.name ∨ v = .object [(some topology.name, .null)] := by
  constructor
  · intro read
    unfold Json.named? at read
    split at read
    · rw [(Topology.ofName?_eq_some_iff _ topology).mp read]
      exact Or.inl rfl
    · rw [(Topology.ofName?_eq_some_iff _ topology).mp read]
      exact Or.inr rfl
    · cases read
  · rintro (rfl | rfl) <;> exact (Topology.ofName?_eq_some_iff _ topology).mpr rfl

private theorem map_put_iff {α : Type} {decode? : Value → Option α} {encode : α → Value}
    (inverts : Json.Inverts decode? encode) {field : ConfigField} (apart : field ≠ .topology)
    {put : α → LinkConfig} (take : LinkConfig → α) (take_put : ∀ a, take (put a) = a)
    (get_eq : ∀ config : LinkConfig, config.get field = encode (take config)) {v : Value}
    {config : LinkConfig} :
    (decode? v).map put = some config ↔ config.Gives field v ∧ config = put (take config) := by
  rw [Option.map_eq_some_iff, gives_iff_of_ne apart, get_eq]
  constructor
  · rintro ⟨a, read, rfl⟩
    rw [take_put]
    exact ⟨(inverts v a).mp read, rfl⟩
  · rintro ⟨written, same⟩
    exact ⟨take config, (inverts v _).mpr written, same.symm⟩

/-- A field takes just the values that give what it then is, and leaves all other fields alone. -/
theorem set?_eq_some_iff (config config' : LinkConfig) (field : ConfigField) (v : Value) :
    config.set? field v = some config' ↔
      config'.Gives field v ∧ config' = config.withField config' field := by
  have texts := Json.inverts_text?.nullable? nofun
  have words16 := Json.inverts_word16?.nullable? nofun
  have words32 := Json.inverts_word32?.nullable? nofun
  have words8 := Json.inverts_word8?.nullable? nofun
  have bools := Json.inverts_bool?
  cases field with
  | topology =>
    rw [set?, Option.map_eq_some_iff, Gives]
    constructor
    · rintro ⟨topology, read, rfl⟩
      have given := (named?_eq_some_iff v topology).mp read
      exact ⟨given.imp_right fun named => ⟨rfl, named⟩, rfl⟩
    · rintro ⟨given, same⟩
      have given : v = .ofText config'.topology.name ∨
          v = .object [(some config'.topology.name, .null)] := given.imp_right And.right
      exact ⟨config'.topology, (named?_eq_some_iff v _).mpr given, same.symm⟩
  | host => exact map_put_iff texts (by decide) (·.host) (fun _ => rfl) fun _ => rfl
  | dataPort => exact map_put_iff words16 (by decide) (·.dataPort) (fun _ => rfl) fun _ => rfl
  | commandPort => exact map_put_iff words16 (by decide) (·.commandPort) (fun _ => rfl) fun _ => rfl
  | dataTxPort => exact map_put_iff words16 (by decide) (·.dataTxPort) (fun _ => rfl) fun _ => rfl
  | dataRxPort => exact map_put_iff words16 (by decide) (·.dataRxPort) (fun _ => rfl) fun _ => rfl
  | devicePath => exact map_put_iff texts (by decide) (·.devicePath) (fun _ => rfl) fun _ => rfl
  | baud => exact map_put_iff words32 (by decide) (·.baud) (fun _ => rfl) fun _ => rfl
  | parity => exact map_put_iff words8 (by decide) (·.parity) (fun _ => rfl) fun _ => rfl
  | flowControl => exact map_put_iff words8 (by decide) (·.flowControl) (fun _ => rfl) fun _ => rfl
  | dataBits => exact map_put_iff words8 (by decide) (·.dataBits) (fun _ => rfl) fun _ => rfl
  | stopBits => exact map_put_iff words8 (by decide) (·.stopBits) (fun _ => rfl) fun _ => rfl
  | blocking => exact map_put_iff bools (by decide) (·.blocking) (fun _ => rfl) fun _ => rfl

theorem set?_get (config other : LinkConfig) (field : ConfigField) :
    config.set? field (other.get field) = some (config.withField other field) := by
  have given : (config.withField other field).Gives field (other.get field) :=
    Or.inl (get_withField_self config other field).symm
  exact (set?_eq_some_iff config _ field _).mpr
    ⟨given, (config.withField_withField other field).symm⟩

private theorem copied_eq (config : LinkConfig) :
    ConfigField.all.foldl (fun into field => into.withField config field) {} = config := by
  simp only [ConfigField.all, List.foldl_cons, List.foldl_nil, withField]

theorem ext_get {config other : LinkConfig}
    (same : ∀ field, config.get field = other.get field) : config = other := by
  have put_same (into : LinkConfig) (field : ConfigField) :
      into.withField config field = into.withField other field := by
    have put := into.set?_get config field
    rw [same, set?_get] at put
    exact (Option.some.inj put).symm
  rw [← config.copied_eq, ← other.copied_eq]
  simp only [put_same]

end LinkConfig

end InstrumentLink
