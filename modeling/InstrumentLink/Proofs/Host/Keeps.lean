import InstrumentLink.Proofs.Endpoint.Custody

namespace InstrumentLink

variable {σ : Type}

/-- Every request leads from a state to one that is related to it, and relations add up. -/
structure Host.Keeps (host : Host σ) (R : σ → σ → Prop) : Prop where
  refl : ∀ os, R os os
  trans : ∀ {before between after}, R before between → R between after → R before after
  request : ∀ {given taken os os'}, host.Request given taken os os' → R os os'

/-- The account of what a relation leads to from a state. It holds whatever is held. -/
def Custody.ofRelation (R : σ → σ → Prop) (start : σ) : Custody σ where
  Holds := fun os _ => R start os
  perm := fun _ reached => reached

namespace Host.Keeps

variable {host : Host σ} {R : σ → σ → Prop} (keeps : host.Keeps R)

include keeps

theorem respects (start : σ) : host.Respects (Custody.ofRelation R start) where
  request := fun request _ reached => keeps.trans reached (keeps.request request)

theorem of_exchanges {given taken : List Handle} {os os' : σ}
    (exchange : (Custody.ofRelation R os).Exchanges given taken os os') : R os os' :=
  exchange [] (keeps.refl os)

theorem setEndpointBlocking (endpoint : Endpoint) (blocking : Bool) (os : σ) :
    R os (endpoint.setBlocking host blocking os).2 :=
  keeps.of_exchanges ((keeps.respects os).setEndpointBlocking endpoint blocking os)

theorem acceptClient (l : Listener) (os : σ) : R os (l.accept host os).host :=
  keeps.of_exchanges ((keeps.respects os).acceptClient l os)

theorem applySettings (settings : List Setting) (endpoint : Endpoint) (os : σ) :
    R os (applySettings host settings endpoint os).2 :=
  keeps.of_exchanges ((keeps.respects os).applySettings settings endpoint os)

theorem reopenIfChanged (before after : Endpoint) (os : σ) :
    R os (before.reopenIfChanged host after os).host :=
  keeps.of_exchanges ((keeps.respects os).reopenIfChanged before after os)

/-- A relation that every request keeps is kept by every step of an endpoint. -/
theorem steps {endpoint after : Endpoint} {os os' : σ} (steps : endpoint.Steps host os after os') :
    R os os' :=
  keeps.of_exchanges ((keeps.respects os).steps steps)

theorem withMode_of_ok {blocking : Bool} {opened : Except IoError Handle × σ} {h : Handle}
    {after : σ} (chosen : host.withMode blocking opened = (.ok h, after)) :
    ∃ before, opened = (.ok h, before) ∧ R before after := by
  unfold Host.withMode at chosen
  split at chosen
  · cases chosen
  · next h' before =>
    have changed := keeps.request (.setBlocking h' blocking before)
    split at chosen
    · next os' answered =>
      cases chosen
      rw [answered] at changed
      exact ⟨before, rfl, changed⟩
    · cases chosen

theorem acceptClient_cases (l : Listener) (os : σ) :
    (l.accept host os).state = l ∨
      ∃ socket h between, l.socket = some socket ∧ host.accept socket os = (.ok h, between) ∧
        R between (l.accept host os).host ∧
        (l.accept host os).state = { l with client := some h } := by
  unfold Listener.accept
  split
  · exact Or.inl rfl
  · exact Or.inl rfl
  · next socket listening _ =>
    split
    · split <;> exact Or.inl rfl
    · next h between taken =>
      split
      · next h' after chosen =>
        obtain ⟨before, opened, reached⟩ := keeps.withMode_of_ok chosen
        cases opened
        exact Or.inr ⟨socket, h, between, listening, taken, reached, rfl⟩
      · exact Or.inl rfl

end Host.Keeps

end InstrumentLink
