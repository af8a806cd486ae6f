import InstrumentLink.Fault

namespace InstrumentLink

/-- What an operation answered, and the states that it left. -/
structure Outcome (σ ε α : Type) where
  answer : Except Fault α
  state : ε
  host : σ

namespace Outcome

variable {σ ε ε' α β : Type}

/-- The outcome with the state put into a larger one. -/
def inState (outcome : Outcome σ ε α) (f : ε → ε') : Outcome σ ε' α :=
  ⟨outcome.answer, f outcome.state, outcome.host⟩

/-- The outcome with another reading of a successful answer. -/
def withAnswer (outcome : Outcome σ ε α) (f : α → β) : Outcome σ ε β :=
  ⟨outcome.answer.map f, outcome.state, outcome.host⟩

/-- Goes on with a successful answer; a fault ends the sequence. -/
def andThen (outcome : Outcome σ ε α) (next : α → ε → σ → Outcome σ ε β) : Outcome σ ε β :=
  match outcome.answer with
  | .ok a => next a outcome.state outcome.host
  | .error fault => ⟨.error fault, outcome.state, outcome.host⟩

@[simp] theorem answer_inState (outcome : Outcome σ ε α) (f : ε → ε') :
    (outcome.inState f).answer = outcome.answer := rfl

@[simp] theorem state_inState (outcome : Outcome σ ε α) (f : ε → ε') :
    (outcome.inState f).state = f outcome.state := rfl

@[simp] theorem host_inState (outcome : Outcome σ ε α) (f : ε → ε') :
    (outcome.inState f).host = outcome.host := rfl

@[simp] theorem answer_withAnswer (outcome : Outcome σ ε α) (f : α → β) :
    (outcome.withAnswer f).answer = outcome.answer.map f := rfl

@[simp] theorem state_withAnswer (outcome : Outcome σ ε α) (f : α → β) :
    (outcome.withAnswer f).state = outcome.state := rfl

@[simp] theorem host_withAnswer (outcome : Outcome σ ε α) (f : α → β) :
    (outcome.withAnswer f).host = outcome.host := rfl

end Outcome

end InstrumentLink
