import InstrumentLink.Proofs.Endpoint.Setting

namespace InstrumentLink.Endpoint

variable {σ : Type}

/-- An endpoint as it is created, with a configuration and a blocking mode. -/
def new (identity : Identity) (blocking : Bool) : Endpoint :=
  match identity with
  | .tcpClient settings => .tcpClient { settings, blocking }
  | .udpClient settings => .udpClient { settings, blocking }
  | .listener port => .listener { port, blocking }
  | .serialLine settings => .serialLine { settings, blocking }

theorem template_eq_new (endpoint : Endpoint) :
    endpoint.template = new endpoint.identity endpoint.blocking := by
  cases endpoint <;> rfl

theorem handles_new (identity : Identity) (blocking : Bool) :
    (new identity blocking).handles = [] := by
  cases identity <;> rfl

/-- A call of one of the operations of an endpoint. -/
inductive Operation
  | set (setting : Setting)
  | bringUp
  | attach
  | disconnect
  /-- Ends the connection to the client of a listener. -/
  | dropClient
  | write (bytes : ByteArray)
  | read (room : Nat)
  /-- Sends a break on a line. -/
  | sendBreak (milliseconds : Nat)

/-- Carries an operation out. An endpoint of a kind without it stays as it is. -/
def Operation.run (host : Host σ) (operation : Operation) (endpoint : Endpoint) (os : σ) :
    Outcome σ Endpoint Unit :=
  match operation, endpoint with
  | .set setting, endpoint =>
      ⟨.ok (), (setting.apply host endpoint os).1, (setting.apply host endpoint os).2⟩
  | .bringUp, endpoint => (endpoint.bringUp host os).withAnswer fun _ => ()
  | .attach, endpoint => (endpoint.attach host os).withAnswer fun _ => ()
  | .disconnect, endpoint =>
      ⟨.ok (), (endpoint.disconnect host os).1, (endpoint.disconnect host os).2⟩
  | .dropClient, .listener l =>
      ⟨.ok (), .listener (l.disconnectClient host os).1, (l.disconnectClient host os).2⟩
  | .write bytes, endpoint => (endpoint.write host bytes os).withAnswer fun _ => ()
  | .read room, endpoint => (endpoint.read host room os).withAnswer fun _ => ()
  | .sendBreak milliseconds, .serialLine line =>
      ⟨.ok (), .serialLine line, (line.sendBreak host milliseconds os).2⟩
  | _, endpoint => ⟨.ok (), endpoint, os⟩

/-- What can be done to an endpoint that is not part of a larger operation. -/
inductive Action
  | operate (operation : Operation)
  /-- Puts a new endpoint in the place of this one, which is given up. -/
  | replace (identity : Identity) (blocking : Bool)

def Action.run (host : Host σ) (action : Action) (endpoint : Endpoint) (os : σ) : Endpoint × σ :=
  match action with
  | .operate operation =>
      ((operation.run host endpoint os).state, (operation.run host endpoint os).host)
  | .replace identity blocking => (new identity blocking, endpoint.release host os)

/-- The handles of an endpoint that an action gives up for good. -/
def Action.discards (action : Action) (endpoint : Endpoint) : List Handle :=
  match action with
  | .replace _ _ => endpoint.handles
  | _ => []

/-- Carries actions out in order. -/
def actAll (host : Host σ) : List Action → Endpoint → σ → Endpoint × σ
  | [], endpoint, os => (endpoint, os)
  | action :: rest, endpoint, os =>
      actAll host rest (action.run host endpoint os).1 (action.run host endpoint os).2

/-- Carries operations out in order. -/
def runAll (host : Host σ) (operations : List Operation) (endpoint : Endpoint) (os : σ) :
    Endpoint × σ :=
  actAll host (operations.map .operate) endpoint os

theorem runAll_nil (host : Host σ) (endpoint : Endpoint) (os : σ) :
    runAll host [] endpoint os = (endpoint, os) := rfl

/-- The handles that actions give up for good, each when its turn comes. -/
def discardsAll (host : Host σ) : List Action → Endpoint → σ → List Handle
  | [], _, _ => []
  | action :: rest, endpoint, os =>
      action.discards endpoint ++
        discardsAll host rest (action.run host endpoint os).1 (action.run host endpoint os).2

end InstrumentLink.Endpoint
