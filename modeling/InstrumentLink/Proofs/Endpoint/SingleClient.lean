import InstrumentLink.Loopback.Host
import InstrumentLink.Proofs.Endpoint.Transition

/-!
# One client at a time

A listener accepts a client only when it listens and has none. In every state that its operations
lead to, a client comes with a listening socket, and between two clients the first one was given up
by one of a few operations.
-/

namespace InstrumentLink.Listener

variable {σ : Type}

/-- A call of one of the operations of a listener. -/
inductive Operation
  | setPort (port : UInt16)
  | clearPort
  | setBlocking (blocking : Bool)
  | bringUp
  | accept
  | disconnectClient
  | disconnect
  | read (room : Nat)
  | write (bytes : ByteArray)

def Operation.run (host : Host σ) (operation : Operation) (l : Listener) (os : σ) : Listener × σ :=
  match operation with
  | .setPort port => (l.setPort port, os)
  | .clearPort => (l.clearPort, os)
  | .setBlocking blocking => l.setBlocking host blocking os
  | .bringUp => ((l.bringUp host os).state, (l.bringUp host os).host)
  | .accept => ((l.accept host os).state, (l.accept host os).host)
  | .disconnectClient => l.disconnectClient host os
  | .disconnect => l.disconnect host os
  | .read room => ((l.read host room os).state, (l.read host room os).host)
  | .write bytes => ((l.write host bytes os).state, (l.write host bytes os).host)

def runAll (host : Host σ) : List Operation → Listener → σ → Listener × σ
  | [], l, os => (l, os)
  | operation :: rest, l, os =>
      runAll host rest (operation.run host l os).1 (operation.run host l os).2

/-- The states of a listener and of its host after any number of operations on a new listener. -/
inductive Reachable (host : Host σ) : Listener → σ → Prop
  | new (port : Option UInt16) (blocking : Bool) (os : σ) : Reachable host { port, blocking } os
  | operated {l : Listener} {os : σ} (reached : Reachable host l os) (operation : Operation) :
      Reachable host (operation.run host l os).1 (operation.run host l os).2

/-- The stream of the client answers a read with no bytes though there is room for some. -/
def SeesEnd (host : Host σ) (l : Listener) (room : Nat) (os : σ) : Prop :=
  ∃ h bytes, l.client = some h ∧ ((host.stream h).read room os).1 = .ok bytes ∧ bytes.size = 0 ∧
    room ≠ 0

/-- The ways in which a listener gives its client up. -/
def Operation.Releases (host : Host σ) (operation : Operation) (l : Listener) (os : σ) : Prop :=
  match operation with
  | .disconnectClient | .disconnect => True
  | .bringUp => l.isConfigured = true
  | .read room =>
      l.SeesEnd host room os ∨ ∃ detail, (l.read host room os).answer = .error (.readFailure detail)
  | .write bytes => ∃ detail, (l.write host bytes os).answer = .error (.writeFailure detail)
  | .setPort _ | .clearPort | .setBlocking _ | .accept => False

/-- What an attempt to accept a client can lead to. -/
inductive Accepted (host : Host σ) (l : Listener) (os : σ) : Outcome σ Listener Bool → Prop
  | notListening (down : l.socket = none) : Accepted host l os ⟨.error .notInitialized, l, os⟩
  | occupied {socket client : Handle} (listening : l.socket = some socket)
      (held : l.client = some client) : Accepted host l os ⟨.error .alreadyConnected, l, os⟩
  | nonePending {socket : Handle} (listening : l.socket = some socket) (free : l.client = none)
      (after : σ) : Accepted host l os ⟨.ok false, l, after⟩
  | failed {socket : Handle} (listening : l.socket = some socket) (free : l.client = none)
      (detail : String) (after : σ) :
      Accepted host l os ⟨.error (.connectFailure detail), l, after⟩
  | accepted {socket : Handle} (listening : l.socket = some socket) (free : l.client = none)
      (client : Handle) (after : σ) :
      Accepted host l os ⟨.ok true, { l with client := some client }, after⟩

theorem accepted (host : Host σ) (l : Listener) (os : σ) :
    Accepted host l os (l.accept host os) := by
  unfold accept
  split
  · next down => exact .notListening down
  · next listening held => exact .occupied listening held
  · next listening free =>
    split
    · next e after _ =>
      split
      · exact .nonePending listening free after
      · exact .failed listening free e.text after
    · split
      · next client after _ => exact .accepted listening free client after
      · next e after _ => exact .failed listening free e.text after

private theorem accept_of_true {host : Host σ} {l : Listener} {os : σ}
    (answer : (l.accept host os).answer = .ok true) :
    l.isListening = true ∧ l.client = none ∧
      ∃ client, (l.accept host os).state = { l with client := some client } := by
  have led := l.accepted host os
  generalize l.accept host os = outcome at led answer
  cases led with
  | accepted listening free client after =>
    exact ⟨by rw [isListening, listening, Option.isSome_some], free, client, rfl⟩
  | notListening down => cases answer
  | occupied listening held => cases answer
  | nonePending listening free after => cases answer
  | failed listening free detail after => cases answer

theorem noClient?_eq_none_iff {l : Listener} :
    l.noClient? = none ↔ l.isListening = true ∧ l.isConnected = true := by
  unfold noClient? isListening isConnected
  cases l.socket <;> cases l.client <;> simp

private theorem noClient?_eq_notInitialized_iff {l : Listener} :
    l.noClient? = some .notInitialized ↔ l.isListening = false := by
  unfold noClient? isListening
  cases l.socket <;> cases l.client <;> simp

theorem noClient?_eq_notConnected_iff {l : Listener} :
    l.noClient? = some .notConnected ↔ l.isListening = true ∧ l.isConnected = false := by
  unfold noClient? isListening isConnected
  cases l.socket <;> cases l.client <;> simp

theorem write_of_noClient {host : Host σ} {l : Listener} {fault : Fault}
    (refused : l.noClient? = some fault) (bytes : ByteArray) (os : σ) :
    l.write host bytes os = ⟨.error fault, l, os⟩ := by
  simp only [write, refused]

theorem read_of_noClient {host : Host σ} {l : Listener} {fault : Fault}
    (refused : l.noClient? = some fault) (room : Nat) (os : σ) :
    l.read host room os = ⟨.error fault, l, os⟩ := by
  simp only [read, refused]

private theorem write_cases (host : Host σ) {l : Listener} (ready : l.noClient? = none)
    (bytes : ByteArray) (os : σ) :
    (∃ sent, (l.write host bytes os).answer = .ok sent ∧ (l.write host bytes os).state = l) ∨
      ∃ detail, (l.write host bytes os).answer = .error (.writeFailure detail) ∧
        (l.write host bytes os).state = { l with client := none } := by
  simp only [write, ready, Outcome.answer_inState, Outcome.state_inState]
  rcases host.toChannels.writeFully_cases l.client bytes os with
    ⟨sent, ok, kept⟩ | ⟨detail, failed, lost⟩
  · left
    exact ⟨sent, ok, by rw [kept]⟩
  · right
    exact ⟨detail, failed, by rw [lost]⟩

private theorem read_cases (host : Host σ) {l : Listener} (ready : l.noClient? = none) (room : Nat)
    (os : σ) :
    ((∃ bytes, (l.read host room os).answer = .ok bytes) ∧
        ((l.read host room os).state = l ∨
          (l.read host room os).state = { l with client := none } ∧ l.SeesEnd host room os)) ∨
      ∃ detail, (l.read host room os).answer = .error (.readFailure detail) ∧
        (l.read host room os).state = { l with client := none } := by
  simp only [read, ready]
  rcases host.toChannels.readOnce_cases l.client room os with ⟨found, kept⟩ | ⟨detail, failed, lost⟩
  · left
    rcases found with ⟨bytes, given⟩ | blocked | ⟨ended, sees⟩
    · rw [given, kept]
      exact ⟨⟨bytes, rfl⟩, Or.inl rfl⟩
    · rw [blocked, kept]
      exact ⟨⟨_, rfl⟩, Or.inl rfl⟩
    · rw [ended]
      exact ⟨⟨_, rfl⟩, Or.inr ⟨rfl, sees⟩⟩
  · right
    rw [failed, lost]
    exact ⟨detail, rfl, rfl⟩

private theorem client_bringUp (host : Host σ) {l : Listener} (configured : l.isConfigured = true)
    (os : σ) :
    (l.bringUp host os).state.client = none := by
  obtain ⟨port, present⟩ := Option.isSome_iff_exists.mp configured
  simp only [bringUp, present, disconnect, disconnectClient]
  split
  · rfl
  · split <;> rfl

private theorem bringUp_of_not_configured (host : Host σ) {l : Listener}
    (lacking : l.isConfigured = false)
    (os : σ) : l.bringUp host os = ⟨.error .missingPort, l, os⟩ := by
  have missing : l.port = none := by simpa [isConfigured] using lacking
  simp only [bringUp, missing]

/-- An operation leaves both handles, accepts a client where there is none, or gives the client
up. -/
theorem run_cases (host : Host σ) (operation : Operation) (l : Listener) (os : σ) :
    ((operation.run host l os).1.client = l.client ∧
      (operation.run host l os).1.socket = l.socket) ∨
      (l.client = none ∧ l.isListening = true ∧
        (operation.run host l os).1.socket = l.socket) ∨
      ((operation.run host l os).1.client = none ∧ operation.Releases host l os) := by
  cases operation with
  | setPort port => exact Or.inl ⟨rfl, rfl⟩
  | clearPort => exact Or.inl ⟨rfl, rfl⟩
  | setBlocking blocking => exact Or.inl ⟨rfl, rfl⟩
  | disconnectClient => exact Or.inr (Or.inr ⟨rfl, trivial⟩)
  | disconnect => exact Or.inr (Or.inr ⟨rfl, trivial⟩)
  | bringUp =>
    cases configured : l.isConfigured with
    | false =>
      left
      simp [Operation.run, bringUp_of_not_configured host configured]
    | true => exact Or.inr (Or.inr ⟨client_bringUp host configured os, configured⟩)
  | accept =>
    have led := l.accepted host os
    simp only [Operation.run]
    generalize l.accept host os = outcome at led
    cases led with
    | notListening down => exact Or.inl ⟨rfl, rfl⟩
    | occupied listening held => exact Or.inl ⟨rfl, rfl⟩
    | nonePending listening free after => exact Or.inl ⟨rfl, rfl⟩
    | failed listening free detail after => exact Or.inl ⟨rfl, rfl⟩
    | accepted listening free client after =>
      exact Or.inr (Or.inl ⟨free, by simp [isListening, listening], rfl⟩)
  | read room =>
    simp only [Operation.run]
    cases ready : l.noClient? with
    | some fault =>
      left
      rw [read_of_noClient ready]
      exact ⟨rfl, rfl⟩
    | none =>
      rcases read_cases host ready room os with ⟨-, kept | ⟨lost, sees⟩⟩ | ⟨detail, failed, lost⟩
      · left
        rw [kept]
        exact ⟨rfl, rfl⟩
      · exact Or.inr (Or.inr ⟨by rw [lost], Or.inl sees⟩)
      · exact Or.inr (Or.inr ⟨by rw [lost], Or.inr ⟨detail, failed⟩⟩)
  | write bytes =>
    simp only [Operation.run]
    cases ready : l.noClient? with
    | some fault =>
      left
      rw [write_of_noClient ready]
      exact ⟨rfl, rfl⟩
    | none =>
      rcases write_cases host ready bytes os with ⟨sent, -, kept⟩ | ⟨detail, failed, lost⟩
      · left
        rw [kept]
        exact ⟨rfl, rfl⟩
      · exact Or.inr (Or.inr ⟨by rw [lost], detail, failed⟩)

private theorem Reachable.isListening_of_isConnected {host : Host σ} {l : Listener} {os : σ}
    (reached : Reachable host l os) (connected : l.isConnected = true) : l.isListening = true := by
  induction reached with
  | new port blocking os => cases connected
  | @operated l os reached operation ih =>
    rcases run_cases host operation l os with
      ⟨client_eq, socket_eq⟩ | ⟨-, listening, socket_eq⟩ | ⟨free, -⟩
    · rw [isConnected, client_eq] at connected
      rw [isListening, socket_eq]
      exact ih connected
    · rw [isListening, socket_eq]
      exact listening
    · rw [isConnected, free] at connected
      cases connected

private theorem Reachable.runAll {host : Host σ} {l : Listener} {os : σ}
    (reached : Reachable host l os) (operations : List Operation) :
    Reachable host (runAll host operations l os).1 (runAll host operations l os).2 := by
  induction operations generalizing l os with
  | nil => exact reached
  | cons operation rest ih => exact ih (.operated reached operation)

theorem exists_release {host : Host σ} {operations : List Operation} {l : Listener} {os : σ}
    {client : Handle} (held : l.client = some client)
    (free : (runAll host operations l os).1.client = none) :
    ∃ before operation later, operations = before ++ operation :: later ∧
      let turn := runAll host before l os
      turn.1.client = some client ∧ operation.Releases host turn.1 turn.2 ∧
        (operation.run host turn.1 turn.2).1.client = none := by
  induction operations generalizing l os with
  | nil =>
    rw [Listener.runAll, held] at free
    cases free
  | cons operation rest ih =>
    rcases run_cases host operation l os with ⟨client_eq, -⟩ | ⟨none_held, -, -⟩ | ⟨lost, releases⟩
    · rw [held] at client_eq
      obtain ⟨before, release, later, split, found⟩ := ih client_eq free
      exact ⟨operation :: before, release, later, by rw [split, List.cons_append], found⟩
    · rw [held] at none_held
      cases none_held
    · exact ⟨[], operation, rest, rfl, held, releases, lost⟩

/-- How a listener treats its one client. -/
structure SingleClient (host : Host σ) (l : Listener) (os : σ) : Prop where
  listens : l.isConnected = true → l.isListening = true
  accept_notInitialized :
    (l.accept host os).answer = .error .notInitialized ↔ l.isListening = false
  accept_alreadyConnected :
    (l.accept host os).answer = .error .alreadyConnected ↔
      l.isListening = true ∧ l.isConnected = true
  /-- A refusal does not even ask the host. -/
  accept_refused :
    ((l.accept host os).answer = .error .notInitialized ∨
        (l.accept host os).answer = .error .alreadyConnected) →
      (l.accept host os).state = l ∧ (l.accept host os).host = os
  accept_none : (l.accept host os).answer = .ok false → (l.accept host os).state = l
  accept_client : (l.accept host os).answer = .ok true →
    l.isListening = true ∧ l.isConnected = false ∧
      (l.accept host os).state.isConnected = true
  /-- Between two clients, the first one was given up. -/
  exclusive : ∀ between, (l.accept host os).answer = .ok true →
    let last := runAll host between (l.accept host os).state (l.accept host os).host
    (last.1.accept host last.2).answer = .ok true →
      ∃ before operation later, between = before ++ operation :: later ∧
        let turn := runAll host before (l.accept host os).state (l.accept host os).host
        turn.1.client = (l.accept host os).state.client ∧ turn.1.isConnected = true ∧
          operation.Releases host turn.1 turn.2 ∧
          (operation.run host turn.1 turn.2).1.client = none
  /-- Without a client, reading and writing are refused and change nothing. -/
  io_refused : ∀ fault room bytes, l.noClient? = some fault →
    l.read host room os = ⟨.error fault, l, os⟩ ∧ l.write host bytes os = ⟨.error fault, l, os⟩
  read_notInitialized : ∀ room,
    (l.read host room os).answer = .error .notInitialized ↔ l.isListening = false
  read_notConnected : ∀ room, (l.read host room os).answer = .error .notConnected ↔
    l.isListening = true ∧ l.isConnected = false
  write_notInitialized : ∀ bytes,
    (l.write host bytes os).answer = .error .notInitialized ↔ l.isListening = false
  write_notConnected : ∀ bytes, (l.write host bytes os).answer = .error .notConnected ↔
    l.isListening = true ∧ l.isConnected = false

private theorem answer_read_eq_iff (host : Host σ) (l : Listener) (room : Nat) (os : σ)
    {fault : Fault} (refusal : fault = .notInitialized ∨ fault = .notConnected) :
    (l.read host room os).answer = .error fault ↔ l.noClient? = some fault := by
  cases ready : l.noClient? with
  | some other =>
    rw [read_of_noClient ready]
    simp
  | none =>
    rcases read_cases host ready room os with ⟨⟨bytes, answer⟩, -⟩ | ⟨detail, answer, -⟩
    · simp [answer]
    · rcases refusal with rfl | rfl <;> simp [answer]

private theorem answer_write_eq_iff (host : Host σ) (l : Listener) (bytes : ByteArray) (os : σ)
    {fault : Fault} (refusal : fault = .notInitialized ∨ fault = .notConnected) :
    (l.write host bytes os).answer = .error fault ↔ l.noClient? = some fault := by
  cases ready : l.noClient? with
  | some other =>
    rw [write_of_noClient ready]
    simp
  | none =>
    rcases write_cases host ready bytes os with ⟨sent, answer, -⟩ | ⟨detail, answer, -⟩
    · simp [answer]
    · rcases refusal with rfl | rfl <;> simp [answer]

private theorem exists_release_of_accept {host : Host σ} {l : Listener} {os : σ}
    (between : List Operation) (first : (l.accept host os).answer = .ok true)
    (again :
      let last := runAll host between (l.accept host os).state (l.accept host os).host
      (last.1.accept host last.2).answer = .ok true) :
    ∃ before operation later, between = before ++ operation :: later ∧
      let turn := runAll host before (l.accept host os).state (l.accept host os).host
      turn.1.client = (l.accept host os).state.client ∧ turn.1.isConnected = true ∧
        operation.Releases host turn.1 turn.2 ∧
        (operation.run host turn.1 turn.2).1.client = none := by
  obtain ⟨-, -, client, state_eq⟩ := accept_of_true first
  have held : (l.accept host os).state.client = some client := by rw [state_eq]
  obtain ⟨-, free, -⟩ := accept_of_true again
  obtain ⟨before, operation, later, split, kept, releases, lost⟩ := exists_release held free
  refine ⟨before, operation, later, split, by rw [kept, held], ?_, releases, lost⟩
  rw [isConnected, kept, Option.isSome_some]

/-- In every state that its operations lead to, whatever the host answers, a listener treats its one
client as it should. -/
theorem singleClient_of_reachable {host : Host σ} {l : Listener} {os : σ}
    (reached : Reachable host l os) : SingleClient host l os where
  listens := reached.isListening_of_isConnected
  accept_notInitialized := by
    have led := l.accepted host os
    generalize l.accept host os = outcome at led
    cases led <;> simp_all [isListening]
  accept_alreadyConnected := by
    have led := l.accepted host os
    generalize l.accept host os = outcome at led
    cases led <;> simp_all [isListening, isConnected]
  accept_refused := by
    have led := l.accepted host os
    generalize l.accept host os = outcome at led
    cases led <;> simp
  accept_none := by
    have led := l.accepted host os
    generalize l.accept host os = outcome at led
    cases led <;> simp
  accept_client := by
    intro answer
    obtain ⟨listening, free, client, state_eq⟩ := accept_of_true answer
    exact ⟨listening, by rw [isConnected, free, Option.isSome_none],
      by rw [isConnected, state_eq, Option.isSome_some]⟩
  exclusive := exists_release_of_accept
  io_refused := fun _ room bytes refused =>
    ⟨read_of_noClient refused room os, write_of_noClient refused bytes os⟩
  read_notInitialized := fun room => by
    rw [answer_read_eq_iff host l room os (Or.inl rfl), noClient?_eq_notInitialized_iff]
  read_notConnected := fun room => by
    rw [answer_read_eq_iff host l room os (Or.inr rfl), noClient?_eq_notConnected_iff]
  write_notInitialized := fun bytes => by
    rw [answer_write_eq_iff host l bytes os (Or.inl rfl), noClient?_eq_notInitialized_iff]
  write_notConnected := fun bytes => by
    rw [answer_write_eq_iff host l bytes os (Or.inr rfl), noClient?_eq_notConnected_iff]

/-- The machine in memory, with a new client always waiting at every socket that listens. -/
def crowdedHost : Host Loopback.World :=
  { Loopback.World.host with
    accept := fun _ world => (.ok world.freshHandle.1, world.freshHandle.2) }

/-- A listener that accepts a client, gives it up and accepts another one. -/
theorem singleClient_between_two_clients :
    let up := runAll crowdedHost [.bringUp] { port := some 5000 } ({} : Loopback.World)
    let first := up.1.accept crowdedHost up.2
    let free := first.state.disconnectClient crowdedHost first.host
    first.answer = .ok true ∧ (free.1.accept crowdedHost free.2).answer = .ok true ∧
      SingleClient crowdedHost up.1 up.2 ∧ SingleClient crowdedHost first.state first.host := by
  have started : Reachable crowdedHost { port := some 5000 } ({} : Loopback.World) :=
    .new (some 5000) false _
  have up := started.runAll [.bringUp]
  have accepted := up.operated .accept
  exact ⟨rfl, rfl, singleClient_of_reachable up,
    singleClient_of_reachable accepted⟩

end InstrumentLink.Listener
