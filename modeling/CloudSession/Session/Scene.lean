/-
What an operation of a client works on: the client's own session, and what
lies outside of it, the clock, the network and the store that it may share.
Everything done outside is logged in order. The network is a script of
answers, so an operation is a function of the scene that it starts in.
-/
import CloudSession.Handshake.Basic
import CloudSession.Store.Basic

namespace CloudSession

-- ============================================================== the outside

/-- What a request is sent for. -/
inductive Purpose
  | handshake
  | service
deriving DecidableEq, Repr

/-- A call of the shared store. -/
inductive StoreCall
  | get
  | put (context : Context)
  | clear

/-- The word for a call. -/
def StoreCall.word : StoreCall → String
  | .get => "get"
  | .put _ => "put"
  | .clear => "clear"

/-- What an operation did outside of its client. -/
inductive Event
  | exchange (purpose : Purpose) (request : Request) (answer : Answer)
  | connect (connection : Connection) (failure : Option String)
  | store (call : StoreCall) (key : String) (succeeded : Bool)

/-- The answers that a network is going to give, to requests and to
attempts to connect. Beyond the script attempts to connect succeed. -/
structure Network where
  answers : List Answer
  connectFailures : List (Option String)

namespace Network

/-- The answer to a request when none is left. -/
def exhausted : Answer := .error "no scripted response"

/-- The next answer to a request. -/
def send (n : Network) : Answer × Network :=
  match n.answers with
  | [] => (exhausted, n)
  | answer :: rest => (answer, { n with answers := rest })

/-- The next answer to an attempt to connect: why it fails, if it does. -/
def connect (n : Network) : Option String × Network :=
  match n.connectFailures with
  | [] => (none, n)
  | failure :: rest => (failure, { n with connectFailures := rest })

end Network

/-- What lies outside of a client. -/
structure Outside where
  now : Instant
  network : Network
  store : Option SharedStore
  log : List Event

-- ============================================================== the session

/-- The state of a client. The context and the catalog are those in use. -/
structure Session where
  context : Option Context
  catalog : Option Catalog
  resolved : Option Connection
  connected : Option Connection
  forcedRevoked : Bool
  memory : MemoryStore

/-- The session of a client that has done nothing yet. -/
def Session.initial : Session := ⟨none, none, none, none, false, .empty⟩

/-- A client's session and the outside. -/
structure Scene where
  session : Session
  outside : Outside

/-- An operation of a client: it changes the scene and gives a value or
fails, and a failed one leaves what it changed. -/
abbrev Action := ExceptT SessionError (StateM Scene)

namespace Action

-- ============================================================ basic actions

/-- The value of a computation that may fail and changes nothing. -/
def attempt {α : Type} : Except SessionError α → Action α
  | .ok a => pure a
  | .error e => throw e

/-- Runs an action for its effect; that it fails is no failure. -/
def ignoringErrors (action : Action Unit) : Action Unit :=
  tryCatch action fun _ => pure ()

/-- The client's session. -/
def session : Action Session := do return (← get).session

/-- Changes the client's session. -/
def setSession (f : Session → Session) : Action Unit :=
  modify fun scene => { scene with session := f scene.session }

/-- Appends to the log. -/
def note (event : Event) : Action Unit :=
  modify fun scene =>
    { scene with outside := { scene.outside with log := scene.outside.log ++ [event] } }

/-- The time. -/
def now : Action Instant := do return (← get).outside.now

/-- Sends a request and gives the network's answer. -/
def send (purpose : Purpose) (request : Request) : Action Answer := do
  let (answer, network) := (← get).outside.network.send
  modify fun scene => { scene with outside := { scene.outside with network := network } }
  note (.exchange purpose request answer)
  return answer

/-- Opens a connection. -/
def openConnection (connection : Connection) : Action Unit := do
  let (failure, network) := (← get).outside.network.connect
  modify fun scene => { scene with outside := { scene.outside with network := network } }
  note (.connect connection failure)
  match failure with
  | some message => throw (.transport message)
  | none => return ()

-- ========================================================= the shared store

/-- The context under a key of the shared store, if there is a store. -/
def storeGet (key : String) : Action (Option Context) := do
  match (← get).outside.store with
  | none => return none
  | some shared =>
    match shared.get key with
    | .ok found => do
      note (.store .get key true)
      return found
    | .error fault => do
      note (.store .get key false)
      throw (.store fault)

/-- Carries out a change of the shared store, if there is a store. -/
def storeChange (call : StoreCall) (key : String)
    (change : SharedStore → Except StoreFault SharedStore) : Action Unit := do
  match (← get).outside.store with
  | none => return ()
  | some shared =>
    match change shared with
    | .ok changed => do
      modify fun scene => { scene with outside := { scene.outside with store := some changed } }
      note (.store call key true)
    | .error fault => do
      note (.store call key false)
      throw (.store fault)

/-- Sets the context under a key of the shared store. -/
def storePut (key : String) (context : Context) : Action Unit :=
  storeChange (.put context) key (·.put key context)

/-- Removes a key from the shared store. -/
def storeClear (key : String) : Action Unit := storeChange .clear key (·.clear key)

end Action
end CloudSession
