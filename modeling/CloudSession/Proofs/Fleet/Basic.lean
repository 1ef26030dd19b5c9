/-
Several clients at work. Each has a session of its own; the clock, the network
and one store are common to all of them. They take turns in any order, and
between their turns time may pass, the network may get other answers and the
store may begin or cease to fail. A turn is one operation, carried out in the
scene that the client finds. A wait that others come between is not one turn
but as many as it makes polls: nothing but a count passes from one to the next.
-/
import CloudSession.Proofs.Session.Upkeep

namespace CloudSession

-- ================================================================ operations

/-- What a client can be asked to do. -/
inductive Operation
  | call (action : String) (method : Method) (headers : Headers) (body : Option ByteArray)
  | authenticate (force : Bool)
  | ensureSession
  | catalog
  | endpoint (wanted : Wanted)
  | resolve
  | invalidate
  | poll (format : Task.Format) (ref : String)
  | wait (format : Task.Format) (ref : String) (timeout interval : Nat)
  | negotiate (force : Bool)
  | isValid (context : Context)
  | cached
  | clearCached

/-- What an operation gives. -/
inductive Yield
  | response (r : Response)
  | context (x : Context)
  | catalog (entries : Catalog)
  | url (text : String)
  | connection (connection : Connection)
  | status (s : Task.Status)
  | watched (w : Task.Watched)
  | found (x : Option Context)
  | valid (holds : Bool)
  | done

/-- Whether an operation gave a context with some property. -/
def Yield.gives (p : Context → Bool) : Yield → Bool
  | .context x => p x
  | _ => false

theorem Yield.exists_given {result : Except SessionError Yield} {p : Context → Bool}
    (h : result.toOption.any (·.gives p) = true) :
    ∃ x, result = .ok (.context x) ∧ p x = true := by
  cases result with
  | error e => exact absurd h (by simp [Except.toOption])
  | ok y =>
    have hp : y.gives p = true := h
    unfold gives at hp
    split at hp
    · next x => exact ⟨x, rfl, hp⟩
    · exact absurd hp (by simp)

namespace Operation

/-- Carries out an operation. -/
def run (c : Client) : Operation → Action Yield
  | .call action method headers body => return .response (← c.call action method headers body)
  | .authenticate force => return .context (← c.authenticate force)
  | .ensureSession => return .context (← c.ensureSession)
  | .catalog => return .catalog (← c.catalog)
  | .endpoint wanted => return .url (← c.endpoint wanted)
  | .resolve => return .connection (← c.resolve)
  | .invalidate => do Client.invalidate; return .done
  | .poll format ref => return .status (← c.poll format ref)
  | .wait format ref timeout interval => return .watched (← c.wait format ref timeout interval)
  | .negotiate force => return .context (← c.negotiate force)
  | .isValid context => return .valid (← c.isValid context)
  | .cached => return .found (← c.cached)
  | .clearCached => do c.clearCached; return .done

/-- The headers that the caller of an operation adds to its requests. -/
def callerHeaders : Operation → Headers
  | .call _ _ headers _ => headers
  | _ => .empty

/-- Whether an operation neither sends requests to the service nor clears the
caches. -/
def isQuiet : Operation → Bool
  | .call _ _ _ _ => false
  | .poll _ _ => false
  | .wait _ _ _ _ => false
  | .clearCached => false
  | _ => true

theorem quiet_run (c : Client) {operation : Operation} (h : operation.isQuiet = true) :
    Action.Steps Quiet (operation.run c) := by
  cases operation with
  | authenticate force => exact .bind (c.quiet_authenticate force) fun _ => .pure _
  | ensureSession => exact .bind c.quiet_ensureSession fun _ => .pure _
  | catalog => exact .bind c.quiet_catalog fun _ => .pure _
  | endpoint wanted => exact .bind (c.quiet_endpoint wanted) fun _ => .pure _
  | resolve => exact .bind c.quiet_resolve fun _ => .pure _
  | invalidate => exact .bind Client.quiet_invalidate fun _ => .pure _
  | negotiate force => exact .bind (c.keeps_negotiate force).quiet fun _ => .pure _
  | isValid context => exact .bind (c.keeps_isValid context).ofLocal.quiet fun _ => .pure _
  | cached => exact .bind c.keeps_cached.ofLocal.quiet fun _ => .pure _
  | _ => exact absurd h (by simp [isQuiet])

/-- Whether an operation is about contexts and where they are cached, and not
about requests. -/
def isNegotiation : Operation → Bool
  | .authenticate _ => true
  | .negotiate _ => true
  | .cached => true
  | .clearCached => true
  | _ => false

/-- Whether an operation may make more than one call. -/
def isWait : Operation → Bool
  | .wait _ _ _ _ => true
  | _ => false

open CloudSession.Action in
/-- What all that prepares a request keeps, every operation that is not about
the caches alone keeps, if calls get there from where the operation begins. A
wait must begin where each of its polls may begin. -/
theorem triple_run_from {c : Client} {P I E : Scene → Prop} (h : c.Upkeep I)
    (hP : ∀ s, P s → I s) (hE : ∀ s, I s → E s) {operation : Operation}
    (hwait : operation.isWait = true → ∀ s, I s → P s)
    (hcall : ∀ action method body,
      Triple P (c.call action method operation.callerHeaders body) (fun _ => I) E)
    (hnegotiation : operation.isNegotiation = true →
      Triple P (operation.run c) (fun _ => E) E) :
    Triple P (operation.run c) (fun _ => E) E := by
  have hprepare : ∀ {α : Type} {a : Action α}, Triple I a (fun _ => I) I →
      Triple P a (fun _ => I) E :=
    fun ha => ha.conseq hP (fun _ _ hs => hs) hE
  cases operation with
  | call action method headers body => exact (hcall action method body).returning hE _
  | ensureSession => exact (hprepare h.ensureSession).returning hE _
  | catalog => exact (hprepare h.catalog).returning hE _
  | endpoint wanted => exact (hprepare (h.endpoint wanted)).returning hE _
  | resolve => exact (hprepare h.resolve).returning hE _
  | invalidate => exact .bind (hprepare h.invalidate) fun _ => .pure hE
  | poll format ref => exact (Client.triple_poll (hcall ref .get none) hE format).returning hE _
  | wait format ref timeout interval =>
      have hpoll := (hcall ref .get none).pre (hwait rfl)
      exact ((Client.triple_wait hpoll hE format timeout interval).pre hP).returning hE _
  | isValid context => exact (hprepare (Client.triple_isValid_same context)).returning hE _
  | authenticate force => exact hnegotiation rfl
  | negotiate force => exact hnegotiation rfl
  | cached => exact hnegotiation rfl
  | clearCached => exact hnegotiation rfl

open CloudSession.Action in
/-- What is kept by all that prepares a request, and by calls, is kept by every
operation that is not about the caches alone. -/
theorem triple_run {c : Client} {I E : Scene → Prop} (h : c.Upkeep I) (hE : ∀ s, I s → E s)
    {operation : Operation}
    (hcall : ∀ action method body,
      Triple I (c.call action method operation.callerHeaders body) (fun _ => I) E)
    (hnegotiation : operation.isNegotiation = true →
      Triple I (operation.run c) (fun _ => E) E) :
    Triple I (operation.run c) (fun _ => E) E :=
  triple_run_from h (fun _ hs => hs) hE (fun _ _ hs => hs) hcall hnegotiation

open CloudSession.Action in
/-- A relation that the basic actions of a client keep to holds across whatever
the client is asked to do. -/
theorem steps_run {c : Client} {R : Scene → Scene → Prop} [IsPreorder Scene R]
    (h : c.Pervades R) (operation : Operation) : Steps R (operation.run c) := by
  refine ⟨fun s => ?_⟩
  have hkeeps : ∀ {α : Type} {a : Action α}, Steps R a → Triple (R s) a (fun _ => R s) (R s) :=
    fun ha => ha.triple fun s' s'' hR hs => IsTrans.trans s s' s'' hs hR
  refine Triple.leaves (triple_run (h.upkeep s) (fun _ hs => hs)
    (fun action method body => h.call s action method _ body) fun hnegotiation => ?_) (refl s)
  cases operation with
  | authenticate force => exact hkeeps (.bind (h.authenticate force) fun _ => .pure _)
  | negotiate force => exact hkeeps (.bind (h.negotiate force) fun _ => .pure _)
  | cached => exact hkeeps (.bind h.cached fun _ => .pure _)
  | clearCached => exact hkeeps (.bind h.clearCached fun _ => .pure _)
  | _ => exact absurd hnegotiation (by simp [isNegotiation])

end Operation

-- ==================================================================== fleets

/-- A client, and whether it uses the common store. -/
structure Member where
  client : Client
  sharesStore : Bool

/-- The sessions of all clients and what is common to them. -/
structure Fleet (ι : Type) where
  sessions : ι → Session
  now : Instant
  network : Network
  store : SharedStore

/-- One client's operation, or a change around them. -/
inductive Step (ι : Type)
  | turn (who : ι) (operation : Operation)
  | clock (now : Instant)
  | network (network : Network)
  | faults (faults : StoreFaults)

/-- An operation that was carried out, and the scene that its client found. -/
structure Turn (ι : Type) where
  who : ι
  operation : Operation
  before : Scene

namespace Turn

variable {ι : Type} (members : ι → Member) (t : Turn ι)

/-- The client whose turn it was. -/
def client : Client := (members t.who).client

/-- What the operation gave, and the scene that it left. -/
def outcome : Except SessionError Yield × Scene :=
  (t.operation.run (t.client members)).outcome t.before

/-- What was done outside of the client. -/
def events : List Event := (t.outcome members).2.outside.log

/-- The token that was forced when the turn began. -/
def forced? : Option String := (t.client members).forcedToken? t.before.session

end Turn

namespace Fleet

variable {ι : Type} [DecidableEq ι] (members : ι → Member)

/-- The scene that a client finds. -/
def scene (f : Fleet ι) (who : ι) : Scene where
  session := f.sessions who
  outside :=
    { now := f.now, network := f.network
      store := if (members who).sharesStore then some f.store else none, log := [] }

/-- The fleet once a client has left a scene. -/
def absorb (f : Fleet ι) (who : ι) (s : Scene) : Fleet ι where
  sessions other := if other = who then s.session else f.sessions other
  now := s.outside.now
  network := s.outside.network
  store := s.outside.store.getD f.store

/-- The turn of a client. -/
def turn (f : Fleet ι) (who : ι) (operation : Operation) : Turn ι :=
  ⟨who, operation, f.scene members who⟩

/-- The fleet after a step. -/
def after (f : Fleet ι) : Step ι → Fleet ι
  | .turn who operation => f.absorb who ((f.turn members who operation).outcome members).2
  | .clock now => { f with now := now }
  | .network network => { f with network := network }
  | .faults faults => { f with store := { f.store with faults := faults } }

/-- The turns that are taken in a run. -/
def turns (f : Fleet ι) : List (Step ι) → List (Turn ι)
  | [] => []
  | .turn who operation :: rest =>
    f.turn members who operation :: (f.after members (.turn who operation)).turns rest
  | step :: rest => (f.after members step).turns rest

/-- The fleet at the end of a run. -/
def afterAll (f : Fleet ι) (steps : List (Step ι)) : Fleet ι := steps.foldl (·.after members) f

/-- No client has done anything, and no context is in the store. -/
structure Initial (f : Fleet ι) : Prop where
  sessions : ∀ who, f.sessions who = .initial
  store : ∀ key x, f.store.store.get key ≠ .ok (some x)

variable {members}

/-- What every step keeps holds at the end of a run. -/
theorem afterAll_keeps {I : Fleet ι → Prop} (hstep : ∀ f step, I f → I (f.after members step))
    {f : Fleet ι} (h : I f) (steps : List (Step ι)) : I (f.afterAll members steps) := by
  induction steps generalizing f with
  | nil => exact h
  | cons step rest ih => exact ih (hstep f step h)

/-- What every turn keeps, given the turns that were taken, and what depends on
nothing but the sessions and the stored contexts, holds wherever a turn of a
run is taken. The turns behind it make up the run from there. -/
theorem turns_split {I : List (Turn ι) → Fleet ι → Prop}
    (hturn : ∀ taken f who operation, I taken f →
      I (taken ++ [f.turn members who operation]) (f.after members (.turn who operation)))
    (hother : ∀ taken f g, g.sessions = f.sessions → g.store.store = f.store.store →
      I taken f → I taken g)
    {f : Fleet ι} (h : I [] f) {steps : List (Step ι)} {earlier later : List (Turn ι)}
    {t : Turn ι} (hturns : f.turns members steps = earlier ++ t :: later) :
    ∃ (g : Fleet ι) (rest : List (Step ι)), I earlier g ∧
      t = g.turn members t.who t.operation ∧
      later = (g.after members (.turn t.who t.operation)).turns members rest := by
  suffices hfrom : ∀ taken, I taken f → ∃ (g : Fleet ι) (rest : List (Step ι)),
      I (taken ++ earlier) g ∧ t = g.turn members t.who t.operation ∧
      later = (g.after members (.turn t.who t.operation)).turns members rest from hfrom [] h
  clear h
  induction steps generalizing f earlier with
  | nil => exact absurd hturns.symm (by simp [turns])
  | cons step rest ih =>
    intro taken h
    cases step with
    | turn who operation =>
      cases earlier with
      | nil =>
        obtain ⟨rfl, rfl⟩ := List.cons.inj hturns
        exact ⟨f, rest, by rwa [List.append_nil], rfl, rfl⟩
      | cons first earlier =>
        obtain ⟨rfl, hrest⟩ := List.cons.inj hturns
        have hsplit := ih hrest _ (hturn taken f who operation h)
        rwa [List.append_assoc, List.singleton_append] at hsplit
    | clock now => exact ih hturns taken (hother taken f (f.after members (.clock now)) rfl rfl h)
    | network network =>
      exact ih hturns taken (hother taken f (f.after members (.network network)) rfl rfl h)
    | faults faults =>
      exact ih hturns taken (hother taken f (f.after members (.faults faults)) rfl rfl h)

theorem turns_append (f : Fleet ι) (first rest : List (Step ι)) :
    f.turns members (first ++ rest)
      = f.turns members first ++ (f.afterAll members first).turns members rest := by
  induction first generalizing f with
  | nil => rfl
  | cons step first ih =>
    cases step with
    | turn who operation => exact congrArg (f.turn members who operation :: ·) (ih _)
    | clock now => exact ih _
    | network network => exact ih _
    | faults faults => exact ih _

/-- What turns of some kind keep, and what depends on nothing but the sessions
and the stored contexts, holds at the end of a run with no other turns. -/
theorem afterAll_keeps_of_turns {I : Fleet ι → Prop} {P : Turn ι → Prop}
    (hturn : ∀ f who operation, P (f.turn members who operation) → I f →
      I (f.after members (.turn who operation)))
    (hother : ∀ f g : Fleet ι, g.sessions = f.sessions → g.store.store = f.store.store → I f → I g)
    {f : Fleet ι} (h : I f) {steps : List (Step ι)} (hall : ∀ t ∈ f.turns members steps, P t) :
    I (f.afterAll members steps) := by
  induction steps generalizing f with
  | nil => exact h
  | cons step rest ih =>
    cases step with
    | turn who operation =>
      obtain ⟨hfirst, hrest⟩ := List.forall_mem_cons.mp hall
      exact ih (hturn f who operation hfirst h) hrest
    | clock now => exact ih (hother f (f.after members (.clock now)) rfl rfl h) hall
    | network network => exact ih (hother f (f.after members (.network network)) rfl rfl h) hall
    | faults faults => exact ih (hother f (f.after members (.faults faults)) rfl rfl h) hall

variable (members) in
/-- What was done outside of one client in its own turns. -/
def history (turns : List (Turn ι)) (who : ι) : List Event :=
  (turns.filter (·.who = who)).flatMap (·.events members)

/-- What a client's own operations keep of its session, given what it did
before, holds wherever it gets its turn, whatever other clients do. -/
theorem own_split {who : ι} {A : Operation → Scene → Prop} {P : List Event → Session → Prop}
    (hrun : ∀ past operation (s : Scene), A operation s → s.outside.log = [] →
      P past s.session → P (past ++ ((operation.run (members who).client).outcome s).2.outside.log)
        ((operation.run (members who).client).outcome s).2.session)
    {f : Fleet ι} (h : P [] (f.sessions who)) {steps : List (Step ι)}
    {earlier later : List (Turn ι)} {t : Turn ι}
    (hturns : f.turns members steps = earlier ++ t :: later) (hwho : t.who = who)
    (hallowed : ∀ u ∈ earlier, u.who = who → A u.operation u.before) :
    P (history members earlier who) t.before.session ∧ t.before.outside.log = [] := by
  have hturn : ∀ (taken : List (Turn ι)) (f : Fleet ι) (other : ι) (operation : Operation),
      ((∀ u ∈ taken, u.who = who → A u.operation u.before) →
        P (history members taken who) (f.sessions who)) →
      (∀ u ∈ taken ++ [f.turn members other operation], u.who = who → A u.operation u.before) →
        P (history members (taken ++ [f.turn members other operation]) who)
          ((f.after members (.turn other operation)).sessions who) := by
    intro taken f other operation hf htaken
    have hf := hf fun u hu => htaken u (List.mem_append_left _ hu)
    by_cases hother : other = who
    · subst hother
      have hop := htaken (f.turn members other operation) (by simp) rfl
      have hafter := hrun _ operation (f.scene members other) hop rfl hf
      simpa [history, Fleet.after, Fleet.absorb, Fleet.turn, Turn.events, Turn.outcome,
        Turn.client] using hafter
    · have hne : (f.turn members other operation).who ≠ who := hother
      simpa [history, Fleet.after, Fleet.absorb, hne, Ne.symm hother] using hf
  obtain ⟨g, -, hg, ht, -⟩ := turns_split (I := fun taken f =>
    (∀ u ∈ taken, u.who = who → A u.operation u.before) →
      P (history members taken who) (f.sessions who))
    hturn (fun _ _ _ hsessions _ hf htaken => hsessions ▸ hf htaken) (fun _ => h) hturns
  subst hwho
  rw [ht]
  exact ⟨hg hallowed, rfl⟩

end Fleet

-- =================================================================== samples

namespace Sample

/-- A client whose handshake is answered with a catalog. -/
def client (baseUrl : Option String) : Client where
  identity := ⟨.keystone .v2Password, "https://id.example.com", ⟨"alice", "secret"⟩, .default⟩
  selector := { Selector.none with baseUrl := baseUrl }
  microversion := none
  defaults := .compute
  skew := 0
  evictsForced := false

/-- The answer to a handshake: a token, its expiry and the catalog. -/
def grant (token expires : String) (catalog : Json) : Answer :=
  .ok ⟨200, .empty, (Json.obj [("access", .obj [
    ("token", .obj [("id", .str token), ("expires", .str expires)]),
    ("serviceCatalog", catalog)])]).compact.toUTF8⟩

/-- The answer to a request: a status and nothing else. -/
def status (code : Nat) : Answer := .ok ⟨code, .empty, .empty⟩

/-- Clients that have done nothing, in the year 2030, and an empty store. -/
def fleet {ι : Type} (answers : List Answer) : Fleet ι where
  sessions _ := .initial
  now := ⟨1893456000, 0⟩
  network := ⟨answers, []⟩
  store := .ofStore (.directory none)

theorem fleet_initial {ι : Type} (answers : List Answer) : (fleet (ι := ι) answers).Initial :=
  ⟨fun _ => rfl, fun _ _ h => nomatch h⟩

/-- A catalog whose compute service is found at one URL. -/
def catalog (url : String) : Json :=
  .arr [.obj [("type", .str "compute"), ("name", .str "nova"), ("endpoints",
    .arr [.obj [("region", .str "R"), ("publicURL", .str url)]])]]

/-- A client that uses the catalogs it is given and no store. -/
def lone (_ : Unit) : Member := ⟨client none, false⟩

/-- Two equal clients that share the store. -/
def pair (_ : Bool) : Member := ⟨client (some "https://api.example.com"), true⟩

/-- A call of a service without headers or a body. -/
def call : Operation := .call "/servers" .get .empty none

end Sample
end CloudSession
