/-
Which connection a request goes over. A client remembers the connection that it
opened last, and opens another only for an endpoint with another scheme, host
or port. A request therefore goes to the origin of the connection that was
opened last, whatever its action is (`Linked`), and this outlives every
operation, also one that fails (`linked_call`).
-/
import CloudSession.Proofs.Session.Upkeep
import CloudSession.Proofs.Url.Origin

namespace CloudSession

open CloudSession.Action

-- ==================================================================== events

/-- The connection that an event opens. -/
def Event.opened? : Event → Option Connection
  | .connect connection none => some connection
  | _ => none

/-- Whether an event is a request of the handshake or a call of the shared
store. -/
def Event.isNegotiation : Event → Bool
  | .exchange .handshake _ _ => true
  | .store _ _ _ => true
  | _ => false

/-- The connection that was opened last. -/
def lastOpened (log : List Event) : Option Connection := log.reverse.findSome? Event.opened?

theorem lastOpened_append (log new : List Event) :
    lastOpened (log ++ new) = (lastOpened new).or (lastOpened log) := by
  rw [lastOpened, List.reverse_append, List.findSome?_append]
  rfl

theorem lastOpened_concat (log : List Event) (e : Event) :
    lastOpened (log ++ [e]) = e.opened?.or (lastOpened log) := by
  rw [lastOpened_append]
  cases h : e.opened? <;> simp [lastOpened, h]

/-- What opens no connection leaves the last one as it is. -/
theorem lastOpened_append_of_none {new : List Event} (h : ∀ e ∈ new, e.opened? = none)
    (log : List Event) : lastOpened (log ++ new) = lastOpened log := by
  have hnone : lastOpened new = none :=
    List.findSome?_eq_none_iff.mpr fun e he => h e (List.mem_reverse.mp he)
  rw [lastOpened_append, hnone, Option.none_or]

namespace Client

-- ================================================================== requests

/-- The connection leads to the client's endpoint in some catalog, or to its
forced base URL. -/
def Leads (c : Client) (connection : Connection) : Prop :=
  ∃ (entries : Catalog) (url : String),
    entries.endpoint c.selector c.defaults = .ok url ∧ Connection.ofUrl url = .ok connection

/-- The connection that a call in the scene resolves its endpoint to. -/
def destination? (c : Client) (s : Scene) : Option Connection :=
  ((do let _ ← c.active; c.resolve : Action Connection).outcome s).1.toOption

-- The connections that the client's endpoint may be resolved to.
variable (D : Connection → Prop)

/-- A request goes to the origin of the connection that was opened last, which
serves the endpoint that it was resolved to. -/
def Bound (log : List Event) (r : Request) : Prop :=
  ∃ last endpoint rest, lastOpened log = some last ∧ D endpoint ∧
    last.sameConnection endpoint = true ∧ r.url = last.origin ++ rest ∧ Url.IsBehindOrigin rest

/-- What a client may do after what it has done. -/
def Admits (log : List Event) : Event → Prop
  | .exchange .service r _ => Bound D log r
  | .connect connection _ => D connection ∧
      ∀ last, lastOpened log = some last → last.sameConnection connection = false
  | _ => True

/-- The connection that is remembered is the last one that was opened, in this
operation or in the past, and everything was done as it may be. -/
structure Linked (past : List Event) (s : Scene) : Prop where
  connected : s.session.connected = lastOpened (past ++ s.outside.log)
  admitted : ∀ before e after, s.outside.log = before ++ e :: after → Admits D (past ++ before) e

variable {D} {c : Client} {past : List Event}

theorem admits_of_isNegotiation (log : List Event) {e : Event} (h : e.isNegotiation = true) :
    Admits D log e ∧ e.opened? = none := by
  cases e with
  | exchange purpose r answer =>
    cases purpose with
    | handshake => exact ⟨trivial, rfl⟩
    | service => exact absurd h (by simp [Event.isNegotiation])
  | connect connection failure => exact absurd h (by simp [Event.isNegotiation])
  | store call key ok => exact ⟨trivial, rfl⟩

theorem linked_of_empty {s : Scene} (hlog : s.outside.log = [])
    (hconnected : s.session.connected = lastOpened past) : Linked D past s :=
  ⟨by rw [hlog, List.append_nil, hconnected],
    fun _ _ _ h => absurd (hlog.symm.trans h) (by simp)⟩

/-- Getting a context opens no connection and sends nothing to the service. -/
theorem Linked.grows {s s' : Scene} (hkeeps : KeepsSession Event.isNegotiation s s')
    (h : Linked D past s) : Linked D past s' := by
  obtain ⟨new, hnew, hall⟩ := hkeeps.log
  refine ⟨?_, fun before e after hlog => ?_⟩
  · rw [hnew, ← List.append_assoc, lastOpened_append_of_none fun e he =>
      (admits_of_isNegotiation (D := D) [] (hall e he)).2]
    exact hkeeps.connected.trans h.connected
  · rw [hnew] at hlog
    rcases append_eq_split hlog with ⟨middle, hmiddle⟩ | ⟨more, -, hmore⟩
    · exact h.admitted before e middle hmiddle
    · exact (admits_of_isNegotiation _ (hall e (by simp [hmore]))).1

/-- Something is done that may be done. -/
theorem Linked.noting {s t : Scene} (h : Linked D past s) {e : Event}
    (hlog : t.outside.log = s.outside.log) (he : Admits D (past ++ s.outside.log) e)
    (hconnected : t.session.connected = e.opened?.or s.session.connected) :
    Linked D past (t.noting e) := by
  have hnoted : (t.noting e).outside.log = s.outside.log ++ [e] := by rw [← hlog]; rfl
  refine ⟨?_, fun before e' after hsplit => ?_⟩
  · rw [hnoted, ← List.append_assoc, lastOpened_concat, ← h.connected]
    exact hconnected
  · rw [hnoted] at hsplit
    rcases append_eq_split hsplit with ⟨middle, hmiddle⟩ | ⟨more, rfl, hmore⟩
    · exact h.admitted before e' middle hmiddle
    · cases more with
      | nil =>
        obtain rfl := (List.cons.inj hmore).1
        rwa [List.append_nil]
      | cons d more => exact absurd (List.cons.inj hmore).2 (by simp)

theorem Linked.withSession {s : Scene} {f : Session → Session} (h : Linked D past s)
    (hconnected : (f s.session).connected = s.session.connected) :
    Linked D past (s.withSession f) :=
  ⟨hconnected.trans h.connected, h.admitted⟩

-- =============================================================== preparation

theorem keeps_looking : Steps (KeepsSession Event.isNegotiation) c.cached :=
  steps_cached (steps_storeGet fun _ _ => .of_noting rfl rfl rfl rfl)
    fun _ => .setSession fun _ => ⟨Grows.of_log_eq rfl rfl, rfl, rfl, rfl, rfl, rfl⟩

theorem keeps_negotiation (force : Bool) :
    Steps (KeepsSession Event.isNegotiation) (c.negotiate force) :=
  steps_negotiate (steps_storeGet fun _ _ => .of_noting rfl rfl rfl rfl)
    (fun _ => .setSession fun _ => ⟨Grows.of_log_eq rfl rfl, rfl, rfl, rfl, rfl, rfl⟩)
    (fun _ => ⟨fun _ => .of_noting rfl rfl rfl rfl⟩)
    (fun _ => steps_storeChange (fun _ _ _ _ _ => .of_noting rfl rfl rfl rfl)
      fun _ => .of_noting rfl rfl rfl rfl) force

theorem linked_negotiate (force : Bool) :
    Triple (Linked D past) (c.negotiate force) (fun _ => Linked D past) (Linked D past) :=
  (keeps_negotiation force).triple fun _ _ hkeeps hs => hs.grows hkeeps

theorem keeps_clearing : Steps (KeepsSession Event.isNegotiation) c.clearCached :=
  .bind (.setSession fun _ => ⟨Grows.of_log_eq rfl rfl, rfl, rfl, rfl, rfl, rfl⟩) fun _ =>
    steps_storeChange (fun _ _ _ _ _ => .of_noting rfl rfl rfl rfl)
      fun _ => .of_noting rfl rfl rfl rfl

theorem linked_clearCached :
    Triple (Linked D past) c.clearCached (fun _ => Linked D past) (Linked D past) :=
  keeps_clearing.triple fun _ _ hkeeps hs => hs.grows hkeeps

/-- Nothing that prepares a request opens a connection. -/
theorem upkeep_linked : c.Upkeep (Linked D past) :=
  .of_negotiate (linked_negotiate false) fun _ _ _ _ hs => hs.withSession rfl

-- ================================================================ connecting

/-- A connection that the client's endpoint resolved to. -/
theorem leads_resolve :
    Triple c.Fits c.resolve
      (fun connection s => c.Fits s ∧ c.Leads connection) c.Fits := by
  refine fits_resolve.post fun connection s hs => ⟨hs.1, ?_⟩
  obtain ⟨-, url, hbase | ⟨-, entries, -, hurl⟩, hof⟩ := hs
  · exact ⟨[], url, by simp only [Catalog.endpoint, hbase], hof⟩
  · exact ⟨entries, url, hurl, hof⟩

/-- With a base URL there is one connection that can lead there. -/
theorem Leads.ofUrl {connection : Connection} (h : c.Leads connection) {url : String}
    (hurl : c.selector.baseUrl = some url) : Connection.ofUrl url = .ok connection := by
  obtain ⟨entries, url', hendpoint, hof⟩ := h
  simp only [Catalog.endpoint, hurl] at hendpoint
  obtain rfl := Except.ok.inj hendpoint
  exact hof

/-- The last connection serves as well as the given one. -/
def Serves (past : List Event) (connection : Connection) (s : Scene) : Prop :=
  ∃ last, lastOpened (past ++ s.outside.log) = some last ∧
    last.sameConnection connection = true

theorem Linked.serves {s : Scene} (h : Linked D past s) {connection : Connection}
    (hany : s.session.connected.any (·.sameConnection connection) = true) :
    Serves past connection s := by
  rw [h.connected] at hany
  simpa [Serves, Option.any_eq_true] using hany

theorem sameConnection_self (connection : Connection) :
    connection.sameConnection connection = true := by
  simp [Connection.sameConnection]

/-- A connection is opened only if the last one does not serve as well. -/
theorem linked_connect {connection : Connection} (hD : D connection) :
    Triple (Linked D past) (connect connection)
      (fun _ s => Linked D past s ∧ Serves past connection s) (Linked D past) := by
  refine .bind .session_eq fun session => ?_
  split
  · next hany =>
    refine .pure ?_
    intro s hs
    obtain ⟨hs, rfl⟩ := hs
    exact ⟨hs, hs.serves hany⟩
  · next hany =>
    have hadmits : ∀ s failure, Linked D past s ∧ session = s.session →
        Admits D (past ++ s.outside.log) (.connect connection failure) := by
      intro s failure hs
      obtain ⟨hs, rfl⟩ := hs
      refine ⟨hD, fun last hlast => ?_⟩
      rw [hs.connected, hlast] at hany
      simpa using hany
    refine .bind (.openConnection
      (Q := fun _ s => Linked D past (s.withSession fun session =>
        { session with connected := some connection })) ?_ ?_) fun _ => .setSession ?_
    · intro s network hs
      exact hs.1.noting (t := (s.withNetwork network).withSession fun session =>
        { session with connected := some connection }) rfl (hadmits s none hs) rfl
    · intro s network message hs
      exact hs.1.noting (t := s.withNetwork network) rfl (hadmits s (some message) hs) rfl
    · intro s hs
      exact ⟨hs, hs.serves (by simp [Scene.withSession, sameConnection_self])⟩

-- ===================================================================== calls

theorem linked_onUnauthorized (forced : Bool) :
    Triple (Linked D past) (c.onUnauthorized forced) (fun _ => Linked D past)
      (Linked D past) := by
  unfold onUnauthorized
  split
  · exact .bind (.setSession (Q := fun _ => Linked D past) fun _ hs => hs.withSession rfl)
      fun _ => .ignoringErrors linked_clearCached
  · split
    · exact .setSession fun _ hs => hs.withSession rfl
    · exact .pure fun _ hs => hs

theorem linked_settle (forced : Bool) (r : Response) :
    Triple (Linked D past) (c.settle forced r) (fun _ => Linked D past) (Linked D past) := by
  unfold settle
  split
  · exact .pure fun _ hs => hs
  · split
    · exact .bind (linked_onUnauthorized forced) fun _ => .throw fun _ hs => hs
    · exact .throw fun _ hs => hs

/-- A request for an action goes to the origin of the last connection. -/
theorem bound_of_serves {s : Scene} {connection : Connection} (hD : D connection)
    (hrooted : Url.IsRooted connection.pathPrefix) (hserves : Serves past connection s)
    {r : Request} {action : String} (hurl : r.url = connection.urlFor action) :
    Bound D (past ++ s.outside.log) r := by
  obtain ⟨last, hlast, hsame⟩ := hserves
  obtain ⟨rest, htarget, hbehind⟩ := Connection.urlFor_behindOrigin hrooted action
  refine ⟨last, connection, rest, hlast, hD, hsame, ?_, hbehind⟩
  rw [hurl, htarget, Connection.origin_eq_of_sameConnection hsame]

/-- A call sends its request to the origin of the connection opened last, for
what its endpoint was resolved to. -/
theorem linked_call {P : Scene → Prop}
    (hresolved : Triple P (do let _ ← c.active; c.resolve)
      (fun connection _ => D connection ∧ Url.IsRooted connection.pathPrefix) fun _ => True)
    (action : String) (method : Method) (headers : Headers) (body : Option ByteArray) :
    Triple (fun s => P s ∧ Linked D past s) (c.call action method headers body)
      (fun _ => Linked D past) (Linked D past) := by
  refine .bind (((Triple.trace P c.active).and upkeep_linked.active).fail fun _ hs => hs.2)
    fun current => ?_
  -- what `P` leads to is known of the two actions together only
  refine .bind ((hresolved.of_bind.and upkeep_linked.resolve).fail fun _ hs => hs.2)
    fun connection => ?_
  by_cases hconnection : D connection ∧ Url.IsRooted connection.pathPrefix
  · obtain ⟨hD, hrooted⟩ := hconnection
    refine .bind ((linked_connect hD).pre fun _ hs => hs.2) fun _ => ?_
    refine .bind (.send (Q := fun _ => Linked D past) ?_) fun answer => ?_
    · intro s answer network hs _
      exact hs.1.noting (t := s.withNetwork network) rfl
        (bound_of_serves hD hrooted hs.2 rfl) rfl
    · split
      · exact .throw fun _ hs => hs
      · exact linked_settle _ _
  · exact .vacuous fun s hs => hconnection hs.1

end Client
end CloudSession
