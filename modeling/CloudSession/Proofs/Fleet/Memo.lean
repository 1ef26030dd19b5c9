/-
That a client remembers its connection shows in nothing but time. Whatever is
done by it and around it, it makes no difference where it is made to forget the
connection, nor would it if every call found its connection afresh
(`memo_unobservable`). A client that is asked for the connection itself is left
out: one that remembers it does not ask whether its session has expired.
-/
import CloudSession.Proofs.Fleet.Coherence
import CloudSession.Proofs.Fleet.Lockstep
import CloudSession.Proofs.Session.Memo

namespace CloudSession

open CloudSession.Action

-- ====================================================================== runs

/-- A change around a client: of the time, of the answers that the network is
going to give, or of the store that it shares with others. -/
inductive Change
  | clock (now : Instant)
  | network (network : Network)
  | store (store : Option SharedStore)

/-- What happens to a client: an operation of its own, or a change around it. -/
inductive Moment
  | own (operation : Operation)
  | around (change : Change)

/-- Whether an operation makes the client forget its connection. -/
def Operation.isInvalidate : Operation → Bool
  | .invalidate => true
  | _ => false

theorem Operation.eq_invalidate {operation : Operation} (h : operation.isInvalidate = true) :
    operation = .invalidate := by
  unfold isInvalidate at h
  split at h
  · rfl
  · exact absurd h (by simp)

/-- Whether a client is made to forget its connection. -/
def Moment.isInvalidate : Moment → Bool
  | .own operation => operation.isInvalidate
  | .around _ => false

/-- Whether a client is asked for its connection. -/
def Moment.isResolve : Moment → Bool
  | .own operation => operation.isResolve
  | .around _ => false

namespace Scene

/-- The scene with nothing in its log. -/
def unlogged (s : Scene) : Scene := { s with outside := { s.outside with log := [] } }

/-- The scene after a change around the client. -/
def amid (s : Scene) : Change → Scene
  | .clock now => { s with outside := { s.outside with now := now } }
  | .network network => { s with outside := { s.outside with network := network } }
  | .store store => { s with outside := { s.outside with store := store } }

end Scene

/-- What is seen of the operations of a client, by the way they are carried
out. -/
def observed (run : Operation → Action Yield) (s : Scene) : List Moment → List Observation
  | [] => []
  | .own operation :: rest =>
    ⟨operation, ((run operation).outcome s.unlogged).1,
        ((run operation).outcome s.unlogged).2.outside.log⟩
      :: observed run ((run operation).outcome s.unlogged).2 rest
  | .around change :: rest => observed run (s.amid change) rest

/-- What was done before is not seen again. -/
theorem observed_unlogged (run : Operation → Action Yield) (s : Scene) (moments : List Moment) :
    observed run s.unlogged moments = observed run s moments := by
  induction moments generalizing s with
  | nil => rfl
  | cons moment rest ih =>
    cases moment with
    | own operation => rfl
    | around change =>
      have hamid : s.unlogged.amid change = (s.amid change).unlogged := by cases change <;> rfl
      rw [observed, observed, hamid, ih]

-- ======================================================= what is remembered

variable {c : Client}

namespace Client.Forgetful

variable {s t : Scene}

theorem unlogged (h : c.Forgetful s t) : c.Forgetful s.unlogged t.unlogged := by
  obtain ⟨⟨r, rfl⟩, hs, ht⟩ := h
  exact ⟨⟨r, rfl⟩, hs, ht⟩

theorem amid (h : c.Forgetful s t) (change : Change) :
    c.Forgetful (s.amid change) (t.amid change) := by
  obtain ⟨⟨r, rfl⟩, hs, ht⟩ := h
  cases change <;> exact ⟨⟨r, rfl⟩, hs, ht⟩

/-- Outside of a client nothing shows which connection it remembers. -/
theorem log_eq (h : c.Forgetful s t) : s.outside.log = t.outside.log := by
  obtain ⟨⟨r, rfl⟩, -, -⟩ := h
  rfl

/-- That one is made to forget its connection leaves all else as it is. -/
theorem of_invalidate (h : c.Forgetful s t) :
    c.Forgetful ((Operation.invalidate.run c).outcome s.unlogged).2 t.unlogged := by
  refine ⟨?_, (fits_run .invalidate).leaves h.unlogged.2.1, h.2.2⟩
  obtain ⟨⟨r, rfl⟩, -, -⟩ := h
  exact ⟨r, rfl⟩

end Client.Forgetful

/-- It makes no difference to an operation which connection is remembered. -/
theorem lockstep_run (hrooted : c.Rooted) {operation : Operation}
    (hresolve : operation.isResolve = false) :
    Lockstep c.Forgetful (operation.run c) (operation.run c) ∧
      Lockstep c.Forgetful (operation.run c)
        (operation.runBy c (c.callBy c.resolveAfresh)) := by
  have hnetwork : ∀ {s t}, c.Forgetful s t → t.outside.network = s.outside.network :=
    fun h => (Client.mirrors_butForMemo c).network h.1
  have hother : operation.makesCalls = false →
      Lockstep c.Forgetful (operation.run c) (operation.run c) := by
    intro hcalls
    have happart := Operation.lockstep_apart (Client.mirrors_butForMemo c) hcalls
      fun h => absurd h (by simp [hresolve])
    exact happart.and (fits_run operation) (fits_run operation)
  constructor
  · rw [Operation.run_eq_runBy]
    exact Operation.lockstep_runBy hnetwork (Client.lockstep_call hrooted) hother
  · rw [Operation.run_eq_runBy]
    exact Operation.lockstep_runBy hnetwork (Client.lockstep_call_afresh hrooted) hother

/-- In lockstep the same is seen of both. -/
theorem observed_eq {run run' : Operation → Action Yield} {moments : List Moment}
    (hrun : ∀ operation, .own operation ∈ moments →
      Lockstep c.Forgetful (run operation) (run' operation))
    {s t : Scene} (hst : c.Forgetful s t) : observed run s moments = observed run' t moments := by
  induction moments generalizing s t with
  | nil => rfl
  | cons moment rest ih =>
    have hrest : ∀ {s t}, c.Forgetful s t → observed run s rest = observed run' t rest :=
      ih fun operation hmem => hrun operation (List.mem_cons_of_mem _ hmem)
    cases moment with
    | own operation =>
      have hlockstep := hrun operation List.mem_cons_self
      have hscene := hlockstep.scene hst.unlogged
      rw [observed, observed, hlockstep.value hst.unlogged, hscene.log_eq, hrest hscene]
    | around change => exact hrest (hst.amid change)

/-- What is seen of all else is seen also where the client is not made to
forget its connection. -/
theorem observed_filter (hrooted : c.Rooted) {moments : List Moment}
    (hresolve : ∀ m ∈ moments, m.isResolve = false) {s t : Scene} (hst : c.Forgetful s t) :
    (observed (·.run c) s moments).filter (!·.operation.isInvalidate)
      = observed (·.run c) t (moments.filter (!·.isInvalidate)) := by
  induction moments generalizing s t with
  | nil => rfl
  | cons moment rest ih =>
    have hrest : ∀ {s t}, c.Forgetful s t →
        (observed (·.run c) s rest).filter (!·.operation.isInvalidate)
          = observed (·.run c) t (rest.filter (!·.isInvalidate)) :=
      ih fun m hm => hresolve m (List.mem_cons_of_mem _ hm)
    cases moment with
    | own operation =>
      cases hinvalidate : operation.isInvalidate with
      | true =>
        obtain rfl := Operation.eq_invalidate hinvalidate
        rw [observed, List.filter_cons_of_neg (by simp [Operation.isInvalidate]),
          List.filter_cons_of_neg (by simp [Moment.isInvalidate, Operation.isInvalidate])]
        rw [hrest hst.of_invalidate, observed_unlogged]
      | false =>
        have hown : operation.isResolve = false := hresolve (.own operation) List.mem_cons_self
        obtain ⟨hlockstep, -⟩ := lockstep_run hrooted hown
        have hscene := hlockstep.scene hst.unlogged
        rw [observed, List.filter_cons_of_pos (by simp [hinvalidate]),
          List.filter_cons_of_pos (by simp [Moment.isInvalidate, hinvalidate]), observed,
          hlockstep.value hst.unlogged, hscene.log_eq, hrest hscene]
    | around change =>
      rw [observed, List.filter_cons_of_pos (by simp [Moment.isInvalidate]), observed]
      exact hrest (hst.amid change)

-- ============================================================== nothing shows

/-- Of a client that began with nothing, and is not asked for its connection
itself, the same is seen wherever it is made to forget the connection that it
remembers, whatever happens around it: every other operation gives the same and
does the same outside. The same is seen also of a client whose calls, those of
polls and waits among them, all find their connection afresh. -/
theorem memo_unobservable {config : Config} (hclient : Client.ofConfig config = .ok c)
    {s : Scene} (hs : s.session = .initial) {moments : List Moment}
    (hresolve : ∀ m ∈ moments, m.isResolve = false) :
    (observed (·.run c) s moments).filter (!·.operation.isInvalidate)
        = observed (·.run c) s (moments.filter (!·.isInvalidate)) ∧
      observed (·.run c) s moments
        = observed (·.runBy c (c.callBy c.resolveAfresh)) s moments := by
  have hrooted := Client.rooted_of_config hclient
  have hfits : c.Fits s := by
    rw [Client.Fits, hs]
    exact Client.coherent_initial
  have hself : c.Forgetful s s := ⟨.refl s, hfits, hfits⟩
  refine ⟨observed_filter hrooted hresolve hself, observed_eq (fun operation hmem => ?_) hself⟩
  have hown : operation.isResolve = false := hresolve _ hmem
  exact (lockstep_run hrooted hown).2

namespace Sample

/-- What a client is made from that uses the catalogs it is given. -/
def config : Config := ⟨(client none).identity, .none, .compute, 0, false, false⟩

/-- Two calls, an hour apart, before the second of which the connection is
forgotten. -/
def forgetting : List Moment :=
  [.own call, .own .invalidate, .around (.clock ⟨1893459600, 0⟩), .own call]

/-- What a client finds that has done nothing and has an empty store. -/
def start : Scene :=
  (fleet [grant "T" "2999-01-01T00:00:00Z" (catalog "https://a.example.com/v2"), status 200,
    status 200]).scene pair true

end Sample

/-- The second call finds its connection again and does not open it again. -/
theorem memo_unobservable_forgetting :
    ∃ c, Client.ofConfig Sample.config = .ok c ∧
      (observed (·.run c) Sample.start Sample.forgetting).map
        (fun o => (o.result.toOption.isSome, o.events.length))
          = [(true, 5), (true, 0), (true, 1)] ∧
      (observed (·.run c) Sample.start Sample.forgetting).filter (!·.operation.isInvalidate)
        = observed (·.run c) Sample.start (Sample.forgetting.filter (!·.isInvalidate)) ∧
      observed (·.run c) Sample.start Sample.forgetting
        = observed (·.runBy c (c.callBy c.resolveAfresh)) Sample.start Sample.forgetting := by
  have hclient : Client.ofConfig Sample.config = .ok (Sample.client none) := by rfl
  have hsession : Sample.start.session = .initial := rfl
  have hresolve : ∀ m ∈ Sample.forgetting, m.isResolve = false := by decide
  have hseen : (observed (·.run (Sample.client none)) Sample.start Sample.forgetting).map
      (fun o => (o.result.toOption.isSome, o.events.length))
        = [(true, 5), (true, 0), (true, 1)] := by decide +kernel
  exact ⟨_, hclient, hseen, memo_unobservable hclient hsession hresolve⟩

end CloudSession
