/-
A client beside others that use the same store. It goes the same way in scenes
that differ in nothing but what the store has under other keys than its own
(`mirrors_alike`). And what it does to the store is what the calls do that its
log shows, all of them with its own key (`pervades_replayed`): from the log can
be told what the store answered, and that under other keys nothing changed.
-/
import CloudSession.Proofs.Session.Lockstep
import CloudSession.Proofs.Store.Entry

namespace CloudSession

open CloudSession.Action

-- ==================================================================== alike

namespace Scene

/-- The scene with another shared store, or with none. -/
def sharing (s : Scene) (store : Option SharedStore) : Scene :=
  { s with outside := { s.outside with store := store } }

/-- What calls of the store with one key depend on, if there is a store. -/
def view (key : String) (s : Scene) : Option (StoreFaults × Entry) :=
  s.outside.store.map (·.view key)

end Scene

/-- Scenes that differ in nothing but what the store has under other keys. -/
def Alike (key : String) (s t : Scene) : Prop :=
  ∃ store, t = s.sharing store ∧ t.view key = s.view key

namespace Alike

variable {key : String} {s t : Scene}

theorem of_view {r : Option SharedStore} (h : (s.sharing r).view key = s.view key) :
    Alike key s (s.sharing r) :=
  ⟨r, rfl, h⟩

protected theorem refl (s : Scene) : Alike key s s := ⟨s.outside.store, rfl, rfl⟩

/-- Either there is no store, or what it has under the key is the same. -/
theorem cases (h : Alike key s t) :
    (s.outside.store = none ∧ t = s) ∨
      ∃ a b, s.outside.store = some a ∧ t = s.sharing (some b) ∧ a.view key = b.view key := by
  obtain ⟨store, rfl, hview⟩ := h
  cases ha : s.outside.store with
  | none =>
    cases store with
    | none => exact Or.inl ⟨rfl, by rw [Scene.sharing, ← ha]⟩
    | some b => exact absurd hview (by simp [Scene.view, Scene.sharing, ha])
  | some a =>
    cases store with
    | none => exact absurd hview (by simp [Scene.view, Scene.sharing, ha])
    | some b =>
      have hview : some (b.view key) = s.outside.store.map (·.view key) := hview
      rw [ha] at hview
      exact Or.inr ⟨a, b, rfl, rfl, (Option.some.inj hview).symm⟩

/-- Where the stores are left, they have the same under the key. -/
theorem getD_view (h : Alike key s t) {a b : SharedStore} (hab : b.view key = a.view key) :
    (t.outside.store.getD b).view key = (s.outside.store.getD a).view key := by
  rcases h.cases with ⟨hnone, rfl⟩ | ⟨a', b', ha, rfl, hview⟩
  · rw [hnone]
    exact hab
  · rw [ha]
    exact hview.symm

end Alike

namespace Action

variable {key : String}

theorem lockstep_storeGet_alike : Lockstep (Alike key) (storeGet key) (storeGet key) := by
  refine .of_outcome fun s t hst => ?_
  rcases hst.cases with ⟨-, rfl⟩ | ⟨a, b, ha, rfl, hview⟩
  · exact ⟨_, rfl, .refl _⟩
  have hget : b.get key = a.get key := by rw [b.get_eq_view, a.get_eq_view, hview]
  have hb : (s.sharing (some b)).outside.store = some b := rfl
  rw [outcome_storeGet, outcome_storeGet, ha, hb]
  have hviews : ∀ ok, ((s.sharing (some b)).noting (.store .get key ok)).view key
      = (s.noting (.store .get key ok)).view key := by
    intro ok
    show some (b.view key) = s.outside.store.map _
    rw [ha, Option.map_some, hview]
  simp only [hget]
  cases a.get key with
  | ok found => exact ⟨_, rfl, .of_view (hviews true)⟩
  | error fault => exact ⟨_, rfl, .of_view (hviews false)⟩

/-- A change of the store that depends on nothing under other keys. -/
theorem lockstep_storeChange_alike (call : StoreCall)
    {change : SharedStore → Except StoreFault SharedStore}
    (hchange : ∀ {a b : SharedStore}, a.view key = b.view key →
      (change a).map (SharedStore.view key) = (change b).map (SharedStore.view key)) :
    Lockstep (Alike key) (storeChange call key change) (storeChange call key change) := by
  refine .of_outcome fun s t hst => ?_
  rcases hst.cases with ⟨-, rfl⟩ | ⟨a, b, ha, rfl, hview⟩
  · exact ⟨_, rfl, .refl _⟩
  have hb : (s.sharing (some b)).outside.store = some b := rfl
  have hchanged := hchange hview
  rw [outcome_storeChange, outcome_storeChange, ha, hb]
  simp only
  cases hca : change a with
  | ok a' =>
    cases hcb : change b with
    | error fault => exact absurd hchanged (by simp [hca, hcb, Except.map])
    | ok b' =>
      have hview' : a'.view key = b'.view key := by
        simpa only [hca, hcb, Except.map, Except.ok.injEq] using hchanged
      exact ⟨_, rfl, .of_view (s := (s.withStore a').noting (.store call key true))
        (r := some b') (congrArg some hview'.symm)⟩
  | error fault =>
    cases hcb : change b with
    | ok b' => exact absurd hchanged (by simp [hca, hcb, Except.map])
    | error fault' =>
      obtain rfl : fault = fault' := by
        simpa only [hca, hcb, Except.map, Except.error.injEq] using hchanged
      refine ⟨_, rfl, .of_view (s := s.noting (.store call key false)) (r := some b) ?_⟩
      show some (b.view key) = s.outside.store.map _
      rw [ha, Option.map_some, hview]

end Action

namespace Client

theorem mirrors_alike (c : Client) : c.Mirrors (Alike c.key) where
  session {s t} hst := by
    obtain ⟨store, rfl, -⟩ := hst
    exact ⟨s.session.resolved, rfl⟩
  time {s t} hst := by
    obtain ⟨store, rfl, -⟩ := hst
    rfl
  network {s t} hst := by
    obtain ⟨store, rfl, -⟩ := hst
    rfl
  setSession {f} _ := by
    refine .of_outcome fun s t hst => ?_
    obtain ⟨store, rfl, hview⟩ := hst
    exact ⟨_, rfl, .of_view (s := s.withSession f) hview⟩
  send purpose request := by
    refine .of_outcome fun s t hst => ?_
    obtain ⟨store, rfl, hview⟩ := hst
    exact ⟨_, rfl, .of_view (s := ((send purpose request).outcome s).2) hview⟩
  connection connection := by
    refine .of_outcome fun s t hst => ?_
    obtain ⟨store, rfl, hview⟩ := hst
    rw [outcome_openConnection, outcome_openConnection]
    exact ⟨_, rfl, .of_view (s := (s.withNetwork s.outside.network.connect.2).noting
      (.connect connection s.outside.network.connect.1)) hview⟩
  get := lockstep_storeGet_alike
  put x := lockstep_storeChange_alike _ fun h => SharedStore.put_congr h x
  clear := lockstep_storeChange_alike _ fun h => SharedStore.clear_congr h

end Client

-- ================================================================== replays

/-- The call of the store that an event is of, with its key. -/
def Event.storeCall? : Event → Option (String × StoreCall)
  | .store call key _ => some (key, call)
  | _ => none

/-- Whether a call of the store succeeded, if an event is of one. -/
def Event.storeSuccess? : Event → Option Bool
  | .store _ _ succeeded => some succeeded
  | _ => none

/-- The calls of the store that a log shows. -/
def storeCalls (log : List Event) : List (String × StoreCall) := log.filterMap (·.storeCall?)

/-- What was done to the store is what the calls in the log do, with one key all
of them, and those failed that fail there. -/
structure Replayed (key : String) (s s' : Scene) : Prop where
  log : ∃ new, s'.outside.log = s.outside.log ++ new ∧
    (∀ call ∈ storeCalls new, call.1 = key) ∧
    s'.outside.store = s.outside.store.map (·.afterCalls (storeCalls new)) ∧
    ∀ shared, s.outside.store = some shared →
      new.filterMap (·.storeSuccess?) = (shared.answers (storeCalls new)).map (·.isOk)

namespace Replayed

variable {key : String}

/-- Nothing was done to the store. -/
theorem of_none {s s' : Scene} (new : List Event) (hlog : s'.outside.log = s.outside.log ++ new)
    (hnew : ∀ e ∈ new, e.storeCall? = none) (hstore : s'.outside.store = s.outside.store) :
    Replayed key s s' := by
  have hcalls : storeCalls new = [] := List.filterMap_eq_nil_iff.mpr hnew
  have hflags : new.filterMap (·.storeSuccess?) = [] := by
    refine List.filterMap_eq_nil_iff.mpr fun e he => ?_
    have hnone := hnew e he
    cases e with
    | store => exact absurd hnone (by simp [Event.storeCall?])
    | _ => rfl
  refine ⟨new, hlog, by simp [hcalls], ?_, fun shared _ => ?_⟩
  · rw [hcalls, hstore]
    cases s.outside.store <;> rfl
  · rw [hflags, hcalls]
    rfl

/-- A call was carried out, and noted. -/
theorem of_perform {s : Scene} {shared : SharedStore} (hshared : s.outside.store = some shared)
    (call : StoreCall) :
    Replayed key s ((s.withStore (shared.perform key call).2).noting
      (.store call key (shared.perform key call).1.isOk)) := by
  refine ⟨[_], rfl, ?_, ?_, fun shared' hshared' => ?_⟩
  · intro c hc
    obtain rfl := List.mem_singleton.mp hc
    rfl
  · rw [hshared]
    rfl
  · obtain rfl := Option.some.inj (hshared.symm.trans hshared')
    rfl

instance : IsPreorder Scene (Replayed key) where
  refl s := of_none [] (List.append_nil _).symm (by simp) rfl
  trans s t u hst htu := by
    obtain ⟨new, hnew, hkey, hstore, hflags⟩ := hst
    obtain ⟨new', hnew', hkey', hstore', hflags'⟩ := htu
    have hcalls : storeCalls (new ++ new') = storeCalls new ++ storeCalls new' :=
      List.filterMap_append
    refine ⟨new ++ new', by rw [hnew', hnew, List.append_assoc], ?_, ?_, fun shared hs => ?_⟩
    · intro call hcall
      rw [hcalls] at hcall
      exact (List.mem_append.mp hcall).elim (hkey call) (hkey' call)
    · rw [hstore', hstore, hcalls]
      cases s.outside.store with
      | none => rfl
      | some shared => exact congrArg some (shared.afterCalls_append _ _).symm
    · have ht : t.outside.store = some (shared.afterCalls (storeCalls new)) := by
        rw [hstore, hs]
        rfl
      rw [List.filterMap_append, hcalls, shared.answers_append, List.map_append, hflags shared hs,
        hflags' _ ht]

end Replayed

namespace Action

variable {key : String} {s : Scene} {shared : SharedStore}

theorem withStore_same (hshared : s.outside.store = some shared) : s.withStore shared = s := by
  rw [Scene.withStore, ← hshared]

theorem storeGet_leaves (hshared : s.outside.store = some shared) :
    ((storeGet key).outcome s).2 = (s.withStore (shared.perform key .get).2).noting
      (.store .get key (shared.perform key .get).1.isOk) := by
  rw [outcome_storeGet, hshared, SharedStore.perform, withStore_same hshared]
  cases hget : shared.get key <;> simp only [hget] <;> rfl

theorem storeChange_leaves (hshared : s.outside.store = some shared) (call : StoreCall)
    (change : SharedStore → Except StoreFault SharedStore) :
    ((storeChange call key change).outcome s).2
      = (s.withStore (shared.changed (change shared)).2).noting
        (.store call key (shared.changed (change shared)).1.isOk) := by
  rw [outcome_storeChange, hshared]
  cases hchange : change shared with
  | ok changed => simp only [hchange]; rfl
  | error fault =>
    simp only [hchange]
    rw [SharedStore.changed, withStore_same hshared]
    rfl

theorem replayed_storeGet : Steps (Replayed key) (storeGet key) := by
  refine ⟨fun s => ?_⟩
  cases hshared : s.outside.store with
  | none =>
    rw [outcome_storeGet, hshared]
    exact refl s
  | some shared =>
    rw [storeGet_leaves hshared]
    exact .of_perform hshared .get

theorem replayed_storeChange {call : StoreCall}
    {change : SharedStore → Except StoreFault SharedStore}
    (hcall : ∀ shared : SharedStore, shared.perform key call = shared.changed (change shared)) :
    Steps (Replayed key) (storeChange call key change) := by
  refine ⟨fun s => ?_⟩
  cases hshared : s.outside.store with
  | none =>
    rw [outcome_storeChange, hshared]
    exact refl s
  | some shared =>
    rw [storeChange_leaves hshared, ← hcall]
    exact .of_perform hshared call

end Action

/-- Whatever a client does, its log shows what it does to the store. -/
theorem Client.pervades_replayed (c : Client) : c.Pervades (Replayed c.key) where
  session _ := ⟨fun _ => .of_none [] (List.append_nil _).symm (by simp) rfl⟩
  send purpose request := by
    refine ⟨fun s => .of_none [.exchange purpose request s.outside.network.send.1] rfl
      (fun e he => ?_) rfl⟩
    obtain rfl := List.mem_singleton.mp he
    rfl
  connection connection := by
    refine ⟨fun s => ?_⟩
    rw [outcome_openConnection]
    refine .of_none [.connect connection s.outside.network.connect.1] rfl
      (fun e he => ?_) rfl
    obtain rfl := List.mem_singleton.mp he
    rfl
  get := replayed_storeGet
  put _ := replayed_storeChange fun _ => rfl
  clear := replayed_storeChange fun _ => rfl

end CloudSession
