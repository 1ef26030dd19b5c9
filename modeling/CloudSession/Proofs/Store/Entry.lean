/-
What a store has under one key, by the kind of the store: a context, a file or
nothing that could be used (`Entry`). It alone decides what a call with the key
gives and leaves there (`get_eq_entry`, `put_map_entry`, `clear_map_entry`), and
calls with other keys leave it as it is. So a run of calls can be told by what
is under its key (`answers_congr`), and runs with other keys do not show in it
(`view_afterCalls_of_ne`).
-/
import CloudSession.Proofs.Store.Laws
import CloudSession.Session.Scene

namespace CloudSession

-- =================================================================== entries

/-- What a store has under a key. -/
inductive Entry
  | context (found : Option Context)
  | file (bytes : Option ByteArray)
  | blocked (fault : StoreFault)

/-- The context in the bytes of a file. Text that is no context is none. -/
def Context.inFile (bytes : ByteArray) : Except StoreFault (Option Context) :=
  match Text.Utf8.text? bytes with
  | none => .error .notText
  | some text => .ok (Context.read? text)

namespace Entry

def get : Entry → Except StoreFault (Option Context)
  | .context found => .ok found
  | .file none => .ok none
  | .file (some bytes) => Context.inFile bytes
  | .blocked fault => .error fault

def put (x : Context) : Entry → Except StoreFault Entry
  | .context _ => .ok (.context (some x))
  | .file _ => .ok (.file (some x.toJson.pretty.toUTF8))
  | .blocked fault => .error fault

def clear : Entry → Except StoreFault Entry
  | .context _ => .ok (.context none)
  | .file _ => .ok (.file none)
  | .blocked fault => .error fault

end Entry

namespace Store

/-- What the store has under a key. -/
def entry (s : Store) (key : String) : Entry :=
  match s with
  | .memory m => .context (m.get? key)
  | .directory d => .file (d.bind (·.read? (Directory.entryName key)))
  | .blocked fault => .blocked fault

theorem get_eq_entry (s : Store) (key : String) : s.get key = (s.entry key).get := by
  cases s with
  | memory m => rfl
  | blocked fault => rfl
  | directory d =>
    cases d with
    | none => rfl
    | some d =>
      show d.getContext key = (Entry.file (d.read? (Directory.entryName key))).get
      rw [Directory.getContext]
      cases d.read? (Directory.entryName key) <;> rfl

theorem put_map_entry (s : Store) (key : String) (x : Context) :
    (s.put key x).map (·.entry key) = (s.entry key).put x := by
  cases s with
  | memory m =>
    show Except.ok (Entry.context ((m.put key x).get? key)) = _
    rw [m.get?_put_self]
    rfl
  | directory d =>
    show Except.ok (Entry.file (((d.getD Directory.empty).putContext key x).read?
      (Directory.entryName key))) = _
    rw [Directory.read?_putContext_self]
    rfl
  | blocked fault => rfl

theorem clear_map_entry (s : Store) (key : String) :
    (s.clear key).map (·.entry key) = (s.entry key).clear := by
  cases s with
  | memory m =>
    show Except.ok (Entry.context ((m.clear key).get? key)) = _
    rw [m.get?_clear_self]
    rfl
  | directory d =>
    cases d with
    | none => rfl
    | some d =>
      show Except.ok (Entry.file ((d.clearContext key).read? (Directory.entryName key))) = _
      rw [Directory.clearContext, Directory.read?_remove_self]
      rfl
  | blocked fault => rfl

/-- A key that is set shows under no other. -/
theorem entry_put_of_ne {s s' : Store} {key other : String} (h : other ≠ key) {x : Context}
    (hput : s.put key x = .ok s') : s'.entry other = s.entry other := by
  cases s with
  | memory m =>
    obtain rfl := Except.ok.inj hput
    exact congrArg Entry.context (m.get?_put_of_ne h x)
  | directory d =>
    obtain rfl := Except.ok.inj hput
    show Entry.file (((d.getD Directory.empty).putContext key x).read? _) = _
    rw [Directory.read?_putContext_of_ne _ h]
    cases d <;> rfl
  | blocked fault => exact absurd hput (by simp [put])

theorem entry_clear_of_ne {s s' : Store} {key other : String} (h : other ≠ key)
    (hclear : s.clear key = .ok s') : s'.entry other = s.entry other := by
  cases s with
  | memory m =>
    obtain rfl := Except.ok.inj hclear
    exact congrArg Entry.context (m.get?_clear_of_ne h)
  | directory d =>
    obtain rfl := Except.ok.inj hclear
    cases d with
    | none => rfl
    | some d =>
      have hname : Directory.entryName other ≠ Directory.entryName key :=
        fun heq => h (Directory.entryName_injective heq)
      exact congrArg Entry.file (d.read?_remove_of_ne hname)
  | blocked fault => exact absurd hclear (by simp [clear])

end Store

-- ===================================================================== calls

namespace SharedStore

/-- What the calls with one key depend on: how they are made to fail, and what
is under the key. -/
def view (key : String) (s : SharedStore) : StoreFaults × Entry := (s.faults, s.store.entry key)

theorem guarded_map {α β : Type} (failure : Option String) (result : Except StoreFault α)
    (f : α → β) : (guarded failure result).map f = guarded failure (result.map f) := by
  cases failure <;> rfl

theorem get_eq_view (s : SharedStore) (key : String) :
    s.get key = guarded (s.view key).1.get (s.view key).2.get := by
  rw [get, s.store.get_eq_entry]
  rfl

theorem put_map_view (s : SharedStore) (key : String) (x : Context) :
    (s.put key x).map (view key)
      = guarded (s.view key).1.put (((s.view key).2.put x).map fun e => (s.faults, e)) := by
  rw [put, guarded_map]
  show _ = guarded s.faults.put (((s.store.entry key).put x).map _)
  rw [← s.store.put_map_entry]
  cases s.store.put key x <;> rfl

theorem clear_map_view (s : SharedStore) (key : String) :
    (s.clear key).map (view key)
      = guarded (s.view key).1.clear ((s.view key).2.clear.map fun e => (s.faults, e)) := by
  rw [clear, guarded_map]
  show _ = guarded s.faults.clear (((s.store.entry key).clear).map _)
  rw [← s.store.clear_map_entry]
  cases s.store.clear key <;> rfl

/-- What comes of a try to change the store: nothing is given, and a failure
changes nothing. -/
def changed (s : SharedStore) : Except StoreFault SharedStore →
    Except StoreFault (Option Context) × SharedStore
  | .ok s' => (.ok none, s')
  | .error fault => (.error fault, s)

/-- What a call gives, and the store that it leaves. -/
def perform (s : SharedStore) (key : String) : StoreCall →
    Except StoreFault (Option Context) × SharedStore
  | .get => (s.get key, s)
  | .put x => s.changed (s.put key x)
  | .clear => s.changed (s.clear key)

theorem changed_congr {s t : SharedStore} {key : String} {a b : Except StoreFault SharedStore}
    (h : s.view key = t.view key) (hab : a.map (view key) = b.map (view key)) :
    (s.changed a).1 = (t.changed b).1 ∧ (s.changed a).2.view key = (t.changed b).2.view key := by
  cases a with
  | ok s' =>
    cases b with
    | ok t' => exact ⟨rfl, Except.ok.inj hab⟩
    | error fault => exact absurd hab (by simp [Except.map])
  | error fault =>
    cases b with
    | ok t' => exact absurd hab (by simp [Except.map])
    | error fault' =>
      obtain rfl := Except.error.inj hab
      exact ⟨rfl, h⟩

/-- Stores that have the same under a key are written alike. -/
theorem put_congr {s t : SharedStore} {key : String} (h : s.view key = t.view key) (x : Context) :
    (s.put key x).map (view key) = (t.put key x).map (view key) := by
  have hfaults : s.faults = t.faults := congrArg Prod.fst h
  rw [put_map_view, put_map_view, h, hfaults]

theorem clear_congr {s t : SharedStore} {key : String} (h : s.view key = t.view key) :
    (s.clear key).map (view key) = (t.clear key).map (view key) := by
  have hfaults : s.faults = t.faults := congrArg Prod.fst h
  rw [clear_map_view, clear_map_view, h, hfaults]

/-- What is under a key decides what a call with it gives and leaves there. -/
theorem perform_congr {s t : SharedStore} {key : String} (h : s.view key = t.view key)
    (call : StoreCall) :
    (s.perform key call).1 = (t.perform key call).1 ∧
      (s.perform key call).2.view key = (t.perform key call).2.view key := by
  cases call with
  | get => exact ⟨by rw [perform, perform, get_eq_view, get_eq_view, h], h⟩
  | put x => exact changed_congr h (put_congr h x)
  | clear => exact changed_congr h (clear_congr h)

/-- A call leaves what is under other keys. -/
theorem view_perform_of_ne (s : SharedStore) {key other : String} (h : other ≠ key)
    (call : StoreCall) : (s.perform key call).2.view other = s.view other := by
  cases call with
  | get => rfl
  | put x =>
    rw [perform]
    cases hput : s.put key x with
    | error fault => rfl
    | ok s' =>
      obtain ⟨store, hstore, rfl⟩ := map_eq_ok (guarded_eq_ok_iff.mp hput).2
      exact congrArg (Prod.mk s.faults) (Store.entry_put_of_ne h hstore)
  | clear =>
    rw [perform]
    cases hclear : s.clear key with
    | error fault => rfl
    | ok s' =>
      obtain ⟨store, hstore, rfl⟩ := map_eq_ok (guarded_eq_ok_iff.mp hclear).2
      exact congrArg (Prod.mk s.faults) (Store.entry_clear_of_ne h hstore)

-- ============================================================== runs of calls

/-- What a store answers to calls with their keys, one after another. -/
def answers (s : SharedStore) : List (String × StoreCall) →
    List (Except StoreFault (Option Context))
  | [] => []
  | (key, call) :: rest => (s.perform key call).1 :: (s.perform key call).2.answers rest

/-- The store after calls. -/
def afterCalls (s : SharedStore) : List (String × StoreCall) → SharedStore
  | [] => s
  | (key, call) :: rest => (s.perform key call).2.afterCalls rest

theorem answers_append (s : SharedStore) (first second : List (String × StoreCall)) :
    s.answers (first ++ second) = s.answers first ++ (s.afterCalls first).answers second := by
  induction first generalizing s with
  | nil => rfl
  | cons call rest ih => exact congrArg (List.cons _) (ih _)

theorem afterCalls_append (s : SharedStore) (first second : List (String × StoreCall)) :
    s.afterCalls (first ++ second) = (s.afterCalls first).afterCalls second := by
  induction first generalizing s with
  | nil => rfl
  | cons call rest ih => exact ih _

/-- Calls with one key are answered by what is under it. -/
theorem answers_congr {key : String} {calls : List (String × StoreCall)}
    (hkey : ∀ call ∈ calls, call.1 = key) {s t : SharedStore} (h : s.view key = t.view key) :
    s.answers calls = t.answers calls := by
  induction calls generalizing s t with
  | nil => rfl
  | cons call rest ih =>
    obtain ⟨other, call⟩ := call
    obtain rfl : other = key := hkey _ List.mem_cons_self
    obtain ⟨hanswer, hview⟩ := perform_congr h call
    rw [answers, answers, hanswer, ih (fun c hc => hkey c (List.mem_cons_of_mem _ hc)) hview]

/-- Calls with other keys do not show. -/
theorem view_afterCalls_of_ne {key : String} {calls : List (String × StoreCall)}
    (hkey : ∀ call ∈ calls, call.1 ≠ key) (s : SharedStore) :
    (s.afterCalls calls).view key = s.view key := by
  induction calls generalizing s with
  | nil => rfl
  | cons call rest ih =>
    obtain ⟨other, call⟩ := call
    have hother : key ≠ other := (hkey _ List.mem_cons_self).symm
    rw [afterCalls, ih fun c hc => hkey c (List.mem_cons_of_mem _ hc),
      s.view_perform_of_ne hother]

end SharedStore
end CloudSession
