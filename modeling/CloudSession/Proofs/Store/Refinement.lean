/-
A store in a directory beside one in memory. Whatever is set, got and cleared in
both, they answer the same, and but for the entries of keys nothing is left in
the directory (`directory_refines_memory`). For under every key stand a context
in the one and the file of it in the other (`Entry.Matches`), and the contexts
that are to be had read back from their files (`Context.read?_toJson`).
-/
import CloudSession.Proofs.Context.RoundTrip
import CloudSession.Proofs.Store.Entry

namespace CloudSession

-- =================================================================== entries

namespace Entry

/-- What a call leaves of an entry. -/
def after (e : Entry) : StoreCall → Except StoreFault Entry
  | .get => .ok e
  | .put x => e.put x
  | .clear => e.clear

/-- What a call gives that can be carried out. -/
def answer (e : Entry) : StoreCall → Except StoreFault (Option Context)
  | .get => e.get
  | _ => .ok none

/-- A file that holds what memory does: no context, or one that reads back. -/
inductive Matches : Entry → Entry → Prop
  | missing : Matches (.file none) (.context none)
  | held {x : Context} : Context.read? x.toJson.pretty = some x →
      Matches (.file (some x.toJson.pretty.toUTF8)) (.context (some x))

namespace Matches

variable {e e' : Entry} (h : e.Matches e')

include h

theorem answer_eq (call : StoreCall) : e.answer call = e'.answer call := by
  cases call with
  | put x => rfl
  | clear => rfl
  | get =>
    cases h with
    | missing => rfl
    | @held x hx =>
      show Context.inFile x.toJson.pretty.toUTF8 = .ok (some x)
      rw [Context.inFile, Text.Utf8.text?_toUTF8]
      exact congrArg Except.ok hx

/-- They still match after a call. -/
theorem after {call : StoreCall}
    (hcall : ∀ x, call = .put x → Context.read? x.toJson.pretty = some x) :
    ∃ f f', e.after call = .ok f ∧ e'.after call = .ok f' ∧ f.Matches f' := by
  cases call with
  | get => exact ⟨e, e', rfl, rfl, h⟩
  | put x =>
    have hx := hcall x rfl
    cases h with
    | missing => exact ⟨_, _, rfl, rfl, .held hx⟩
    | held _ => exact ⟨_, _, rfl, rfl, .held hx⟩
  | clear =>
    cases h with
    | missing => exact ⟨_, _, rfl, rfl, .missing⟩
    | held _ => exact ⟨_, _, rfl, rfl, .missing⟩

end Matches
end Entry

-- ===================================================================== calls

namespace SharedStore

variable {s t : SharedStore}

/-- A store that is not made to fail does what its entry tells. -/
theorem perform_entry {key : String} {call : StoreCall} {f : Entry}
    (hfaults : s.faults = .none) (hafter : (s.store.entry key).after call = .ok f) :
    (s.perform key call).1 = (s.store.entry key).answer call ∧
      (s.perform key call).2.view key = (.none, f) := by
  have hchanged : ∀ {change : Except StoreFault SharedStore},
      change.map (view key) = .ok (.none, f) →
      (s.changed change).1 = .ok none ∧ (s.changed change).2.view key = (.none, f) := by
    intro change hmap
    obtain ⟨s', rfl, hview⟩ := map_eq_ok hmap
    exact ⟨rfl, hview⟩
  cases call with
  | get =>
    obtain rfl := Except.ok.inj hafter
    refine ⟨?_, congrArg (fun faults => (faults, s.store.entry key)) hfaults⟩
    rw [perform, get_eq_view]
    simp only [view, hfaults]
    rfl
  | put x =>
    have hput : (s.store.entry key).put x = .ok f := hafter
    have hmap := s.put_map_view key x
    simp only [view, hput, hfaults] at hmap
    exact hchanged hmap
  | clear =>
    have hclear : (s.store.entry key).clear = .ok f := hafter
    have hmap := s.clear_map_view key
    simp only [view, hclear, hfaults] at hmap
    exact hchanged hmap

/-- Under every key a store has the file of what the other has in memory, and
neither is made to fail. -/
structure Refines (s t : SharedStore) : Prop where
  faults : s.faults = .none ∧ t.faults = .none
  entries : ∀ key, (s.store.entry key).Matches (t.store.entry key)

namespace Refines

/-- A call gives the same in both, and leaves the same in both. -/
theorem perform (h : s.Refines t) (key : String) {call : StoreCall}
    (hcall : ∀ x, call = .put x → Context.read? x.toJson.pretty = some x) :
    (s.perform key call).1 = (t.perform key call).1 ∧
      (s.perform key call).2.Refines (t.perform key call).2 := by
  obtain ⟨f, f', hf, hf', hmatches⟩ := (h.entries key).after hcall
  obtain ⟨hgives, hleaves⟩ := perform_entry h.faults.1 hf
  obtain ⟨hgives', hleaves'⟩ := perform_entry h.faults.2 hf'
  refine ⟨?_, ⟨congrArg Prod.fst hleaves, congrArg Prod.fst hleaves'⟩, fun other => ?_⟩
  · rw [hgives, hgives', (h.entries key).answer_eq]
  have hentry : ∀ {u : SharedStore} {faults : StoreFaults} {e : Entry},
      u.view other = (faults, e) → u.store.entry other = e := fun hview => congrArg Prod.snd hview
  by_cases hother : other = key
  · subst hother
    rw [hentry hleaves, hentry hleaves']
    exact hmatches
  · rw [hentry (s.view_perform_of_ne hother call), hentry (t.view_perform_of_ne hother call)]
    exact h.entries other

/-- Calls are answered the same by both. -/
theorem answers_eq (h : s.Refines t) {calls : List (String × StoreCall)}
    (hcalls : ∀ key x, (key, .put x) ∈ calls → Context.read? x.toJson.pretty = some x) :
    s.answers calls = t.answers calls := by
  induction calls generalizing s t with
  | nil => rfl
  | cons first rest ih =>
    obtain ⟨key, call⟩ := first
    have hcall : ∀ x, call = .put x → Context.read? x.toJson.pretty = some x := by
      intro x hx
      subst hx
      exact hcalls key x List.mem_cons_self
    obtain ⟨hanswer, hleft⟩ := h.perform key hcall
    have hrest := ih hleft fun key x hx => hcalls key x (List.mem_cons_of_mem _ hx)
    rw [answers, answers, hanswer, hrest]

end Refines

-- ===================================================================== files

/-- A store in a directory, or in none yet, that has no files but the entries of
some keys. -/
def Tidy (keys : List String) (s : SharedStore) : Prop :=
  ∃ d : Option Directory, s.store = .directory d ∧
    ∀ file ∈ (d.getD Directory.empty).files, ∃ key ∈ keys, file.1 = Directory.entryName key

/-- A context is written by way of a draft, of which nothing is left. -/
theorem mem_putContext {d : Directory} {key : String} {x : Context}
    {file : String × ByteArray} (h : file ∈ (d.putContext key x).files) :
    file.1 = Directory.entryName key ∨ file ∈ d.files := by
  rw [Directory.putContext, Directory.rename, Directory.read?_write_self] at h
  rcases Ascending.mem_insert h with rfl | h
  · exact Or.inl rfl
  · obtain ⟨hmem, hdraft⟩ := List.mem_filter.mp h
    rcases Ascending.mem_insert hmem with rfl | hmem
    · exact absurd hdraft (by simp)
    · exact Or.inr hmem

theorem Tidy.perform {keys : List String} (h : s.Tidy keys) {key : String} (hkey : key ∈ keys)
    (call : StoreCall) : (s.perform key call).2.Tidy keys := by
  obtain ⟨d, hd, hfiles⟩ := h
  have hchanged : ∀ {change : Except StoreFault SharedStore},
      (∀ s', change = .ok s' → s'.Tidy keys) → (s.changed change).2.Tidy keys := by
    intro change hchange
    cases change with
    | ok s' => exact hchange s' rfl
    | error fault => exact ⟨d, hd, hfiles⟩
  cases call with
  | get => exact ⟨d, hd, hfiles⟩
  | put x =>
    refine hchanged fun s' hput => ?_
    have hstore := put_ok hput
    rw [hd] at hstore
    refine ⟨_, (Except.ok.inj hstore).symm, fun file hfile => ?_⟩
    rcases mem_putContext hfile with hname | hmem
    · exact ⟨key, hkey, hname⟩
    · exact hfiles file hmem
  | clear =>
    refine hchanged fun s' hclear => ?_
    have hstore := clear_ok hclear
    rw [hd] at hstore
    refine ⟨_, (Except.ok.inj hstore).symm, fun file hfile => hfiles file ?_⟩
    cases d with
    | none => exact hfile
    | some d => exact (List.mem_filter.mp hfile).1

theorem Tidy.afterCalls {keys : List String} (h : s.Tidy keys)
    {calls : List (String × StoreCall)} (hkeys : ∀ call ∈ calls, call.1 ∈ keys) :
    (s.afterCalls calls).Tidy keys := by
  induction calls generalizing s with
  | nil => exact h
  | cons first rest ih =>
    exact ih (h.perform (hkeys first List.mem_cons_self) first.2)
      fun call hcall => hkeys call (List.mem_cons_of_mem _ hcall)

end SharedStore

-- ================================================================ refinement

/-- Whatever keys are set, got and cleared, in any order, a store in a directory
that does not exist yet answers each call as one in memory does, if the contexts
come from handshakes or documents and their reals read back. At no time is there
a file in the directory but the entries of these keys, and no draft of any. -/
theorem directory_refines_memory {calls : List (String × StoreCall)}
    (hcalls : ∀ key x, (key, .put x) ∈ calls → x.Obtained ∧ x.RealsReadBack) :
    (SharedStore.ofStore (.directory none)).answers calls
        = (SharedStore.ofStore (.memory .empty)).answers calls ∧
      ∃ d : Option Directory,
        ((SharedStore.ofStore (.directory none)).afterCalls calls).store = .directory d ∧
        ∀ file ∈ (d.getD Directory.empty).files,
          (∃ call ∈ calls, file.1 = Directory.entryName call.1) ∧
            ∀ key, file.1 ≠ Directory.draftName key := by
  have hempty : (SharedStore.ofStore (.directory none)).Refines
      (SharedStore.ofStore (.memory .empty)) := ⟨⟨rfl, rfl⟩, fun _ => .missing⟩
  have hreads : ∀ key x, (key, .put x) ∈ calls → Context.read? x.toJson.pretty = some x := by
    intro key x hx
    obtain ⟨hobtained, hreals⟩ := hcalls key x hx
    exact Context.read?_toJson hobtained.keepable hreals
  have htidy : (SharedStore.ofStore (.directory none)).Tidy (calls.map (·.1)) :=
    ⟨none, rfl, fun _ h => absurd h (by simp [Directory.empty])⟩
  obtain ⟨d, hd, hfiles⟩ := htidy.afterCalls fun call hcall => List.mem_map_of_mem hcall
  refine ⟨hempty.answers_eq hreads, d, hd, fun file hfile => ?_⟩
  obtain ⟨key, hkey, hname⟩ := hfiles file hfile
  obtain ⟨call, hcall, rfl⟩ := List.mem_map.mp hkey
  refine ⟨⟨call, hcall, hname⟩, fun other => ?_⟩
  rw [hname]
  exact Directory.entryName_ne_draftName call.1 other

namespace Sample

/-- A context with an expiry between two seconds, a user, and a catalog with a
real in it. -/
def rated : Context where
  token := "T"
  expires := some ⟨32472144000, 500000000⟩
  user := some (.obj [("name", .str "alice")])
  catalog := .arr [.obj [("type", .str "compute"),
    ("weight", .number (.real ⟨false, 4503599627370496, -53⟩))]]

/-- A context is set, got under its key and under another, and removed. -/
def handling : List (String × StoreCall) :=
  [("a", .put rated), ("a", .get), ("b", .get), ("a", .clear), ("a", .get)]

theorem rated_keepable : rated.Keepable where
  expires expires h := by
    obtain rfl := Option.some.inj h
    exact ⟨by decide, Or.inl (by decide)⟩
  user v h := by
    obtain rfl := Option.some.inj h
    refine ⟨by simp, .obj (List.pairwise_singleton _ _) fun m hm => ?_⟩
    obtain rfl := List.mem_singleton.mp hm
    exact .str _
  catalog := by
    refine .arr fun v hv => ?_
    obtain rfl := List.mem_singleton.mp hv
    refine .obj (by unfold Ascending.Sorted; decide) fun m hm => ?_
    simp only [List.mem_cons, List.not_mem_nil, or_false] at hm
    rcases hm with rfl | rfl
    · exact .str _
    · exact .real _

end Sample

/-- A context is given as it was set, and is gone once it is removed. -/
theorem directory_refines_memory_handling :
    Sample.rated.Obtained ∧ Sample.rated.RealsReadBack ∧
      (SharedStore.ofStore (.directory none)).answers Sample.handling
        = [.ok none, .ok (some Sample.rated), .ok none, .ok none, .ok none] ∧
      ∃ d : Option Directory,
        ((SharedStore.ofStore (.directory none)).afterCalls Sample.handling).store
          = .directory d ∧
        ∀ file ∈ (d.getD Directory.empty).files,
          (∃ call ∈ Sample.handling, file.1 = Directory.entryName call.1) ∧
            ∀ key, file.1 ≠ Directory.draftName key := by
  have hreals : Sample.rated.RealsReadBack := by decide +kernel
  have hobtained : Sample.rated.Obtained := Sample.rated_keepable.obtained hreals
  have hcalls : ∀ key x, (key, .put x) ∈ Sample.handling → x.Obtained ∧ x.RealsReadBack := by
    intro key x hx
    obtain ⟨-, rfl⟩ : key = "a" ∧ x = Sample.rated := by simpa [Sample.handling] using hx
    exact ⟨hobtained, hreals⟩
  obtain ⟨hanswers, hfiles⟩ := directory_refines_memory hcalls
  refine ⟨hobtained, hreals, ?_, hfiles⟩
  rw [hanswers]
  rfl

end CloudSession
