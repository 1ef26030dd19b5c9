/-
What a store holds after it was changed. A key that was set holds the context
that it was set to, as far as a document can tell (`get_put`), a key that was
cleared holds none (`get_clear`), and no change is seen under another key
(`get_put_of_ne`, `get_clear_of_ne`).
-/
import CloudSession.Proofs.Ascending
import CloudSession.Proofs.Context
import CloudSession.Proofs.Success
import CloudSession.Proofs.Text.Utf8
import CloudSession.Store.Basic

namespace CloudSession

-- =================================================================== pairs

theorem lookup_filter_self {α : Type} (key : String) (l : List (String × α)) :
    (l.filter (·.1 != key)).lookup key = none := by
  induction l with
  | nil => rfl
  | cons entry rest ih =>
    rw [List.filter_cons]
    split
    · next hne =>
      have hkey : (key == entry.1) = false :=
        beq_eq_false_iff_ne.mpr fun h => by simp [h] at hne
      rw [List.lookup_cons, hkey, ih]
    · exact ih

theorem lookup_filter_of_ne {α : Type} {key other : String} (h : other ≠ key)
    (l : List (String × α)) : (l.filter (·.1 != key)).lookup other = l.lookup other := by
  induction l with
  | nil => rfl
  | cons entry rest ih =>
    rw [List.filter_cons]
    split
    · rw [List.lookup_cons, List.lookup_cons, ih]
    · next heq =>
      have heq : entry.1 = key := by simpa using heq
      have hkey : (other == entry.1) = false := beq_eq_false_iff_ne.mpr (heq ▸ h)
      rw [List.lookup_cons, hkey, ih]

-- ================================================================== memory

namespace MemoryStore

theorem get?_put_self (m : MemoryStore) (key : String) (x : Context) :
    (m.put key x).get? key = some x := by
  simp [put, get?]

theorem get?_clear_self (m : MemoryStore) (key : String) : (m.clear key).get? key = none :=
  lookup_filter_self key m.entries

theorem get?_clear_of_ne (m : MemoryStore) {key other : String} (h : other ≠ key) :
    (m.clear key).get? other = m.get? other :=
  lookup_filter_of_ne h m.entries

theorem get?_put_of_ne (m : MemoryStore) {key other : String} (h : other ≠ key) (x : Context) :
    (m.put key x).get? other = m.get? other := by
  show List.lookup other ((key, x) :: (m.clear key).entries) = _
  rw [List.lookup_cons]
  simp only [beq_eq_false_iff_ne.mpr h]
  exact m.get?_clear_of_ne h

end MemoryStore

-- =============================================================== directories

namespace Directory

theorem entryName_injective {a b : String} (h : entryName a = entryName b) : a = b := by
  have := congrArg String.toList h
  simp only [entryName, String.toList_append] at this
  exact String.toList_injective (List.append_cancel_right this)

/-- No entry has the name of a draft, as their last letters differ. -/
theorem entryName_ne_draftName (a b : String) : entryName a ≠ draftName b := by
  intro h
  have := congrArg (fun s : String => s.toList.reverse.head?) h
  simp [entryName, draftName, String.toList_append] at this

theorem read?_write_self (d : Directory) (name : String) (bytes : ByteArray) :
    (d.write name bytes).read? name = some bytes :=
  Ascending.lookup_insert_self name bytes d.files

theorem read?_write_of_ne (d : Directory) {name other : String} (h : other ≠ name)
    (bytes : ByteArray) : (d.write name bytes).read? other = d.read? other :=
  Ascending.lookup_insert_of_ne h bytes d.files

theorem read?_remove_self (d : Directory) (name : String) : (d.remove name).read? name = none :=
  lookup_filter_self name d.files

theorem read?_remove_of_ne (d : Directory) {name other : String} (h : other ≠ name) :
    (d.remove name).read? other = d.read? other :=
  lookup_filter_of_ne h d.files

/-- The file of a key that was set holds the document of its context. -/
theorem read?_putContext_self (d : Directory) (key : String) (x : Context) :
    (d.putContext key x).read? (entryName key) = some x.toJson.pretty.toUTF8 := by
  rw [putContext, rename, read?_write_self]
  exact read?_write_self _ _ _

/-- The files of other keys stay as they were. -/
theorem read?_putContext_of_ne (d : Directory) {key other : String} (h : other ≠ key)
    (x : Context) : (d.putContext key x).read? (entryName other) = d.read? (entryName other) := by
  have hdraft := entryName_ne_draftName other key
  rw [putContext, rename, read?_write_self]
  simp only
  rw [read?_write_of_ne _ fun heq => h (entryName_injective heq), read?_remove_of_ne _ hdraft,
    read?_write_of_ne _ hdraft]

theorem getContext_putContext_of_ne (d : Directory) {key other : String} (h : other ≠ key)
    (x : Context) : (d.putContext key x).getContext other = d.getContext other := by
  rw [getContext, getContext, read?_putContext_of_ne d h]

theorem getContext_clearContext_self (d : Directory) (key : String) :
    (d.clearContext key).getContext key = .ok none := by
  rw [getContext, clearContext, read?_remove_self]

theorem getContext_clearContext_of_ne (d : Directory) {key other : String} (h : other ≠ key) :
    (d.clearContext key).getContext other = d.getContext other := by
  rw [getContext, getContext, clearContext,
    read?_remove_of_ne _ fun heq => h (entryName_injective heq)]

/-- Under a key that was set stands what can be read of the context's document. -/
theorem getContext_putContext (d : Directory) (key : String) (x : Context) :
    (d.putContext key x).getContext key = .ok (Context.read? x.toJson.pretty) := by
  rw [getContext, read?_putContext_self]
  simp only [Text.Utf8.text?_toUTF8]

end Directory

-- =================================================================== stores

namespace Store

/-- A store gives under a key that was set the context, or what can be read of its
document. -/
theorem get_put_cases {s s' : Store} {key : String} {x : Context} (hput : s.put key x = .ok s') :
    s'.get key = .ok (some x) ∨ s'.get key = .ok (Context.read? x.toJson.pretty) := by
  cases s with
  | memory m =>
    obtain rfl := Except.ok.inj hput
    exact .inl (congrArg Except.ok (m.get?_put_self key x))
  | directory d =>
    obtain rfl := Except.ok.inj hput
    exact .inr ((d.getD Directory.empty).getContext_putContext key x)
  | blocked fault => exact absurd hput (by simp [put])

/-- What a store gives under a key that was set, if anything, is a copy of
what it was set to. -/
theorem get_put {s s' : Store} {key : String} {x : Context} (hx : x.Storable)
    (hput : s.put key x = .ok s') :
    ∃ found, s'.get key = .ok found ∧ ∀ y, found = some y → x.SameToken y := by
  rcases get_put_cases hput with hget | hget
  · refine ⟨some x, hget, fun y hy => ?_⟩
    obtain rfl := Option.some.inj hy
    exact .refl x
  · exact ⟨_, hget, fun y hy => Context.read?_pretty hx hy⟩

theorem get_put_of_ne {s s' : Store} {key other : String} (h : other ≠ key) {x : Context}
    (hput : s.put key x = .ok s') : s'.get other = s.get other := by
  cases s with
  | memory m =>
    obtain rfl := Except.ok.inj hput
    exact congrArg Except.ok (m.get?_put_of_ne h x)
  | directory d =>
    obtain rfl := Except.ok.inj hput
    cases d with
    | none => exact Directory.getContext_putContext_of_ne Directory.empty h x
    | some d => exact d.getContext_putContext_of_ne h x
  | blocked fault => exact absurd hput (by simp [put])

theorem get_clear {s s' : Store} {key : String} (hclear : s.clear key = .ok s') :
    s'.get key = .ok none := by
  cases s with
  | memory m =>
    obtain rfl := Except.ok.inj hclear
    exact congrArg Except.ok (m.get?_clear_self key)
  | directory d =>
    obtain rfl := Except.ok.inj hclear
    cases d with
    | none => rfl
    | some d => exact d.getContext_clearContext_self key
  | blocked fault => exact absurd hclear (by simp [clear])

theorem get_clear_of_ne {s s' : Store} {key other : String} (h : other ≠ key)
    (hclear : s.clear key = .ok s') : s'.get other = s.get other := by
  cases s with
  | memory m =>
    obtain rfl := Except.ok.inj hclear
    exact congrArg Except.ok (m.get?_clear_of_ne h)
  | directory d =>
    obtain rfl := Except.ok.inj hclear
    cases d with
    | none => rfl
    | some d => exact d.getContext_clearContext_of_ne h
  | blocked fault => exact absurd hclear (by simp [clear])

end Store

-- ============================================================ shared stores

namespace SharedStore

theorem guarded_eq_ok_iff {α : Type} {failure : Option String} {result : Except StoreFault α}
    {a : α} : guarded failure result = .ok a ↔ failure = none ∧ result = .ok a := by
  cases failure <;> simp [guarded]

/-- What a shared store gives is what its store holds. -/
theorem get_ok {s : SharedStore} {key : String} {found : Option Context}
    (h : s.get key = .ok found) : s.store.get key = .ok found :=
  (guarded_eq_ok_iff.mp h).2

theorem put_ok {s s' : SharedStore} {key : String} {x : Context} (h : s.put key x = .ok s') :
    s.store.put key x = .ok s'.store := by
  obtain ⟨store, hstore, rfl⟩ := map_eq_ok (guarded_eq_ok_iff.mp h).2
  exact hstore

/-- A shared store that could be read can be read after it was written. -/
theorem get_put {s s' : SharedStore} {key : String} {x : Context} {found : Option Context}
    (hx : x.Storable) (hget : s.get key = .ok found) (hput : s.put key x = .ok s') :
    ∃ found', s'.get key = .ok found' ∧ ∀ y, found' = some y → x.SameToken y := by
  obtain ⟨store, hstore, rfl⟩ := map_eq_ok (guarded_eq_ok_iff.mp hput).2
  obtain ⟨found', hfound', hcopy⟩ := Store.get_put hx hstore
  exact ⟨found', guarded_eq_ok_iff.mpr ⟨(guarded_eq_ok_iff.mp hget).1, hfound'⟩, hcopy⟩

theorem clear_ok {s s' : SharedStore} {key : String} (h : s.clear key = .ok s') :
    s.store.clear key = .ok s'.store := by
  obtain ⟨store, hstore, rfl⟩ := map_eq_ok (guarded_eq_ok_iff.mp h).2
  exact hstore

end SharedStore
end CloudSession
