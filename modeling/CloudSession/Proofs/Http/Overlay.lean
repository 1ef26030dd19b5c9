/-
Header lists laid over one another. No two names of a list that was made by settings are
equal but for case (`distinct_setAll`), so each of its pairs is found under its name
(`get?_eq_some_iff`); where a name was set several times, that is the last one
(`get?_setAll_last`). What is laid over others is found first, and they are found where it
has nothing (`get?_extend`).
-/
import CloudSession.Proofs.Http.Headers

namespace CloudSession

/-- What is found from behind is what an entry gives behind which none gives anything. -/
theorem findSome?_reverse_eq_some_iff {α β : Type} {f : α → Option β} {xs : List α} {b : β} :
    xs.reverse.findSome? f = some b ↔
      ∃ before x after, xs = before ++ x :: after ∧ f x = some b ∧ ∀ y ∈ after, f y = none := by
  rw [List.findSome?_eq_some_iff]
  simp only [List.reverse_eq_iff, List.reverse_append, List.reverse_cons, List.append_assoc,
    List.singleton_append]
  constructor
  · rintro ⟨after, x, before, hxs, hx, hafter⟩
    exact ⟨_, x, _, hxs, hx, fun y hy => hafter y (List.mem_reverse.mp hy)⟩
  · rintro ⟨before, x, after, hxs, hx, hafter⟩
    exact ⟨after.reverse, x, before.reverse, by simpa using hxs, hx,
      fun y hy => hafter y (List.mem_reverse.mp hy)⟩

namespace Headers

-- ====================================================================== names

theorem sameName_congr {a b : String} (h : sameName a b = true) (name : String) :
    sameName name a = sameName name b := by
  rw [sameName, sameName, sameName_iff.mp h]

/-- A value is found under its name in any case. -/
theorem get?_congr (h : Headers) {a b : String} (hsame : sameName a b = true) :
    h.get? a = h.get? b := by
  simp only [get?, sameName_congr hsame]

/-- No two names are equal but for case. -/
def Distinct (h : Headers) : Prop := h.entries.Pairwise fun a b => sameName a.1 b.1 = false

instance (h : Headers) : Decidable h.Distinct := by
  unfold Distinct
  infer_instance

theorem distinct_set {h : Headers} (hdistinct : h.Distinct) (name value : String) :
    (h.set name value).Distinct := by
  refine List.pairwise_append.mpr ⟨hdistinct.filter _, List.pairwise_singleton _ _, ?_⟩
  intro a ha b hb
  obtain rfl := List.mem_singleton.mp hb
  simpa using (List.mem_filter.mp ha).2

theorem distinct_setAll (pairs : List (String × String)) {h : Headers} (hdistinct : h.Distinct) :
    (h.setAll pairs).Distinct := by
  induction pairs generalizing h with
  | nil => exact hdistinct
  | cons pair rest ih => exact ih (distinct_set hdistinct pair.1 pair.2)

/-- Headers that are made from pairs have different names. -/
theorem distinct_ofList (pairs : List (String × String)) : (ofList pairs).Distinct :=
  distinct_setAll pairs List.Pairwise.nil

theorem distinct_extend {h : Headers} (hdistinct : h.Distinct) (upper : Headers) :
    (h.extend upper).Distinct :=
  distinct_setAll upper.entries hdistinct

-- ==================================================================== lookups

/-- What differs from an entry in its name is not found under a name that the entry has. -/
theorem sameName_of_distinct {entry : String × String} {rest : List (String × String)}
    (hfirst : ∀ other ∈ rest, sameName entry.1 other.1 = false) {name : String}
    (hname : sameName entry.1 name = true) : ∀ other ∈ rest, sameName other.1 name = false := by
  intro other hother
  rw [Bool.eq_false_iff]
  intro hsame
  have hne := hfirst other hother
  rw [sameName_congr hsame, hname] at hne
  exact nomatch hne

/-- What is found is the value of an entry, and each entry is found. -/
theorem get?_eq_some_iff {h : Headers} (hdistinct : h.Distinct) {name value : String} :
    h.get? name = some value ↔
      ∃ entry ∈ h.entries, sameName entry.1 name = true ∧ entry.2 = value := by
  obtain ⟨entries⟩ := h
  change (entries.find? _).map _ = _ ↔ ∃ entry ∈ entries, _
  induction entries with
  | nil => simp
  | cons entry rest ih =>
    obtain ⟨hfirst, hrest⟩ := List.pairwise_cons.mp hdistinct
    simp only [List.mem_cons, exists_eq_or_imp, List.find?_cons]
    cases hname : sameName entry.1 name with
    | true =>
      have hlater : ¬∃ other ∈ rest, sameName other.1 name = true ∧ other.2 = value := by
        rintro ⟨other, hother, hsame, -⟩
        exact nomatch hsame.symm.trans (sameName_of_distinct hfirst hname other hother)
      simp [hlater]
    | false => simpa using ih hrest

theorem get?_set (h : Headers) (name value other : String) :
    (h.set name value).get? other = if sameName name other then some value else h.get? other := by
  cases hsame : sameName name other with
  | true => rw [← get?_congr _ hsame, get?_set_self, if_pos rfl]
  | false => rw [get?_set_of_ne h hsame, if_neg (by simp)]

/-- Of pairs with different names each is found that was set, and what was there before
is found under all other names. -/
theorem get?_setAll {pairs : List (String × String)} (hdistinct : (Headers.mk pairs).Distinct)
    (h : Headers) (name : String) :
    (h.setAll pairs).get? name = ((Headers.mk pairs).get? name).or (h.get? name) := by
  induction pairs generalizing h with
  | nil => rfl
  | cons pair rest ih =>
    obtain ⟨hfirst, hrest⟩ := List.pairwise_cons.mp hdistinct
    rw [setAll_cons, ih hrest, get?_set]
    cases hname : sameName pair.1 name with
    | true =>
      have hlater : (Headers.mk rest).get? name = none := by
        rw [get?, Option.map_eq_none_iff, List.find?_eq_none]
        intro other hother
        simp [sameName_of_distinct hfirst hname other hother]
      rw [hlater]
      simp [get?, hname]
    | false => simp [get?, hname]

/-- After settings the value of a name is that of the last pair of this name, or what it
was before if there is none. -/
theorem get?_setAll_last (h : Headers) (pairs : List (String × String)) (name : String) :
    (h.setAll pairs).get? name = (pairs.reverse.findSome? fun pair =>
      if sameName pair.1 name then some pair.2 else none).or (h.get? name) := by
  induction pairs generalizing h with
  | nil => rfl
  | cons pair rest ih =>
    rw [setAll_cons, ih, get?_set, List.reverse_cons, List.findSome?_append, Option.or_assoc,
      List.findSome?_singleton]
    split <;> rfl

/-- What is laid over others is found first. -/
theorem get?_extend (h : Headers) {upper : Headers} (hdistinct : upper.Distinct) (name : String) :
    (h.extend upper).get? name = (upper.get? name).or (h.get? name) :=
  get?_setAll hdistinct h name

end Headers
end CloudSession
