/-
Lists of pairs whose keys ascend. What is put into such a list is found under its key and
nothing else is changed (`lookup_insert_self`, `lookup_insert_of_ne`), so a list that was
made of pairs with different keys holds just those (`lookup_ofList`); and the order of one
that is sorted already is kept (`ofList_sorted`).
-/
import CloudSession.Ascending

namespace CloudSession.Ascending

-- ===================================================================== order

/-- Pairs whose keys ascend. -/
def Sorted {α : Type} (l : List (String × α)) : Prop := l.Pairwise (·.1 < ·.1)

theorem mem_insert {α : Type} {key : String} {value : α} {l : List (String × α)}
    {pair : String × α} (h : pair ∈ insert key value l) : pair = (key, value) ∨ pair ∈ l := by
  induction l with
  | nil => exact Or.inl (List.mem_singleton.mp h)
  | cons entry rest ih =>
    rw [insert] at h
    split at h
    · exact List.mem_cons.mp h
    split at h
    · exact (List.mem_cons.mp h).imp_right (List.mem_cons_of_mem _)
    · rcases List.mem_cons.mp h with rfl | h
      · exact Or.inr List.mem_cons_self
      · exact (ih h).imp_right (List.mem_cons_of_mem _)

theorem sorted_insert {α : Type} (key : String) (value : α) {l : List (String × α)}
    (h : Sorted l) : Sorted (insert key value l) := by
  induction l with
  | nil => exact List.pairwise_singleton _ _
  | cons entry rest ih =>
    obtain ⟨hhead, htail⟩ := List.pairwise_cons.mp h
    rw [insert]
    split
    · next hlt =>
      refine List.pairwise_cons.mpr ⟨fun pair hpair => ?_, h⟩
      rcases List.mem_cons.mp hpair with rfl | hpair
      · exact hlt
      · exact String.lt_trans hlt (hhead pair hpair)
    split
    · next heq =>
      subst heq
      exact List.pairwise_cons.mpr ⟨hhead, htail⟩
    · next hnot hne =>
      refine List.pairwise_cons.mpr ⟨fun pair hpair => ?_, ih htail⟩
      rcases mem_insert hpair with rfl | hpair
      · exact Std.lt_of_le_of_ne hnot (Ne.symm hne)
      · exact hhead pair hpair

theorem sorted_foldl {α : Type} (pairs : List (String × α)) {l : List (String × α)}
    (h : Sorted l) : Sorted (pairs.foldl (fun sorted (k, v) => insert k v sorted) l) := by
  induction pairs generalizing l with
  | nil => exact h
  | cons pair rest ih => exact ih (sorted_insert pair.1 pair.2 h)

theorem sorted_ofList {α : Type} (pairs : List (String × α)) : Sorted (ofList pairs) :=
  sorted_foldl pairs List.Pairwise.nil

theorem mem_foldl {α : Type} {pairs l : List (String × α)} {pair : String × α}
    (h : pair ∈ pairs.foldl (fun sorted (k, v) => insert k v sorted) l) :
    pair ∈ pairs ∨ pair ∈ l := by
  induction pairs generalizing l with
  | nil => exact Or.inr h
  | cons first rest ih =>
    rcases ih h with h | h
    · exact Or.inl (List.mem_cons_of_mem _ h)
    · rcases mem_insert h with rfl | h
      · exact Or.inl List.mem_cons_self
      · exact Or.inr h

theorem mem_of_mem_ofList {α : Type} {pairs : List (String × α)} {pair : String × α}
    (h : pair ∈ ofList pairs) : pair ∈ pairs :=
  (mem_foldl h).resolve_right (by simp)

/-- What lies above all keys is put at the end. -/
theorem insert_above {α : Type} {key : String} (value : α) {l : List (String × α)}
    (h : ∀ pair ∈ l, pair.1 < key) : insert key value l = l ++ [(key, value)] := by
  induction l with
  | nil => rfl
  | cons entry rest ih =>
    have hlt := h entry List.mem_cons_self
    have hne : key ≠ entry.1 := fun heq => String.lt_irrefl key (heq ▸ hlt)
    rw [insert, if_neg (String.lt_asymm hlt), if_neg hne,
      ih fun pair hpair => h pair (List.mem_cons_of_mem _ hpair)]
    rfl

theorem foldl_sorted {α : Type} {front l : List (String × α)} (h : Sorted (front ++ l)) :
    l.foldl (fun sorted (k, v) => insert k v sorted) front = front ++ l := by
  induction l generalizing front with
  | nil => exact (List.append_nil front).symm
  | cons pair rest ih =>
    have habove : ∀ p ∈ front, p.1 < pair.1 :=
      fun p hp => (List.pairwise_append.mp h).2.2 p hp pair List.mem_cons_self
    have hinsert := insert_above pair.2 habove
    rw [List.append_cons] at h ⊢
    show rest.foldl _ (insert pair.1 pair.2 front) = _
    rw [hinsert]
    exact ih h

/-- Pairs whose keys ascend are in order already. -/
theorem ofList_sorted {α : Type} {l : List (String × α)} (h : Sorted l) : ofList l = l :=
  foldl_sorted (by rwa [List.nil_append])

-- =================================================================== lookups

theorem lookup_insert_self {α : Type} (key : String) (value : α) (l : List (String × α)) :
    (insert key value l).lookup key = some value := by
  induction l with
  | nil => simp [insert]
  | cons entry rest ih =>
    obtain ⟨k, v⟩ := entry
    rw [insert]
    split
    · simp
    split
    · simp
    · next hne =>
      have hkey : (key == k) = false := beq_eq_false_iff_ne.mpr hne
      rw [List.lookup_cons, hkey, ih]

theorem lookup_insert_of_ne {α : Type} {key other : String} (h : other ≠ key) (value : α)
    (l : List (String × α)) : (insert key value l).lookup other = l.lookup other := by
  have hkey : (other == key) = false := beq_eq_false_iff_ne.mpr h
  induction l with
  | nil => rw [insert, List.lookup_cons, hkey]
  | cons entry rest ih =>
    obtain ⟨k, v⟩ := entry
    rw [insert]
    split
    · rw [List.lookup_cons, hkey]
    split
    · next heq =>
      subst heq
      rw [List.lookup_cons, List.lookup_cons, hkey]
    · rw [List.lookup_cons, List.lookup_cons, ih]

theorem lookup_foldl {α : Type} {pairs : List (String × α)} (h : (pairs.map Prod.fst).Nodup)
    (l : List (String × α)) (key : String) :
    (pairs.foldl (fun sorted (k, v) => insert k v sorted) l).lookup key
      = (pairs.lookup key).or (l.lookup key) := by
  induction pairs generalizing l with
  | nil => rfl
  | cons pair rest ih =>
    obtain ⟨hfresh, hrest⟩ := List.nodup_cons.mp h
    rw [List.foldl_cons, ih hrest, List.lookup_cons]
    by_cases hkey : key = pair.1
    · subst hkey
      have hnone : rest.lookup pair.1 = none := by
        refine List.lookup_eq_none_iff.mpr fun other hother => ?_
        exact bne_iff_ne.mpr fun heq => hfresh (List.mem_map.mpr ⟨other, hother, heq.symm⟩)
      rw [hnone, beq_self_eq_true, lookup_insert_self]
      rfl
    · rw [beq_eq_false_iff_ne.mpr hkey, lookup_insert_of_ne hkey]

/-- Pairs of different keys are all found in the list that is made of them. -/
theorem lookup_ofList {α : Type} {pairs : List (String × α)} (h : (pairs.map Prod.fst).Nodup)
    (key : String) : (ofList pairs).lookup key = pairs.lookup key := by
  rw [ofList, lookup_foldl h, List.lookup_nil, Option.or_none]

/-- In a list whose keys ascend each pair is found under its key. -/
theorem lookup_eq_some_iff {α : Type} {l : List (String × α)} (h : Sorted l) {key : String}
    {value : α} : l.lookup key = some value ↔ (key, value) ∈ l := by
  induction l with
  | nil => simp
  | cons pair rest ih =>
    obtain ⟨hhead, hrest⟩ := List.pairwise_cons.mp h
    rw [List.lookup_cons, List.mem_cons]
    by_cases hkey : key = pair.1
    · subst hkey
      have hnot : (pair.1, value) ∉ rest := fun hmem =>
        String.lt_irrefl pair.1 (hhead (pair.1, value) hmem)
      rw [beq_self_eq_true, or_iff_left hnot, Option.some.injEq]
      exact ⟨fun heq => heq ▸ rfl, fun heq => (congrArg Prod.snd heq).symm⟩
    · have hne : (key, value) ≠ pair := fun heq => hkey (congrArg Prod.fst heq)
      rw [beq_eq_false_iff_ne.mpr hkey, or_iff_right hne]
      exact ih hrest

end CloudSession.Ascending
