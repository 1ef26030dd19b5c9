/-
Lists that hold what stands at positions. Each position where something stands has its
place in such a list, once and in the order of the positions (`Enumerates`); so lists that
are put one behind the other hold what stands in each of them, in the order of the lists
first (`Enumerates.flatMap`).
-/
import Mathlib.Data.List.Forall2

namespace CloudSession

variable {ι α β : Type} {before : ι → ι → Prop}

/-- A list holds what stands at the positions where something stands, position by
position in their order. -/
def Enumerates (before : ι → ι → Prop) (stands : ι → α → Prop) (xs : List α) : Prop :=
  ∃ positions : List ι, positions.Pairwise before ∧
    (∀ i, i ∈ positions ↔ ∃ x, stands i x) ∧ List.Forall₂ stands positions xs

theorem Enumerates.congr {stands stands' : ι → α → Prop} {xs : List α}
    (h : Enumerates before stands xs) (hsame : ∀ i x, stands i x ↔ stands' i x) :
    Enumerates before stands' xs := by
  have heq : stands = stands' := by
    funext i x
    exact propext (hsame i x)
  exact heq ▸ h

theorem enumerates_singleton (i : ι) (x : α) :
    Enumerates before (fun j y => j = i ∧ y = x) [x] :=
  ⟨[i], List.pairwise_singleton _ _, by simp, .cons ⟨rfl, rfl⟩ .nil⟩

/-- What is found at positions that are looked at in their order. -/
theorem enumerates_filterMap {positions : List ι} (hsorted : positions.Pairwise before)
    {found : ι → Option α} (hall : ∀ i x, found i = some x → i ∈ positions) :
    Enumerates before (fun i x => found i = some x) (positions.filterMap found) := by
  refine ⟨positions.filter fun i => (found i).isSome, hsorted.filter _, fun i => ?_, ?_⟩
  · rw [List.mem_filter, Option.isSome_iff_exists]
    constructor
    · exact fun h => h.2
    · intro h
      obtain ⟨x, hx⟩ := h
      exact ⟨hall i x hx, x, hx⟩
  · clear hsorted hall
    induction positions with
    | nil => exact .nil
    | cons i rest ih =>
      cases hi : found i with
      | none => simpa [hi] using ih
      | some x => simpa [hi] using ih

/-- Lists that are put one behind the other: what is in an earlier one goes before. -/
theorem Enumerates.flatMap {stands : α → ι → β → Prop} {f : α → List β} {xs : List α}
    (h : ∀ x ∈ xs, Enumerates before (stands x) (f x)) :
    Enumerates (Prod.Lex (· < ·) before)
      (fun (i : Nat × ι) y => ∃ x, xs[i.1]? = some x ∧ stands x i.2 y) (xs.flatMap f) := by
  induction xs with
  | nil => exact ⟨[], .nil, by simp, .nil⟩
  | cons x xs ih =>
    obtain ⟨hx, hxs⟩ := List.forall_mem_cons.mp h
    obtain ⟨front, hfront, hmem, hstands⟩ := hx
    obtain ⟨back, hback, hmem', hstands'⟩ := ih hxs
    refine ⟨front.map (0, ·) ++ back.map fun i => (i.1 + 1, i.2), ?_, fun i => ?_, ?_⟩
    · refine List.pairwise_append.mpr ⟨?_, ?_, ?_⟩
      · exact List.pairwise_map.mpr (hfront.imp fun hlt => .right 0 hlt)
      · refine List.pairwise_map.mpr (hback.imp fun {i j} hlt => ?_)
        cases hlt with
        | left _ _ hlt => exact .left _ _ (Nat.succ_lt_succ hlt)
        | right _ hlt => exact .right _ hlt
      · intro i hi j hj
        obtain ⟨_, -, rfl⟩ := List.mem_map.mp hi
        obtain ⟨_, -, rfl⟩ := List.mem_map.mp hj
        exact .left _ _ (Nat.succ_pos _)
    · obtain ⟨n, i⟩ := i
      cases n with
      | zero => simp [hmem]
      | succ n => simpa using hmem' (n, i)
    · rw [List.flatMap_cons]
      refine List.rel_append ?_ ?_
      · exact List.forall₂_map_left_iff.mpr (hstands.imp fun _ _ hy => ⟨x, rfl, hy⟩)
      · exact List.forall₂_map_left_iff.mpr hstands'

/-- What the order of the positions says about the entries at them. -/
theorem Enumerates.pairwise {stands : ι → α → Prop} {xs : List α} {r : α → α → Prop}
    (h : Enumerates before stands xs)
    (hr : ∀ i j x y, before i j → stands i x → stands j y → r x y) : xs.Pairwise r := by
  obtain ⟨positions, hsorted, -, hall⟩ := h
  induction hall with
  | nil => exact .nil
  | @cons i x positions xs hi hrest ih =>
    obtain ⟨hfirst, hsorted⟩ := List.pairwise_cons.mp hsorted
    refine List.pairwise_cons.mpr ⟨fun y hy => ?_, ih hsorted⟩
    obtain ⟨n, hn, rfl⟩ := List.getElem_of_mem hy
    have hj := List.forall₂_iff_get.mp hrest
    have hlen : n < positions.length := hj.1 ▸ hn
    exact hr i _ x _ (hfirst _ (List.getElem_mem hlen)) hi (hj.2 n hlen hn)

end CloudSession
