/-
Cutting what was joined. Pieces that hold no separator are got back from the
text that has one between each two of them (`splitAll_join`). The first cut is
made at the first separator, if there is one (`splitFirst_eq_some_iff`).
-/
import CloudSession.Text.Part

namespace CloudSession.Text

variable {sep : Char}

-- ============================================================== the first cut

theorem splitFirst_of_notMem {cs : List Char} (h : sep ∉ cs) : splitFirst sep cs = none := by
  induction cs with
  | nil => rfl
  | cons c cs ih =>
    rw [List.mem_cons, not_or] at h
    rw [splitFirst, if_neg (by simpa using Ne.symm h.1), ih h.2]
    rfl

theorem splitFirst_append {before : List Char} (h : sep ∉ before) (after : List Char) :
    splitFirst sep (before ++ sep :: after) = some (before, after) := by
  induction before with
  | nil => rw [List.nil_append, splitFirst, if_pos (by simp)]
  | cons c cs ih =>
    rw [List.mem_cons, not_or] at h
    rw [List.cons_append, splitFirst, if_neg (by simpa using Ne.symm h.1), ih h.2]
    rfl

theorem splitFirst_eq_some_iff {cs before after : List Char} :
    splitFirst sep cs = some (before, after) ↔ cs = before ++ sep :: after ∧ sep ∉ before := by
  constructor
  · intro h
    by_cases hmem : sep ∈ cs
    · obtain ⟨as, bs, rfl, has⟩ := List.eq_append_cons_of_mem hmem
      rw [splitFirst_append has] at h
      obtain ⟨rfl, rfl⟩ := Prod.mk.inj (Option.some.inj h)
      exact ⟨rfl, has⟩
    · exact nomatch (splitFirst_of_notMem hmem).symm.trans h
  · rintro ⟨rfl, hbefore⟩
    exact splitFirst_append hbefore after

-- ================================================================ all pieces

theorem splitAll_of_notMem {piece : List Char} (h : sep ∉ piece) :
    splitAll sep piece = [piece] := by
  induction piece with
  | nil => rfl
  | cons c cs ih =>
    have hc : ¬(c == sep) = true := fun hc => h (by simp [beq_iff_eq.mp hc])
    rw [splitAll, if_neg hc, ih fun hcs => h (List.mem_cons_of_mem c hcs)]

/-- The first piece ends at the first separator. -/
theorem splitAll_append {piece : List Char} (h : sep ∉ piece) (rest : List Char) :
    splitAll sep (piece ++ sep :: rest) = piece :: splitAll sep rest := by
  induction piece with
  | nil => rw [List.nil_append, splitAll, if_pos (by simp)]
  | cons c cs ih =>
    have hc : ¬(c == sep) = true := fun hc => h (by simp [beq_iff_eq.mp hc])
    rw [List.cons_append, splitAll, if_neg hc, ih fun hcs => h (List.mem_cons_of_mem c hcs)]

theorem join_cons (between piece : List Char) {rest : List (List Char)} (h : rest ≠ []) :
    join between (piece :: rest) = piece ++ between ++ join between rest := by
  cases rest with
  | nil => exact absurd rfl h
  | cons next rest => rfl

/-- Pieces that were joined are got back. -/
theorem splitAll_join {pieces : List (List Char)} (hne : pieces ≠ [])
    (h : ∀ piece ∈ pieces, sep ∉ piece) : splitAll sep (join [sep] pieces) = pieces := by
  induction pieces with
  | nil => exact absurd rfl hne
  | cons piece rest ih =>
    obtain ⟨hpiece, hrest⟩ := List.forall_mem_cons.mp h
    by_cases hlast : rest = []
    · subst hlast
      exact splitAll_of_notMem hpiece
    · rw [join_cons _ _ hlast, List.append_assoc, List.singleton_append, splitAll_append hpiece,
        ih hlast hrest]

/-- What is true of the separator and of every piece is true of the joined text. -/
theorem forall_mem_join {p : Char → Prop} {between : List Char} (hbetween : ∀ c ∈ between, p c)
    {pieces : List (List Char)} (h : ∀ piece ∈ pieces, ∀ c ∈ piece, p c) :
    ∀ c ∈ join between pieces, p c := by
  induction pieces with
  | nil => exact fun _ hc => nomatch hc
  | cons piece rest ih =>
    obtain ⟨hpiece, hrest⟩ := List.forall_mem_cons.mp h
    by_cases hlast : rest = []
    · subst hlast
      exact hpiece
    · intro c hc
      rw [join_cons _ _ hlast] at hc
      rcases List.mem_append.mp hc with hc | hc
      · rcases List.mem_append.mp hc with hc | hc
        · exact hpiece c hc
        · exact hbetween c hc
      · exact ih hrest c hc

end CloudSession.Text
