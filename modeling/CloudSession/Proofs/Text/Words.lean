/-
The words of a text. A text is made of words that blanks divide from one another, perhaps
with blanks around them (`Worded`); it is so in one way only, and this is the one that is
found (`words_eq_iff`). A word reaches up to the blank or the end that stands behind it
(`words_append`), and every character that is not blank begins one (`exists_word`).
-/
import CloudSession.Text.Blank

namespace CloudSession.Text

-- =================================================================== the words

/-- A word has characters, and none of them is blank. -/
structure IsWord (word : List Char) : Prop where
  ne_nil : word ≠ []
  not_blank : ∀ c ∈ word, isBlank c = false

/-- A word ends before this: it is empty or begins with a blank. -/
def EndsWord (cs : List Char) : Prop := ∀ c ∈ cs.head?, isBlank c = true

/-- A text consists of words: it is empty, it begins with a blank that does not count, or it
begins with the first of the words, which ends before the rest. -/
inductive Worded : List Char → List (List Char) → Prop
  | nil : Worded [] []
  | blank {c : Char} {cs : List Char} {ws : List (List Char)} :
      isBlank c = true → Worded cs ws → Worded (c :: cs) ws
  | word {word cs : List Char} {ws : List (List Char)} :
      IsWord word → EndsWord cs → Worded cs ws → Worded (word ++ cs) (word :: ws)

variable {c : Char} {cs word : List Char} {ws : List (List Char)}

theorem isWord_singleton (hc : isBlank c = false) : IsWord [c] :=
  ⟨List.cons_ne_nil _ _, fun _ hmem => List.mem_singleton.mp hmem ▸ hc⟩

theorem IsWord.cons (hword : IsWord word) (hc : isBlank c = false) : IsWord (c :: word) :=
  ⟨List.cons_ne_nil _ _, List.forall_mem_cons.mpr ⟨hc, hword.not_blank⟩⟩

theorem endsWord_nil : EndsWord [] := nofun

theorem endsWord_cons (hc : isBlank c = true) (cs : List Char) : EndsWord (c :: cs) :=
  fun _ hmem => Option.some.inj hmem ▸ hc

theorem Worded.isWord (h : Worded cs ws) : ∀ word ∈ ws, IsWord word := by
  induction h with
  | nil => exact nofun
  | blank _ _ ih => exact ih
  | word hword _ _ ih => exact List.forall_mem_cons.mpr ⟨hword, ih⟩

/-- What is not blank begins a word. -/
theorem exists_word (hc : isBlank c = false) (cs : List Char) :
    ∃ word rest, c :: cs = word ++ rest ∧ IsWord word ∧ EndsWord rest := by
  induction cs generalizing c with
  | nil => exact ⟨[c], [], rfl, isWord_singleton hc, endsWord_nil⟩
  | cons d cs ih =>
    cases hd : isBlank d with
    | true => exact ⟨[c], d :: cs, rfl, isWord_singleton hc, endsWord_cons hd cs⟩
    | false =>
      obtain ⟨word, rest, hsplit, hword, hrest⟩ := ih hd
      exact ⟨c :: word, rest, congrArg (c :: ·) hsplit, hword.cons hc, hrest⟩

-- ============================================================== how they are found

theorem words_blank (hc : isBlank c = true) (cs : List Char) : words (c :: cs) = words cs := by
  rw [words.eq_def]
  simp only [hc, if_true]

/-- A character that is not blank is a word by itself, or it belongs to the one that the next
character begins. -/
theorem words_letter (hc : isBlank c = false) (cs : List Char) :
    words (c :: cs) = match cs, words cs with
      | d :: _, word :: ws => if isBlank d then [c] :: word :: ws else (c :: word) :: ws
      | _, ws => [c] :: ws := by
  rw [words.eq_def]
  exact if_neg (ne_true_of_eq_false hc)

/-- The first word is found up to its end. -/
theorem words_append (hword : IsWord word) (hcs : EndsWord cs) :
    words (word ++ cs) = word :: words cs := by
  obtain ⟨hne, hall⟩ := hword
  induction word with
  | nil => exact absurd rfl hne
  | cons c rest ih =>
    obtain ⟨hc, hrest⟩ := List.forall_mem_cons.mp hall
    cases rest with
    | nil =>
      rw [List.singleton_append, words_letter hc]
      cases cs with
      | nil => rfl
      | cons d cs =>
        have hd : isBlank d = true := hcs d rfl
        cases words (d :: cs) with
        | nil => rfl
        | cons next later => exact if_pos hd
    | cons d rest =>
      have hd : ¬isBlank d = true := by simp [hrest d List.mem_cons_self]
      rw [List.cons_append, words_letter hc, ih (List.cons_ne_nil _ _) hrest]
      exact if_neg hd

/-- A text consists of the words that are found. -/
theorem worded_words (cs : List Char) : Worded cs (words cs) := by
  cases cs with
  | nil => exact .nil
  | cons c cs =>
    cases hc : isBlank c with
    | true =>
      rw [words_blank hc]
      exact .blank hc (worded_words cs)
    | false =>
      obtain ⟨word, rest, hsplit, hword, hrest⟩ := exists_word hc cs
      have hlength : rest.length ≤ cs.length := by
        have hpos : 0 < word.length := List.length_pos_iff.mpr hword.ne_nil
        have htotal := congrArg List.length hsplit
        rw [List.length_cons, List.length_append] at htotal
        omega
      rw [hsplit, words_append hword hrest]
      exact .word hword hrest (worded_words rest)
termination_by cs.length

theorem words_eq_iff : words cs = ws ↔ Worded cs ws := by
  constructor
  · rintro rfl
    exact worded_words cs
  · intro h
    induction h with
    | nil => rfl
    | blank hc _ ih => rw [words_blank hc, ih]
    | word hword hcs _ ih => rw [words_append hword hcs, ih]

end CloudSession.Text
