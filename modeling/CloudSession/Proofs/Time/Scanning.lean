/-
Reading the parts of a written instant: each scan takes the digits that the
writer made and leaves what follows them.
-/
import CloudSession.Time.Reading
import CloudSession.Proofs.Text.Digits

namespace CloudSession.Instant

open Text

-- ==================================================================== padded

theorem allDigits_padded (width n : Nat) : AllDigits (padded width n) :=
  (allDigits_replicate_zero _).append (allDigits_toDigits n)

theorem length_padded {width n : Nat} (hwidth : 0 < width) (h : n < 10 ^ width) :
    (padded width n).length = width := by
  have := (Nat.length_toDigits_le_iff (by decide) hwidth).mpr h
  simp only [padded, List.length_append, List.length_replicate]
  omega

theorem le_length_padded (width n : Nat) : width ≤ (padded width n).length := by
  simp only [padded, List.length_append, List.length_replicate]
  omega

/-- The padding does not change the number. -/
theorem value_padded (width n : Nat) : Nat.ofDigitChars 10 (padded width n) 0 = n := by
  rw [padded, Nat.ofDigitChars_append, Nat.ofDigitChars_replicate_zero, Nat.mul_zero,
    Nat.ofDigitChars_ten_toDigits]

theorem padded_head (width n : Nat) :
    ∃ c cs, padded width n = c :: cs ∧ c.isDigit = true := by
  cases hcs : padded width n with
  | nil =>
    have hpos : 0 < (Nat.toDigits 10 n).length := Nat.length_toDigits_pos
    rw [padded, List.append_eq_nil_iff] at hcs
    rw [hcs.2] at hpos
    exact absurd hpos (by decide)
  | cons c cs => exact ⟨c, cs, rfl, allDigits_padded width n c (by rw [hcs]; simp)⟩

-- =================================================================== numbers

/-- Digits are taken whole, if there are not too few or too many of them,
and no digit follows that might be taken as well. -/
theorem scanNumber_digits {least most : Nat} {ds rest : List Char} (hd : AllDigits ds)
    (hleast : least ≤ ds.length) (hmost : ds.length ≤ most)
    (hrest : ds.length = most ∨ EndsDigits rest) :
    scanNumber least most (ds ++ rest) = .ok (Nat.ofDigitChars 10 ds 0, rest) := by
  have hdigits : ((ds ++ rest).take most).takeWhile Char.isDigit = ds := by
    rw [List.take_append, List.take_of_length_le hmost, hd.takeWhile_append]
    rcases hrest with h | h
    · rw [h, Nat.sub_self, List.take_zero, List.takeWhile_nil, List.append_nil]
    · rw [h.takeWhile, List.append_nil]
  simp only [scanNumber, hdigits]
  rw [if_neg (by rw [List.length_append]; omega), if_neg (by omega), List.drop_left,
    Nat.ofDigitChars_eq_foldl]
  rfl

/-- A padded number of the greatest width is read back. -/
theorem scanNumber_padded {least most n : Nat} (hpos : 0 < most) (hleast : least ≤ most)
    (h : n < 10 ^ most) (rest : List Char) :
    scanNumber least most (padded most n ++ rest) = .ok (n, rest) := by
  have hlength := length_padded hpos h
  rw [scanNumber_digits (allDigits_padded _ _) (by omega) (by omega) (Or.inl hlength),
    value_padded]

/-- A field of two digits is read back if it is in range. -/
theorem scanField_padded {least low high n : Nat} (hleast : least ≤ 2) (hlow : low ≤ n)
    (hhigh : n ≤ high) (h : n < 100) (rest : List Char) :
    scanField least 2 low high (padded 2 n ++ rest) = .ok (n, rest) := by
  simp [scanField, scanNumber_padded (by decide) hleast h, hlow, hhigh]

theorem scanChar_cons (c : Char) (rest : List Char) : scanChar c (c :: rest) = .ok rest := by
  simp [scanChar]

-- ==================================================================== blanks

theorem not_isBlank_of_isDigit {c : Char} (h : c.isDigit = true) : Text.isBlank c = false := by
  simp only [Char.isDigit, Bool.and_eq_true, decide_eq_true_eq] at h
  have hlow : 48 ≤ c.toNat := h.1
  have hhigh : c.toNat ≤ 57 := h.2
  simp only [Text.isBlank, Bool.or_eq_false_iff, Bool.and_eq_false_iff, decide_eq_false_iff_not,
    beq_eq_false_iff_ne]
  omega

/-- No blank stands in front of a padded number. -/
theorem afterBlanks_padded (width n : Nat) (rest : List Char) :
    afterBlanks (padded width n ++ rest) = padded width n ++ rest := by
  obtain ⟨c, cs, hcs, hc⟩ := padded_head width n
  rw [hcs, afterBlanks, List.cons_append,
    List.dropWhile_cons_of_neg (by simp [not_isBlank_of_isDigit hc])]

theorem afterBlanks_cons {c : Char} (h : Text.isBlank c = false) (rest : List Char) :
    afterBlanks (c :: rest) = c :: rest := by
  rw [afterBlanks, List.dropWhile_cons_of_neg (by simp [h])]

-- ===================================================================== years

/-- A year is read back, if what follows it is no digit. -/
theorem scanYear_yearText {year : Int} (hlow : -2147483648 ≤ year) (hhigh : year ≤ 2147483647)
    {rest : List Char} (hrest : EndsDigits rest) :
    scanYear (yearText year ++ rest) = .ok (year, rest) := by
  unfold yearText
  split
  · next hplain =>
    simp only [Bool.and_eq_true, decide_eq_true_eq] at hplain
    have hread : scanNumber 1 4 (padded 4 year.toNat ++ rest) = .ok (year.toNat, rest) :=
      scanNumber_padded (by decide) (by decide) (by omega) rest
    obtain ⟨c, cs, hcs, hc⟩ := padded_head 4 year.toNat
    have hne : ∀ b : Char, b.isDigit = false → c ≠ b := by
      intro b hb heq
      subst heq
      exact absurd hc (by simp [hb])
    rw [hcs] at hread ⊢
    rw [scanYear]
    · rw [hread]
      show Except.ok ((year.toNat : Int), rest) = _
      rw [Int.toNat_of_nonneg hplain.1]
    -- The patterns in front of this one begin with a sign.
    all_goals simp [hne '-' (by decide), hne '+' (by decide)]
  · next hsigned =>
    simp only [Bool.and_eq_true, decide_eq_true_eq, Classical.not_and_iff_not_or_not,
      Int.not_le] at hsigned
    have hdigits := allDigits_padded 4 year.natAbs
    have hlength := le_length_padded 4 year.natAbs
    have hread : scanNumber 1 (padded 4 year.natAbs ++ rest).length
        (padded 4 year.natAbs ++ rest) = .ok (year.natAbs, rest) := by
      rw [scanNumber_digits hdigits (by omega) (by rw [List.length_append]; omega)
        (Or.inr hrest), value_padded]
    obtain ⟨c, cs, hcs, -⟩ := padded_head 4 year.natAbs
    rw [hcs, List.cons_append] at hread
    rw [hcs]
    split
    · next hneg =>
      rw [List.cons_append, List.cons_append, scanYear]
      · show ((scanNumber 1 _ (c :: (cs ++ rest))).bind _) = _
        rw [hread]
        show (if year.natAbs ≤ 2147483648 then _ else _) = _
        rw [if_pos (by omega)]
        show Except.ok (-1 * (year.natAbs : Int), rest) = _
        rw [show -1 * (year.natAbs : Int) = year by omega]
      · simp
    · next hpos =>
      rw [List.cons_append, List.cons_append, scanYear]
      · show ((scanNumber 1 _ (c :: (cs ++ rest))).bind _) = _
        rw [hread]
        show (if year.natAbs ≤ 2147483647 then _ else _) = _
        rw [if_pos (by omega)]
        show Except.ok (1 * (year.natAbs : Int), rest) = _
        rw [show 1 * (year.natAbs : Int) = year by omega]
      · simp

/-- No blank stands in front of a year. -/
theorem afterBlanks_yearText (year : Int) (rest : List Char) :
    afterBlanks (yearText year ++ rest) = yearText year ++ rest := by
  unfold yearText
  split
  · exact afterBlanks_padded 4 _ rest
  · rw [List.cons_append]
    split <;> exact afterBlanks_cons (by decide) _

-- ================================================================= fractions

/-- The first digits of a number denote it without its last ones. -/
theorem value_take (ds : List Char) (k : Nat) :
    Nat.ofDigitChars 10 ds 0
      = Nat.ofDigitChars 10 (ds.take k) 0 * 10 ^ (ds.drop k).length
        + Nat.ofDigitChars 10 (ds.drop k) 0 := by
  conv => lhs; rw [← List.take_append_drop k ds, Nat.ofDigitChars_append,
    Nat.ofDigitChars_eq_ofDigitChars_zero]
  rw [Nat.mul_comm]

/-- A fraction is read back from as many digits as write it. -/
theorem scanFraction_fractionText {places nanos : Nat} (hplaces : places ≤ 9)
    (hnanos : nanos < nanosPerSecond) (hwritten : nanos % 10 ^ (9 - places) = 0)
    {rest : List Char} (hrest : EndsDigits rest) (hpoint : ∀ r, rest ≠ '.' :: r) :
    scanFraction (fractionText places nanos ++ rest) = .ok (nanos, rest) := by
  have hlength : (padded 9 nanos).length = 9 := length_padded (by decide) hnanos
  unfold fractionText
  split
  · next hzero =>
    obtain rfl : places = 0 := by simpa using hzero
    rw [show nanos = 0 by simp only [nanosPerSecond] at hnanos; omega, List.nil_append,
      scanFraction]
    exact hpoint
  · next hpos =>
    have hpos : 0 < places := Nat.pos_of_ne_zero (by simpa using hpos)
    have hdigits : AllDigits ((padded 9 nanos).take places) :=
      (allDigits_padded 9 nanos).sublist (List.take_sublist _ _)
    have htake : ((padded 9 nanos).take places).length = places := by
      rw [List.length_take]
      omega
    have hvalue := value_take (padded 9 nanos) places
    have hrestLt := ((allDigits_padded 9 nanos).sublist
      (List.drop_sublist places (padded 9 nanos))).value_lt
    rw [value_padded, List.length_drop, hlength] at hvalue
    rw [List.length_drop, hlength] at hrestLt
    have hback : Nat.ofDigitChars 10 ((padded 9 nanos).take places) 0 * 10 ^ (9 - places)
        = nanos := by
      have hmod := congrArg (· % 10 ^ (9 - places)) hvalue
      simp only [Nat.mul_add_mod_of_lt hrestLt] at hmod
      omega
    rw [List.cons_append, scanFraction,
      scanNumber_digits hdigits (by omega) (by omega) (Or.inr hrest)]
    simp only
    rw [hrest.dropWhile, List.length_append, htake, Nat.add_sub_cancel]
    exact congrArg (fun n => Except.ok (n, rest)) hback

end CloudSession.Instant
