/-
The calendar and its day numbers. Every day number has a date that exists
(`isValid_ofDay`), and the date has that day number (`toDay_ofDay`), so a
date says which day it was made from.
-/
import CloudSession.Time.Calendar
import Mathlib.Algebra.Ring.Nat

namespace CloudSession.Date

-- ===================================================================== years

/-- A year has 365 days, or 366 if it is a leap year. -/
theorem daysBeforeYear_succ (year : Int) :
    daysBeforeYear (year + 1)
      = daysBeforeYear year + if isLeap year then 366 else 365 := by
  simp only [daysBeforeYear, isLeap, Bool.and_eq_true, Bool.or_eq_true, beq_iff_eq, bne_iff_ne]
  split <;> omega

/-- The year of a day begins no later than that day, and the next one later.
The two corrections of the estimate are enough, as the years before an
estimate differ from their mean by less than one year. -/
theorem yearOfDay_spec (day : Int) :
    daysBeforeYear (yearOfDay day) ≤ day ∧ day < daysBeforeYear (yearOfDay day + 1) := by
  simp only [yearOfDay]
  split
  · simp only [daysBeforeYear] at *
    omega
  · split
    · simp only [daysBeforeYear] at *
      omega
    · omega

/-- Years begin in their order. -/
theorem daysBeforeYear_mono {a b : Int} (h : a ≤ b) : daysBeforeYear a ≤ daysBeforeYear b := by
  simp only [daysBeforeYear]
  omega

theorem yearOfDay_bounds {low high day : Int} (hlow : daysBeforeYear low ≤ day)
    (hhigh : day < daysBeforeYear (high + 1)) :
    low ≤ yearOfDay day ∧ yearOfDay day ≤ high := by
  obtain ⟨hstart, hend⟩ := yearOfDay_spec day
  constructor
  · apply Int.not_lt.mp
    intro h
    have := daysBeforeYear_mono (show yearOfDay day + 1 ≤ low by omega)
    omega
  · apply Int.not_lt.mp
    intro h
    have := daysBeforeYear_mono (show high + 1 ≤ yearOfDay day by omega)
    omega

-- ==================================================================== months

/-- A day within the given months lies in one of them, as many days behind
its start as the months before it leave over. -/
theorem monthAndDay_spec (month : Nat) (lengths : List Nat) {days : Nat}
    (h : days < lengths.sum) :
    ∃ k length day, monthAndDay month lengths days = (month + k, day) ∧
      lengths[k]? = some length ∧ 1 ≤ day ∧ day ≤ length ∧
      (lengths.take k).sum + day = days + 1 := by
  induction lengths generalizing month days with
  | nil => simp at h
  | cons length rest ih =>
    rw [monthAndDay]
    split
    · exact ⟨0, length, days + 1, rfl, rfl, by omega, by omega, by simp⟩
    · rw [List.sum_cons] at h
      obtain ⟨k, l, day, heq, hk, hlow, hhigh, hsum⟩ :=
        ih (month + 1) (show days - length < rest.sum by omega)
      refine ⟨k + 1, l, day, ?_, hk, hlow, hhigh, ?_⟩
      · rw [heq, Nat.add_assoc, Nat.add_comm 1 k]
      · rw [List.take_succ_cons, List.sum_cons]
        omega

theorem sum_monthLengths (leap : Bool) :
    (monthLengths leap).sum = if leap then 366 else 365 := by
  cases leap <;> rfl

theorem daysBeforeMonth_eq_sum (leap : Bool) (month : Nat) :
    daysBeforeMonth leap month = ((monthLengths leap).take (month - 1)).sum := by
  rw [daysBeforeMonth, List.sum_eq_foldl_nat]

-- ===================================================================== dates

/-- The date of a day: its year, and the month and the day in it. -/
theorem ofDay_spec (day : Int) :
    ∃ k length inMonth, ofDay day = ⟨yearOfDay day, 1 + k, inMonth⟩ ∧
      (monthLengths (isLeap (yearOfDay day)))[k]? = some length ∧
      1 ≤ inMonth ∧ inMonth ≤ length ∧
      (((monthLengths (isLeap (yearOfDay day))).take k).sum : Int) + inMonth
        = day - daysBeforeYear (yearOfDay day) + 1 := by
  obtain ⟨hstart, hend⟩ := yearOfDay_spec day
  have hlength := daysBeforeYear_succ (yearOfDay day)
  have hdays : (day - daysBeforeYear (yearOfDay day)).toNat
      < (monthLengths (isLeap (yearOfDay day))).sum := by
    rw [sum_monthLengths]
    split at hlength <;> simp only [*, if_true] <;> simp <;> omega
  obtain ⟨k, length, inMonth, heq, hk, hlow, hhigh, hsum⟩ := monthAndDay_spec 1 _ hdays
  refine ⟨k, length, inMonth, ?_, hk, hlow, hhigh, by omega⟩
  rw [ofDay, heq]

/-- The date of a day exists. -/
theorem isValid_ofDay (day : Int) : (ofDay day).isValid = true := by
  obtain ⟨k, length, inMonth, heq, hk, hlow, hhigh, -⟩ := ofDay_spec day
  rw [heq, isValid, show 1 + k - 1 = k by omega, hk]
  simp [hlow, hhigh]

/-- The date of a day has that day number. -/
theorem toDay_ofDay (day : Int) : (ofDay day).toDay = day := by
  obtain ⟨k, length, inMonth, heq, -, -, -, hsum⟩ := ofDay_spec day
  rw [heq, toDay, daysBeforeMonth_eq_sum, show 1 + k - 1 = k by omega]
  dsimp only
  omega

/-- A date that exists has two-digit parts. -/
theorem ofDay_parts (day : Int) :
    1 ≤ (ofDay day).month ∧ (ofDay day).month ≤ 12 ∧
      1 ≤ (ofDay day).day ∧ (ofDay day).day ≤ 31 := by
  obtain ⟨k, length, inMonth, heq, hk, hlow, hhigh, -⟩ := ofDay_spec day
  have hlengths : ∀ leap, (monthLengths leap).length = 12 ∧ ∀ l ∈ monthLengths leap, l ≤ 31 := by
    decide
  obtain ⟨htwelve, hmost⟩ := hlengths (isLeap (yearOfDay day))
  have hk12 : k < 12 := by
    rw [← htwelve]
    exact (List.getElem?_eq_some_iff.mp hk).1
  have hmem := hmost length (List.mem_of_getElem? hk)
  rw [heq]
  exact ⟨by simp, by simp; omega, hlow, by simp; omega⟩

end CloudSession.Date
