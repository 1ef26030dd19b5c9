/-
Texts of decimal digits: what the digits of a number look like, and the
number that they denote.
-/
import Mathlib.Algebra.Ring.Nat

namespace CloudSession.Text

/-- Characters that are all decimal digits. -/
def AllDigits (cs : List Char) : Prop := ∀ c ∈ cs, c.isDigit = true

theorem allDigits_toDigits (n : Nat) : AllDigits (Nat.toDigits 10 n) :=
  fun _ hc => Nat.isDigit_of_mem_toDigits (by decide) (by decide) hc

theorem allDigits_replicate_zero (n : Nat) : AllDigits (List.replicate n '0') := by
  intro c hc
  rw [List.eq_of_mem_replicate hc]
  decide

theorem AllDigits.append {as bs : List Char} (ha : AllDigits as) (hb : AllDigits bs) :
    AllDigits (as ++ bs) := by
  intro c hc
  cases List.mem_append.mp hc with
  | inl h => exact ha c h
  | inr h => exact hb c h

theorem AllDigits.sublist {as bs : List Char} (hb : AllDigits bs) (h : as.Sublist bs) :
    AllDigits as :=
  fun c hc => hb c (h.subset hc)

/-- A text that does not go on with a digit. -/
def EndsDigits (rest : List Char) : Prop := ∀ c r, rest = c :: r → c.isDigit = false

theorem endsDigits_cons {c : Char} (h : c.isDigit = false) (r : List Char) :
    EndsDigits (c :: r) := by
  intro d s heq
  obtain ⟨rfl, -⟩ := List.cons.inj heq
  exact h

theorem EndsDigits.takeWhile {rest : List Char} (h : EndsDigits rest) (n : Nat) :
    (rest.take n).takeWhile Char.isDigit = [] := by
  cases n with
  | zero => rfl
  | succ n =>
    cases rest with
    | nil => rfl
    | cons c r => simp [h c r rfl]

theorem EndsDigits.dropWhile {rest : List Char} (h : EndsDigits rest) :
    rest.dropWhile Char.isDigit = rest := by
  cases rest with
  | nil => rfl
  | cons c r => simp [h c r rfl]

/-- The digits of a text are those in front of what ends them. -/
theorem AllDigits.takeWhile_append {ds : List Char} (hd : AllDigits ds) (rest : List Char) :
    (ds ++ rest).takeWhile Char.isDigit = ds ++ rest.takeWhile Char.isDigit :=
  List.takeWhile_append_of_pos hd

/-- Digits denote less than the power of ten of their number. -/
theorem AllDigits.value_lt {ds : List Char} (hd : AllDigits ds) :
    Nat.ofDigitChars 10 ds 0 < 10 ^ ds.length := by
  induction ds with
  | nil => simp
  | cons c cs ih =>
    have hc : c.toNat - 48 < 10 := by
      have := hd c (by simp)
      simp only [Char.isDigit, Bool.and_eq_true, decide_eq_true_eq] at this
      have hhigh : c.toNat ≤ 57 := this.2
      omega
    have ih := ih fun x hx => hd x (by simp [hx])
    rw [Nat.ofDigitChars_cons, Nat.ofDigitChars_eq_ofDigitChars_zero, List.length_cons,
      Nat.pow_succ]
    have hmul : 10 ^ cs.length * (c.toNat - 48) ≤ 10 ^ cs.length * 9 :=
      Nat.mul_le_mul_left _ (by omega)
    simp only [Nat.mul_zero, Nat.zero_add]
    show 10 ^ cs.length * (c.toNat - 48) + _ < _
    omega

end CloudSession.Text
