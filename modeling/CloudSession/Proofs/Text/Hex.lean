/-
Texts of hexadecimal digits. Every digit is read as the value that it was
written for, so the bytes of a text can be read back (`decode?_encode`), and
whoever adds up the digits of a number comes to that number (`foldl_ofNat`).
-/
import CloudSession.Text.Hex
import Mathlib.Algebra.Ring.Nat

namespace CloudSession.Text.Hex

-- ==================================================================== digits

/-- A digit is read as the value it was written for. -/
theorem value?_digit {n : Nat} (h : n < 16) : value? (digit n) = some n := by
  have hall : ∀ k : Fin 16, value? (digit k.val) = some k.val := by decide
  exact hall ⟨n, h⟩

-- ===================================================================== bytes

theorem decode?_ofByte (b : UInt8) (rest : List Char) :
    decode? (ofByte b ++ rest) = (decode? rest).map (b :: ·) := by
  have hhigh : b.toNat / 16 < 16 := by have := b.toNat_lt; omega
  have hlow : b.toNat % 16 < 16 := Nat.mod_lt _ (by decide)
  have hbyte : (16 * (b.toNat / 16) + b.toNat % 16).toUInt8 = b := by
    rw [Nat.div_add_mod]
    simp
  simp only [ofByte, List.cons_append, List.nil_append, decode?, value?_digit hhigh,
    value?_digit hlow]
  cases decode? rest with
  | none => rfl
  | some bytes => simp only [hbyte, Option.map_some]

/-- The digits of a byte sequence are read back as it. -/
theorem decode?_encode (bytes : List UInt8) : decode? (encode bytes).toList = some bytes := by
  rw [encode, String.toList_ofList]
  induction bytes with
  | nil => rfl
  | cons b bytes ih => rw [List.flatMap_cons, decode?_ofByte, ih, Option.map_some]

theorem encode_injective {bytes bytes' : List UInt8} (h : encode bytes = encode bytes') :
    bytes = bytes' := by
  have hread : decode? (encode bytes).toList = decode? (encode bytes').toList := by rw [h]
  rw [decode?_encode, decode?_encode] at hread
  exact Option.some.inj hread

/-- A digit in hexadecimal is no NUL. -/
theorem nul_notMem_encode (bytes : List UInt8) : '\x00' ∉ (encode bytes).toList := by
  have hdigit : ∀ k : Fin 16, digit k.val ≠ '\x00' := by decide
  intro hmem
  rw [encode, String.toList_ofList, List.mem_flatMap] at hmem
  obtain ⟨b, -, hb⟩ := hmem
  have hhigh : b.toNat / 16 < 16 := by have := b.toNat_lt; omega
  have hlow : b.toNat % 16 < 16 := Nat.mod_lt _ (by decide)
  rw [ofByte, List.mem_cons, List.mem_singleton] at hb
  rcases hb with h | h
  · exact hdigit ⟨_, hhigh⟩ h.symm
  · exact hdigit ⟨_, hlow⟩ h.symm

-- =================================================================== numbers

/-- What is true of every digit is true of the digits of a number. -/
theorem forall_mem_ofNat {p : Char → Prop} (h : ∀ d, d < 16 → p (digit d)) (n : Nat) :
    ∀ c ∈ ofNat n, p c := by
  induction n using Nat.strongRecOn with
  | ind n ih =>
    rw [ofNat]
    intro c hc
    split at hc
    · next hlow =>
      rw [List.mem_singleton.mp hc]
      exact h n hlow
    · rcases List.mem_append.mp hc with hc | hc
      · exact ih (n / 16) (by omega) c hc
      · rw [List.mem_singleton.mp hc]
        exact h _ (Nat.mod_lt _ (by decide))

theorem ofNat_ne_nil (n : Nat) : ofNat n ≠ [] := by
  rw [ofNat]
  split
  · simp
  · simp

/-- A number has no more digits than it needs. -/
theorem length_ofNat_le {k n : Nat} (h : n < 16 ^ (k + 1)) : (ofNat n).length ≤ k + 1 := by
  induction k generalizing n with
  | zero =>
    have hlow : n < 16 := h
    rw [ofNat, dif_pos hlow]
    exact Nat.le_refl 1
  | succ k ih =>
    rw [ofNat]
    split
    · simp
    · have hhigh : n / 16 < 16 ^ (k + 1) := by
        rw [Nat.div_lt_iff_lt_mul (by decide), ← Nat.pow_succ]
        exact h
      have hlength := ih hhigh
      rw [List.length_append, List.length_singleton]
      omega

/-- Adding up the digits of a number, in whatever form the sum is kept, comes to
that number. -/
theorem foldl_ofNat {σ : Type} {step : σ → Char → σ} (sum : Nat → σ)
    (h : ∀ m d, d < 16 → step (sum m) (digit d) = sum (16 * m + d)) (n : Nat) :
    (ofNat n).foldl step (sum 0) = sum n := by
  induction n using Nat.strongRecOn with
  | ind n ih =>
    rw [ofNat]
    split
    · next hlow => simpa using h 0 n hlow
    · rw [List.foldl_append, ih (n / 16) (by omega), List.foldl_cons, List.foldl_nil,
        h _ _ (Nat.mod_lt _ (by decide)), Nat.div_add_mod]

/-- The number that digits denote; what is no digit counts as zero. -/
def total (cs : List Char) : Nat := cs.foldl (fun m c => 16 * m + (value? c).getD 0) 0

theorem total_ofNat (n : Nat) : total (ofNat n) = n :=
  foldl_ofNat id (fun m d hd => by simp [value?_digit hd]) n

end CloudSession.Text.Hex
