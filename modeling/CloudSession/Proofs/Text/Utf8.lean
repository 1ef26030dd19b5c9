/-
Decoding undoes encoding: the bytes of a text decode to its characters, so
a text that was written to a file is read back unchanged (`text?_toUTF8`).
Each width of a character is a lemma of its own, on what its lead byte and
the bytes behind it begin.
-/
import CloudSession.Text.Utf8

namespace CloudSession.Text.Utf8

/-- A byte lies in a range if its value does. -/
theorem within_iff (low a high : UInt8) :
    (low ≤ a && a ≤ high) = true
      ↔ low.toNat ≤ a.toNat ∧ a.toNat ≤ high.toNat := by
  simp [UInt8.le_iff_toNat_le]

-- ======================================================= continuation bytes

theorem isContinuation_ofNat {n : Nat} (h : n < 0x40) :
    isContinuation (UInt8.ofNat (n + 0x80)) = true := by
  simp [isContinuation, UInt8.le_iff_toNat_le]
  omega

theorem low_ofNat {n : Nat} (h : n < 0x40) : low (UInt8.ofNat (n + 0x80)) = n := by
  simp [low]
  omega

/-- The six bits that a continuation byte carries. -/
theorem mod_lt (v : Nat) : v % 0x40 < 0x40 := Nat.mod_lt v (by decide)

-- =============================================================== lead bytes

theorem lead_one {v : Nat} (h : v ≤ 0x7f) (rest : List UInt8) :
    lead (UInt8.ofNat v) rest = (some (Char.ofNat v), 0) := by
  have ha : (UInt8.ofNat v).toNat = v := by
    simp
    omega
  unfold lead
  rw [if_pos (by simp [UInt8.lt_iff_toNat_lt]; omega), ha]

theorem lead_two {v : Nat} (hlo : 0x7f < v) (hhi : v ≤ 0x7ff) (rest : List UInt8) :
    lead (UInt8.ofNat (v / 0x40 % 0x20 + 0xc0)) (UInt8.ofNat (v % 0x40 + 0x80) :: rest)
      = (some (Char.ofNat v), 1) := by
  have ha : (UInt8.ofNat (v / 0x40 % 0x20 + 0xc0)).toNat = v / 0x40 + 0xc0 := by
    simp
    omega
  unfold lead
  rw [if_neg (by rw [UInt8.lt_iff_toNat_lt, ha]; simp),
    if_pos (by rw [within_iff, ha]; simp; omega)]
  simp only [isContinuation_ofNat (mod_lt v), low_ofNat (mod_lt v), if_true, ha]
  congr 3
  omega

theorem isSecondOfThree_ofNat {v : Nat} (hlo : 0x7ff < v) (hhi : v ≤ 0xffff)
    (hs : v < 0xd800 ∨ 0xdfff < v) :
    isSecondOfThree (UInt8.ofNat (v / 0x1000 % 0x10 + 0xe0))
      (UInt8.ofNat (v / 0x40 % 0x40 + 0x80)) = true := by
  unfold isSecondOfThree
  simp only [beq_iff_eq, ← UInt8.toNat_inj]
  split
  · simp_all [UInt8.le_iff_toNat_le]
    omega
  · split
    · simp_all [UInt8.le_iff_toNat_le]
      omega
    · exact isContinuation_ofNat (mod_lt _)

theorem lead_three {v : Nat} (hlo : 0x7ff < v) (hhi : v ≤ 0xffff)
    (hs : v < 0xd800 ∨ 0xdfff < v) (rest : List UInt8) :
    lead (UInt8.ofNat (v / 0x1000 % 0x10 + 0xe0))
        (UInt8.ofNat (v / 0x40 % 0x40 + 0x80) :: UInt8.ofNat (v % 0x40 + 0x80) :: rest)
      = (some (Char.ofNat v), 2) := by
  have ha : (UInt8.ofNat (v / 0x1000 % 0x10 + 0xe0)).toNat = v / 0x1000 + 0xe0 := by
    simp
    omega
  unfold lead
  rw [if_neg (by rw [UInt8.lt_iff_toNat_lt, ha]; simp),
    if_neg (by rw [within_iff, ha]; simp),
    if_pos (by rw [within_iff, ha]; simp; omega)]
  simp only [isSecondOfThree_ofNat hlo hhi hs, isContinuation_ofNat (mod_lt v),
    low_ofNat (mod_lt _), if_true, ha]
  congr 3
  omega

theorem isSecondOfFour_ofNat {v : Nat} (hlo : 0xffff < v) (hhi : v < 0x110000) :
    isSecondOfFour (UInt8.ofNat (v / 0x40000 % 0x08 + 0xf0))
      (UInt8.ofNat (v / 0x1000 % 0x40 + 0x80)) = true := by
  unfold isSecondOfFour
  simp only [beq_iff_eq, ← UInt8.toNat_inj]
  split
  · simp_all [UInt8.le_iff_toNat_le]
    omega
  · split
    · simp_all [UInt8.le_iff_toNat_le]
      omega
    · exact isContinuation_ofNat (mod_lt _)

theorem lead_four {v : Nat} (hlo : 0xffff < v) (hhi : v < 0x110000) (rest : List UInt8) :
    lead (UInt8.ofNat (v / 0x40000 % 0x08 + 0xf0))
        (UInt8.ofNat (v / 0x1000 % 0x40 + 0x80) :: UInt8.ofNat (v / 0x40 % 0x40 + 0x80) ::
          UInt8.ofNat (v % 0x40 + 0x80) :: rest)
      = (some (Char.ofNat v), 3) := by
  have ha : (UInt8.ofNat (v / 0x40000 % 0x08 + 0xf0)).toNat = v / 0x40000 + 0xf0 := by
    simp
    omega
  unfold lead
  rw [if_neg (by rw [UInt8.lt_iff_toNat_lt, ha]; simp),
    if_neg (by rw [within_iff, ha]; simp),
    if_neg (by rw [within_iff, ha]; simp),
    if_pos (by rw [within_iff, ha]; simp; omega)]
  simp only [isSecondOfFour_ofNat hlo hhi, isContinuation_ofNat (mod_lt _),
    low_ofNat (mod_lt _), if_true, ha]
  congr 3
  omega

-- ==================================================================== texts

/-- The bytes of a character decode to it, whatever follows them. -/
theorem decode_encodeChar (c : Char) (rest : List UInt8) :
    decode (String.utf8EncodeChar c ++ rest) = some c :: decode rest := by
  have hc : Char.ofNat c.toNat = c := Char.ofNat_toNat c
  have hval : c.val.toNat = c.toNat := rfl
  have hvalid : c.toNat < 0xd800 ∨ 0xdfff < c.toNat ∧ c.toNat < 0x110000 := c.valid
  unfold String.utf8EncodeChar
  simp only [hval]
  split
  · next h =>
    rw [List.singleton_append, decode, lead_one h, hc]
    rfl
  · next h1 =>
    split
    · next h2 =>
      rw [List.cons_append, List.singleton_append, decode, lead_two (by omega) h2, hc]
      rfl
    · next h2 =>
      split
      · next h3 =>
        simp only [List.cons_append, List.nil_append]
        rw [decode, lead_three (by omega) h3 (by omega), hc]
        rfl
      · next h3 =>
        simp only [List.cons_append, List.nil_append]
        rw [decode, lead_four (by omega) (by omega), hc]
        rfl

theorem decode_flatMap (cs : List Char) :
    decode (cs.flatMap String.utf8EncodeChar) = cs.map some := by
  induction cs with
  | nil => rw [List.flatMap_nil, decode, List.map_nil]
  | cons c cs ih => rw [List.flatMap_cons, decode_encodeChar, ih, List.map_cons]

/-- The bytes of a text are those of its characters in turn. -/
theorem toUTF8_toList (s : String) :
    s.toUTF8.data.toList = s.toList.flatMap String.utf8EncodeChar := by
  rw [String.toUTF8_eq_toByteArray, ← String.utf8Encode_toList, List.utf8Encode]
  simp

/-- The bytes of a text decode to its characters. -/
theorem glyphs_toUTF8 (s : String) : glyphs s.toUTF8 = s.toList.map some := by
  rw [glyphs, toUTF8_toList, decode_flatMap]

theorem mapM_id_map_some (cs : List Char) : (cs.map some).mapM id = some cs := by
  induction cs with
  | nil => rfl
  | cons c cs ih => simp_all

/-- A text is read back from its bytes. -/
theorem text?_toUTF8 (s : String) : text? s.toUTF8 = some s := by
  rw [text?, glyphs_toUTF8, mapM_id_map_some]
  simp

/-- Texts of the same bytes are the same. -/
theorem toUTF8_toList_injective {s t : String}
    (h : s.toUTF8.data.toList = t.toUTF8.data.toList) : s = t := by
  have hdecoded : decode s.toUTF8.data.toList = decode t.toUTF8.data.toList := by rw [h]
  rw [toUTF8_toList, toUTF8_toList, decode_flatMap, decode_flatMap] at hdecoded
  have hchars : s.toList = t.toList :=
    (List.map_inj_right fun _ _ => Option.some.inj).mp hdecoded
  exact String.toList_injective hchars

-- ===================================================================== NUL

/-- Among the bytes of a character a zero stands only for NUL itself: lead
bytes of longer forms and continuation bytes have their high bit set. -/
theorem zero_mem_encodeChar {c : Char} (h : (0 : UInt8) ∈ String.utf8EncodeChar c) :
    c = '\x00' := by
  have hval : c.val.toNat = c.toNat := rfl
  have hzero : c.toNat = 0 := by
    unfold String.utf8EncodeChar at h
    simp only [hval] at h
    split at h
    · simp only [List.mem_singleton, ← UInt8.toNat_inj] at h
      simp at h
      omega
    · split at h
      · simp [← UInt8.toNat_inj] at h
        omega
      · split at h <;> simp [← UInt8.toNat_inj] at h <;> omega
  exact Char.ext (UInt32.toNat_inj.mp hzero)

/-- A text without NUL has no zero byte. -/
theorem zero_notMem_toUTF8 {s : String} (h : '\x00' ∉ s.toList) :
    (0 : UInt8) ∉ s.toUTF8.data.toList := by
  intro hmem
  rw [toUTF8_toList, List.mem_flatMap] at hmem
  obtain ⟨c, hc, hzero⟩ := hmem
  rw [zero_mem_encodeChar hzero] at hc
  exact h hc

end CloudSession.Text.Utf8
