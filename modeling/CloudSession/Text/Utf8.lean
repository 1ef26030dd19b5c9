/-
Bytes read as UTF-8. `decode` gives every character in order and `none`
for each maximal ill-formed part, so the strict reading (no `none`), the
forgiving one (U+FFFD for `none`) and the readers that only look into some
of the text all rest on one function.
-/

namespace CloudSession.Text.Utf8

-- ==================================================== byte classes

/-- Whether a byte lies in the range `80` to `BF` of continuation bytes. -/
def isContinuation (b : UInt8) : Bool := 0x80 ≤ b && b ≤ 0xBF

/-- The range of the second byte of a three-byte character: `E0` starts no
shorter form and `ED` no surrogate. -/
def isSecondOfThree (a b : UInt8) : Bool :=
  if a == 0xE0 then 0xA0 ≤ b && b ≤ 0xBF
  else if a == 0xED then 0x80 ≤ b && b ≤ 0x9F
  else isContinuation b

/-- The range of the second byte of a four-byte character: `F0` starts no
shorter form and `F4` nothing beyond U+10FFFF. -/
def isSecondOfFour (a b : UInt8) : Bool :=
  if a == 0xF0 then 0x90 ≤ b && b ≤ 0xBF
  else if a == 0xF4 then 0x80 ≤ b && b ≤ 0x8F
  else isContinuation b

/-- The six payload bits of a continuation byte. -/
def low (b : UInt8) : Nat := b.toNat % 0x40

-- ============================================================ decoding

/-- What the lead byte `a` begins in front of `rest`: a character or `none`,
and how many bytes of `rest` belong to it. -/
def lead (a : UInt8) (rest : List UInt8) : Option Char × Nat :=
  if a < 0x80 then (some (Char.ofNat a.toNat), 0)
  else if 0xC2 ≤ a && a ≤ 0xDF then
    match rest with
    | b :: _ =>
      if isContinuation b then
        (some (Char.ofNat ((a.toNat % 0x20) * 0x40 + low b)), 1)
      else (none, 0)
    | [] => (none, 0)
  else if 0xE0 ≤ a && a ≤ 0xEF then
    match rest with
    | b :: c :: _ =>
      if isSecondOfThree a b then
        if isContinuation c then
          (some (Char.ofNat (((a.toNat % 0x10) * 0x40 + low b) * 0x40 + low c)), 2)
        else (none, 1)
      else (none, 0)
    | [b] => (none, if isSecondOfThree a b then 1 else 0)
    | [] => (none, 0)
  else if 0xF0 ≤ a && a ≤ 0xF4 then
    match rest with
    | b :: c :: d :: _ =>
      if isSecondOfFour a b then
        if isContinuation c then
          if isContinuation d then
            (some (Char.ofNat ((((a.toNat % 0x08) * 0x40 + low b) * 0x40 + low c) * 0x40
              + low d)), 3)
          else (none, 2)
        else (none, 1)
      else (none, 0)
    | [b, c] =>
      (none, if isSecondOfFour a b then if isContinuation c then 2 else 1 else 0)
    | [b] => (none, if isSecondOfFour a b then 1 else 0)
    | [] => (none, 0)
  else (none, 0)

/-- The characters of a byte sequence, with `none` for each maximal part
that begins no character. -/
def decode : List UInt8 → List (Option Char)
  | [] => []
  | a :: rest => (lead a rest).1 :: decode (rest.drop (lead a rest).2)
termination_by bytes => bytes.length
decreasing_by simp only [List.length_drop, List.length_cons]; omega

/-- The characters of a byte sequence as glyphs of a byte array. -/
def glyphs (bytes : ByteArray) : List (Option Char) := decode bytes.data.toList

/-- The text of a byte sequence, if all of it is UTF-8. -/
def text? (bytes : ByteArray) : Option String :=
  ((glyphs bytes).mapM id).map String.ofList

/-- The text of a byte sequence, with U+FFFD for each ill-formed part. -/
def forgivingText (bytes : ByteArray) : String :=
  String.ofList ((glyphs bytes).map (·.getD (Char.ofNat 0xFFFD)))

end CloudSession.Text.Utf8
