/-
The value of a JSON text. Strings must be UTF-8 with paired surrogates,
numbers must not overflow, arrays and objects nest at most 127 deep, and of
a repeated key the last value stays. A number other than a 64-bit whole one
is its leading digits, as many as a 64-bit word holds, rounded and then
scaled by a rounded power of ten.
-/
import CloudSession.Json.Basic
import CloudSession.Json.Document
import CloudSession.Text.Utf8

namespace CloudSession.Json

-- =============================================================== numbers

/-- The largest 64-bit word. -/
def maxWord : Nat := 18446744073709551615

/-- Appends digits to a word while it fits; also how many were taken and
how many were left over. -/
def appendDigits : Nat → List Nat → Nat × Nat × Nat
  | n, [] => (n, 0, 0)
  | n, d :: ds =>
    if 10 * n + d ≤ maxWord then
      let (m, taken, left) := appendDigits (10 * n + d) ds
      (m, taken + 1, left)
    else (n, 0, ds.length + 1)

/-- The largest power of ten that a double reaches. -/
def maxPower : Nat := 308

/-- The double nearest to a power of ten. -/
def powerOfTen? (k : Nat) : Option Double := Double.nearest? false (Nat.pow 10 k) 1

/-- Divides by `10 ^ k`, at most `10 ^ 308` in one step. -/
def scaleDown? (d : Double) (k : Nat) : Option Double :=
  if _h : k ≤ maxPower then (powerOfTen? k).bind d.div?
  else if d.isZero then some d
  else (powerOfTen? maxPower).bind fun p => (d.div? p).bind fun q =>
    scaleDown? q (k - maxPower)
termination_by k
decreasing_by simp only [maxPower] at *; omega

/-- The double of a word times a power of ten, or `none` on overflow. -/
def scaled? (negative : Bool) (significand : Nat) (exponent : Int) : Option Double :=
  (Double.ofNat? significand).bind fun d =>
    let magnitude :=
      if exponent < 0 then scaleDown? d exponent.natAbs
      else if exponent.natAbs ≤ maxPower then (powerOfTen? exponent.natAbs).bind d.mul?
      else if d.isZero then some d
      else none
    magnitude.map fun d => { d with negative := negative }

/-- The number that a text denotes, or `none` when it is out of range. -/
def NumberText.value? (t : NumberText) : Option Number :=
  let (n, _, leftWhole) := appendDigits 0 t.whole
  match t.fraction, t.exponent, leftWhole with
  | none, none, 0 =>
    if !t.negative then some (.whole n)
    else if n == 0 || 9223372036854775808 < n then (scaled? true n 0).map .real
    else some (.whole (-(n : Int)))
  | _, _, _ =>
    let (m, taken, _) := appendDigits n (t.fraction.getD [])
    (scaled? t.negative m ((leftWhole : Int) - taken + t.exponent.getD 0)).map .real

-- =============================================================== strings

/-- The text that the pieces of a string spell. -/
def join? : List Piece → Option (List Char)
  | [] => some []
  | .char c :: rest => (join? rest).map (c :: ·)
  | .unit n :: rest =>
    if n < 0xD800 || 0xDFFF < n then (join? rest).map (Char.ofNat n :: ·)
    else if n ≤ 0xDBFF then
      match rest with
      | .unit m :: rest =>
        if 0xDC00 ≤ m && m ≤ 0xDFFF then
          (join? rest).map
            (Char.ofNat ((n - 0xD800) * 0x400 + (m - 0xDC00) + 0x10000) :: ·)
        else none
      | _ => none
    else none
  | .junk :: _ => none

/-- The string that pieces spell. -/
def string? (ps : List Piece) : Option String := (join? ps).map String.ofList

-- ================================================================ values

/-- How deep arrays and objects may nest. -/
def maxDepth : Nat := 127

mutual

/-- The value of a syntax tree in which at most `depth` more levels nest. -/
def Doc.toJson? (depth : Nat) : Doc → Option Json
  | .null => some .null
  | .bool b => some (.bool b)
  | .number t => t.value?.map .number
  | .str ps => (string? ps).map .str
  | .arr items =>
    match depth with
    | 0 => none
    | depth + 1 => (Doc.itemsToJson? depth items).map .arr
  | .obj members =>
    match depth with
    | 0 => none
    | depth + 1 => (Doc.membersToJson? depth members).map object

/-- The values of the items of an array. -/
def Doc.itemsToJson? (depth : Nat) : List Doc → Option (List Json)
  | [] => some []
  | d :: ds =>
    match Doc.toJson? depth d, Doc.itemsToJson? depth ds with
    | some v, some vs => some (v :: vs)
    | _, _ => none

/-- The members of an object as written. -/
def Doc.membersToJson? (depth : Nat) :
    List (List Piece × Doc) → Option (List (String × Json))
  | [] => some []
  | (key, d) :: ms =>
    match string? key, Doc.toJson? depth d, Doc.membersToJson? depth ms with
    | some k, some v, some vs => some ((k, v) :: vs)
    | _, _, _ => none

end

/-- The value of a text of glyphs. -/
def readGlyphs? (s : List Glyph) : Option Json := (Doc.read? s).bind (Doc.toJson? maxDepth)

/-- The value of a text. -/
def read? (s : String) : Option Json := readGlyphs? (s.toList.map some)

/-- The value of a byte sequence. -/
def readBytes? (bytes : ByteArray) : Option Json := readGlyphs? (Text.Utf8.glyphs bytes)

end CloudSession.Json
