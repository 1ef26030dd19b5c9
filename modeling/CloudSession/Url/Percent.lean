/-
Percent-encoding. Each part of a URL has its own set of characters that
are written as the `%XX` of their UTF-8 bytes; every set holds the control
characters and everything beyond ASCII.
-/
import CloudSession.Text.Hex

namespace CloudSession.Url

-- ============================================================ encode sets

/-- Control characters, DEL and everything beyond ASCII. -/
def inControlSet (c : Char) : Bool := c.toNat < 0x20 || 0x7E < c.toNat

/-- What is encoded in a query of a scheme without rules of its own. -/
def inQuerySet (c : Char) : Bool :=
  inControlSet c || c == ' ' || c == '"' || c == '#' || c == '<' || c == '>'

/-- What is encoded in a query of a web scheme. -/
def inSpecialQuerySet (c : Char) : Bool := inQuerySet c || c == '\''

/-- What is encoded in a path. -/
def inPathSet (c : Char) : Bool :=
  inQuerySet c || c == '`' || c == '?' || c.toNat == 0x7B || c.toNat == 0x7D

-- ======================================================= writing, reading

/-- The `%XX` of each UTF-8 byte of a character. -/
def percentChar (c : Char) : List Char :=
  (String.utf8EncodeChar c).flatMap fun b =>
    ['%', Text.Hex.upperDigit (b.toNat / 16), Text.Hex.upperDigit (b.toNat % 16)]

/-- Encodes the characters of a set and keeps the others. -/
def percentEncode (set : Char → Bool) (cs : List Char) : List Char :=
  cs.flatMap fun c => if set c then percentChar c else [c]

/-- The UTF-8 bytes of a text with every `%XX` replaced by its byte; a `%`
that starts no such triple stands for itself. -/
def percentDecode : List Char → List UInt8
  | [] => []
  | '%' :: a :: b :: rest =>
    match Text.Hex.value? a, Text.Hex.value? b with
    | some hi, some lo => (16 * hi + lo).toUInt8 :: percentDecode rest
    | _, _ => 0x25 :: percentDecode (a :: b :: rest)
  | c :: rest => String.utf8EncodeChar c ++ percentDecode rest

end CloudSession.Url
