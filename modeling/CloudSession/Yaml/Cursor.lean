/-
A place in a YAML text: the characters from there on, and how far it lies
from the start and from the start of its line. Lines end with any of five
line breaks; most of them count as a line feed.
-/

namespace CloudSession.Yaml

-- ============================================================== characters

def isBlank (c : Char) : Bool := c == ' ' || c == '\t'

/-- The separators of lines and of paragraphs, which are kept as written. -/
def isSeparator (c : Char) : Bool := c.toNat == 0x2028 || c.toNat == 0x2029

def isBreak (c : Char) : Bool :=
  c == '\n' || c == '\r' || c.toNat == 0x85 || isSeparator c

/-- The characters of names: anchors, directives and tag handles. -/
def isNameChar (c : Char) : Bool := c.isAlphanum || c == '_' || c == '-'

/-- Whether a text may hold a character at all. -/
def isAllowed (c : Char) : Bool :=
  let n := c.toNat
  n == 9 || n == 10 || n == 13 || (0x20 ≤ n && n ≤ 0x7E) || n == 0x85 ||
    (0xA0 ≤ n && n ≤ 0xFFFD) || 0x10000 ≤ n

/-- Whether a blank, a line break or the end stands here. -/
def isBoundary : List Char → Bool
  | [] => true
  | c :: _ => isBlank c || isBreak c

-- =================================================================== places

/-- A place in a text. -/
structure Cursor where
  rest : List Char
  index : Nat
  line : Nat
  column : Nat

namespace Cursor

/-- The start of a text. -/
def ofChars (cs : List Char) : Cursor := ⟨cs, 0, 0, 0⟩

/-- The character here. -/
def char? (c : Cursor) : Option Char := c.rest.head?

/-- Whether the character here is of a kind. -/
def isAt (c : Cursor) (p : Char → Bool) : Bool := c.char?.any p

/-- The place some characters further on the same line. -/
def skip (c : Cursor) (n : Nat) : Cursor :=
  ⟨c.rest.drop n, c.index + n, c.line, c.column + n⟩

/-- The characters of a kind from here on, and the place after them. -/
def span (c : Cursor) (p : Char → Bool) : List Char × Cursor :=
  let run := c.rest.takeWhile p
  (run, c.skip run.length)

def skipWhile (c : Cursor) (p : Char → Bool) : Cursor := (c.span p).2

/-- The line break here as it counts, and the start of the next line. -/
def break? (c : Cursor) : Option (List Char × Cursor) :=
  let next (width : Nat) : Cursor := ⟨c.rest.drop width, c.index + width, c.line + 1, 0⟩
  match c.rest with
  | '\r' :: '\n' :: _ => some (['\n'], next 2)
  | b :: _ =>
    if isSeparator b then some ([b], next 1)
    else if isBreak b then some (['\n'], next 1)
    else none
  | [] => none

/-- Whether a mark between documents stands here. -/
def isAtDocumentMark (c : Cursor) : Bool :=
  c.column == 0 && isBoundary (c.rest.drop 3) &&
    (c.rest.take 3 == ['-', '-', '-'] || c.rest.take 3 == ['.', '.', '.'])

end Cursor
end CloudSession.Yaml
