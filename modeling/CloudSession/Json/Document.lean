/-
JSON text as it is written. A `Doc` is the syntax tree of a JSON text with
its strings and numbers still in pieces, so that a reader which skips a
member neither weighs its numbers nor joins its surrogates. `Doc.read?`
accepts exactly one value with blanks around it.
-/
import CloudSession.Text.Hex

namespace CloudSession.Json

/-- A character of the text, or `none` where its bytes are no UTF-8. -/
abbrev Glyph := Option Char

/-- A part of a string as written: a character, a `\u` escape with its
sixteen-bit unit, or an ill-formed byte sequence. -/
inductive Piece
  | char (c : Char)
  | unit (n : Nat)
  | junk
deriving DecidableEq, Repr

/-- A number as written: the digits of its parts and the exponent. -/
structure NumberText where
  negative : Bool
  whole : List Nat
  fraction : Option (List Nat)
  exponent : Option Int
deriving DecidableEq, Repr

/-- The syntax tree of a JSON text. -/
inductive Doc
  | null
  | bool (b : Bool)
  | number (n : NumberText)
  | str (pieces : List Piece)
  | arr (items : List Doc)
  | obj (members : List (List Piece × Doc))

namespace Doc

instance : Inhabited Doc := ⟨.null⟩

-- ================================================================ tokens

/-- The characters allowed around tokens. -/
def isBlank : Glyph → Bool
  | some c => c == ' ' || c == '\n' || c == '\t' || c == '\r'
  | none => false

def skipBlanks (s : List Glyph) : List Glyph := s.dropWhile isBlank

/-- The value of a decimal digit. -/
def digit? : Glyph → Option Nat
  | some c => if '0' ≤ c && c ≤ '9' then some (c.toNat - 48) else none
  | none => none

/-- The leading digits of a text and what follows them. -/
def digits : List Glyph → List Nat × List Glyph
  | [] => ([], [])
  | g :: rest =>
    match digit? g with
    | some d => let (ds, r) := digits rest; (d :: ds, r)
    | none => ([], g :: rest)

/-- The value of a hexadecimal digit. -/
def hex? (g : Glyph) : Option Nat := g.bind Text.Hex.value?

/-- The character that a one-letter escape stands for. -/
def escaped? : Char → Option Char
  | '"' => some '"'
  | '\\' => some '\\'
  | '/' => some '/'
  | 'b' => some (Char.ofNat 8)
  | 'f' => some (Char.ofNat 12)
  | 'n' => some '\n'
  | 'r' => some '\r'
  | 't' => some '\t'
  | _ => none

/-- The rest of a string after its opening quote, up to the closing one.
Control characters must be escaped. -/
def pieces : List Glyph → Option (List Piece × List Glyph)
  | [] => none
  | some '"' :: rest => some ([], rest)
  | some '\\' :: some 'u' :: a :: b :: c :: d :: rest =>
    match hex? a, hex? b, hex? c, hex? d, pieces rest with
    | some a, some b, some c, some d, some (ps, r) =>
      some (.unit (((a * 16 + b) * 16 + c) * 16 + d) :: ps, r)
    | _, _, _, _, _ => none
  | some '\\' :: some e :: rest =>
    match escaped? e, pieces rest with
    | some c, some (ps, r) => some (.char c :: ps, r)
    | _, _ => none
  | some c :: rest =>
    if c == '\\' || c.toNat < 0x20 then none
    else (pieces rest).map fun (ps, r) => (.char c :: ps, r)
  | none :: rest => (pieces rest).map fun (ps, r) => (.junk :: ps, r)

/-- The natural that decimal digits denote. -/
def natural (ds : List Nat) : Nat := ds.foldl (fun n d => 10 * n + d) 0

/-- The exponent part of a number, if one stands here. -/
def exponent? : List Glyph → Option (Option Int × List Glyph)
  | some 'e' :: rest => signed rest
  | some 'E' :: rest => signed rest
  | rest => some (none, rest)
where
  signed : List Glyph → Option (Option Int × List Glyph)
    | some '+' :: rest => magnitude 1 rest
    | some '-' :: rest => magnitude (-1) rest
    | rest => magnitude 1 rest
  magnitude (sign : Int) (rest : List Glyph) : Option (Option Int × List Glyph) :=
    match digits rest with
    | ([], _) => none
    | (ds, r) => some (some (sign * (natural ds : Int)), r)

/-- The fraction part of a number, if one stands here. -/
def fraction? : List Glyph → Option (Option (List Nat) × List Glyph)
  | some '.' :: rest =>
    match digits rest with
    | ([], _) => none
    | (ds, r) => some (some ds, r)
  | rest => some (none, rest)

/-- A number without its sign. A leading zero stands alone. -/
def unsigned? (negative : Bool) (s : List Glyph) : Option (NumberText × List Glyph) :=
  match digits s with
  | ([], _) => none
  | (0 :: _ :: _, _) => none
  | (whole, r) =>
    match fraction? r with
    | none => none
    | some (fraction, r) =>
      match exponent? r with
      | none => none
      | some (exponent, r) => some (⟨negative, whole, fraction, exponent⟩, r)

/-- A number. -/
def number? : List Glyph → Option (NumberText × List Glyph)
  | some '-' :: rest => unsigned? true rest
  | rest => unsigned? false rest

-- ================================================================ values

mutual

/-- One value and what follows it. The first argument bounds the steps. -/
def value? : Nat → List Glyph → Option (Doc × List Glyph)
  | 0, _ => none
  | fuel + 1, s =>
    match skipBlanks s with
    | some 'n' :: some 'u' :: some 'l' :: some 'l' :: r => some (.null, r)
    | some 't' :: some 'r' :: some 'u' :: some 'e' :: r => some (.bool true, r)
    | some 'f' :: some 'a' :: some 'l' :: some 's' :: some 'e' :: r =>
      some (.bool false, r)
    | some '"' :: r => (pieces r).map fun (ps, r) => (.str ps, r)
    | some '[' :: r =>
      match skipBlanks r with
      | some ']' :: r => some (.arr [], r)
      | r => (items? fuel r).map fun (ds, r) => (.arr ds, r)
    | some '{' :: r =>
      match skipBlanks r with
      | some '}' :: r => some (.obj [], r)
      | r => (members? fuel r).map fun (ms, r) => (.obj ms, r)
    | r => (number? r).map fun (n, r) => (.number n, r)

/-- The items of an array up to its closing bracket. -/
def items? : Nat → List Glyph → Option (List Doc × List Glyph)
  | 0, _ => none
  | fuel + 1, s =>
    match value? fuel s with
    | none => none
    | some (d, r) =>
      match skipBlanks r with
      | some ',' :: r => (items? fuel r).map fun (ds, r) => (d :: ds, r)
      | some ']' :: r => some ([d], r)
      | _ => none

/-- The members of an object up to its closing brace. -/
def members? : Nat → List Glyph → Option (List (List Piece × Doc) × List Glyph)
  | 0, _ => none
  | fuel + 1, s =>
    match skipBlanks s with
    | some '"' :: r =>
      match pieces r with
      | none => none
      | some (key, r) =>
        match skipBlanks r with
        | some ':' :: r =>
          match value? fuel r with
          | none => none
          | some (d, r) =>
            match skipBlanks r with
            | some ',' :: r => (members? fuel r).map fun (ms, r) => ((key, d) :: ms, r)
            | some '}' :: r => some ([(key, d)], r)
            | _ => none
        | _ => none
    | _ => none

end

/-- The syntax tree of a text that holds one value and blanks. Each glyph
is taken by at most two steps, which bounds the reading. -/
def read? (s : List Glyph) : Option Doc :=
  match value? (2 * s.length + 2) s with
  | some (d, r) => if skipBlanks r = [] then some d else none
  | none => none

end Doc
end CloudSession.Json
