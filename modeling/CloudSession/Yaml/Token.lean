/-
The tokens of a YAML text. Indentation is turned into tokens that open and
close blocks. Whether a word is a key shows only at the colon behind it, so
the scanner remembers where a key may have begun and puts its token there
when the colon comes; such a key lies within one line and 1024 characters.
-/
import CloudSession.Text.Utf8
import CloudSession.Yaml.Scalar

namespace CloudSession.Yaml

-- =================================================================== tokens

/-- A token. -/
inductive Token
  | version (major minor : Nat)
  | tagDirective (handle start : List Char)
  | documentStart
  | documentEnd
  | blockSequenceStart
  | blockMappingStart
  | blockEnd
  | flowSequenceStart
  | flowSequenceEnd
  | flowMappingStart
  | flowMappingEnd
  | blockEntry
  | flowEntry
  | key
  | value
  | alias (name : List Char)
  | anchor (name : List Char)
  | tag (handle suffix : List Char)
  | scalar (style : Style) (text : List Char)
  | streamEnd
deriving DecidableEq, Repr

/-- Where a key may have begun, and the number of its first token. A
required one must turn out to be a key. -/
structure PossibleKey where
  required : Bool
  token : Nat
  index : Nat
  line : Nat
  column : Nat

/-- The state of the scanner. `indents` holds the indentations of the blocks
around the current one, and `keys` what may be a key on each level of
brackets, the innermost first. -/
structure Scanner where
  cursor : Cursor
  tokens : Array Token
  indent : Int
  indents : List Int
  keys : List (Option PossibleKey)
  keyAllowed : Bool

namespace Scanner

def ofChars (cs : List Char) : Scanner := ⟨.ofChars cs, #[], -1, [], [none], true⟩

def inFlow (s : Scanner) : Bool := s.keys.length > 1

-- ============================================================= small steps

def push (s : Scanner) (t : Token) : Scanner := { s with tokens := s.tokens.push t }

/-- Appends a token and moves on. -/
def pushAt (s : Scanner) (t : Token) (c : Cursor) : Scanner := { s.push t with cursor := c }

def allowKey (s : Scanner) (allowed : Bool) : Scanner := { s with keyAllowed := allowed }

/-- Closes blocks until the indentation is at most `column`. -/
def unroll (s : Scanner) (column : Int) : Scanner :=
  if s.inFlow then s
  else
    let closed := (s.indent :: s.indents).takeWhile (column < ·)
    match (s.indent :: s.indents).drop closed.length with
    | [] => s
    | indent :: indents =>
      { s with
        tokens := s.tokens ++ (closed.map fun _ => Token.blockEnd).toArray
        indent := indent
        indents := indents }

/-- Opens a block at a column that lies deeper; its token becomes number
`position`. -/
def roll (s : Scanner) (column : Nat) (position : Nat) (t : Token) : Scanner :=
  if s.inFlow || (column : Int) ≤ s.indent then s
  else
    { s with
      tokens := s.tokens.insertIdxIfInBounds position t
      indent := column
      indents := s.indent :: s.indents }

/-- Gives up what may have been a key on this level. -/
def dropKey? (s : Scanner) : Option Scanner :=
  match s.keys with
  | some k :: keys => if k.required then none else some { s with keys := none :: keys }
  | _ => some s

/-- Remembers that a key may begin here. -/
def saveKey? (s : Scanner) : Option Scanner :=
  if !s.keyAllowed then some s
  else
    let c := s.cursor
    let required := !s.inFlow && s.indent == (c.column : Int)
    s.dropKey?.map fun s =>
      { s with keys := some ⟨required, s.tokens.size, c.index, c.line, c.column⟩ :: s.keys.tail }

/-- Gives up everything that is too far back to be a key. -/
def dropStaleKeys? (s : Scanner) : Option Scanner :=
  let isStale (k : PossibleKey) : Bool :=
    k.line < s.cursor.line || k.index + 1024 < s.cursor.index
  if s.keys.any fun k => k.any fun k => isStale k && k.required then none
  else some { s with keys := s.keys.map fun k => k.filter (!isStale ·) }

/-- Passes over blanks, comments and line breaks. A new line outside brackets
may begin a key, and there a tab is no indentation. -/
def skipGap : Nat → Scanner → Scanner
  | 0, s => s
  | fuel + 1, s =>
    let c := s.cursor
    let c := if c.column == 0 && c.isAt (·.toNat == 0xFEFF) then c.skip 1 else c
    let tabs := s.inFlow || !s.keyAllowed
    let c := c.skipWhile fun ch => ch == ' ' || (tabs && ch == '\t')
    let c := if c.isAt (· == '#') then c.skipWhile (!isBreak ·) else c
    match c.break? with
    | some (_, next) =>
      skipGap fuel { s with cursor := next, keyAllowed := s.keyAllowed || !s.inFlow }
    | none => { s with cursor := c }

-- ============================================================== indicators

/-- A bracket that opens a collection. -/
def openFlow? (s : Scanner) (t : Token) : Option Scanner :=
  s.saveKey?.map fun s =>
    ({ s with keys := none :: s.keys }.allowKey true).pushAt t (s.cursor.skip 1)

/-- A bracket that closes a collection. -/
def closeFlow? (s : Scanner) (t : Token) : Option Scanner :=
  s.dropKey?.map fun s =>
    let keys := if s.inFlow then s.keys.tail else s.keys
    ({ s with keys := keys }.allowKey false).pushAt t (s.cursor.skip 1)

/-- A comma between the entries of a collection in brackets. -/
def flowEntry? (s : Scanner) : Option Scanner :=
  s.dropKey?.map fun s => (s.allowKey true).pushAt .flowEntry (s.cursor.skip 1)

/-- A dash in front of an entry. -/
def blockEntry? (s : Scanner) : Option Scanner :=
  if !s.inFlow && !s.keyAllowed then none
  else
    (s.roll s.cursor.column s.tokens.size .blockSequenceStart).dropKey?.map fun s =>
      (s.allowKey true).pushAt .blockEntry (s.cursor.skip 1)

/-- A question mark in front of a key. -/
def key? (s : Scanner) : Option Scanner :=
  if !s.inFlow && !s.keyAllowed then none
  else
    (s.roll s.cursor.column s.tokens.size .blockMappingStart).dropKey?.map fun s =>
      (s.allowKey (!s.inFlow)).pushAt .key (s.cursor.skip 1)

/-- A colon in front of a value. What may have been a key before it is one. -/
def value? (s : Scanner) : Option Scanner :=
  match s.keys with
  | some k :: keys =>
    let s := { s with keys := none :: keys, tokens := s.tokens.insertIdxIfInBounds k.token .key }
    let s := s.roll k.column k.token .blockMappingStart
    some ((s.allowKey false).pushAt .value (s.cursor.skip 1))
  | _ =>
    if !s.inFlow && !s.keyAllowed then none
    else
      let s := s.roll s.cursor.column s.tokens.size .blockMappingStart
      some ((s.allowKey (!s.inFlow)).pushAt .value (s.cursor.skip 1))

-- ============================================================ names and tags

/-- An anchor or an alias. -/
def named? (s : Scanner) (token : List Char → Token) : Option Scanner :=
  s.saveKey?.bind fun s =>
    let (name, c) := (s.cursor.skip 1).span isNameChar
    let ends := isBoundary c.rest ||
      c.isAt fun ch => ch ∈ ['?', ':', ',', ']', '}', '%', '@', '\x60']
    if name.isEmpty || !ends then none else some ((s.allowKey false).pushAt (token name) c)

/-- The handle of a tag: an exclamation mark, perhaps a name, and perhaps a
second exclamation mark. -/
def handle (c : Cursor) : List Char × Cursor :=
  let (name, after) := (c.skip 1).span isNameChar
  if after.isAt (· == '!') then ('!' :: name ++ ['!'], after.skip 1) else ('!' :: name, after)

/-- The bytes of percent escapes at the front of a text, and what follows. -/
def escapedBytes : List Char → List UInt8 × List Char
  | '%' :: a :: b :: rest =>
    match Text.Hex.value? a, Text.Hex.value? b with
    | some hi, some lo =>
      let (bytes, after) := escapedBytes rest
      ((16 * hi + lo).toUInt8 :: bytes, after)
    | _, _ => ([], '%' :: a :: b :: rest)
  | rest => ([], rest)

/-- The characters of a tag behind its handle. In a tag between angle
brackets some indicators are allowed too. -/
def isTagChar (verbatim : Bool) (c : Char) : Bool :=
  isNameChar c || c ∈ [';', '/', '?', ':', '@', '&', '=', '+', '$', '.', '%', '!', '~', '*', '\'',
    '(', ')'] || (verbatim && (c == ',' || c == '[' || c == ']'))

/-- A tag's text with its percent escapes resolved. -/
def unescapeTag? : Nat → List Char → Option (List Char)
  | _, [] => some []
  | 0, _ => none
  | fuel + 1, c :: cs =>
    if c == '%' then
      match escapedBytes (c :: cs) with
      | ([], _) => none
      | (bytes, rest) =>
        match (Text.Utf8.decode bytes).mapM id, unescapeTag? fuel rest with
        | some text, some more => some (text ++ more)
        | _, _ => none
    else (unescapeTag? fuel cs).map (c :: ·)

/-- The part of a tag behind its handle. -/
def suffix? (verbatim : Bool) (c : Cursor) : Option (List Char × Cursor) :=
  let (text, after) := c.span (isTagChar verbatim)
  (unescapeTag? text.length text).map fun text => (text, after)

/-- A tag: its handle, empty when there is none, and its suffix. -/
def tagParts? (c : Cursor) : Option (List Char × List Char × Cursor) :=
  if c.rest.take 2 == ['!', '<'] then
    match suffix? true (c.skip 2) with
    | some (suffix, after) =>
      if suffix.isEmpty || !after.isAt (· == '>') then none else some ([], suffix, after.skip 1)
    | none => none
  else
    let (handle, after) := handle c
    if handle.length > 1 && handle.getLast? == some '!' then
      match suffix? false after with
      | some (suffix, after) => if suffix.isEmpty then none else some (handle, suffix, after)
      | none => none
    else
      (suffix? false after).map fun (suffix, after) =>
        let suffix := handle.drop 1 ++ suffix
        if suffix.isEmpty then ([], ['!'], after) else (['!'], suffix, after)

/-- A tag. -/
def tag? (s : Scanner) : Option Scanner :=
  s.saveKey?.bind fun s =>
    match tagParts? s.cursor with
    | none => none
    | some (handle, suffix, c) =>
      if isBoundary c.rest || (s.inFlow && c.isAt (· == ',')) then
        some ((s.allowKey false).pushAt (.tag handle suffix) c)
      else none

-- =============================================================== directives

/-- A number of at most nine digits. -/
def number? (c : Cursor) : Option (Nat × Cursor) :=
  let (digits, after) := c.span Char.isDigit
  if digits.isEmpty || digits.length > 9 then none
  else some (digits.foldl (fun n d => 10 * n + (d.toNat - 48)) 0, after)

/-- The directive that a line gives. -/
def directiveToken? (c : Cursor) : Option (Token × Cursor) :=
  let (name, after) := (c.skip 1).span isNameChar
  let after := after.skipWhile isBlank
  if !isBoundary (c.rest.drop (1 + name.length)) then none
  else if name == "YAML".toList then
    match number? after with
    | none => none
    | some (major, after) =>
      if !after.isAt (· == '.') then none
      else (number? (after.skip 1)).map fun (minor, after) => (.version major minor, after)
  else if name == "TAG".toList then
    let (handle, next) := handle after
    let whole := handle == ['!'] || (handle.length > 1 && handle.getLast? == some '!')
    if !after.isAt (· == '!') || !whole || !next.isAt isBlank then none
    else
      match suffix? true (next.skipWhile isBlank) with
      | some (start, after) =>
        if start.isEmpty || !isBoundary after.rest then none
        else some (.tagDirective handle start, after)
      | none => none
  else none

/-- A directive. -/
def directive? (s : Scanner) : Option Scanner :=
  (s.unroll (-1)).dropKey?.bind fun s =>
    (directiveToken? s.cursor).bind fun (t, after) =>
      (lineEnd? after).map fun c => (s.allowKey false).pushAt t c

-- ================================================================== scalars

/-- The mark before or after a document. -/
def documentMark? (s : Scanner) (t : Token) : Option Scanner :=
  (s.unroll (-1)).dropKey?.map fun s => (s.allowKey false).pushAt t (s.cursor.skip 3)

/-- A block scalar. -/
def blockScalar? (s : Scanner) (folded : Bool) : Option Scanner :=
  s.dropKey?.bind fun s =>
    (block? folded s.indent s.cursor).map fun (text, c) =>
      (s.allowKey true).pushAt (.scalar (if folded then .folded else .literal) text) c

/-- A quoted scalar. -/
def quotedScalar? (s : Scanner) (quote : Char) : Option Scanner :=
  s.saveKey?.bind fun s =>
    (quoted? quote s.cursor).map fun (text, c) =>
      (s.allowKey false).pushAt (.scalar .quoted text) c

/-- A plain scalar. One that ends on a later line is followed by what may be
a key. -/
def plainScalar? (s : Scanner) : Option Scanner :=
  s.saveKey?.bind fun s =>
    (plain? s.inFlow (s.indent + 1).toNat s.cursor).map fun (text, crossed, c) =>
      (s.allowKey crossed).pushAt (.scalar .plain text) c

-- ================================================================= dispatch

/-- Whether a plain scalar may begin with a character, others following. -/
def startsPlain (inFlow : Bool) (c : Char) (rest : List Char) : Bool :=
  let nextIsBlank := rest.head?.any isBlank
  if c == '-' then !nextIsBlank
  else if c == '?' || c == ':' then !inFlow && !isBoundary rest
  else !(c ∈ [',', '[', ']', '{', '}', '#', '&', '*', '!', '|', '>', '\'', '"', '%', '@', '\x60'])
    && !isBlank c && !isBreak c

/-- The token that begins with a character, others following. -/
def token? (s : Scanner) (ch : Char) (rest : List Char) : Option Scanner :=
  let c := s.cursor
  if c.column == 0 && ch == '%' then s.directive?
  else if c.isAtDocumentMark then
    s.documentMark? (if ch == '-' then .documentStart else .documentEnd)
  else if ch == '[' then s.openFlow? .flowSequenceStart
  else if ch == '{' then s.openFlow? .flowMappingStart
  else if ch == ']' then s.closeFlow? .flowSequenceEnd
  else if ch == '}' then s.closeFlow? .flowMappingEnd
  else if ch == ',' then s.flowEntry?
  else if ch == '-' && isBoundary rest then s.blockEntry?
  else if ch == '?' && (s.inFlow || isBoundary rest) then s.key?
  else if ch == ':' && (s.inFlow || isBoundary rest) then s.value?
  else if ch == '*' then s.named? .alias
  else if ch == '&' then s.named? .anchor
  else if ch == '!' then s.tag?
  else if ch == '|' && !s.inFlow then s.blockScalar? false
  else if ch == '>' && !s.inFlow then s.blockScalar? true
  else if ch == '\'' || ch == '"' then s.quotedScalar? ch
  else if startsPlain s.inFlow ch rest then s.plainScalar?
  else none

/-- All tokens from here on. -/
def run? : Nat → Scanner → Option (Array Token)
  | 0, _ => none
  | fuel + 1, s =>
    let s := skipGap (s.cursor.rest.length + 1) s
    match s.dropStaleKeys? with
    | none => none
    | some s =>
      let s := s.unroll s.cursor.column
      match s.cursor.rest with
      | [] => ((s.unroll (-1)).dropKey?).map fun s => s.tokens.push .streamEnd
      | ch :: rest => (s.token? ch rest).bind (run? fuel)

end Scanner

/-- The tokens of a text, a byte order mark aside. -/
def tokens? (cs : List Char) : Option (List Token) :=
  let cs := if cs.head?.any (·.toNat == 0xFEFF) then cs.tail else cs
  if cs.all isAllowed then (Scanner.run? (cs.length + 1) (.ofChars cs)).map Array.toList else none

end CloudSession.Yaml
