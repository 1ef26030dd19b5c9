/-
The markup of an XML text, piece by piece. Text is cut at tags, comments
and references; a closing tag must name the element that was opened last.
`scan` gives the pieces in order and says whether the text ended well: a
reader that stops early does not care how the rest ends.
-/

namespace CloudSession.Xml

-- ============================================================== the pieces

/-- A piece of an XML text. A tag is what stands between its angle brackets,
less a slash at either end. -/
inductive Event
  | text (chars : List Char)
  | cdata
  | reference (name : List Char)
  | opening (tag : List Char)
  | closing (name : List Char)
  | empty (tag : List Char)
  | aside
deriving DecidableEq, Repr

/-- The blanks of XML. -/
def isBlank (c : Char) : Bool := c == ' ' || c == '\t' || c == '\n' || c == '\r'

/-- The name at the front of a tag. -/
def nameOf (tag : List Char) : List Char := tag.takeWhile (!isBlank ·)

-- ================================================================= searches

/-- Cuts at the first `>` outside quotes. -/
def splitTag (quote : Option Char) : List Char → Option (List Char × List Char)
  | [] => none
  | c :: cs =>
    match quote with
    | some q => (splitTag (if c == q then none else quote) cs).map fun (tag, rest) =>
        (c :: tag, rest)
    | none =>
      if c == '>' then some ([], cs)
      else
        let quote := if c == '"' || c == '\'' then some c else none
        (splitTag quote cs).map fun (tag, rest) => (c :: tag, rest)

/-- Cuts at the first `>` that follows at least `least` characters and the
given mark. `seen` holds the characters before, last first. -/
def splitMarked (mark : List Char) (least : Nat) (seen : List Char) :
    List Char → Option (List Char × List Char)
  | [] => none
  | c :: cs =>
    if c == '>' && least ≤ seen.length && mark.reverse.isPrefixOf seen then
      some (seen.reverse, cs)
    else splitMarked mark least (c :: seen) cs

/-- Cuts at the `>` that closes a document type, whose own brackets are
balanced. -/
def splitBalanced (depth : Nat) : List Char → Option (List Char × List Char)
  | [] => none
  | c :: cs =>
    if c == '>' && depth == 0 then some ([], cs)
    else
      let depth := if c == '<' then depth + 1 else if c == '>' then depth - 1 else depth
      (splitBalanced depth cs).map fun (inner, rest) => (c :: inner, rest)

/-- Whether a text begins with a word in any ASCII case. -/
def beginsWith (word cs : List Char) : Bool :=
  (word.map Char.toLower).isPrefixOf (cs.map Char.toLower)

-- ============================================================ markup pieces

/-- Comment, CDATA section or document type: what follows `<` when it begins
with an exclamation mark. -/
def declaration? (cs : List Char) : Option (Event × List Char) :=
  match cs with
  | '!' :: '-' :: _ =>
    match splitMarked ['-', '-'] 5 [] cs with
    | some (inner, rest) => if beginsWith ['!', '-', '-'] inner then some (.aside, rest) else none
    | none => none
  | '!' :: '[' :: _ =>
    match splitMarked [']', ']'] 0 [] cs with
    | some (inner, rest) => if beginsWith "![CDATA[".toList inner then some (.cdata, rest) else none
    | none => none
  | '!' :: d :: _ =>
    if d == 'D' || d == 'd' then
      match splitBalanced 0 cs with
      | some (inner, rest) =>
        if beginsWith "!DOCTYPE".toList inner && (inner.drop 8).any (!isBlank ·) then
          some (.aside, rest)
        else none
      | none => none
    else none
  | _ => none

/-- The piece of markup behind `<`, and what follows it. -/
def markup? (cs : List Char) : Option (Event × List Char) :=
  match cs with
  | [] => none
  | '!' :: _ => declaration? cs
  | '?' :: after => (splitMarked ['?'] 1 [] after).map fun (_, rest) => (.aside, rest)
  | '/' :: after =>
    (splitTag none after).map fun (name, rest) =>
      (.closing (if name.all isBlank then name else (name.reverse.dropWhile isBlank).reverse), rest)
  | _ =>
    (splitTag none cs).map fun (tag, rest) =>
      match tag.getLast? with
      | some '/' => (.empty tag.dropLast, rest)
      | _ => (.opening tag, rest)

/-- The reference behind `&`, up to its semicolon. -/
def reference? (cs : List Char) : Option (Event × List Char) :=
  let isEnd (c : Char) : Bool := c == ';' || c == '&' || c == '<'
  match cs.dropWhile (!isEnd ·) with
  | ';' :: rest => some (.reference (cs.takeWhile (!isEnd ·)), rest)
  | _ => none

/-- The first piece of a text that is not empty. -/
def first? (cs : List Char) : Option (Event × List Char) :=
  match cs with
  | '<' :: rest => markup? rest
  | '&' :: rest => reference? rest
  | _ =>
    let isEnd (c : Char) : Bool := c == '<' || c == '&'
    some (.text (cs.takeWhile (!isEnd ·)), cs.dropWhile (!isEnd ·))

-- ============================================================ whole texts

/-- The elements still open after a piece, if it may stand here. -/
def track? (opened : List (List Char)) : Event → Option (List (List Char))
  | .opening tag => some (nameOf tag :: opened)
  | .closing name =>
    match opened with
    | top :: below => if top = name then some below else none
    | [] => none
  | _ => some opened

/-- The pieces of a text up to its first fault, and whether there is none.
The first argument bounds their number. -/
def scanFrom : Nat → List (List Char) → List Char → List Event × Bool
  | _, _, [] => ([], true)
  | 0, _, _ => ([], false)
  | fuel + 1, opened, cs =>
    match first? cs with
    | none => ([], false)
    | some (event, rest) =>
      match track? opened event with
      | none => ([], false)
      | some opened =>
        let (events, complete) := scanFrom fuel opened rest
        (event :: events, complete)

/-- The pieces of a text, a byte order mark aside. -/
def scan (cs : List Char) : List Event × Bool :=
  match cs with
  | c :: rest =>
    if c.toNat == 0xFEFF then scanFrom rest.length [] rest
    else scanFrom cs.length [] cs
  | [] => ([], true)

-- ================================================================ the texts

/-- A text without the XML blanks around it. -/
def trimmed (cs : List Char) : List Char :=
  ((cs.dropWhile isBlank).reverse.dropWhile isBlank).reverse

/-- The pieces of text in a document, trimmed, those left empty dropped. -/
def texts? (cs : List Char) : Option (List String) :=
  match scan cs with
  | (events, true) =>
    some <| events.filterMap fun
      | .text chars =>
        let piece := trimmed chars
        if piece.isEmpty then none else some (String.ofList piece)
      | _ => none
  | (_, false) => none

end CloudSession.Xml
