/-
An XML document as far as a reader of two levels needs it: the attributes
of the root, and of those children whose names are wanted. Other children
are skipped whole; only their tags must match. Element and attribute names
count without their namespace prefixes.
-/
import CloudSession.Xml.Event
import CloudSession.Text.Hex

namespace CloudSession.Xml

-- ============================================================== references

/-- A text of decimal or hexadecimal digits as a number. -/
def number? (radix : Nat) (digits : List Char) : Option Nat :=
  if digits.isEmpty then none
  else digits.foldlM (fun n c =>
    match Text.Hex.value? c with
    | some d => if d < radix then some (radix * n + d) else none
    | none => none) 0

/-- The character of a code point, which is neither zero nor a surrogate. -/
def character? (n : Nat) : Option Char :=
  if n == 0 then none
  else if h : n.isValidChar then some (Char.ofNatAux n h)
  else none

/-- The character that a reference stands for. -/
def resolve? (name : List Char) : Option Char :=
  match name with
  | '#' :: 'x' :: digits => (number? 16 digits).bind character?
  | '#' :: digits => (number? 10 digits).bind character?
  | _ =>
    [("lt", '<'), ("gt", '>'), ("amp", '&'), ("apos", '\''), ("quot", '"')].lookup
      (String.ofList name)

/-- A text with its references resolved. Between `&` and `;` no other `&`
stands. -/
def unescape? : Nat → List Char → Option (List Char)
  | _, [] => some []
  | 0, _ => none
  | fuel + 1, '&' :: cs =>
    match cs.dropWhile fun c => c != ';' && c != '&' with
    | ';' :: rest =>
      match resolve? (cs.takeWhile fun c => c != ';' && c != '&'), unescape? fuel rest with
      | some c, some text => some (c :: text)
      | _, _ => none
    | _ => none
  | fuel + 1, c :: cs => (unescape? fuel cs).map (c :: ·)

-- ============================================================== attributes

/-- An attribute as written: its full name and its value with references. -/
structure Attribute where
  name : List Char
  value : List Char
deriving DecidableEq, Repr

/-- A name without its prefix. Namespace declarations keep theirs. -/
def localName (name : List Char) : List Char :=
  match name.dropWhile (· != ':') with
  | ':' :: rest => if name.takeWhile (· != ':') = "xmlns".toList then name else rest
  | _ => name

/-- The attributes behind a tag's name: each a name, an equals sign and a
quoted value, and no full name twice. -/
def attributes? : Nat → List (List Char) → List Char → Option (List Attribute)
  | fuel, seen, cs =>
    match cs.dropWhile isBlank, fuel with
    | [], _ => some []
    | _, 0 => none
    | c :: cs, fuel + 1 =>
      let inName (c : Char) : Bool := c != '=' && !isBlank c
      let name := c :: cs.takeWhile inName
      match (cs.dropWhile inName).dropWhile isBlank with
      | '=' :: rest =>
        if name ∈ seen then none
        else
          match rest.dropWhile isBlank with
          | q :: rest =>
            if q == '"' || q == '\'' then
              match rest.dropWhile (· != q) with
              | _ :: after =>
                (attributes? fuel (name :: seen) after).map
                  (⟨name, rest.takeWhile (· != q)⟩ :: ·)
              | [] => none
            else none
          | [] => none
      | _ => none

/-- The attributes of a tag. -/
def tagAttributes? (tag : List Char) : Option (List Attribute) :=
  attributes? tag.length [] (tag.drop (nameOf tag).length)

/-- The value of the attribute with a local name, if there is one; none at
all when two have that name or the value does not resolve. -/
def value? (attributes : List Attribute) (name : String) : Option (Option String) :=
  match attributes.filter fun a => localName a.name = name.toList with
  | [] => some none
  | [a] => (unescape? a.value.length a.value).map fun text => some (String.ofList text)
  | _ => none

-- ================================================================ elements

/-- What an element holds: text, a child that nobody wants, or a wanted one
with its full name and attributes. -/
inductive Child
  | text
  | other
  | wanted (name : List Char) (attributes : List Attribute)
deriving DecidableEq, Repr

/-- The root element of a document. -/
structure Element where
  attributes : List Attribute
  children : List Child
deriving DecidableEq, Repr

/-- Splits empty elements into their two tags and drops what no reader sees. -/
def plain (events : List Event) : List Event :=
  events.flatMap fun
    | .empty tag => [.opening tag, .closing (nameOf tag)]
    | .aside => []
    | event => [event]

/-- What follows the closing tag of an element of which `depth` inner
elements are open. -/
def skip? : Nat → List Event → Option (List Event)
  | _, [] => none
  | depth, .opening _ :: rest => skip? (depth + 1) rest
  | 0, .closing _ :: rest => some rest
  | depth + 1, .closing _ :: rest => skip? depth rest
  | depth, _ :: rest => skip? depth rest

/-- The text at the front of an element's contents: whether there is any
besides leading blanks, and what follows. Its references must resolve. -/
def text? : Bool → List Event → Option (Bool × List Event)
  | found, .text chars :: rest => text? (found || !chars.all isBlank) rest
  | _, .cdata :: rest => text? true rest
  | _, .reference name :: rest => if (resolve? name).isSome then text? true rest else none
  | found, rest => some (found, rest)

/-- The children of an element up to its closing tag, and what follows it.
Of the children named in `wanted` the attributes are read, and their own
contents the same way with nothing wanted. The first argument bounds the
steps. -/
def children? : Nat → List String → List Event → Option (List Child × List Event)
  | 0, _, _ => none
  | fuel + 1, wanted, events =>
    match text? false events with
    | none => none
    | some (true, rest) =>
      (children? fuel wanted rest).map fun (children, rest) => (.text :: children, rest)
    | some (false, .closing _ :: rest) => some ([], rest)
    | some (false, .opening tag :: rest) =>
      if String.ofList (localName (nameOf tag)) ∈ wanted then
        match tagAttributes? tag, children? fuel [] rest with
        | some attributes, some (_, rest) =>
          (children? fuel wanted rest).map fun (children, rest) =>
            (.wanted (nameOf tag) attributes :: children, rest)
        | _, _ => none
      else
        match skip? 0 rest with
        | none => none
        | some rest =>
          (children? fuel wanted rest).map fun (children, rest) => (.other :: children, rest)
    | some (false, _) => none

/-- The root element of a document, with the wanted children read. What
follows the root is not looked at. -/
def Element.read? (wanted : List String) (cs : List Char) : Option Element :=
  let events := plain (scan cs).1
  match text? false events with
  | some (false, .opening tag :: rest) =>
    match tagAttributes? tag, children? (2 * events.length + 2) wanted rest with
    | some attributes, some (children, _) => some ⟨attributes, children⟩
    | _, _ => none
  | _ => none

end CloudSession.Xml
