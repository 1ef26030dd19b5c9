/-
What the nodes of a YAML document say where a kind of value is wanted. A
scalar of any style is a text as written, so a plain `5` is one too; it is
null, true or a number only if it is plain. An alias is as good as the node
that it stands for.
-/
import CloudSession.Yaml.Node

namespace CloudSession.Yaml

-- ============================================================== plain scalars

/-- Whether a word is one of the spellings of null, the empty one aside. -/
def isNullWord (text : List Char) : Bool :=
  String.ofList text ∈ ["null", "Null", "NULL", "~"]

/-- The truth value that a word spells. -/
def truth? (text : List Char) : Option Bool :=
  let word := String.ofList text
  if word ∈ ["true", "True", "TRUE"] then some true
  else if word ∈ ["false", "False", "FALSE"] then some false
  else none

/-- The number of digits in a base, of which there must be one. -/
def digits? (base : Nat) (text : List Char) : Option Nat :=
  if text.isEmpty then none
  else
    text.foldlM (fun n c =>
      (Text.Hex.value? c).bind fun d => if d < base then some (base * n + d) else none) 0

/-- The magnitude of a number without its sign: hexadecimal, octal or binary
behind its mark, else decimal without a leading zero. -/
def magnitude? : List Char → Option Nat
  | '0' :: 'x' :: rest => digits? 16 rest
  | '0' :: 'o' :: rest => digits? 8 rest
  | '0' :: 'b' :: rest => digits? 2 rest
  | '0' :: c :: rest => if (c :: rest).all Char.isDigit then none else digits? 10 (c :: rest)
  | text => digits? 10 text

/-- The whole number that a word spells. -/
def integer? : List Char → Option Int
  | '+' :: rest => (magnitude? rest).map (↑·)
  | '-' :: rest => (magnitude? rest).map (-↑·)
  | text => (magnitude? text).map (↑·)

-- ==================================================================== values

namespace Document

/-- The node that a node stands for. -/
def resolve (d : Document) : Node → Node
  | .alias number => (d.anchored.lookup number).getD (.alias number)
  | node => node

/-- The text of a scalar. -/
def text? (d : Document) (n : Node) : Option String :=
  match d.resolve n with
  | .scalar _ _ text => some (String.ofList text)
  | _ => none

/-- The tag of a null. -/
def nullTag : List Char := "tag:yaml.org,2002:null".toList

/-- A value that may be null or missing. A scalar with a tag is null only if
the tag says so, and then it must be spelled so. -/
def optional? {α : Type} (d : Document) (read : Node → Option α) (n : Node) :
    Option (Option α) :=
  match d.resolve n with
  | .scalar none .plain text =>
    if text.isEmpty || isNullWord text then some none else (read n).map some
  | .scalar (some tag) .plain text =>
    if tag != nullTag then (read n).map some
    else if isNullWord text then some none
    else none
  | _ => (read n).map some

/-- The text of a plain scalar, or of a literal block with a tag. -/
def plainText? (d : Document) (tag : String) (n : Node) : Option (List Char) :=
  match d.resolve n with
  | .scalar _ .plain text => some text
  | .scalar (some t) .literal text => if t = tag.toList then some text else none
  | _ => none

/-- A truth value. -/
def truthValue? (d : Document) (n : Node) : Option Bool :=
  (d.plainText? "tag:yaml.org,2002:bool" n).bind truth?

/-- A whole number that fits a 64-bit word. -/
def wholeNumber? (d : Document) (n : Node) : Option Int :=
  ((d.plainText? "tag:yaml.org,2002:int" n).bind integer?).filter fun i =>
    -9223372036854775808 ≤ i && i ≤ 9223372036854775807

/-- A word for one of several things: a scalar, or a tag that begins with an
exclamation mark and has nothing behind it. -/
def word? {α : Type} (d : Document) (ofWord? : String → Option α) (n : Node) : Option α :=
  match d.resolve n with
  | .scalar (some ('!' :: word)) style text =>
    if style = .plain && (text.isEmpty || isNullWord text) then ofWord? (String.ofList word)
    else none
  | .scalar _ _ text => ofWord? (String.ofList text)
  | _ => none

/-- The members of a mapping, whose keys must be scalars. An empty plain
scalar is an empty mapping. -/
def members? (d : Document) (n : Node) : Option (List (String × Node)) :=
  match d.resolve n with
  | .mapping pairs => pairs.mapM fun (key, value) => (d.text? key).map (·, value)
  | .scalar _ .plain [] => some []
  | _ => none

end Document

-- =================================================================== records

/-- The members of a mapping that are fields of a record. -/
structure Fields where
  document : Document
  entries : List (String × Node)

namespace Fields

/-- The fields with known names, each of which may stand once. Other members
are ignored. -/
def ofNode? (d : Document) (names : List String) (n : Node) : Option Fields :=
  (d.members? n).bind fun members =>
    let known := members.filter (·.1 ∈ names)
    if (known.map (·.1)).Nodup then some ⟨d, known⟩ else none

/-- A field that must be there. -/
def required? {α : Type} (f : Fields) (name : String) (read : Document → Node → Option α) :
    Option α :=
  (f.entries.lookup name).bind (read f.document)

/-- A field that may be null or missing. -/
def optional? {α : Type} (f : Fields) (name : String) (read : Document → Node → Option α) :
    Option (Option α) :=
  match f.entries.lookup name with
  | none => some none
  | some node => f.document.optional? (read f.document) node

/-- A field with a default. -/
def getD? {α : Type} (f : Fields) (name : String) (read : Document → Node → Option α)
    (default : α) : Option α :=
  match f.entries.lookup name with
  | none => some default
  | some node => read f.document node

end Fields
end CloudSession.Yaml
