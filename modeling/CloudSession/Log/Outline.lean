/-
Outlines of values for a log, each on one line: words, quoted texts, lists,
and records with named parts. A record may leave parts out and says so.
-/
import CloudSession.Json.Printer
import CloudSession.Log.Quoted
import CloudSession.Time.Spelling

namespace CloudSession.Log

/-- An outline. -/
inductive Outline
  | word (text : String)
  | quoted (text : String)
  | wrapped (name : String) (content : Outline)
  | list (name : String) (items : List Outline)
  | table (name : String) (entries : List (String × Outline))
  | record (name : String) (parts : List (String × Outline)) (isWhole : Bool)
deriving Repr

namespace Outline

/-- A text that may be missing. -/
def ofText? : Option String → Outline
  | none => .word "None"
  | some s => .wrapped "Some" (.quoted s)

def ofBool (b : Bool) : Outline := .word (if b then "true" else "false")

def ofInt (i : Int) : Outline := .word (toString i)

-- =================================================================== writing

mutual

/-- The text of an outline. -/
def write : Outline → List Char
  | .word text => text.toList
  | .quoted text => Log.quoted text
  | .wrapped name content => name.toList ++ '(' :: write content ++ [')']
  | .list name items => name.toList ++ ' ' :: '[' :: writeItems true items ++ [']']
  | .table name entries =>
    name.toList ++ ' ' :: '\x7b' :: writeEntries true entries ++ ['\x7d']
  | .record name parts isWhole =>
    let ending := if isWhole then [' ', '\x7d'] else ", .. \x7d".toList
    name.toList ++ ' ' :: '\x7b' :: ' ' :: writeParts true parts ++ ending

/-- Items with commas between them. -/
def writeItems (first : Bool) : List Outline → List Char
  | [] => []
  | o :: os => (if first then [] else [',', ' ']) ++ write o ++ writeItems false os

/-- Entries of a table with commas between them. -/
def writeEntries (first : Bool) : List (String × Outline) → List Char
  | [] => []
  | (key, o) :: es =>
    (if first then [] else [',', ' ']) ++ Log.quoted key ++ ':' :: ' ' :: write o ++
      writeEntries false es

/-- Parts of a record with commas between them. -/
def writeParts (first : Bool) : List (String × Outline) → List Char
  | [] => []
  | (name, o) :: ps =>
    (if first then [] else [',', ' ']) ++ name.toList ++ ':' :: ' ' :: write o ++
      writeParts false ps

end

/-- The text of an outline as a string. -/
def text (o : Outline) : String := String.ofList (write o)

-- =============================================================== JSON values

mutual

/-- The outline of a JSON value. -/
def ofJson : Json → Outline
  | .null => .word "Null"
  | .bool b => .wrapped "Bool" (ofBool b)
  | .number n => .wrapped "Number" (.word (String.ofList n.write))
  | .str s => .wrapped "String" (.quoted s)
  | .arr items => .list "Array" (ofItems items)
  | .obj members => .table "Object" (ofMembers members)

/-- The outlines of items. -/
def ofItems : List Json → List Outline
  | [] => []
  | v :: vs => ofJson v :: ofItems vs

/-- The outlines of members. -/
def ofMembers : List (String × Json) → List (String × Outline)
  | [] => []
  | (k, v) :: ms => (k, ofJson v) :: ofMembers ms

end

end Outline
end CloudSession.Log
