/-
Parts of a text: what it begins and ends with, what it holds, and cutting
it at a separator. `splitAll` gives one piece more than there are
separators and `join` puts the pieces together again.
-/

namespace CloudSession.Text

-- ============================================================= searching

/-- Whether a text begins with another. -/
def startsWith (s start : String) : Bool := start.toList.isPrefixOf s.toList

/-- Whether a text ends with another. -/
def endsWith (s tail : String) : Bool := tail.toList.isSuffixOf s.toList

/-- Whether some part of a list of characters is the given one. -/
def containsPart (part : List Char) : List Char → Bool
  | [] => part.isEmpty
  | c :: cs => part.isPrefixOf (c :: cs) || containsPart part cs

-- =============================================================== cutting

/-- The characters before the first `sep` and those after it. -/
def splitFirst (sep : Char) : List Char → Option (List Char × List Char)
  | [] => none
  | c :: cs =>
    if c == sep then some ([], cs)
    else (splitFirst sep cs).map fun (before, after) => (c :: before, after)

/-- The pieces between the separators, the first and the last included. -/
def splitAll (sep : Char) : List Char → List (List Char)
  | [] => [[]]
  | c :: cs =>
    if c == sep then [] :: splitAll sep cs
    else
      match splitAll sep cs with
      | [] => [[c]]
      | piece :: rest => (c :: piece) :: rest

/-- The pieces with a separator between each two. -/
def join (sep : List Char) : List (List Char) → List Char
  | [] => []
  | [piece] => piece
  | piece :: rest => piece ++ sep ++ join sep rest

/-- Texts with a separator between each two. -/
def joinTexts (sep : String) (texts : List String) : String :=
  String.ofList (join sep.toList (texts.map String.toList))

end CloudSession.Text
