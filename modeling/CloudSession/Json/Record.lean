/-
Records in JSON text. A record is an object with named fields, each at most
once, whose other members are skipped unread; or an array of the fields in
their order. A field that an object omits may have a default where one that
an array omits has none, so `Record` remembers which form was read.
-/
import CloudSession.Json.Reading

namespace CloudSession.Json

/-- The fields found in a record, and whether they stood under their names. -/
structure Record where
  named : Bool
  fields : List (String × Doc)

namespace Record

/-- Collects the known members of an object; a repeated one is refused. -/
def collect? (names : List String) :
    List (String × Doc) → List (List Piece × Doc) → Option (List (String × Doc))
  | found, [] => some found
  | found, (key, d) :: ms =>
    match string? key with
    | none => none
    | some k =>
      if k ∈ names then
        if (found.lookup k).isSome then none else collect? names ((k, d) :: found) ms
      else collect? names found ms

/-- The record of a syntax tree, for fields in their order. -/
def ofDoc? (names : List String) : Doc → Option Record
  | .obj members => (collect? names [] members).map (⟨true, ·⟩)
  | .arr items =>
    if items.length ≤ names.length then some ⟨false, names.zip items⟩ else none
  | _ => none

/-- The text of a field, if it was given. -/
def get? (r : Record) (name : String) : Option Doc := r.fields.lookup name

end Record

-- ======================================================== field readings

/-- The text of a string field. -/
def Doc.text? : Doc → Option String
  | .str ps => string? ps
  | _ => none

/-- A field that may be null. -/
def Doc.nullable? {α : Type} (read : Doc → Option α) : Doc → Option (Option α)
  | .null => some none
  | d => (read d).map some

/-- A field that may be null or missing. -/
def Record.optional? {α : Type} (r : Record) (name : String) (read : Doc → Option α) :
    Option (Option α) :=
  match r.get? name with
  | none => some none
  | some d => d.nullable? read

/-- A field that must be there. -/
def Record.required? {α : Type} (r : Record) (name : String) (read : Doc → Option α) :
    Option α :=
  (r.get? name).bind read

end CloudSession.Json
