/-
JSON values. A whole number in the range of 64-bit words is kept exactly,
any other number as a double. `Json.object` builds an object whose keys
stand in ascending order, the last value of a repeated key winning; a
record that is written in a fixed order is an `obj` in that order.
-/
import CloudSession.Ascending
import CloudSession.Double.Basic

namespace CloudSession

/-- A number of a JSON value. -/
inductive Json.Number
  | whole (n : Int)
  | real (d : Double)
deriving DecidableEq, Repr

/-- A JSON value. -/
inductive Json
  | null
  | bool (b : Bool)
  | number (n : Json.Number)
  | str (s : String)
  | arr (items : List Json)
  | obj (members : List (String × Json))
deriving Repr

namespace Json

instance : Inhabited Json := ⟨.null⟩

-- =============================================================== objects

/-- The object of some members, whatever their order. -/
def object (members : List (String × Json)) : Json := .obj (Ascending.ofList members)

/-- The text `s`, or null when there is none. -/
def ofText? : Option String → Json
  | some s => .str s
  | none => .null

/-- A natural as a whole number. -/
def ofNat (n : Nat) : Json := .number (.whole n)

-- ============================================================= observers

/-- The member of an object under a key. Nothing else has members. -/
def get? (key : String) : Json → Option Json
  | .obj members => members.lookup key
  | _ => none

def text? : Json → Option String
  | .str s => some s
  | _ => none

def items? : Json → Option (List Json)
  | .arr items => some items
  | _ => none

def members? : Json → Option (List (String × Json))
  | .obj members => some members
  | _ => none

/-- The string member of an object under a key. -/
def textAt? (key : String) (v : Json) : Option String := (v.get? key).bind text?

end Json
end CloudSession
