/-
Header lists. Names are compared without regard to ASCII case; setting a
name removes its former value and puts the new pair last, so no name stands
twice and the order is that of the last settings.
-/

namespace CloudSession

/-- The header pairs of a message, in order. -/
structure Headers where
  entries : List (String × String)
deriving DecidableEq, Repr

namespace Headers

-- =============================================================== the names

/-- Whether two names are equal but for ASCII case. -/
def sameName (a b : String) : Bool := a.toLower == b.toLower

-- ============================================================== operations

def empty : Headers := ⟨[]⟩

/-- The value under a name. -/
def get? (h : Headers) (name : String) : Option String :=
  (h.entries.find? fun entry => sameName entry.1 name).map (·.2)

def contains (h : Headers) (name : String) : Bool := (h.get? name).isSome

/-- Puts a pair last and drops the former value of its name. -/
def set (h : Headers) (name value : String) : Headers :=
  ⟨h.entries.filter (fun entry => !sameName entry.1 name) ++ [(name, value)]⟩

/-- Sets every pair of a list in order. -/
def setAll (h : Headers) (pairs : List (String × String)) : Headers :=
  pairs.foldl (fun h (name, value) => h.set name value) h

/-- The headers that a list of pairs sets. -/
def ofList (pairs : List (String × String)) : Headers := empty.setAll pairs

/-- Lays other headers over these. -/
def extend (h other : Headers) : Headers := h.setAll other.entries

def size (h : Headers) : Nat := h.entries.length

def isEmpty (h : Headers) : Bool := h.entries.isEmpty

end Headers
end CloudSession
