/-
Contexts kept in memory by key. A key has at most one context.
-/
import CloudSession.Context

namespace CloudSession

/-- The entries of a store that lives with its owner. -/
structure MemoryStore where
  entries : List (String × Context)

namespace MemoryStore

def empty : MemoryStore := ⟨[]⟩

/-- The context under a key. -/
def get? (m : MemoryStore) (key : String) : Option Context := m.entries.lookup key

/-- Removes a key, which need not be there. -/
def clear (m : MemoryStore) (key : String) : MemoryStore :=
  ⟨m.entries.filter (·.1 != key)⟩

/-- Sets the context under a key. -/
def put (m : MemoryStore) (key : String) (context : Context) : MemoryStore :=
  ⟨(key, context) :: (m.clear key).entries⟩

def size (m : MemoryStore) : Nat := m.entries.length

def isEmpty (m : MemoryStore) : Bool := m.entries.isEmpty

end MemoryStore
end CloudSession
