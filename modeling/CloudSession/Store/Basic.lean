/-
The stores that clients may share. A store in a directory needs none to
exist before its first write; one whose directory cannot be used, say
because a file stands in its place, fails in every operation. A shared store may also
be told to fail.
-/
import CloudSession.Store.Directory
import CloudSession.Store.Memory

namespace CloudSession

/-- A store of contexts. -/
inductive Store
  | memory (m : MemoryStore)
  | directory (d : Option Directory)
  | blocked (fault : StoreFault)

namespace Store

/-- The context under a key. -/
def get (s : Store) (key : String) : Except StoreFault (Option Context) :=
  match s with
  | .memory m => .ok (m.get? key)
  | .directory none => .ok none
  | .directory (some d) => d.getContext key
  | .blocked fault => .error fault

/-- Sets the context under a key. -/
def put (s : Store) (key : String) (context : Context) : Except StoreFault Store :=
  match s with
  | .memory m => .ok (.memory (m.put key context))
  | .directory d => .ok (.directory (some ((d.getD Directory.empty).putContext key context)))
  | .blocked fault => .error fault

/-- Removes a key, which need not be there. -/
def clear (s : Store) (key : String) : Except StoreFault Store :=
  match s with
  | .memory m => .ok (.memory (m.clear key))
  | .directory d => .ok (.directory (d.map (·.clearContext key)))
  | .blocked fault => .error fault

end Store

-- ============================================================ shared stores

/-- The messages with which the operations of a store are made to fail. -/
structure StoreFaults where
  get : Option String
  put : Option String
  clear : Option String
deriving DecidableEq, Repr

/-- No operation fails. -/
def StoreFaults.none : StoreFaults := ⟨.none, .none, .none⟩

/-- A store that several clients share, with the failures it is to show. -/
structure SharedStore where
  store : Store
  faults : StoreFaults

namespace SharedStore

/-- A store whose operations work as they can. -/
def ofStore (s : Store) : SharedStore := ⟨s, .none⟩

/-- Fails with a message if there is one, before anything is done. -/
def guarded {α : Type} (failure : Option String) (result : Except StoreFault α) :
    Except StoreFault α :=
  match failure with
  | some message => .error (.failure message)
  | none => result

def get (s : SharedStore) (key : String) : Except StoreFault (Option Context) :=
  guarded s.faults.get (s.store.get key)

def put (s : SharedStore) (key : String) (context : Context) : Except StoreFault SharedStore :=
  guarded s.faults.put ((s.store.put key context).map fun store => { s with store := store })

def clear (s : SharedStore) (key : String) : Except StoreFault SharedStore :=
  guarded s.faults.clear ((s.store.clear key).map fun store => { s with store := store })

end SharedStore
end CloudSession
