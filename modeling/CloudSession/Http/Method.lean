/-
The request methods that a service call may use.
-/

namespace CloudSession

/-- A request method. -/
inductive Method
  | get
  | post
  | put
  | patch
  | delete
  | head
deriving DecidableEq, Repr

namespace Method

/-- The name of a method on the wire. -/
def name : Method → String
  | .get => "GET"
  | .post => "POST"
  | .put => "PUT"
  | .patch => "PATCH"
  | .delete => "DELETE"
  | .head => "HEAD"

/-- Every method, in the order of its type. -/
def all : List Method := [.get, .post, .put, .patch, .delete, .head]

/-- Whether a request carries a body by default. -/
def hasBody : Method → Bool
  | .post => true
  | .put => true
  | _ => false

/-- The method of a name in any ASCII case. -/
def ofName? (s : String) : Option Method := all.find? (·.name == s.toUpper)

/-- What is said of a name that is no method. -/
def unknownMessage (s : String) : String := "unsupported HTTP method: " ++ s.toUpper

end Method
end CloudSession
