/-
API microversions. A text of two words names a service and a version; one
word alone is a version of the compute service.
-/
import CloudSession.Error
import CloudSession.Text.Part

namespace CloudSession

/-- A version of a service's API. -/
structure Microversion where
  service : String
  version : String
deriving DecidableEq, Repr

namespace Microversion

/-- The header that asks a service for a microversion. -/
def header : String := "OpenStack-API-Version"

/-- The service and the version with one space between them. -/
def text (m : Microversion) : String := m.service ++ " " ++ m.version

/-- Reads one word or two. -/
def parse (s : String) : Except SessionError Microversion :=
  match Text.words s.toList with
  | [version] => .ok ⟨"compute", String.ofList version⟩
  | [service, version] => .ok ⟨String.ofList service, String.ofList version⟩
  | _ => .error (.configuration (.microversion s))

/-- The header value for a service type, if the type belongs to the
service's family. -/
def headerFor? (m : Microversion) (serviceType : String) : Option String :=
  if Text.startsWith serviceType m.service then some m.text else none

end Microversion
end CloudSession
