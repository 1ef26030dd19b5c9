/-
Who authenticates where: the credentials, the scope that the token is asked
for, and the identity that both form with a protocol and an auth URL.
-/
import CloudSession.Protocol

namespace CloudSession

/-- A user and the secret that proves it. -/
structure Credentials where
  userId : String
  secret : String
deriving DecidableEq, Repr

/-- What a token is scoped to. -/
inductive TokenScope
  | project
  | domain
  | unscoped
deriving DecidableEq, Repr

namespace TokenScope

/-- The word for a scope. -/
def word : TokenScope → String
  | .project => "project"
  | .domain => "domain"
  | .unscoped => "unscoped"

def all : List TokenScope := [.project, .domain, .unscoped]

/-- The scope of a word. -/
def ofWord? (s : String) : Option TokenScope := all.find? (·.word == s)

/-- What is said of a word that is no scope. -/
def unknownMessage (s : String) : String := "unknown token scope: " ++ s

end TokenScope

/-- The scope that a token is asked for. -/
structure Scope where
  kind : TokenScope
  domainName : String
  tenantName : Option String
  tenantDomainId : String
deriving DecidableEq, Repr

/-- A project scope in the default domain, with no tenant named. -/
def Scope.default : Scope := ⟨.project, "Default", none, "default"⟩

/-- Whether a scope is a project's and names no tenant for it. -/
def Scope.lacksTenant (s : Scope) : Bool :=
  s.kind == .project && s.tenantName.all String.isEmpty

/-- Everything that decides which session a handshake yields. -/
structure Identity where
  protocol : Protocol
  authUrl : String
  credentials : Credentials
  scope : Scope
deriving DecidableEq, Repr

end CloudSession
