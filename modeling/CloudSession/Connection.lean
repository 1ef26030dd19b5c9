/-
Where the requests for an endpoint go: scheme, host and port decide the
connection, and the path of the base URL stands in front of every action.
An action that is itself an absolute URL keeps only its path and query.
-/
import CloudSession.Error
import CloudSession.Text.Blank
import CloudSession.Text.Part

namespace CloudSession

/-- A connection and the path in front of the actions sent over it. -/
structure Connection where
  scheme : String
  host : String
  port : Nat
  pathPrefix : String
deriving DecidableEq, Repr

namespace Connection

/-- The connection of a base URL, blanks around it aside. -/
def ofUrl (baseUrl : String) : Except SessionError Connection :=
  match Url.parse (Text.trim baseUrl) with
  | .error fault => .error (.configuration (.url baseUrl fault))
  | .ok url =>
    match url.host with
    | none => .error (.configuration (.urlWithoutHost baseUrl))
    | some host =>
      match url.effectivePort? with
      | none => .error (.configuration (.urlWithoutPort baseUrl))
      | some port => .ok ⟨url.scheme, host, port, Text.trimEndSlashes url.path⟩

def isSecure (c : Connection) : Bool := c.scheme == "https"

/-- Whether two share a connection: the paths do not count. -/
def sameConnection (a b : Connection) : Bool :=
  a.scheme == b.scheme && a.host == b.host && a.port == b.port

/-- The port that an origin leaves out. -/
def impliedPort (scheme : String) : Nat :=
  if scheme == "https" then 443 else if scheme == "http" then 80 else 0

/-- The scheme, host and port as text. -/
def origin (c : Connection) : String :=
  if c.port == impliedPort c.scheme then c.scheme ++ "://" ++ c.host
  else c.scheme ++ "://" ++ c.host ++ ":" ++ toString c.port

/-- The path and query of an absolute URL that names a host. -/
def absoluteTarget? (action : String) : Option String :=
  match Url.parse action with
  | .error _ => none
  | .ok url =>
    if url.host.isNone then none
    else
      match url.query with
      | none => some url.path
      | some query => some (url.path ++ "?" ++ query)

/-- What stands behind the origin in the URL for an action. -/
def target (c : Connection) (action : String) : String :=
  match absoluteTarget? action with
  | some target => target
  | none =>
    if action.isEmpty then c.pathPrefix
    else if Text.startsWith action "/" then c.pathPrefix ++ action
    else c.pathPrefix ++ "/" ++ action

/-- The URL for an action. -/
def urlFor (c : Connection) (action : String) : String := c.origin ++ c.target action

end Connection
end CloudSession
