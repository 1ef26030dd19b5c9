/-
The handshake of an identity: one request, and the context that its answer
yields. Nothing is sent when the auth URL of a login cannot be used. The
handshake also decides how later requests carry the token and which form
the catalog has.
-/
import CloudSession.Handshake.Keystone
import CloudSession.Handshake.VCloud

namespace CloudSession

/-- What a transport gives for a request: a response, or why there is none. -/
abbrev Answer := Except String Response

namespace Handshake

-- ================================================================= exchange

/-- The origin that a login is sent to. -/
def loginOrigin (i : Identity) : Except SessionError String :=
  (Connection.ofUrl i.authUrl).map Connection.origin

/-- The request of a handshake. -/
def request (i : Identity) : Except SessionError Request :=
  match i.protocol with
  | .keystone k => .ok (k.request i.authUrl i.credentials i.scope)
  | .vcloud v => (loginOrigin i).map fun origin => v.request origin i.credentials

/-- The context in a response to the handshake. -/
def read (i : Identity) (r : Response) : Except SessionError Context :=
  match i.protocol with
  | .keystone k => k.read r
  | .vcloud v => (loginOrigin i).bind fun origin => v.read origin r

/-- The context that an answer to the handshake yields. -/
def conclude (i : Identity) : Answer → Except SessionError Context
  | .ok r => read i r
  | .error message => .error (.transport message)

-- =============================================================== conditions

/-- Whether the handshake of a protocol needs a tenant for a project scope. -/
def needsTenant : Protocol → Bool
  | .keystone .v3Password => true
  | .keystone .v3Token => true
  | _ => false

/-- What must hold of an identity before any handshake. -/
def validate (i : Identity) : Except SessionError Unit :=
  if (Text.trim i.authUrl).isEmpty then .error (.configuration .noAuthUrl)
  else if needsTenant i.protocol && i.scope.lacksTenant then .error (.configuration .noTenant)
  else .ok ()

-- =========================================================== after the token

/-- The form of the catalog that the handshake yields. -/
def catalogFormat : Protocol → Catalog.Format
  | .keystone .v1 => .v1
  | .keystone .v2Password => .v2
  | .keystone .v2ApiKey => .v2
  | .keystone _ => .v3
  | .vcloud _ => .flat

/-- The token's header and the accepted media type of later requests. -/
def requestHeaders (p : Protocol) (token : String) : Headers :=
  match p with
  | .keystone _ => Headers.ofList [("X-Auth-Token", token), ("Accept", "application/json")]
  | .vcloud v => Headers.ofList [("Accept", v.accept), (v.tokenHeader, token)]

/-- The content type of later requests that bring none. -/
def defaultContentType? : Protocol → Option String
  | .keystone _ => some "application/json"
  | .vcloud _ => none

end Handshake
end CloudSession
