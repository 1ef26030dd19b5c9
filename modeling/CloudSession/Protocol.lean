/-
The authentication protocols. Keystone comes in three versions, two of them
with several kinds of credentials; vCloud Director in three. Each protocol
has one identifier, and some have a second name.
-/
import CloudSession.Text.Blank

namespace CloudSession

/-- A Keystone version and its kind of credentials. -/
inductive Keystone
  | v1
  | v2Password
  | v2ApiKey
  | v3Password
  | v3Token
  | v3ApplicationCredential
deriving DecidableEq, Repr

/-- A vCloud Director version. -/
inductive VCloud
  | v08
  | v15
  | v55
deriving DecidableEq, Repr

/-- An authentication protocol. -/
inductive Protocol
  | keystone (k : Keystone)
  | vcloud (v : VCloud)
deriving DecidableEq, Repr

namespace Protocol

/-- The identifier of a protocol. -/
def id : Protocol → String
  | .keystone .v1 => "1.1"
  | .keystone .v2Password => "2.0_password"
  | .keystone .v2ApiKey => "2.0_apikey"
  | .keystone .v3Password => "3.x_password"
  | .keystone .v3Token => "3.x_token"
  | .keystone .v3ApplicationCredential => "3.x_appcred"
  | .vcloud .v08 => "vcloud_0.8"
  | .vcloud .v15 => "vcloud_1.5"
  | .vcloud .v55 => "vcloud_5.5"

/-- The other name of a protocol that has one. -/
def alias? : Protocol → Option String
  | .keystone .v2Password => some "2.0"
  | .keystone .v3Password => some "3.x"
  | .vcloud .v08 => some "0.8"
  | _ => none

/-- Every protocol. -/
def all : List Protocol :=
  [.keystone .v1, .keystone .v2Password, .keystone .v2ApiKey, .keystone .v3Password,
    .keystone .v3Token, .keystone .v3ApplicationCredential, .vcloud .v08, .vcloud .v15,
    .vcloud .v55]

/-- The protocol that a text names, blanks around it aside. -/
def ofName? (s : String) : Option Protocol :=
  all.find? fun p => p.id == Text.trim s || p.alias? == some (Text.trim s)

/-- Whether the handshake reports when a token expires. -/
def reportsExpiry : Protocol → Bool
  | .keystone _ => true
  | .vcloud _ => false

end Protocol
end CloudSession
