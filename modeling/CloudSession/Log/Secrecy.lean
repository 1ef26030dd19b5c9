/-
What a log shows of credentials, contexts and configurations: a mask in
place of a secret and of a session token.
-/
import CloudSession.Client
import CloudSession.Log.Outline

namespace CloudSession

open Log (Outline)

/-- What stands in place of a secret. -/
def Log.mask : Outline := .quoted "***"

namespace Protocol

/-- The name of a protocol in logs. -/
def logName : Protocol → String
  | .keystone .v1 => "KeystoneV1"
  | .keystone .v2Password => "KeystoneV2Password"
  | .keystone .v2ApiKey => "KeystoneV2ApiKey"
  | .keystone .v3Password => "KeystoneV3Password"
  | .keystone .v3Token => "KeystoneV3Token"
  | .keystone .v3ApplicationCredential => "KeystoneV3ApplicationCredential"
  | .vcloud .v08 => "VCloudV08"
  | .vcloud .v15 => "VCloudV15"
  | .vcloud .v55 => "VCloudV55"

end Protocol

/-- The name of a scope in logs. -/
def TokenScope.logName : TokenScope → String
  | .project => "Project"
  | .domain => "Domain"
  | .unscoped => "Unscoped"

/-- The name of an interface in logs. -/
def Interface.logName : Interface → String
  | .published => "Public"
  | .internal => "Internal"
  | .admin => "Admin"

def Credentials.outline (c : Credentials) : Outline :=
  .record "Credentials" [("user_id", .quoted c.userId), ("secret", Log.mask)] true

def Scope.outline (s : Scope) : Outline :=
  .record "ScopeOptions"
    [("token_scope", .word s.kind.logName), ("domain_name", .quoted s.domainName),
      ("tenant_name", .ofText? s.tenantName), ("tenant_domain_id", .quoted s.tenantDomainId)]
    true

def Selector.outline (s : Selector) : Outline :=
  let interface := match s.interface with
    | .none => .word "None"
    | some i => .wrapped "Some" (.word i.logName)
  .record "EndpointSelector"
    [("base_url", .ofText? s.baseUrl), ("service_type", .ofText? s.type),
      ("service_name", .ofText? s.name), ("region", .ofText? s.region),
      ("microversion", .ofText? s.microversion), ("auth_token", .ofText? s.token),
      ("interface", interface)]
    true

def Wanted.outline (w : Wanted) : Outline :=
  .record "EndpointDefaults"
    [("service_type", .quoted w.type), ("service_name", .ofText? w.name),
      ("region", .ofText? w.region)]
    true

/-- The outline of a span of nanoseconds: seconds, rounded down, and the
nanoseconds beyond them. -/
def Log.spanOutline (nanos : Int) : Outline :=
  .record "TimeDelta"
    [("secs", .ofInt (nanos / 1000000000)), ("nanos", .ofInt (nanos % 1000000000))] true

def Config.outline (c : Config) : Outline :=
  .record "ClientConfig"
    [("protocol", .word c.identity.protocol.logName), ("auth_url", .quoted c.identity.authUrl),
      ("credentials", c.identity.credentials.outline), ("scope", c.identity.scope.outline),
      ("selector", c.selector.outline), ("defaults", c.defaults.outline),
      ("clock_skew", Log.spanOutline c.skew),
      ("evict_forced_token_on_unauthorized", .ofBool c.evictsForced),
      ("store", .ofBool c.sharesStore)]
    false

def Context.outline (c : Context) : Outline :=
  let expires := match c.expires with
    | none => .word "None"
    | some i => .wrapped "Some" (.word i.text)
  let user := match c.user with
    | none => .word "None"
    | some v => .wrapped "Some" (.ofJson v)
  .record "AuthContext" [("token", Log.mask), ("expires", expires), ("user", user)] false

end CloudSession
