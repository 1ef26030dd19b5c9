/-
The configuration of a profile. The first thing that is wrong is reported:
the protocol, the secret, the forced token without a base URL, the
microversion, and the skew.
-/
import CloudSession.Profile.Basic

namespace CloudSession.Profile

/-- The environment variable that may hold the secret. -/
def secretVariable (p : Profile) : String := p.secretEnv.getD "NIMBUS_SECRET"

/-- The secret of a profile or of its environment variable. One with a
forced token needs none. -/
def findSecret (p : Profile) (name : String) (environment : String → Option String) :
    Except ProfileError String :=
  match p.secret, environment p.secretVariable, p.token with
  | some secret, _, _ => .ok secret
  | none, some secret, _ => .ok secret
  | none, none, some _ => .ok ""
  | none, none, none => .error (.noSecret name p.secretVariable)

/-- The scope that a profile asks for. -/
def scope (p : Profile) : Scope :=
  ⟨p.tokenScope, p.domainName.getD Scope.default.domainName, p.tenantName,
    p.tenantDomainId.getD Scope.default.tenantDomainId⟩

/-- What a profile fixes. Type, name and region of the service are defaults
instead. -/
def selector (p : Profile) : Selector :=
  { Selector.none with
    baseUrl := p.baseUrl
    microversion := p.microversion
    token := p.token
    interface := p.interface }

/-- The most seconds that a span of time can hold. -/
def maxSkewSeconds : Nat := 9223372036854775

/-- The configuration of a profile that is known under a name. -/
def config (p : Profile) (name : String) (environment : String → Option String) :
    Except ProfileError Config := do
  let protocol ← (Protocol.named p.protocol).mapError (.invalid name)
  let secret ← p.findSecret name environment
  let _ ← p.selector.validate.mapError (.invalid name)
  if maxSkewSeconds < p.skewSeconds.natAbs then throw .skewRange
  return {
    identity := ⟨protocol, p.authUrl, ⟨p.userId, secret⟩, p.scope⟩
    selector := p.selector
    defaults := p.service
    skew := p.skewSeconds * 1000000000
    evictsForced := p.evictsForced
    sharesStore := false }

end CloudSession.Profile
