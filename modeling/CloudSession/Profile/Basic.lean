/-
Profiles: the accounts that a user has named in a YAML file. Of a repeated
profile the last one counts; a repeated field of a profile is refused.
-/
import CloudSession.Ascending
import CloudSession.Client
import CloudSession.Yaml.Value

namespace CloudSession

-- =================================================================== errors

/-- Why there is no configuration. A skew that no span of time can hold is
the last cause. -/
inductive ProfileError
  | noCacheDirectory
  | noFile
  | unreadable
  | notProfiles
  | undefined (profile : String)
  | noSecret (profile env : String)
  | invalid (profile : String) (fault : SessionError)
  | skewRange
deriving DecidableEq, Repr

def ProfileError.message : ProfileError → String
  | .noCacheDirectory => "Could not determine the user's cache directory"
  | .noFile =>
    "No configuration file found. Looked in:\n" ++
      "- the current directory: nimbus.local.yaml, nimbus.yaml\n" ++
      "- ~/.config/nimbus/config.yaml\n" ++
      "Set NIMBUS_CONFIG_PATH to point at a file directly"
  | .unreadable => "IO error"
  | .notProfiles => "YAML error"
  | .undefined profile => "Profile '" ++ profile ++ "' is not defined"
  | .noSecret profile env =>
    "Profile '" ++ profile ++ "' has no secret (set `secret` or export " ++ env ++ ")"
  | .invalid profile fault => "Profile '" ++ profile ++ "' is invalid: " ++ fault.message
  | .skewRange => "TimeDelta::seconds out of bounds"

-- ================================================================= profiles

/-- One account on one cloud. The secret may be left to an environment
variable. -/
structure Profile where
  protocol : String
  authUrl : String
  userId : String
  secret : Option String
  secretEnv : Option String
  tokenScope : TokenScope
  domainName : Option String
  tenantName : Option String
  tenantDomainId : Option String
  service : Wanted
  interface : Option Interface
  baseUrl : Option String
  token : Option String
  microversion : Option String
  skewSeconds : Int
  evictsForced : Bool
deriving DecidableEq, Repr

namespace Profile

/-- The names of the fields. -/
def fieldNames : List String :=
  ["protocol", "auth_url", "user_id", "secret", "secret_env", "token_scope", "domain_name",
    "tenant_name", "tenant_domain_id", "service_type", "service_name", "region", "interface",
    "base_url", "auth_token", "microversion", "clock_skew_secs",
    "evict_forced_token_on_unauthorized"]

/-- The profile of a mapping. -/
def ofNode? (d : Yaml.Document) (n : Yaml.Node) : Option Profile := do
  let fields ← Yaml.Fields.ofNode? d fieldNames n
  let text? (name : String) : Option (Option String) := fields.optional? name (·.text?)
  return {
    protocol := ← fields.required? "protocol" (·.text?)
    authUrl := ← fields.required? "auth_url" (·.text?)
    userId := ← fields.required? "user_id" (·.text?)
    secret := ← text? "secret"
    secretEnv := ← text? "secret_env"
    tokenScope := ← fields.getD? "token_scope" (·.word? TokenScope.ofWord?) .project
    domainName := ← text? "domain_name"
    tenantName := ← text? "tenant_name"
    tenantDomainId := ← text? "tenant_domain_id"
    service :=
      ⟨← fields.getD? "service_type" (·.text?) "compute", ← text? "service_name",
        ← text? "region"⟩
    interface := ← fields.optional? "interface" (·.word? Interface.ofWord?)
    baseUrl := ← text? "base_url"
    token := ← text? "auth_token"
    microversion := ← text? "microversion"
    skewSeconds := ← fields.getD? "clock_skew_secs" (·.wholeNumber?) 5
    evictsForced := ← fields.getD? "evict_forced_token_on_unauthorized" (·.truthValue?) false }

end Profile

/-- The profiles of a file, names ascending. -/
structure Profiles where
  entries : List (String × Profile)
deriving DecidableEq, Repr

namespace Profiles

/-- The profiles of a document. Whatever stands beside them is ignored. -/
def ofDocument? (d : Yaml.Document) : Option Profiles :=
  match d.root with
  | none => some ⟨[]⟩
  | some root =>
    (Yaml.Fields.ofNode? d ["profiles"] root).bind fun fields =>
      match fields.entries.lookup "profiles" with
      | none => some ⟨[]⟩
      | some node =>
        (d.members? node).bind fun members =>
          (members.mapM fun member => (Profile.ofNode? d member.2).map (member.1, ·)).map
            fun profiles => ⟨Ascending.ofList profiles⟩

/-- Reads the bytes of a file. -/
def read (bytes : ByteArray) : Except ProfileError Profiles :=
  match Text.Utf8.text? bytes with
  | none => .error .unreadable
  | some text =>
    match (Yaml.Document.read? text.toList).bind ofDocument? with
    | none => .error .notProfiles
    | some profiles => .ok profiles

/-- The names of the profiles. -/
def names (p : Profiles) : List String := p.entries.map (·.1)

/-- The profile of a name. -/
def get (p : Profiles) (name : String) : Except ProfileError Profile :=
  match p.entries.lookup name with
  | some profile => .ok profile
  | none => .error (.undefined name)

end Profiles
end CloudSession
