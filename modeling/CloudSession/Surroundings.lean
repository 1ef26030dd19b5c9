/-
What surrounds a run of the program, environment variables and files, and
where in it the configuration and the token cache lie. Both are looked at
through functions of some monad, so that a run over given surroundings is a
pure function and the same run can be made over the real ones.
-/
import CloudSession.Profile.Basic

namespace CloudSession

/-- What is found at a path. A directory exists but cannot be read. -/
inductive Found
  | missing
  | beneathFile
  | unreadable
  | bytes (contents : ByteArray)

/-- Whether something is there. -/
def Found.isThere : Found → Bool
  | .missing => false
  | .beneathFile => false
  | .unreadable => true
  | .bytes _ => true

/-- The values of environment variables, what is found at paths, and the
current directory. -/
structure Surroundings (m : Type → Type) where
  environment : String → m (Option String)
  look : String → m Found
  directory : String

namespace Surroundings

variable {m : Type → Type} [Monad m]

/-- The path of a name within a directory. -/
def within (directory name : String) : String :=
  if directory.isEmpty || Text.endsWith directory "/" then directory ++ name
  else directory ++ "/" ++ name

/-- A directory of the user: the one that a variable names by an absolute
path, else one in the home directory. -/
def userDirectory? (s : Surroundings m) (name inHome : String) : m (Option String) := do
  let named := (← s.environment name).filter (Text.startsWith · "/")
  let home := (← s.environment "HOME").filter (!·.isEmpty)
  return named.or (home.map (within · inHome))

/-- The paths where a configuration may lie, the preferred first. -/
def configPlaces (s : Surroundings m) : m (List String) := do
  let given ← s.environment "NIMBUS_CONFIG_PATH"
  let user ← s.userDirectory? "XDG_CONFIG_HOME" ".config"
  return given.toList ++
    ["nimbus.local.yaml", "nimbus.yaml"].map (within s.directory) ++
    user.toList.map fun d => within (within d "nimbus") "config.yaml"

/-- The first of some paths at which something is found. -/
def firstFound? (s : Surroundings m) : List String → m (Option String)
  | [] => return none
  | path :: rest => do
    if (← s.look path).isThere then return some path else s.firstFound? rest

/-- The configuration file. -/
def configFile (s : Surroundings m) : m (Except ProfileError String) := do
  match ← s.firstFound? (← s.configPlaces) with
  | some path => return .ok path
  | none => return .error .noFile

/-- The directory of the token cache. -/
def cacheDirectory (s : Surroundings m) : m (Except ProfileError String) := do
  match ← s.userDirectory? "XDG_CACHE_HOME" ".cache" with
  | some d => return .ok (within (within d "nimbus") "tokens")
  | none => return .error .noCacheDirectory

end Surroundings
end CloudSession
