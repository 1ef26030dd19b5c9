/-
A run of the program over its surroundings: the command line is read, the
profile found, the client made, and the command carried out. What goes wrong
is said on the standard error stream, and the exit status tells how the run
ended.
-/
import CloudSession.Profile.Config
import CloudSession.Program.Options
import CloudSession.Surroundings

namespace CloudSession.Program

-- =================================================================== outcomes

/-- How a run ended: the exit status and what was printed. -/
structure Outcome where
  status : Nat
  stdout : String
  stderr : String
deriving DecidableEq, Repr

/-- Why a run ends before its command is carried out. -/
inductive Failure
  | usage
  | profile (e : ProfileError)
  | load (path : String)
  | session (e : SessionError)
deriving DecidableEq, Repr

namespace Outcome

/-- A command line that cannot be read. -/
def usage : Outcome := ⟨2, "", "error: the command line cannot be read\n"⟩

/-- A failure behind some output. -/
def failed (stdout stderr message : String) : Outcome :=
  ⟨1, stdout, stderr ++ "Error: " ++ message ++ "\n"⟩

/-- A breakdown, which is no failure of the command. -/
def broken (stdout stderr message : String) : Outcome :=
  ⟨101, stdout, stderr ++ message ++ "\n"⟩

/-- The outcome of a run that ends early. -/
def ofFailure : Failure → Outcome
  | .usage => usage
  | .profile .skewRange => broken "" "" ProfileError.skewRange.message
  | .profile e => failed "" "" e.message
  | .load path => failed "" "" ("Failed to load " ++ path)
  | .session e => failed "" "" e.message

/-- The outcome of a command. -/
def ofReport (r : Command.Report) : Outcome :=
  match r.fault with
  | none => ⟨0, r.stdout, r.stderr⟩
  | some (.session .clockRange) => broken r.stdout r.stderr SessionError.clockRange.message
  | some fault => failed r.stdout r.stderr fault.message

end Outcome

-- ======================================================================= runs

variable {m : Type → Type} [Monad m]

/-- A step that may end the run. -/
abbrev Step (m : Type → Type) := ExceptT Failure m

/-- The value of a result; its error ends the run. -/
def orEnd {ε α : Type} (failure : ε → Failure) : Except ε α → Step m α
  | .ok a => pure a
  | .error e => throw (failure e)

/-- The profiles of a file. -/
def load (s : Surroundings m) (path : String) : Step m Profiles := do
  match ← s.look path with
  | .bytes contents =>
    match Profiles.read contents with
    | .ok profiles => return profiles
    | .error _ => throw (.load path)
  | _ => throw (.load path)

/-- The configuration of a profile. -/
def configure (s : Surroundings m) (profiles : Profiles) (name : String) : Step m Config := do
  let profile ← orEnd .profile (profiles.get name)
  let secret ← s.environment profile.secretVariable
  orEnd .profile (profile.config name fun _ => secret)

/-- The store in a directory, as far as one key is concerned. -/
def cache (s : Surroundings m) (directory key : String) : Step m Store := do
  let entry := Directory.entryName key
  match ← s.look (Surroundings.within directory entry) with
  | .missing => return .directory none
  | .beneathFile => return .blocked .notDirectory
  | .unreadable => return .blocked .isDirectory
  | .bytes contents => return .directory (some (Directory.empty.write entry contents))

/-- The client that a command line asks for, and the store that it shares. -/
def prepare (s : Surroundings m) (options : Options) : Step m (Client × Option SharedStore) := do
  let path ← orEnd .profile (← s.configFile)
  let profiles ← load s path
  let fallback ← s.environment "NIMBUS_PROFILE"
  let config ← configure s profiles ((options.profile.or fallback).getD "default")
  if options.sharesCache then
    let directory ← orEnd .profile (← s.cacheDirectory)
    let client ← orEnd .session (Client.ofConfig { config with sharesStore := true })
    let store ← cache s directory client.key
    return (client, some (.ofStore store))
  else
    let client ← orEnd .session (Client.ofConfig config)
    return (client, none)

/-- Runs the program on a command line. -/
def run (s : Surroundings m) (now : Instant) (network : Network) (args : List String) :
    m Outcome := do
  match Options.read? args with
  | none => return .usage
  | some options =>
    match ← (prepare s options).run with
    | .error failure => return .ofFailure failure
    | .ok (client, store) =>
      let scene : Scene := ⟨.initial, ⟨now, network, store, []⟩⟩
      return .ofReport ((options.command.run client).run scene).1

end CloudSession.Program
