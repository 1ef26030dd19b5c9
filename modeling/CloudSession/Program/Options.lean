/-
The options and commands of the program. The options for all commands may
stand before a command or among its own; one that stands in both places
counts as the command has it.
-/
import CloudSession.Command.Run
import CloudSession.Program.Arguments

namespace CloudSession.Program

/-- What a command line asks for. -/
structure Options where
  profile : Option String
  sharesCache : Bool
  command : Command
deriving DecidableEq, Repr

/-- A command as it is written: its own options, how many operands it has,
and what it means. -/
structure Form where
  name : String
  parameters : List Parameter
  operands : Nat
  command? : Given → Option Command

-- =================================================================== options

/-- An option without a value. -/
def flag (letter : Option Char) (word : String) : Parameter := ⟨letter, word, false, false⟩

/-- An option with a value. -/
def valued (letter : Option Char) (word : String) : Parameter := ⟨letter, word, true, false⟩

/-- The options for all commands. -/
def shared : List Parameter :=
  [valued 'p' "profile", flag 'v' "verbose", flag none "shared-cache"]

/-- The largest 64-bit word. -/
def maxSeconds : Nat := 18446744073709551615

/-- A count of seconds that fits a 64-bit word, in milliseconds. -/
def milliseconds? (text : String) : Option Nat :=
  let digits := if text.toList.head? = some '+' then text.toList.drop 1 else text.toList
  if digits.isEmpty || !digits.all Char.isDigit then none
  else
    let seconds := digits.foldl (fun n d => 10 * n + (d.toNat - 48)) 0
    if seconds ≤ maxSeconds then some (1000 * seconds) else none

/-- The span of time that an option gives in seconds. -/
def span? (g : Given) (word : String) (seconds : Nat) : Option Nat :=
  match g.value? word with
  | none => some (1000 * seconds)
  | some text => milliseconds? text

-- ================================================================== commands

def tokenForm : Form where
  name := "token"
  parameters := [flag 'f' "force"]
  operands := 0
  command? g := some (.token (g.has "force"))

def catalogForm : Form where
  name := "catalog"
  parameters := []
  operands := 0
  command? _ := some .catalog

def endpointForm : Form where
  name := "endpoint"
  parameters := [valued 't' "type", valued 'n' "name", valued 'r' "region"]
  operands := 0
  command? g :=
    some (.endpoint ⟨(g.value? "type").getD "compute", g.value? "name", g.value? "region"⟩)

def callForm : Form where
  name := "call"
  parameters := [valued 'X' "method", valued 'd' "data", ⟨some 'H', "header", true, true⟩]
  operands := 1
  command? g :=
    some (.call (g.operands.headD "") ((g.value? "method").getD "GET") (g.value? "data")
      (g.values "header"))

def waitForm : Form where
  name := "wait"
  parameters := [valued none "timeout", valued none "interval", valued none "format"]
  operands := 1
  command? g := do
    let timeout ← span? g "timeout" 600
    let interval ← span? g "interval" 5
    return .wait (g.operands.headD "") timeout interval ((g.value? "format").getD "vcloud")

/-- The commands of the program. -/
def forms : List Form := [tokenForm, catalogForm, endpointForm, callForm, waitForm]

-- =============================================================== command line

/-- Reads a command line, the name of the program left out. -/
def Options.read? (args : List String) : Option Options := do
  let outer ← given? shared true args
  let name ← outer.operands.head?
  let form ← forms.find? (·.name == name)
  let inner ← given? (shared ++ form.parameters) false outer.rest
  if inner.operands.length != form.operands then none
  let command ← form.command? inner
  return {
    profile := (inner.value? "profile").or (outer.value? "profile")
    sharesCache := inner.has "shared-cache" || outer.has "shared-cache"
    command := command }

end CloudSession.Program
