/-
The arguments of a command line. An option has a word, behind two dashes,
and may have a letter, behind one; letters may be joined. The value of an
option follows in the same argument or in the next one, which must not look
like an option. Behind two dashes alone nothing is an option.
-/
import CloudSession.Text.Part

namespace CloudSession.Program

/-- An option: its letter and its word, whether it takes a value, and
whether it may be given several times. -/
structure Parameter where
  letter : Option Char
  word : String
  takesValue : Bool
  repeats : Bool
deriving DecidableEq, Repr

/-- What arguments give: options by word with their values, operands, and
the arguments that are left for a command. -/
structure Given where
  settings : List (String × Option String)
  operands : List String
  rest : List String
deriving DecidableEq, Repr

namespace Given

def none : Given := ⟨[], [], []⟩

/-- Puts options in front. -/
def withSettings (settings : List (String × Option String)) (g : Given) : Given :=
  { g with settings := settings ++ g.settings }

/-- Puts an operand in front. -/
def withOperand (operand : String) (g : Given) : Given :=
  { g with operands := operand :: g.operands }

/-- Whether an option was given. -/
def has (g : Given) (word : String) : Bool := g.settings.any (·.1 == word)

/-- The values of an option. -/
def values (g : Given) (word : String) : List String :=
  g.settings.filterMap fun (w, value) => if w == word then value else .none

/-- The value of an option. -/
def value? (g : Given) (word : String) : Option String := (g.values word).head?

/-- Whether no option is given more often than it may be. -/
def isSettled (known : List Parameter) (g : Given) : Bool :=
  known.all fun p => p.repeats || (g.settings.filter (·.1 == p.word)).length ≤ 1

end Given

-- ================================================================== arguments

/-- Whether an argument looks like an option. A dash alone does not. -/
def isOption (arg : String) : Bool := Text.startsWith arg "-" && arg != "-"

/-- Options as read so far, and one whose value is to follow. -/
abbrev Options.Partial := List (String × Option String) × Option Parameter

/-- The options of joined letters. What follows the letter of one that takes
a value is the value, an equals sign in front of it aside. -/
def letters? (known : List Parameter) : List Char → Option Options.Partial
  | [] => some ([], none)
  | c :: cs =>
    match known.find? (·.letter == some c) with
    | none => none
    | some p =>
      if !p.takesValue then
        (letters? known cs).map fun (settings, pending) => ((p.word, none) :: settings, pending)
      else
        match cs with
        | [] => some ([], some p)
        | '=' :: value => some ([(p.word, some (String.ofList value))], none)
        | value => some ([(p.word, some (String.ofList value))], none)

/-- The option of a word, with its value behind an equals sign. -/
def word? (known : List Parameter) (text : List Char) : Option Options.Partial :=
  let (word, value) :=
    match Text.splitFirst '=' text with
    | some (word, value) => (word, some (String.ofList value))
    | none => (text, none)
  match known.find? (·.word == String.ofList word) with
  | none => none
  | some p =>
    match p.takesValue, value with
    | false, none => some ([(p.word, none)], none)
    | false, some _ => none
    | true, some value => some ([(p.word, some value)], none)
    | true, none => some ([], some p)

/-- Reads arguments, first of all the value of a pending option. If they
give a command, the first operand is its name and the rest is left. -/
def scan? (known : List Parameter) (commands : Bool) :
    Option Parameter → List String → Option Given
  | none, [] => some .none
  | some _, [] => none
  | some p, arg :: rest =>
    if isOption arg then none
    else (scan? known commands none rest).map (.withSettings [(p.word, some arg)])
  | none, arg :: rest =>
    if arg == "--" then if commands then none else some ⟨[], rest, []⟩
    else if isOption arg then
      let options :=
        match arg.toList.drop 1 with
        | '-' :: word => word? known word
        | letters => letters? known letters
      match options with
      | none => none
      | some (settings, pending) =>
        (scan? known commands pending rest).map (.withSettings settings)
    else if commands then some ⟨[], [arg], rest⟩
    else (scan? known commands none rest).map (.withOperand arg)

/-- What arguments give, if they can be read. -/
def given? (known : List Parameter) (commands : Bool) (args : List String) : Option Given :=
  (scan? known commands none args).filter (·.isSettled known)

end CloudSession.Program
