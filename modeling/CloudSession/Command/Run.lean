/-
The commands of the program, carried out by a client: what each prints and
how it ends. A command whose arguments cannot be read does nothing else.
-/
import CloudSession.Task.Wait

namespace CloudSession

/-- A command with its arguments as given. Times are in milliseconds. -/
inductive Command
  | token (force : Bool)
  | catalog
  | endpoint (wanted : Wanted)
  | call (path method : String) (data : Option String) (headers : List String)
  | wait (ref : String) (timeout interval : Nat) (format : String)
deriving DecidableEq, Repr

namespace Command

-- =================================================================== reports

/-- Why a command fails. -/
inductive Fault
  | session (e : SessionError)
  | method (name : String)
  | header (text : String)
deriving DecidableEq, Repr

/-- The wording of a fault. -/
def Fault.message : Fault → String
  | .session e => e.message
  | .method name => Method.unknownMessage name
  | .header text => "Invalid header '" ++ text ++ "': expected 'Name: value'"

/-- What a command printed, and its fault if it has one. -/
structure Report where
  stdout : String
  stderr : String
  fault : Option Fault
deriving DecidableEq, Repr

/-- The report of a command that fails before it prints anything. -/
def Report.failed (fault : Fault) : Report := ⟨"", "", some fault⟩

/-- The report of a command that prints a text and ends well. -/
def Report.printed (stdout : String) : Report := ⟨stdout, "", none⟩

/-- Runs an action and reports on its value; its error is the report else. -/
def reporting {α : Type} (action : Action α) (report : α → Report) : StateM Scene Report := do
  match ← action.run with
  | .ok a => return report a
  | .error e => return .failed (.session e)

-- =================================================================== headers

/-- A header argument: the name before the first colon and the value. -/
def header? (text : String) : Option (String × String) :=
  (Text.splitFirst ':' text.toList).map fun (name, value) =>
    (Text.trim (String.ofList name), Text.trim (String.ofList value))

/-- The headers of arguments, or the first argument that is none. -/
def headers : List String → Except Fault (List (String × String))
  | [] => .ok []
  | text :: rest =>
    match header? text with
    | none => .error (.header text)
    | some pair => (headers rest).map (pair :: ·)

-- ==================================================================== output

/-- A text filled up with spaces to a width. -/
def padded (width : Nat) (s : String) : String :=
  s ++ String.ofList (List.replicate (width - s.length) ' ')

/-- A line of five columns. -/
def row (type name region interface url : String) : String :=
  padded 16 type ++ " " ++ padded 24 name ++ " " ++ padded 12 region ++ " " ++
    padded 9 interface ++ " " ++ url ++ "\n"

/-- The table of a catalog. -/
def table (c : Catalog) : String :=
  if c.isEmpty then "The service catalog is empty\n"
  else
    let rule := String.ofList (List.replicate 100 '─') ++ "\n"
    let rows := c.map fun e => row e.type e.name (e.region.getD "-") e.interface.word e.url
    Text.joinTexts "" (row "TYPE" "NAME" "REGION" "INTERFACE" "URL" :: rule :: rows)

/-- A token, and when it expires. -/
def tokenReport (context : Context) : Report :=
  let expiry :=
    match context.expires with
    | some expires => "expires: " ++ expires.displayText ++ "\n"
    | none => "expires: never (until rejected)\n"
  ⟨context.token ++ "\n", expiry, none⟩

/-- A response: its status, and its body as far as there is one. -/
def responseReport (r : Response) : Report :=
  let status := "HTTP " ++ toString r.status ++ "\n"
  match Body.ofResponse r with
  | .ok .empty => ⟨"", status, none⟩
  | .ok (.json value) => ⟨value.pretty ++ "\n", status, none⟩
  | .ok (.xml text) => ⟨text ++ "\n", status, none⟩
  | .ok (.opaqueBytes _) => ⟨r.text ++ "\n", status, none⟩
  | .error e => ⟨"", status, some (.session e)⟩

/-- How a wait ended. -/
def waitReport (ref : String) (result : Except SessionError Task.Watched) : Report :=
  let start := "Waiting for task " ++ ref ++ "\n"
  match result with
  | .ok watched =>
    .printed (start ++ "✓ Task completed after " ++ toString watched.polls ++ " polls\n")
  | .error e =>
    let ending :=
      match e with
      | .task _ message => "✗ Task failed: " ++ message ++ "\n"
      | .taskCanceled _ => "✗ Task was canceled\n"
      | _ => ""
    ⟨start ++ ending, "", some (.session e)⟩

-- ================================================================== commands

/-- The request of a `call` command. -/
def runCall (c : Client) (path method : String) (data : Option String)
    (headerTexts : List String) : StateM Scene Report := do
  match Method.ofName? method, headers headerTexts with
  | none, _ => return .failed (.method method)
  | some _, .error fault => return .failed fault
  | some method, .ok pairs =>
    reporting (c.call path method (Headers.ofList pairs) (data.map String.toUTF8)) responseReport

/-- The wait of a `wait` command. -/
def runWait (c : Client) (ref : String) (timeout interval : Nat) (format : String) :
    StateM Scene Report := do
  match Task.Format.ofName format with
  | .error e => return .failed (.session e)
  | .ok format => return waitReport ref (← (c.wait format ref timeout interval).run)

/-- Carries out a command. -/
def run (c : Client) : Command → StateM Scene Report
  | .token force => reporting (if force then c.authenticate true else c.ensureSession) tokenReport
  | .catalog => reporting c.catalog fun catalog => .printed (table catalog)
  | .endpoint wanted => reporting (c.endpoint wanted) fun url => .printed (url ++ "\n")
  | .call path method data headers => runCall c path method data headers
  | .wait ref timeout interval format => runWait c ref timeout interval format

end Command
end CloudSession
