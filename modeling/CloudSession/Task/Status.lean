/-
The status of a long-running task and how a provider writes it: as an XML
element with a status attribute, or as a JSON object, perhaps wrapped in
another. Several words mean the same state.
-/
import CloudSession.Error
import CloudSession.Http.Message
import CloudSession.Json.Reading
import CloudSession.Text.Blank
import CloudSession.Xml.Document

namespace CloudSession

namespace Task

-- =================================================================== states

/-- Where a task stands. -/
inductive State
  | pending
  | running
  | success
  | error
  | canceled
  | timedOut
deriving DecidableEq, Repr

namespace State

/-- Whether a task in this state will not move any more. -/
def isTerminal : State → Bool
  | .pending => false
  | .running => false
  | _ => true

/-- The state as it is shown. -/
def text : State → String
  | .pending => "pending"
  | .running => "running"
  | .success => "success"
  | .error => "error"
  | .canceled => "canceled"
  | .timedOut => "timed out"

/-- The words of providers and the states they mean. -/
def words : List (String × State) :=
  [("queued", .pending), ("pending", .pending), ("prerunning", .pending),
    ("running", .running), ("success", .success), ("error", .error), ("aborted", .error),
    ("canceled", .canceled), ("cancelled", .canceled)]

/-- The state that a status word means, whatever its case and the blanks
around it. -/
def ofWord? (word : String) : Option State := words.lookup (Text.trim word).toLower

end State

-- =================================================================== status

/-- What one poll of a task tells. -/
structure Status where
  state : State
  message : Option String
deriving DecidableEq, Repr

/-- How a task document is written. -/
inductive Format
  | xml
  | json
deriving DecidableEq, Repr

namespace Format

/-- The format of a name in any ASCII case. -/
def ofName (name : String) : Except SessionError Format :=
  match name.toLower with
  | "vcloud" => .ok .xml
  | "xml" => .ok .xml
  | "json" => .ok .json
  | other => .error (.configuration (.taskFormat other))

end Format

-- ================================================================ documents

/-- A status word and a message as a document holds them. -/
abbrev Report := String × Option String

/-- The message of a JSON task: its own, or that of its error, which may be
the error itself. -/
def jsonMessage? (task : Json) : Option String :=
  (task.textAt? "message").or <|
    match task.get? "error" with
    | some (.str message) => some message
    | some error => error.textAt? "message"
    | none => none

/-- The report of a JSON document. A member `task` stands for the whole. -/
def jsonReport (document : Json) : Except SessionError Report :=
  let task := (document.get? "task").getD document
  match task.textAt? "status" with
  | some word => .ok (word, jsonMessage? task)
  | none => .error (.response .noTaskStatus)

/-- The report of an XML document: the status of its root and the message of
the one error it may hold. -/
def xmlReport? (document : Xml.Element) : Option Report :=
  let message : Option (Option String) :=
    match document.children.filter fun c => c matches .wanted .. with
    | [] => some none
    | [.wanted _ attributes] => Xml.value? attributes "message"
    | _ => none
  match Xml.value? document.attributes "status", message with
  | some (some word), some message => some (word, message)
  | _, _ => none

/-- The report of a response body. -/
def report (format : Format) (body : ByteArray) : Except SessionError Report :=
  match format with
  | .json =>
    match Json.readBytes? body with
    | some document => jsonReport document
    | none => .error (.response .json)
  | .xml =>
    match Text.Utf8.text? body with
    | none => .error (.response .xml)
    | some text =>
      match (Xml.Element.read? ["Error"] text.toList).bind xmlReport? with
      | some report => .ok report
      | none => .error (.response .taskDocument)

/-- The status that a response reports. -/
def parseStatus (format : Format) (r : Response) : Except SessionError Status :=
  match report format r.body with
  | .error e => .error e
  | .ok (word, message) =>
    match State.ofWord? word with
    | some state => .ok ⟨state, message⟩
    | none => .error (.response (.taskStatus word))

end Task
end CloudSession
