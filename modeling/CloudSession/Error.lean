/-
What can go wrong in a session, by cause, and the one wording of each. A
fault found by reading another format is named without its details.
-/
import CloudSession.Double.Notation
import CloudSession.Time.Reading
import CloudSession.Url.Basic

namespace CloudSession

-- ================================================================== causes

/-- What is wrong with a configuration. -/
inductive ConfigurationFault
  | unknownProtocol (name : String)
  | noAuthUrl
  | noTenant
  | tokenWithoutBaseUrl
  | microversion (text : String)
  | url (text : String) (fault : Url.Fault)
  | urlWithoutHost (text : String)
  | urlWithoutPort (text : String)
  | taskFormat (name : String)
deriving DecidableEq, Repr

/-- What is wrong with a raw service catalog. -/
inductive CatalogFault
  | notObject
  | notList
  | endpointsNotList
  | noType
  | noUrl
  | entries
deriving DecidableEq, Repr

/-- What is wrong with a response. -/
inductive ResponseFault
  | json
  | xml
  | identityDocument
  | taskDocument
  | catalog (fault : CatalogFault)
  | identityStatus (status : Nat) (message : String)
  | loginStatus (status : Nat) (message : String)
  | noSubjectToken
  | noOrg
  | expiry (text : String) (fault : TimeFault)
  | noTaskStatus
  | taskStatus (word : String)
deriving DecidableEq, Repr

/-- Why an identity service gives no token. -/
inductive CredentialsFault
  | refused (message : String)
  | noToken (header : String)
deriving DecidableEq, Repr

/-- Why a token store fails. -/
inductive StoreFault
  | notDirectory
  | isDirectory
  | notText
  | failure (message : String)
deriving DecidableEq, Repr

/-- Why an operation of a session fails. A clock that would leave the range
of instants is the last cause. -/
inductive SessionError
  | configuration (fault : ConfigurationFault)
  | credentials (fault : CredentialsFault)
  | response (fault : ResponseFault)
  | endpointNotFound (type : String) (name region : Option String)
  | unauthorized (message : String)
  | http (status : Nat) (message : String)
  | task (ref message : String)
  | taskCanceled (ref : String)
  | taskTimeout (ref : String) (timeoutMs : Nat)
  | transport (message : String)
  | store (fault : StoreFault)
  | clockRange
deriving DecidableEq, Repr

-- ================================================================= wording

def ConfigurationFault.message : ConfigurationFault → String
  | .unknownProtocol name => "Unsupported authentication protocol: " ++ name
  | .noAuthUrl => "an auth URL is required"
  | .noTenant => "project-scoped tokens require a tenant name"
  | .tokenWithoutBaseUrl => "a forced auth token requires a forced base URL"
  | .microversion text =>
    "Invalid microversion format '" ++ text ++ "': expected 'servicename X.XX'"
  | .url text fault => "Invalid URL '" ++ text ++ "': " ++ fault.message
  | .urlWithoutHost text => "URL has no host: " ++ text
  | .urlWithoutPort text => "Cannot determine port for: " ++ text
  | .taskFormat name => "Unknown task format: " ++ name

def CatalogFault.message : CatalogFault → String
  | .notObject => "Invalid service catalog: expected an object"
  | .notList => "Invalid service catalog: expected a list"
  | .endpointsNotList => "Invalid service catalog: service endpoints must be a list"
  | .noType => "Invalid service catalog: service without type"
  | .noUrl => "Invalid service catalog: endpoint without url"
  | .entries => "Invalid service catalog:"

def ResponseFault.message : ResponseFault → String
  | .json => "Failed to parse JSON:"
  | .xml => "Failed to parse XML:"
  | .identityDocument => "Unexpected identity response:"
  | .taskDocument => "Invalid task document:"
  | .catalog fault => fault.message
  | .identityStatus status message =>
    "Identity service returned HTTP " ++ toString status ++ ": " ++ message
  | .loginStatus status message =>
    "vCloud login returned HTTP " ++ toString status ++ ": " ++ message
  | .noSubjectToken => "Missing X-Subject-Token header"
  | .noOrg => "login response lists no Org"
  | .expiry text fault => "Invalid token expiry '" ++ text ++ "': " ++ fault.message
  | .noTaskStatus => "task document has no status"
  | .taskStatus word => "Unknown task status: " ++ word

def CredentialsFault.message : CredentialsFault → String
  | .refused message => message
  | .noToken header => "login response carried no " ++ header

def StoreFault.message : StoreFault → String
  | .notDirectory => "Not a directory (os error 20)"
  | .isDirectory => "Is a directory (os error 21)"
  | .notText => "stream did not contain valid UTF-8"
  | .failure message => message

/-- Spans of time are shown as seconds, never with an exponent, and whole
ones without a point. -/
def secondsLayout : Double.Layout := ⟨-400, 400, ""⟩

/-- A span of milliseconds in seconds: the whole seconds and the quotient of
the rest, each rounded, and their rounded sum. -/
def secondsText (ms : Nat) : String :=
  let rounded := do
    let whole ← Double.ofNat? (ms / 1000)
    let nanos ← Double.ofNat? (ms % 1000 * 1000000)
    let fraction ← nanos.div? (← Double.ofNat? 1000000000)
    whole.addMagnitudes? fraction
  match rounded with
  | some d => String.ofList (d.write secondsLayout)
  | none => "inf"

def SessionError.message : SessionError → String
  | .configuration fault => "Invalid configuration: " ++ fault.message
  | .credentials fault => "Invalid credentials: " ++ fault.message
  | .response fault => "Malformed response: " ++ fault.message
  | .endpointNotFound type name region =>
    "Endpoint not found: type=" ++ type ++ ", name=" ++ name.getD "*" ++ ", region=" ++
      region.getD "*"
  | .unauthorized message => "Unauthorized: " ++ message
  | .http status message => "HTTP " ++ toString status ++ ": " ++ message
  | .task ref message => "Error status returned by task " ++ ref ++ ": " ++ message
  | .taskCanceled ref => "Canceled status returned by task " ++ ref
  | .taskTimeout ref timeoutMs =>
    "Timeout (" ++ secondsText timeoutMs ++ " sec) while waiting for task " ++ ref
  | .transport message => "Transport error: " ++ message
  | .store fault => "Credential store error: " ++ fault.message
  | .clockRange => "`DateTime + TimeDelta` overflowed"

/-- The message that the provider of a failed task gave. -/
def SessionError.taskMessage? : SessionError → Option String
  | .task _ message => some message
  | _ => none

end CloudSession
