/-
URLs. The parser follows the URL standard for an absolute URL: tabs and
line breaks are dropped, web schemes accept backslashes and any number of
slashes before the host, default ports are left out, dot segments are
removed from the path, and what a part may not hold is percent-encoded.
Fragments and user names are read over: nothing here needs them.
-/
import CloudSession.Url.Address
import CloudSession.Url.Domain
import CloudSession.Url.Percent

namespace CloudSession

-- ============================================================== the types

/-- Why a text is no absolute URL. -/
inductive Url.Fault
  | relative
  | emptyHost
  | port
  | address4
  | address6
  | domain
  | hostCharacter
deriving DecidableEq, Repr

/-- The wording of a fault. -/
def Url.Fault.message : Url.Fault → String
  | .relative => "relative URL without a base"
  | .emptyHost => "empty host"
  | .port => "invalid port number"
  | .address4 => "invalid IPv4 address"
  | .address6 => "invalid IPv6 address"
  | .domain => "invalid international domain name"
  | .hostCharacter => "invalid domain character"

/-- An absolute URL. The host is in its written form, a port that is the
scheme's default is left out, and an empty host is none. -/
structure Url where
  scheme : String
  host : Option String
  port : Option Nat
  path : String
  query : Option String
deriving DecidableEq, Repr

namespace Url

/-- The three ways a scheme is parsed. -/
inductive SchemeKind
  | file
  | web
  | other
deriving DecidableEq

def SchemeKind.ofScheme (scheme : List Char) : SchemeKind :=
  let s := String.ofList scheme
  if s == "file" then .file
  else if s ∈ ["http", "https", "ws", "wss", "ftp"] then .web
  else .other

/-- Whether backslashes count as slashes. -/
def SchemeKind.isSpecial (k : SchemeKind) : Bool := k != .other

/-- The port that a scheme implies. -/
def defaultPort (scheme : String) : Option Nat :=
  if scheme == "http" || scheme == "ws" then some 80
  else if scheme == "https" || scheme == "wss" then some 443
  else if scheme == "ftp" then some 21
  else none

/-- The port of the URL or of its scheme. -/
def effectivePort? (u : Url) : Option Nat := u.port.or (defaultPort u.scheme)

-- ================================================================= scheme

def isIgnored (c : Char) : Bool := c == '\t' || c == '\n' || c == '\r'

/-- The characters of a text that the parser looks at. -/
def significant (s : String) : List Char :=
  let isEdge (c : Char) : Bool := c.toNat ≤ 0x20
  ((s.toList.dropWhile isEdge).reverse.dropWhile isEdge).reverse.filter (!isIgnored ·)

def isSchemeChar (c : Char) : Bool := c.isAlphanum || c == '+' || c == '-' || c == '.'

/-- The scheme in lower case and what follows its colon. -/
def splitScheme (cs : List Char) : Option (List Char × List Char) :=
  match cs.takeWhile isSchemeChar, cs.dropWhile isSchemeChar with
  | c :: scheme, ':' :: rest =>
    if c.isAlpha then some ((c :: scheme).map Char.toLower, rest) else none
  | _, _ => none

-- =================================================================== host

/-- The characters that a host of a scheme without rules of its own may not
hold. -/
def isForbiddenInOpaque (c : Char) : Bool :=
  c ∈ [Char.ofNat 0, '\t', '\n', '\r', ' ', '#', '/', ':', '<', '>', '?', '@', '[', '\\', ']',
    '^', '|']

/-- The host in brackets, if the text opens one. -/
def bracketed? : List Char → Option (Except Fault (List Char))
  | '[' :: rest =>
    some <|
      match rest.getLast? with
      | some ']' =>
        match parseAddress6? rest.dropLast with
        | some groups => .ok ('[' :: writeAddress6 groups ++ [']'])
        | none => .error .address6
      | _ => .error .address6
  | _ => none

/-- The host of a web scheme: an address or a domain name. -/
def webHost (cs : List Char) : Except Fault (List Char) :=
  match bracketed? cs with
  | some host => host
  | none =>
    match domain? (percentDecode cs) with
    | none => .error .domain
    | some [] => .error .emptyHost
    | some name =>
      if endsInNumber name then
        match parseAddress4? name with
        | some n => .ok (writeAddress4 n)
        | none => .error .address4
      else .ok name

/-- The host of any other scheme, which is kept as written. -/
def opaqueHost (cs : List Char) : Except Fault (List Char) :=
  match bracketed? cs with
  | some host => host
  | none =>
    if cs.any isForbiddenInOpaque then .error .hostCharacter
    else .ok (percentEncode inControlSet cs)

/-- The characters of a host and port: up to the colon outside brackets. -/
def hostSpan : Bool → List Char → List Char × List Char
  | _, [] => ([], [])
  | inside, c :: cs =>
    if c == ':' && !inside then ([], c :: cs)
    else
      let bracketed := if c == '[' then true else if c == ']' then false else inside
      let (host, rest) := hostSpan bracketed cs
      (c :: host, rest)

/-- A port of decimal digits, or none when there are no digits. -/
def parsePort (cs : List Char) : Except Fault (Option Nat) :=
  if cs.isEmpty then .ok none
  else if cs.all Char.isDigit then
    let n := cs.foldl (fun n c => 10 * n + (c.toNat - 48)) 0
    if n ≤ 65535 then .ok (some n) else .error .port
  else .error .port

-- =================================================================== path

/-- Whether a segment stands for the current directory. -/
def isSingleDot (s : List Char) : Bool :=
  s.map Char.toLower ∈ [['.'], ['%', '2', 'e']]

/-- Whether a segment stands for the parent directory. -/
def isDoubleDot (s : List Char) : Bool :=
  s.map Char.toLower ∈ [['.', '.'], ['.', '%', '2', 'e'], ['%', '2', 'e', '.'],
    ['%', '2', 'e', '%', '2', 'e']]

/-- Whether a segment is a drive letter, which no parent step removes. -/
def isDrive (s : List Char) : Bool :=
  match s with
  | [c, d] => c.isAlpha && (d == ':' || d == '|')
  | _ => false

/-- The segments of a path between its slashes. -/
def segments (special : Bool) (cs : List Char) : List (List Char) :=
  Text.splitAll '/' (if special then cs.map fun c => if c == '\\' then '/' else c else cs)

/-- The segments left, last first, when dot segments are carried out. A dot
segment at the end leaves an empty last segment. -/
def removeDots : List (List Char) → List (List Char) → List (List Char)
  | done, [] => done
  | done, s :: rest =>
    if isDoubleDot s then
      let up :=
        match done with
        | [] => []
        | top :: below => if isDrive top then top :: below else below
      if rest.isEmpty then [] :: up else removeDots up rest
    else if isSingleDot s then
      if rest.isEmpty then [] :: done else removeDots done rest
    else removeDots (percentEncode inPathSet s :: done) rest

/-- The path of segments, each behind a slash. -/
def pathText (segs : List (List Char)) : List Char := segs.flatMap ('/' :: ·)

/-- A path after its leading slash. -/
def rootedPath (special : Bool) (cs : List Char) : List Char :=
  pathText (removeDots [] (segments special cs)).reverse

/-- The path after an authority. -/
def hierarchicalPath (kind : SchemeKind) (cs : List Char) : List Char :=
  match cs with
  | [] => if kind.isSpecial then ['/'] else []
  | c :: rest =>
    if c == '/' || (kind.isSpecial && c == '\\') then rootedPath kind.isSpecial rest
    else rootedPath kind.isSpecial (c :: rest)

-- ==================================================== query and fragment

/-- The text before a `?` or `#` and the query, if there is one. -/
def splitQuery (cs : List Char) : List Char × Option (List Char) :=
  let beforeFragment := cs.takeWhile (· != '#')
  match Text.splitFirst '?' beforeFragment with
  | some (before, query) => (before, some query)
  | none => (beforeFragment, none)

/-- The query as it is written. -/
def queryText (kind : SchemeKind) (query : List Char) : List Char :=
  percentEncode (if kind.isSpecial then inSpecialQuerySet else inQuerySet) query

-- ============================================================== authority

/-- The text after the last `@`, and whether a name or password stands
before it. -/
def dropUser (authority : List Char) : List Char × Option (List Char) :=
  let host := (authority.reverse.takeWhile (· != '@')).reverse
  if host.length = authority.length then (host, none)
  else (host, some (authority.take (authority.length - host.length - 1)))

/-- Whether user information names a user or gives a password. -/
def holdsCredentials (user : List Char) : Bool := !(user.isEmpty || user == [':'])

/-- The parts of an authority: the host, the port, and what follows a
backslash behind the port, which begins the path. -/
structure Authority where
  host : Option String
  port : Option Nat
  rest : List Char

/-- Reads an authority; `last` says that the URL ends with it. -/
def parseAuthority (kind : SchemeKind) (scheme : String) (last : Bool)
    (authority : List Char) : Except Fault Authority := do
  let (hostPort, user) := dropUser authority
  if user == some [] && hostPort.isEmpty && !last then throw .emptyHost
  let (hostChars, rest) := hostSpan false hostPort
  if kind == .web && hostChars.isEmpty then throw .emptyHost
  let host ← if kind.isSpecial then webHost hostChars else opaqueHost hostChars
  if host.isEmpty && !rest.isEmpty then throw .emptyHost
  let port ← parsePort ((rest.drop 1).takeWhile (· != '\\'))
  if host.isEmpty && (user.any holdsCredentials) then throw .emptyHost
  return {
    host := if host.isEmpty then none else some (String.ofList host)
    port := if port == defaultPort scheme then none else port
    rest := (rest.drop 1).dropWhile (· != '\\') }

/-- A URL with an authority, after its slashes. -/
def parseHierarchical (kind : SchemeKind) (scheme : String) (cs : List Char) :
    Except Fault Url := do
  let (before, query) := splitQuery cs
  let isEnd (c : Char) : Bool := c == '/' || (kind.isSpecial && c == '\\')
  let authority := before.takeWhile (!isEnd ·)
  let a ← parseAuthority kind scheme (authority.length == cs.length) authority
  return {
    scheme := scheme
    host := a.host
    port := a.port
    path := String.ofList (hierarchicalPath kind (a.rest ++ before.drop authority.length))
    query := query.map fun q => String.ofList (queryText kind q) }

-- ============================================================ file scheme

/-- The segments of a file path after its leading slash, a drive letter in
front written with a colon. -/
def fileSegments (cs : List Char) : List (List Char) :=
  let cs := match cs with
    | '/' :: rest => rest
    | '\\' :: rest => rest
    | _ => cs
  match segments true cs with
  | [c, d] :: rest => if isDrive [c, d] then [c, ':'] :: rest else [c, d] :: rest
  | segs => segs

/-- Whether a file path begins with a drive letter. -/
def startsWithDrive (cs : List Char) : Bool := (fileSegments cs).head?.any isDrive

/-- The path of a file URL, which has one leading slash. -/
def filePath (cs : List Char) : String :=
  String.ofList
    ('/' :: (pathText (removeDots [] (fileSegments cs)).reverse).dropWhile (· == '/'))

/-- A URL of the `file` scheme. The host `localhost`, and one in front of a
drive letter, is none. -/
def parseFile (cs : List Char) : Except Fault Url := do
  let (before, query) := splitQuery cs
  let query := query.map fun q => String.ofList (queryText .file q)
  let isSlash (c : Char) : Bool := c == '/' || c == '\\'
  match before with
  | a :: b :: rest =>
    let hostChars := rest.takeWhile (!isSlash ·)
    if !(isSlash a && isSlash b) then return ⟨"file", none, none, filePath before, query⟩
    if isDrive hostChars then return ⟨"file", none, none, filePath rest, query⟩
    let after := rest.drop hostChars.length
    if hostChars.isEmpty then return ⟨"file", none, none, filePath after, query⟩
    let host := String.ofList (← webHost hostChars)
    let kept := host != "localhost" && !startsWithDrive after
    return ⟨"file", if kept then some host else none, none, filePath after, query⟩
  | _ => return ⟨"file", none, none, filePath before, query⟩

-- ================================================================= parser

/-- A URL without an authority: a rooted path, or a path kept as written. -/
def parseRootless (scheme : String) (cs : List Char) : Url :=
  let (before, query) := splitQuery cs
  let path := match before with
    | '/' :: rest => rootedPath false rest
    | _ => percentEncode inControlSet before
  { scheme := scheme
    host := none
    port := none
    path := String.ofList path
    query := query.map fun q => String.ofList (queryText .other q) }

/-- Reads an absolute URL. -/
def parse (s : String) : Except Fault Url :=
  match splitScheme (significant s) with
  | none => .error .relative
  | some (schemeChars, rest) =>
    let scheme := String.ofList schemeChars
    match SchemeKind.ofScheme schemeChars with
    | .file => parseFile rest
    | .web =>
      parseHierarchical .web scheme (rest.dropWhile fun c => c == '/' || c == '\\')
    | .other =>
      match rest with
      | '/' :: '/' :: rest => parseHierarchical .other scheme rest
      | _ => .ok (parseRootless scheme rest)

end Url
end CloudSession
