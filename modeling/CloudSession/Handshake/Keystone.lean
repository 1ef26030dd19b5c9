/-
The Keystone handshake: the document that asks for a token, and the context
in the answer. Each version has its own address, document and answer; the
documents are JSON, so no text in one of their fields can alter another.
-/
import CloudSession.Context
import CloudSession.Http.Body
import CloudSession.Identity

namespace CloudSession.Keystone

-- ================================================================== address

/-- The version in the address of a token service. -/
def version : Keystone → String
  | .v1 => "v1.1"
  | .v2Password => "v2.0"
  | .v2ApiKey => "v2.0"
  | _ => "v3"

/-- The path of the token service below its version. -/
def tokenPath : Keystone → String
  | .v1 => "/auth"
  | .v2Password => "/tokens"
  | .v2ApiKey => "/tokens"
  | _ => "/auth/tokens"

/-- The address of the token service. A version that the auth URL already
ends in is not doubled. -/
def address (k : Keystone) (authUrl : String) : String :=
  let base := Text.trimEndSlashes authUrl
  if Text.endsWith base ("/" ++ k.version) then base ++ k.tokenPath
  else base ++ "/" ++ k.version ++ k.tokenPath

-- ================================================================ documents

/-- The document of version 1. -/
def document1 (c : Credentials) : Json :=
  Json.object [("credentials", Json.object [("username", .str c.userId), ("key", .str c.secret)])]

/-- The document of version 2 around its proof of identity. -/
def document2 (proof : String × Json) (scope : Scope) : Json :=
  let tenant := scope.tenantName.toList.map fun name => ("tenantName", Json.str name)
  Json.object [("auth", Json.object (proof :: tenant))]

def passwordProof2 (c : Credentials) : String × Json :=
  ("passwordCredentials",
    Json.object [("username", .str c.userId), ("password", .str c.secret)])

def apiKeyProof2 (c : Credentials) : String × Json :=
  ("RAX-KSKEY:apiKeyCredentials",
    Json.object [("username", .str c.userId), ("apiKey", .str c.secret)])

/-- The scope block of version 3, which an unscoped token has none of. -/
def scopeBlock? (scope : Scope) : Option Json :=
  match scope.kind with
  | .project =>
    some <| Json.object [("project", Json.object [
      ("name", Json.ofText? scope.tenantName),
      ("domain", Json.object [("id", .str scope.tenantDomainId)])])]
  | .domain => some <| Json.object [("domain", Json.object [("name", .str scope.domainName)])]
  | .unscoped => none

/-- The identity block of version 3 for one method. -/
def identityBlock (method : String) (proof : Json) : Json :=
  Json.object [("methods", .arr [.str method]), (method, proof)]

def passwordProof3 (c : Credentials) (scope : Scope) : Json :=
  Json.object [("user", Json.object [
    ("name", .str c.userId),
    ("domain", Json.object [("name", .str scope.domainName)]),
    ("password", .str c.secret)])]

def tokenProof3 (c : Credentials) : Json := Json.object [("id", .str c.secret)]

def applicationProof3 (c : Credentials) : Json :=
  Json.object [("id", .str c.userId), ("secret", .str c.secret)]

/-- The document of version 3. -/
def document3 (identity : Json) (scope : Option Json) : Json :=
  Json.object [("auth", Json.object (("identity", identity) ::
    scope.toList.map fun block => ("scope", block)))]

/-- The document that asks for a token. Application credentials carry their
own scope. -/
def document (k : Keystone) (c : Credentials) (scope : Scope) : Json :=
  match k with
  | .v1 => document1 c
  | .v2Password => document2 (passwordProof2 c) scope
  | .v2ApiKey => document2 (apiKeyProof2 c) scope
  | .v3Password =>
    document3 (identityBlock "password" (passwordProof3 c scope)) (scopeBlock? scope)
  | .v3Token => document3 (identityBlock "token" (tokenProof3 c)) (scopeBlock? scope)
  | .v3ApplicationCredential =>
    document3 (identityBlock "application_credential" (applicationProof3 c)) none

/-- The request of the handshake. -/
def request (k : Keystone) (authUrl : String) (c : Credentials) (scope : Scope) : Request where
  method := .post
  url := k.address authUrl
  headers := Headers.ofList [("Content-Type", "application/json"), ("Accept", "application/json")]
  body := some (k.document c scope).compact.toUTF8

-- ================================================================== answers

/-- What an answer holds besides the token's text: its expiry as written,
its user and its catalog. -/
structure Grant where
  token : String
  expires : Option String
  user : Option Json
  catalog : Option Json

/-- A token block of versions 1 and 2: the token and its expiry. -/
def readToken? (d : Json.Doc) : Option (String × Option String) :=
  (Json.Record.ofDoc? ["id", "expires"] d).bind fun r =>
    match r.required? "id" Json.Doc.text?, r.optional? "expires" Json.Doc.text? with
    | some token, some expires => some (token, expires)
    | _, _ => none

/-- A value two records deep in an answer. -/
def readValue? : Json.Doc → Option Json := Json.Doc.toJson? (Json.maxDepth - 2)

/-- The member of a record with one known field. -/
def member? (name : String) (d : Json.Doc) : Option Json.Doc :=
  (Json.Record.ofDoc? [name] d).bind (·.get? name)

/-- The grant in an answer of version 1. -/
def readGrant1? (d : Json.Doc) : Option Grant :=
  ((member? "auth" d).bind (Json.Record.ofDoc? ["token", "serviceCatalog"])).bind fun r =>
    match r.required? "token" readToken?, r.optional? "serviceCatalog" readValue? with
    | some (token, expires), some catalog => some ⟨token, expires, none, catalog⟩
    | _, _ => none

/-- The grant in an answer of version 2. -/
def readGrant2? (d : Json.Doc) : Option Grant :=
  ((member? "access" d).bind (Json.Record.ofDoc? ["token", "serviceCatalog", "user"])).bind
    fun r =>
      match r.required? "token" readToken?, r.optional? "serviceCatalog" readValue?,
        r.optional? "user" readValue? with
      | some (token, expires), some catalog, some user => some ⟨token, expires, user, catalog⟩
      | _, _, _ => none

/-- The grant in an answer of version 3, whose token stands in a header. -/
def readGrant3? (token : String) (d : Json.Doc) : Option Grant :=
  ((member? "token" d).bind (Json.Record.ofDoc? ["expires_at", "catalog", "user"])).bind
    fun r =>
      match r.optional? "expires_at" Json.Doc.text?, r.optional? "catalog" readValue?,
        r.optional? "user" readValue? with
      | some expires, some catalog, some user => some ⟨token, expires, user, catalog⟩
      | _, _, _ => none

/-- The context of a grant, once its expiry is read. -/
def Grant.toContext (g : Grant) (noCatalog : Json) : Except SessionError Context :=
  match g.expires with
  | none => .ok ⟨g.token, none, g.user, g.catalog.getD noCatalog⟩
  | some text =>
    match Instant.readExpiry text with
    | .ok expires => .ok ⟨g.token, some expires, g.user, g.catalog.getD noCatalog⟩
    | .error fault => .error (.response (.expiry text fault))

/-- The context in a body, by the reading of its document. -/
def readBody (read : Json.Doc → Option Grant) (noCatalog : Json) (r : Response) :
    Except SessionError Context :=
  match (Json.Doc.read? (Text.Utf8.glyphs r.body)).bind read with
  | some grant => grant.toContext noCatalog
  | none => .error (.response .identityDocument)

/-- The header that carries the token in version 3. -/
def subjectTokenHeader : String := "X-Subject-Token"

/-- The context in a successful answer. -/
def readSuccess (k : Keystone) (r : Response) : Except SessionError Context :=
  match k with
  | .v1 => readBody readGrant1? (.obj []) r
  | .v2Password => readBody readGrant2? (.arr []) r
  | .v2ApiKey => readBody readGrant2? (.arr []) r
  | _ =>
    match r.headers.get? subjectTokenHeader with
    | none => .error (.response .noSubjectToken)
    | some token =>
      if token.isEmpty then .error (.response .noSubjectToken)
      else readBody (readGrant3? token) (.arr []) r

/-- The context in an answer, which a failed one has none of. -/
def read (k : Keystone) (r : Response) : Except SessionError Context :=
  if r.isSuccess then k.readSuccess r
  else if r.status == 401 || r.status == 403 then
    .error (.credentials (.refused (Body.errorMessage r)))
  else .error (.response (.identityStatus r.status (Body.errorMessage r)))

end CloudSession.Keystone
