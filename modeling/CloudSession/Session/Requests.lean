/-
Requests of a client. A session is established on first use and whenever
the current one has expired; the endpoint is looked up in its catalog and
remembered until the session changes. A service that answers 401 ends the
session everywhere it is cached. A forced token, with its forced base URL,
takes the place of all this until it is revoked.
-/
import CloudSession.Http.Body
import CloudSession.Session.Cache

namespace CloudSession.Client

open CloudSession.Action

-- ================================================================== sessions

/-- A context in use for one request, and whether its token is forced. -/
structure Active where
  context : Context
  forced : Bool

/-- The forced token, unless it has been revoked. -/
def forcedToken? (c : Client) (s : Session) : Option String :=
  if s.forcedRevoked then none else c.selector.token

/-- Makes a context the current one. -/
def install (context : Context) (catalog : Catalog) : Action Unit :=
  setSession fun s =>
    { s with context := some context, catalog := some catalog, resolved := none }

/-- Gets a context and makes it the current one. -/
def authenticate (c : Client) (force : Bool) : Action Context := do
  let context ← c.negotiate force
  let catalog ← attempt
    (Catalog.parse (Handshake.catalogFormat c.identity.protocol) context.catalog)
  install context catalog
  return context

/-- The current context if it is valid. -/
def installedValid (c : Client) : Action (Option Context) := do
  match (← session).context with
  | none => return none
  | some context => return if ← c.isValid context then some context else none

/-- The context to send requests with. -/
def active (c : Client) : Action Active := do
  match c.forcedToken? (← session) with
  | some token => return ⟨.ofToken token, true⟩
  | none =>
    match ← c.installedValid with
    | some context => return ⟨context, false⟩
    | none => return ⟨← c.authenticate false, false⟩

/-- The current context, established if need be. -/
def ensureSession (c : Client) : Action Context := do return (← c.active).context

-- ================================================================= endpoints

/-- The catalog of the current session. A forced token has none. -/
def catalog (c : Client) : Action Catalog := do
  if (← c.active).forced then return [] else return (← session).catalog.getD []

/-- The URL of an endpoint. -/
def endpoint (c : Client) (wanted : Wanted) : Action String := do
  match c.selector.baseUrl with
  | some url => return url
  | none => attempt ((← c.catalog).endpoint c.selector wanted)

/-- The connection for the client's requests. -/
def resolve (c : Client) : Action Connection := do
  match (← session).resolved with
  | some connection => return connection
  | none => do
    let connection ← attempt (Connection.ofUrl (← c.endpoint c.defaults))
    setSession fun s => { s with resolved := some connection }
    return connection

/-- Forgets the connection for the client's requests. -/
def invalidate : Action Unit := setSession fun s => { s with resolved := none }

/-- Opens a connection unless the last one opened serves as well. -/
def connect (connection : Connection) : Action Unit := do
  if (← session).connected.any (·.sameConnection connection) then return ()
  else do
    openConnection connection
    setSession fun s => { s with connected := some connection }

-- ================================================================== requests

/-- The content type that a request gets when its caller sets none. -/
def addedContentType? (c : Client) (method : Method) (caller : Headers) : Option String :=
  if method.hasBody && !caller.contains "Content-Type" then
    Handshake.defaultContentType? c.identity.protocol
  else none

/-- The microversion header of a request. -/
def microversion? (c : Client) : Option String :=
  c.microversion.bind (·.headerFor? c.serviceType)

/-- Sets a header if there is a value for it. -/
def setIfSome (headers : Headers) (name : String) : Option String → Headers
  | some value => headers.set name value
  | none => headers

/-- The headers of a request: the defaults, with the caller's laid over them. -/
def requestHeaders (c : Client) (method : Method) (token : String) (caller : Headers) : Headers :=
  let protocol := Handshake.requestHeaders c.identity.protocol token
  let typed := setIfSome protocol "Content-Type" (c.addedContentType? method caller)
  let versioned := setIfSome typed Microversion.header c.microversion?
  versioned.extend caller

/-- What is done when a service answers 401: a session of the client's own
ends and leaves every cache, a forced token is revoked if it may be. -/
def onUnauthorized (c : Client) (forced : Bool) : Action Unit := do
  if !forced then
    setSession fun s => { s with context := none, catalog := none, resolved := none }
    ignoringErrors c.clearCached
  else if c.evictsForced then
    setSession fun s =>
      { s with context := none, catalog := none, resolved := none, forcedRevoked := true }

/-- The response to a request, if it reports success. -/
def settle (c : Client) (forced : Bool) (r : Response) : Action Response := do
  if r.isSuccess then return r
  else if r.status == 401 then
    c.onUnauthorized forced
    throw (.unauthorized (Body.errorMessage r))
  else throw (.http r.status (Body.errorMessage r))

/-- Sends a request to the client's service. The action is a path below the
endpoint, or an absolute URL whose path and query are used. -/
def call (c : Client) (action : String) (method : Method) (headers : Headers)
    (body : Option ByteArray) : Action Response := do
  let current ← c.active
  let connection ← c.resolve
  connect connection
  let request : Request :=
    ⟨method, connection.urlFor action,
      c.requestHeaders method current.context.token headers, body⟩
  match ← send .service request with
  | .error message => throw (.transport message)
  | .ok response => c.settle current.forced response

end CloudSession.Client
