/-
The vCloud login. It sends the credentials in a header, finds the token in
a header of the answer and the user's organisation in its XML body. There is
no catalog to be had, so the login makes one up: the one compute service
below the origin that it was sent to.
-/
import CloudSession.Catalog.Reading
import CloudSession.Connection
import CloudSession.Context
import CloudSession.Http.Body
import CloudSession.Identity
import CloudSession.Text.Base64
import CloudSession.Xml.Document

namespace CloudSession.VCloud

-- ================================================================== request

/-- The media type that a version answers with. -/
def accept : VCloud → String
  | .v08 => "application/*+xml"
  | .v15 => "application/*+xml;version=1.5"
  | .v55 => "application/*+xml;version=5.5"

/-- Where a version logs in, below the origin of the auth URL. -/
def loginPath : VCloud → String
  | .v08 => "/api/v0.8/login"
  | _ => "/api/sessions"

/-- The header of requests that carries the session token. -/
def tokenHeader : VCloud → String
  | .v08 => "Cookie"
  | _ => "x-vcloud-authorization"

/-- The header of the login's answer that carries the session token. -/
def grantHeader : VCloud → String
  | .v08 => "set-cookie"
  | _ => "x-vcloud-authorization"

/-- The value of the header that proves who logs in. -/
def basicProof (c : Credentials) : String :=
  "Basic " ++ String.ofList
    (Text.Base64.encode (c.userId ++ ":" ++ c.secret).toUTF8.data.toList)

/-- The request of the login at an origin. -/
def request (v : VCloud) (origin : String) (c : Credentials) : Request where
  method := .post
  url := origin ++ v.loginPath
  headers := Headers.ofList [("Authorization", basicProof c), ("Accept", v.accept)]
  body := some ByteArray.empty

-- ==================================================================== users

/-- The organisations of a list, which must stand together under one name. -/
def orgRun? : List Xml.Child → Option (List (List Xml.Attribute))
  | [] => some []
  | .wanted name attributes :: rest =>
    let sameName : Xml.Child → Bool
      | .wanted other _ => other = name
      | _ => false
    if (rest.dropWhile sameName).any (· matches .wanted ..) then none
    else some (attributes :: (rest.takeWhile sameName).filterMap fun
      | .wanted _ attributes => some attributes
      | _ => none)
  | _ :: rest => orgRun? rest

/-- The address and the name of an organisation. -/
def org? (attributes : List Xml.Attribute) : Option (String × Option String) :=
  match Xml.value? attributes "href", Xml.value? attributes "name" with
  | some (some href), some name => some (href, name)
  | _, _ => none

/-- The path of an absolute URL; any other text is one itself. -/
def pathOf (href : String) : String :=
  match Url.parse href with
  | .ok url => url.path
  | .error _ => href

/-- The user in the organisation list of version 0.8. -/
def orgListUser (text : List Char) : Except SessionError Json :=
  match ((Xml.Element.read? ["Org"] text).bind fun root => orgRun? root.children).bind
    (·.mapM org?) with
  | none => .error (.response .xml)
  | some [] => .error (.response .noOrg)
  | some ((href, name) :: _) =>
    .ok (Json.object [("org", .str (pathOf href)), ("org_name", Json.ofText? name)])

/-- The user in the session document of later versions. -/
def sessionUser (text : List Char) : Except SessionError Json :=
  match Xml.Element.read? [] text with
  | none => .error (.response .xml)
  | some root =>
    match Xml.value? root.attributes "org", Xml.value? root.attributes "user" with
    | some org, some user =>
      .ok (Json.object [("org_name", Json.ofText? org), ("user", Json.ofText? user)])
    | _, _ => .error (.response .xml)

/-- The user that the body of an answer names. -/
def user (v : VCloud) (body : ByteArray) : Except SessionError Json :=
  match Text.Utf8.text? body with
  | none => .error (.response .xml)
  | some text =>
    match v with
    | .v08 => orgListUser text.toList
    | _ => sessionUser text.toList

-- ================================================================== answers

/-- The one service that is known after a login at an origin. -/
def computeEndpoint (origin : String) : Endpoint :=
  ⟨"compute", "vcloud", none, .published, origin ++ "/api"⟩

/-- The context in a successful answer. -/
def readSuccess (v : VCloud) (origin : String) (r : Response) : Except SessionError Context :=
  match r.headers.get? v.grantHeader with
  | none => .error (.credentials (.noToken v.grantHeader))
  | some token =>
    if token.isEmpty then .error (.credentials (.noToken v.grantHeader))
    else
      match v.user r.body with
      | .error e => .error e
      | .ok user => .ok ⟨token, none, some user, Catalog.toJson [computeEndpoint origin]⟩

/-- The context in an answer, which a failed one has none of. -/
def read (v : VCloud) (origin : String) (r : Response) : Except SessionError Context :=
  if r.isSuccess then v.readSuccess origin r
  else if r.status == 401 || r.status == 403 then
    .error (.credentials (.refused (Body.errorMessage r)))
  else .error (.response (.loginStatus r.status (Body.errorMessage r)))

end CloudSession.VCloud
