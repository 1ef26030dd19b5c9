/-
The context of a session: its token, when that expires, who it is for, and
the raw service catalog that came with it. A context is stored as a JSON
record, which `read?` reads back.
-/
import CloudSession.Json.Printer
import CloudSession.Json.Record
import CloudSession.Text.Utf8
import CloudSession.Time.Reading

namespace CloudSession

/-- What a successful handshake yields. -/
structure Context where
  token : String
  expires : Option Instant
  user : Option Json
  catalog : Json

namespace Context

/-- A context of a token that nothing more is known of. -/
def ofToken (token : String) : Context := ⟨token, none, none, .null⟩

-- ================================================================ documents

/-- The fields of a stored context in their order. -/
def fieldNames : List String := ["token", "expires", "user", "catalog"]

/-- The stored form of a context. -/
def toJson (c : Context) : Json :=
  .obj [("token", .str c.token), ("expires", Json.ofText? (c.expires.map Instant.text)),
    ("user", c.user.getD .null), ("catalog", c.catalog)]

/-- An instant in a stored document. -/
def readInstant? (d : Json.Doc) : Option Instant :=
  d.text?.bind fun s => (Instant.readLenient s.toList).toOption

/-- The context that a record holds. The expiry may be left out only where
the fields are named. -/
def ofRecord? (r : Json.Record) : Option Context :=
  let value := Json.Doc.toJson? (Json.maxDepth - 1)
  if !r.named && (r.get? "expires").isNone then none
  else
    match r.required? "token" Json.Doc.text?, r.optional? "expires" readInstant?,
      r.optional? "user" value, r.optional? "catalog" value with
    | some token, some expires, some user, some catalog =>
      some ⟨token, expires, user, catalog.getD .null⟩
    | _, _, _, _ => none

/-- The context that a document holds. -/
def ofDoc? (d : Json.Doc) : Option Context :=
  (Json.Record.ofDoc? fieldNames d).bind ofRecord?

/-- The context in a text. -/
def read? (text : String) : Option Context :=
  (Json.Doc.read? (text.toList.map some)).bind ofDoc?

/-- The context in a file. -/
def readBytes? (bytes : ByteArray) : Option Context := (Text.Utf8.text? bytes).bind read?

-- ================================================================= validity

/-- Whether a context may still be used at an instant: it has a token, and
the instant moved by the skew lies before its expiry. -/
def isValid (c : Context) (now : Instant) (skew : Int) : Option Bool :=
  if c.token.isEmpty then some false
  else
    match c.expires with
    | none => some true
    | some expires => (now.add? skew).map (·.before expires)

end Context
end CloudSession
