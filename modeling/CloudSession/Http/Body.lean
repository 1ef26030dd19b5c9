/-
Response bodies by content type. JSON and XML bodies are decoded; the
message of a failed response is looked for inside them, and any other body
is its own message.
-/
import CloudSession.Error
import CloudSession.Http.Message
import CloudSession.Json.Printer
import CloudSession.Json.Reading
import CloudSession.Text.Part
import CloudSession.Xml.Event

namespace CloudSession

/-- The body of a response. An XML body is kept as text. -/
inductive Body
  | empty
  | json (value : Json)
  | xml (text : String)
  | opaqueBytes (bytes : ByteArray)

namespace Body

def isDecodable : Body → Bool
  | .json _ => true
  | .xml _ => true
  | _ => false

/-- Whether the content type of a response mentions a word, in any ASCII case. -/
def typeMentions (r : Response) (word : String) : Bool :=
  r.contentType?.any fun type => Text.containsPart word.toList type.toLower.toList

/-- The body of a response, decoded by its content type. -/
def ofResponse (r : Response) : Except SessionError Body :=
  if r.status == 204 || r.body.isEmpty then .ok .empty
  else if typeMentions r "json" then
    match Json.readBytes? r.body with
    | some value => .ok (.json value)
    | none => .error (.response .json)
  else if typeMentions r "xml" then
    match Text.Utf8.text? r.body with
    | none => .error (.response .xml)
    | some text =>
      if (Xml.texts? text.toList).isSome then .ok (.xml text) else .error (.response .xml)
  else .ok (.opaqueBytes r.body)

/-- The messages of a JSON fault, an object of objects of which the first
has a message. -/
def faultMessage? (value : Json) : Option String :=
  match value with
  | .obj ((_, first) :: rest) =>
    if (first.get? "message").isSome then
      some (Text.joinTexts ";" ((first :: rest.map (·.2)).filterMap (Json.textAt? "message")))
    else none
  | _ => none

/-- What a failed response says. -/
def errorMessage (r : Response) : String :=
  match ofResponse r with
  | .ok (.json value) => (faultMessage? value).getD value.compact
  | .ok (.xml text) =>
    match Xml.texts? text.toList with
    | some texts => Text.joinTexts "; " texts
    | none => text
  | .ok .empty => ""
  | .ok (.opaqueBytes _) => r.text
  | .error _ => r.text

end Body
end CloudSession
