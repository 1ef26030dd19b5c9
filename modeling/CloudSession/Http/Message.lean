/-
Requests and responses.
-/
import CloudSession.Http.Headers
import CloudSession.Http.Method
import CloudSession.Text.Utf8

namespace CloudSession

/-- A request as it is handed to the transport. -/
structure Request where
  method : Method
  url : String
  headers : Headers
  body : Option ByteArray

/-- A response as the transport gives it. -/
structure Response where
  status : Nat
  headers : Headers
  body : ByteArray

namespace Response

/-- Whether the status lies in the range of success. -/
def isSuccess (r : Response) : Bool := 200 ≤ r.status && r.status ≤ 299

def contentType? (r : Response) : Option String := r.headers.get? "content-type"

/-- The body as text, ill-formed parts replaced. -/
def text (r : Response) : String := Text.Utf8.forgivingText r.body

end Response
end CloudSession
