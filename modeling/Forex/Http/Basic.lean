import Forex.Http.Url
import Forex.Provider.Error
import Forex.Text.Utf8

namespace Forex

structure HttpRequest where
  url : Url
  token : Option String := none

namespace HttpRequest

def isHeaderText (s : String) : Bool :=
  s.toList.all fun c ↦ (32 ≤ c.toNat && c.toNat != 127) || c == '\t'

def line (r : HttpRequest) : String := "GET " ++ r.url.target ++ " HTTP/1.1"

def authorization (r : HttpRequest) : Option String :=
  r.token.map fun t ↦
    let isBlank (c : Char) : Bool := c == ' ' || c == '\t'
    String.ofList ((("Bearer " ++ t).toList.reverse.dropWhile isBlank).reverse)

def make (address : String) (token : Option String) : Except HttpError HttpRequest :=
  match Url.parse? address with
  | none => .error .invalidUrl
  | some url =>
    if (token.map isHeaderText).getD true then .ok { url, token } else .error .invalidToken

end HttpRequest

structure HttpReply where
  status : Nat
  length : Nat
  body : ByteArray

namespace HttpReply

def isBodiless (r : HttpReply) : Bool := r.status == 101 || r.status == 204 || r.status == 304

def isProvisional (r : HttpReply) : Bool := 100 ≤ r.status && r.status < 200 && r.status != 101

/-- The status and body as received over a connection that is closed after the reply. Bytes beyond
those announced are not read. -/
def receive (r : HttpReply) : Except HttpError (Nat × String) :=
  if r.status < 100 || 999 < r.status || r.isProvisional then .error .noAnswer
  else if r.isBodiless then .ok (r.status, "")
  else if r.body.size < r.length then .error .bodyCutShort
  else .ok (r.status, Text.ofBytesLossy (r.body.extract 0 r.length))

end HttpReply

end Forex
