import Courier.Body.Basic
import Courier.Http.Status
import Courier.Http.Url

/-!
Exchanges with HTTP services: a request is posted and a reply comes back, or the service is not
reached. Requests that cannot be written down are refused without being sent.
-/

namespace Courier.Http

/-- A request by the method POST. -/
structure Request where
  url : String
  headers : List (String × String)
  body : Body

/-- A reply. Its body is missing if it broke off. -/
structure Reply where
  status : Status
  body : Option (List UInt8)
  deriving DecidableEq

/-- Why there is no reply that can be used. -/
inductive Trouble where
  /-- The request cannot be written down. -/
  | unbuildable
  /-- The address is not that of an HTTP service. -/
  | otherScheme (url : String)
  /-- The service was not reached, or broke off. -/
  | unanswered (url : String)
  /-- The body of the reply cannot be read. -/
  | unreadable
  deriving DecidableEq, Repr

def Trouble.text : Trouble → String
  | unbuildable => "builder error"
  | otherScheme url => s!"builder error for url ({url})"
  | unanswered url => s!"error sending request for url ({url})"
  | unreadable => "error decoding response body"

def isHeaderChar (c : Char) : Bool := c == '\t' || (0x20 ≤ c.toNat && c.toNat != 0x7f)

def Request.build (address : String) (headers : List (String × String)) (body : Body) :
    Except Trouble Request :=
  match Url.normal address with
  | .error .malformed => .error .unbuildable
  | found =>
    if headers.any fun header => !header.2.toList.all isHeaderChar then .error .unbuildable
    else match found with
      | .ok url => .ok ⟨url, headers, body⟩
      | .error _ => .error (.otherScheme address)

end Courier.Http
