import Courier.Services.Step
import Courier.Settings.Basic

/-!
The ingestion side. Each file is the body of one request, with all headers of its delivery; only the
status 200 means that it was accepted.
-/

namespace Courier.Services

/-- The media type of delivered files. -/
def fileContentType : String := "application/octet-stream"

/-- The name of the file in the headers of a delivery. -/
def filenameOf (headers : List (String × String)) : String := (headers.lookup "filename").getD ""

def postFailed (filename : String) (trouble : Http.Trouble) : Failure :=
  ⟨.delivery, .postFailed filename trouble.text⟩

def postFile (service : Endpoint) (headers : List (String × String)) (body : Body) :
    Procedure Unit :=
  let filename := filenameOf headers
  match Http.Request.build service.url (("content-type", fileContentType) :: headers) body with
  | .error trouble => throw (postFailed filename trouble)
  | .ok request => ExceptT.mk do
    let reply : Except Http.Trouble Http.Reply ← (Step.post request).ask
    match reply with
    | .error trouble => return .error (postFailed filename trouble)
    | .ok reply =>
      if reply.status = .ok then return .ok ()
      else return .error ⟨.delivery, .postRefused filename reply.status⟩

end Courier.Services
