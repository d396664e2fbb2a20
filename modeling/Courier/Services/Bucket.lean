import Courier.Call
import Courier.Services.Step

/-!
The object store as a bucket of the cloud. A listing comes in pages, and is either complete or a
failure.
-/

namespace Courier.Services

/-- The failure of a request about objects. -/
def storeFailed (action : StoreAction) (key : String) : Failure :=
  ⟨.objectStore, .storeCall action key⟩

/-- The keys of a folder. Entries without a key are left out. -/
def listFolder (bucket folder : String) : Procedure (List String) := ExceptT.mk do
  let pages : Passage KeyPage.next "" ← (Step.listPages bucket folder).ask
  return readPages (fun page => page.keys.filterMap id) (storeFailed .list folder) pages.answers []

def objectExists (bucket key : String) : Procedure Bool := ExceptT.mk do
  let found : Except Refusal Unit ← (Step.head bucket key).ask
  match found with
  | .ok _ => return .ok true
  | .error .notFound => return .ok false
  | .error _ => return .error (storeFailed .contains key)

def fetchObject (bucket key : String) : Procedure StoredObject := ExceptT.mk do
  let found : Except Refusal (Body × Metadata) ← (Step.fetch bucket key).ask
  match found with
  | .ok (body, metadata) => return .ok ⟨body, metadata⟩
  | .error _ => return .error (storeFailed .get key)

def storeObject (bucket key : String) (content : List UInt8) (contentType : String)
    (metadata : Metadata) : Procedure Unit := ExceptT.mk do
  let stored : Except Refusal Unit ←
    (Step.store bucket key content contentType metadata).ask
  match stored with
  | .ok _ => return .ok ()
  | .error _ => return .error (storeFailed .put key)

end Courier.Services
