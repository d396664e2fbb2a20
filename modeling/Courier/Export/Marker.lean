import Courier.Export.Object

/-!
Markers: small objects that record which objects have been delivered. A marker has the key of its
object, moved from the export folder to the status folder.
-/

namespace Courier

namespace Marker

def ending : String := ".finished"

def key (exportRoot statusRoot objectKey : String) : String :=
  String.ofList (Text.replaceChars exportRoot.toList statusRoot.toList objectKey.toList) ++ ending

def content (objectKey : String) : String := "Finished " ++ objectKey

def contentType : String := "text/plain"

def metadata (markerKey objectKey : String) : Metadata :=
  [("original-s3-filename", objectKey), ("x-amz-meta-title", markerKey)]

end Marker

end Courier
