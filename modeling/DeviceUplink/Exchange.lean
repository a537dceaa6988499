import DeviceUplink.Bytes
import DeviceUplink.Json.Reading
import DeviceUplink.Log.Line
import DeviceUplink.Transport

/-!
# Requests and responses

The standard client asks for the transports in a JSON document and only logs what the server
answers.
-/

namespace DeviceUplink

namespace DirectionMap

/-- The request for these transports; `serial` tells the requests of one client apart. -/
def request (m : DirectionMap) (serial : Nat) : Json.Value :=
  .ofFields [
    ("request_id", .number (.whole serial)),
    ("transports", .ofFields (m.toList.map fun (t, d) => (t.name, .text d.name)))]

end DirectionMap

/-- The document in a response, if it is one. -/
def documentOf? (response : Bytes) : Option Json.Value :=
  (String.fromUTF8? (ByteArray.mk response.toArray)).bind Json.Value.ofDocument?

/-- The event of a response, which is the `count`th one. -/
def responseEvent (count : Nat) (response : Bytes) : LogEvent :=
  let content := match documentOf? response with
    | some document => document.compact
    | none => toString response.length ++ " opaque bytes"
  { severity := .info, message := "Response #" ++ toString count ++ ": " ++ content }

def responseEvents (responses : List Bytes) : List LogEvent :=
  responses.zipIdx.map fun (response, i) => responseEvent (i + 1) response

end DeviceUplink
