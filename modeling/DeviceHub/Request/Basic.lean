import DeviceHub.Payload
import DeviceHub.Text.Pieces
import DeviceHub.Request.Envelope

/-!
# Requests for a device

What to ask a vendor about a device, apart from who the device is: the id is put into the path where
the placeholder stands.

Mirrors `HttpMethod`, and `RequestSpec` with `get`, `post` and `render_path`.
-/
namespace DeviceHub

/-- The methods of requests. -/
inductive Method where
  | get
  | post
  deriving DecidableEq

namespace Method

def name : Method → String
  | .get => "GET"
  | .post => "POST"

def all : List Method := [.get, .post]

def ofName? (s : String) : Option Method := all.find? fun m => m.name = s

theorem ofName?_name (m : Method) : ofName? m.name = some m := by cases m <;> decide

end Method

/-- A request for a device. -/
structure DeviceRequest where
  method : Method
  path : String
  body : Option Json
  format : PayloadFormat
  envelope : Option Envelope

namespace DeviceRequest

/-- A request without body for a JSON answer. -/
def get (path : String) : DeviceRequest := ⟨.get, path, none, .json, none⟩

/-- A request that sends JSON and has JSON answered. -/
def post (path : String) (body : Json) : DeviceRequest := ⟨.post, path, some body, .json, none⟩

instance : Inhabited DeviceRequest := ⟨get ""⟩

/-- What the device's id is put in the place of. -/
def placeholder : String := "\x7bdevice\x7d"

/-- The path for one device. -/
def pathFor (r : DeviceRequest) (device : String) : String :=
  String.ofList (Text.replaceAll placeholder.toList device.toList r.path.toList)

end DeviceRequest

end DeviceHub
