import DeviceHub.Config.Codec
import DeviceHub.Config.Error
import DeviceHub.Config.Variable
import DeviceHub.Text.Pieces
import DeviceHub.Toml.Reader

/-!
# The layers of a configuration

A configuration is put together from the usual defaults, a file and environment variables, each layer
over the ones before it. A variable says by its name which value it sets: two underscores part the keys
that lead there.

Mirrors `load_config_from`.

* `overlay_object`: objects are laid over each other key by key.
-/
namespace DeviceHub

mutual

/-- One value over another: objects key by key, anything else as a whole. -/
def Json.overlay (under upper : Json) : Json :=
  match upper with
  | .object members =>
    match under with
    | .object below => .object (overlayMembers below members)
    | _ => upper
  | _ => upper

/-- Members over those of an object. -/
def Json.overlayMembers (below : Dict Json) : List (String × Json) → Dict Json
  | [] => below
  | (key, v) :: rest =>
    let v := match below.get? key with
      | some old => overlay old v
      | none => v
    overlayMembers (below.insert key v) rest

end

namespace Layers

/-- What the names of the variables that count begin with. -/
def mark : String := "BINDERY_"

/-- The name of a variable without its mark, which may be in any case. -/
def unmarked? (name : List Char) : Option (List Char) :=
  let width := mark.length
  if Text.asciiLower (name.take width) = Text.asciiLower mark.toList then some (name.drop width)
  else none

/-- The keys that the name of a variable leads to. -/
def keys? (name : String) : Option (List String) := do
  let rest ← unmarked? (Text.trim name.toList)
  let dotted := Text.trim (Text.replaceAll ['_', '_'] ['.'] rest)
  let keys := Text.pieces '.' (Text.asciiLower dotted)
  if keys.any (·.isEmpty) then none else some (keys.map String.ofList)

/-- The object that holds one value at the end of some keys. -/
def nested (v : Json) : List String → Json
  | [] => v
  | key :: keys => .object [(key, nested v keys)]

/-- The layer of the environment variables. -/
def ofEnvironment (env : Environment) : Json :=
  env.foldl (fun layer (name, text) =>
    match keys? name with
    | some keys => layer.overlay (nested (Variable.read text) keys)
    | none => layer) (.object [])

/-- The layer under all others. -/
def base : Json :=
  .object (Dict.ofList [("bridges", .object []), ("defaults", .object (Dict.ofList
    (match Defaults.usual.toJson with
    | .object members => members
    | _ => []))), ("device_types", .object []), ("devices", .array [])])

/-- The dialect of layered configurations. -/
def dialect : Json.Dialect := ⟨true⟩

/-- The configuration of a file and the environment variables. -/
def load (file : String) (env : Environment) : Except ConfigError Configuration :=
  match Toml.read? file with
  | none => .error (.unreadable ⟨.message, []⟩)
  | some layer =>
    match Configuration.decode dialect ((base.overlay layer).overlay (ofEnvironment env)) with
    | .ok c => .ok c
    | .error f => .error (.unreadable f)

end Layers

theorem Json.overlay_object (below : Dict Json) (members : List (String × Json)) :
    (Json.object below).overlay (.object members) = .object (Json.overlayMembers below members) := by
  simp [Json.overlay]

end DeviceHub
