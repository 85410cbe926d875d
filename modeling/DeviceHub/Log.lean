import DeviceHub.Event
import DeviceHub.Json.Value

/-!
# Log records

A record has a level, a message and further fields. What listeners are told of devices is also
logged, each event in one record.

Mirrors `TracingSink`.
-/
namespace DeviceHub

/-- A record of a log. -/
structure LogRecord where
  level : String
  message : String
  fields : Dict Json

namespace LogRecord

/-- A record of an ordinary event. -/
def info (message : String) (fields : List (String × Json)) : LogRecord :=
  ⟨"INFO", message, Dict.ofList fields⟩

def warn (message : String) (fields : List (String × Json)) : LogRecord :=
  ⟨"WARN", message, Dict.ofList fields⟩

/-- The fields of a record, the message among them. -/
def members (r : LogRecord) : Dict Json := r.fields.insert "message" (.text r.message)

/-- The record of what listeners are told. -/
def ofEvent? : Event → Option LogRecord
  | .begun _ => none
  | .state device channel value =>
    some (info "state update" [("device", .text device), ("channel", .text channel),
      ("value", .text value.display)])
  | .connectivity device status detail =>
    some (info "connectivity update" [("device", .text device), ("status", .text status.name),
      ("detail", .text (detail.getD ""))])

end LogRecord

end DeviceHub
