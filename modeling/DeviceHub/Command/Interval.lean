import DeviceHub.Text.Duration

/-!
# How often a device is polled, in words

Mirrors `describe_interval`.
-/
namespace DeviceHub

/-- The text of an interval in seconds. -/
def intervalText (seconds : Int) : String :=
  if seconds < 0 then toString seconds ++ "s (invalid)"
  else if seconds = 0 then "once"
  else "every " ++ Text.Duration.text seconds.toNat

end DeviceHub
