import TiltMenu.Log.Event

/-!
# Log profiles

How a run of the program reports its events: readable lines in development,
one machine-readable line an event in production, and nothing under test.
-/

set_option autoImplicit false

namespace TiltMenu.Log

/-- How events are reported. -/
inductive Profile where
  | development
  | production
  | test
  deriving DecidableEq, Repr

namespace Profile

/-- The name of the profile. -/
def name : Profile → String
  | .development => "Development"
  | .production => "Production"
  | .test => "Test"

/-- The profile that a word asks for. Only the case of the letters a to z does
not matter. The error is the reason for refusing the word. -/
def ofWord (word : String) : Except String Profile :=
  let lowered := word.map Char.toLower
  if lowered = "development" ∨ lowered = "dev" then .ok .development
  else if lowered = "production" ∨ lowered = "prod" then .ok .production
  else if lowered = "test" then .ok .test
  else .error ("unknown log profile: " ++ lowered)

/-- Production reports what is worth at least `info`. -/
def reports : Profile → Level → Bool
  | .development, level => level != .trace
  | .production, level => level == .error || level == .warn || level == .info
  | .test, _ => false

end Profile

end TiltMenu.Log
