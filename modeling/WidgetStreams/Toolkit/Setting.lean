import WidgetStreams.Toolkit.Basic

/-!
# Changing the setting

This file defines how the setting of the thread check is changed, for good or
until an override is ended. An override remembers the setting that it replaced
and goes back to it, whatever has become of the setting in between.
-/

namespace WidgetStreams.UI

variable {σ : Type}

/-- Make `check` the setting; the result is the one before. -/
def installCheck (check : ThreadCheck) : UI σ ThreadCheck := do
  let before := (← get).threadCheck
  modify fun w => { w with threadCheck := check }
  return before

/-- Make `check` the setting until the override is ended. -/
def overrideCheck (check : ThreadCheck) : UI σ OverrideId := do
  let before ← installCheck check
  let (o, overrides) := (← get).overrides.add before
  modify fun w => { w with overrides := overrides }
  return o

/-- End an override: the setting goes back to what it was when the override began. -/
def endOverride (o : OverrideId) : UI σ Unit := do
  match (← get).overrides.remove o with
  | (none, _) => return ()
  | (some before, overrides) =>
    modify fun w => { w with threadCheck := before, overrides := overrides }

end WidgetStreams.UI
