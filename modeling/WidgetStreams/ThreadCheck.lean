import WidgetStreams.Text.Blank

/-!
# The thread check and its setting

This file defines the one setting of the library: whether a subscription made
away from the thread of its widget is refused.

## Main definitions

- `ThreadCheck` — refuse or allow
- `ThreadCheck.parse?` — a setting from its text
- `ThreadCheck.ofVariable?` — a setting from a variable that may be missing
-/

namespace WidgetStreams

/-- The **thread check**: whether subscribing on a foreign thread is refused. -/
inductive ThreadCheck
  | enforce
  | disabled
  deriving Repr, DecidableEq

namespace ThreadCheck

instance : Inhabited ThreadCheck := ⟨.enforce⟩

/-- The variable that holds the setting. -/
def variableName : String := "UIBIND_THREAD_CHECK"

/-- The words for an enforced check. -/
def enforceWords : List String := ["enforce", "on", "true", "1"]

/-- The words for a disabled check. -/
def disabledWords : List String := ["off", "disabled", "false", "0"]

/-- The setting that a text stands for. Blanks around it do not count, and neither does the case
    of the letters A to Z; no other letter has a case here. -/
def parse? (raw : String) : Option ThreadCheck :=
  let word := String.ofList ((Text.trimmed raw.toList).map Char.toLower)
  if word ∈ enforceWords then some .enforce
  else if word ∈ disabledWords then some .disabled
  else none

/-- The setting from a variable: a missing or blank one leaves the check enforced. -/
def ofVariable? : Option String → Option ThreadCheck
  | none => some .enforce
  | some raw => if (Text.trimmed raw.toList).isEmpty then some .enforce else parse? raw

end ThreadCheck

end WidgetStreams
