/-!
# Threads

This file defines the identities of threads. Threads never run at the same
time: one starts another and waits for its end.
-/

namespace WidgetStreams

/-- A **thread**: the first one, or the `k`-th that was started. -/
inductive Thread
  | main
  | started (k : Nat)
  deriving Repr, DecidableEq, Inhabited

/-- The text that identifies a thread in messages. -/
def Thread.label : Thread → String
  | .main => "ThreadId(main)"
  | .started k => "ThreadId(t" ++ toString k ++ ")"

end WidgetStreams
