import WidgetStreams.Toolkit.Basic

/-!
# Log records

This file defines which events of the journal are logged, and how: with a
level, the part of the library that speaks, a message and fields. A thread hands
its records over at its end, so those of an inner thread come first.
-/

namespace WidgetStreams

/-- How much a log record matters. -/
inductive Level
  | trace
  | debug
  | warn
  deriving Repr, DecidableEq, Inhabited

/-- The name of a level. -/
def Level.name : Level → String
  | .trace => "TRACE"
  | .debug => "DEBUG"
  | .warn => "WARN"

/-- A **log record**. -/
structure Record where
  level : Level
  /-- The part of the library that speaks. -/
  target : String
  message : String
  /-- Names and values, in the order in which they are logged. -/
  fields : List (String × String) := []
  deriving Repr, DecidableEq, Inhabited

namespace Record

/-- How a truth value is logged. -/
def ofBool (b : Bool) : String := if b then "true" else "false"

/-- A record about handles. -/
def ofHandle (message : String) (fields : List (String × String) := []) : Record :=
  ⟨.warn, "uibind_core::disposable", message, fields⟩

/-- A record about bridges. -/
def ofBridge (level : Level) (message : String) (fields : List (String × String) := []) : Record :=
  ⟨level, "uibind_runtime::bridge", message, fields⟩

/-- A record about subscriptions. -/
def ofStream (message : String) (fields : List (String × String) := []) : Record :=
  ⟨.debug, "uibind_runtime::stream", message, fields⟩

/-- A record about a view. -/
def ofView (target message : String) (view : ViewId) (fields : List (String × String) := []) :
    Record :=
  ⟨.trace, target, message, ("view", toString view) :: fields⟩

end Record

open Record in
/-- The log record of an event; most events have none. -/
def Event.record? : Event → Option Record
  | .accepted _ _ true => some (ofBridge .trace "re-entrant event queued")
  | .late _ => some (ofBridge .trace "late event dropped after dispose")
  | .dropped _ count =>
    some (ofBridge .trace "queued events dropped after dispose" [("count", toString count)])
  | .failing _ fault =>
    some (ofBridge .debug "bridge failed; disposing" [("error", fault.message)])
  | .unhandled fault =>
    some ⟨.warn, "uibind_core::observer", "unhandled binding error", [("error", fault.message)]⟩
  | .releaseFailed _ reason =>
    some (ofHandle "release action failed; listener may still be attached" [("error", reason)])
  | .releasePanicked _ =>
    some (ofHandle "release action panicked; listener may still be attached")
  | .refused expected actual =>
    some ⟨.warn, "uibind_core::thread", "subscription rejected: not on the source's UI thread",
      [("expected", expected.label), ("actual", actual.label)]⟩
  | .withdrawn _ => some (ofStream "disposed during on_subscribe; not attaching")
  | .attached _ _ warm => some (ofStream "listener attached" [("warm", ofBool warm)])
  | .detached _ _ => some (ofStream "listener detached")
  | .clearing _ count =>
    some ⟨.debug, "uibind_runtime::scope", "disposing scope", [("count", toString count)]⟩
  | .clicked view => some (ofView "uibind_widgets::view" "perform_click" view)
  | .longClicked view => some (ofView "uibind_widgets::view" "perform_long_click" view)
  | .focusChanged view hasFocus =>
    some (ofView "uibind_widgets::view" "focus change" view [("has_focus", ofBool hasFocus)])
  | .edited view start before count =>
    some (ofView "uibind_widgets::text_view" "text changed" view
      [("start", toString start), ("before", toString before), ("count", toString count)])
  | .submitted view => some (ofView "uibind_widgets::search_view" "query submitted" view)
  | _ => none

/-- The log records of one thread among entries. -/
def Entry.recordsOf (entries : List Entry) (thread : Thread) : List Record :=
  (entries.filter fun e => e.thread == thread).filterMap fun e => e.event.record?

/-- The thread whose end an event tells of. -/
def Event.joined? : Event → Option Thread
  | .joined thread => some thread
  | _ => none

namespace Toolkit

variable {σ : Type}

/-- The log records of what happened since the journal had `mark` entries: those of each thread that
    was joined, in the order in which they were, and then those of the running thread. What an
    interrupted thread logged is lost. -/
def recordsSince (w : Toolkit σ) (mark : Nat) : List Record :=
  let entries := (w.journal.take (w.journal.length - mark)).reverse
  let threads := entries.filterMap (fun e => e.event.joined?) ++ [w.here]
  threads.flatMap (Entry.recordsOf entries)

end Toolkit

end WidgetStreams
