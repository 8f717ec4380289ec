import WidgetStreams.Toolkit.Object

/-!
# The journal

This file defines what is written down of a computation: every step that the
library takes on its own account, with the thread on which it was taken.
-/

namespace WidgetStreams

/-- An **event** of the journal: something that the library did. -/
inductive Event
  /-- A bridge took a signal, to deliver it at once or after the delivery that is running. -/
  | accepted (bridge : BridgeId) (signal : Signal) (queued : Bool)
  /-- A bridge began to call its observer. -/
  | began (bridge : BridgeId) (signal : Signal)
  /-- The call came back. -/
  | ended (bridge : BridgeId)
  /-- A value came after the subscription was disposed. -/
  | late (bridge : BridgeId)
  /-- Waiting signals were dropped because the subscription was disposed. -/
  | dropped (bridge : BridgeId) (count : Nat)
  /-- A bridge was told to fail. -/
  | failing (bridge : BridgeId) (fault : Fault)
  /-- An observer without a function for faults was told of one. -/
  | unhandled (fault : Fault)
  /-- A handle was disposed for the first time. -/
  | disposed (handle : HandleId)
  /-- A handle was given an action, in place of the one before. -/
  | armed (handle : HandleId) (action : Release)
  /-- The action of a handle was started. -/
  | releasing (handle : HandleId) (action : Release)
  /-- The action of a handle failed. -/
  | releaseFailed (handle : HandleId) (reason : String)
  /-- The action of a handle panicked. -/
  | releasePanicked (handle : HandleId)
  /-- A subscription was refused because of the thread it was made on. -/
  | refused (expected actual : Thread)
  /-- A subscription to a source was let in, with a handle and a bridge of its own. -/
  | subscribing (handle : HandleId) (bridge : BridgeId) (source : Source)
  /-- A subscription was disposed before it was registered, and is not registered. -/
  | withdrawn (handle : HandleId)
  /-- The source is called to register a subscription. -/
  | attaching (handle : HandleId) (source : Source)
  /-- The source has registered a subscription, and gave out a key. -/
  | registered (handle : HandleId) (source : Source) (key : Option Nat)
  /-- A subscription is registered, and disposing its handle will undo that. -/
  | attached (handle : HandleId) (key : Option Nat) (warm : Bool)
  /-- The call that made a subscription came back. -/
  | concluded (handle : HandleId)
  /-- The registration of a subscription was undone. -/
  | detached (source : Source) (key : Option Nat)
  /-- A scope of so many handles is being disposed. -/
  | clearing (scope : ScopeId) (count : Nat)
  /-- A listener was put at a point directly, and not by a subscription. -/
  | installed (point : Point) (listener : Listener)
  /-- The slot at a point was emptied directly, and not by a disposal. -/
  | cleared (point : Point)
  /-- A key was taken out of the registry at a point directly, and not by a disposal. -/
  | removed (point : Point) (key : Nat)
  /-- The chosen flags of a view were set directly. -/
  | flagged (view : ViewId) (chosen : Flags) (on : Bool)
  /-- A native event came to the slot at a point, where it reached what the slot held. -/
  | dispatched (point : Point) (event : NativeEvent) (reached : Option Listener)
  /-- A listener was told of a native event. -/
  | heard (listener : Listener) (event : NativeEvent)
  /-- A view was clicked. -/
  | clicked (view : ViewId)
  /-- A view was clicked for long. -/
  | longClicked (view : ViewId)
  /-- A view gained or lost the focus. -/
  | focusChanged (view : ViewId) (hasFocus : Bool)
  /-- An operation began of the widget at a point, which is to tell these listeners. -/
  | operating (point : Point) (listeners : List Listener)
  /-- The operation that began last at a point has changed what the widget shows, and is to tell of
      that. -/
  | altered (point : Point) (value : Payload)
  /-- The operation that began last at a point is over. -/
  | operated (point : Point)
  /-- A text was edited. -/
  | edited (view : ViewId) (start before count : Nat)
  /-- A query was submitted. -/
  | submitted (view : ViewId)
  /-- A thread came to its end, and the one that waited for it goes on. -/
  | joined (thread : Thread)
  deriving Repr, DecidableEq, Inhabited

/-- An entry of the journal: an event and the thread on which it happened. -/
structure Entry where
  thread : Thread
  event : Event
  deriving Repr, DecidableEq, Inhabited

end WidgetStreams
