import WidgetStreams.Single

/-!
# Pointer motion

This file defines what a pointer does over a view, and where.
-/

namespace WidgetStreams

/-- What the pointer did. -/
inductive MotionAction
  | down
  | move
  | up
  | cancel
  | hoverEnter
  | hoverMove
  | hoverExit
  deriving Repr, DecidableEq, Inhabited

namespace MotionAction

/-- All actions. -/
def all : List MotionAction := [.down, .move, .up, .cancel, .hoverEnter, .hoverMove, .hoverExit]

/-- The name of an action. -/
def name : MotionAction → String
  | .down => "Down"
  | .move => "Move"
  | .up => "Up"
  | .cancel => "Cancel"
  | .hoverEnter => "HoverEnter"
  | .hoverMove => "HoverMove"
  | .hoverExit => "HoverExit"

/-- Whether the pointer moved without touching. -/
def isHover : MotionAction → Bool
  | .hoverEnter | .hoverMove | .hoverExit => true
  | _ => false

end MotionAction

/-- A **motion**: an action at a place. -/
structure Motion where
  /-- What the pointer did. -/
  action : MotionAction
  /-- The place from the left. -/
  x : Float32
  /-- The place from the top. -/
  y : Float32
  deriving Repr, DecidableEq, Inhabited

end WidgetStreams
