/-!
# Single places

This file defines `Slot`, a place that holds at most one thing. A new thing
displaces the old one.
-/

namespace WidgetStreams

/-- A **slot**: a place for at most one thing. -/
structure Slot (α : Type) where
  /-- What the slot holds. -/
  content : Option α := none
  deriving Repr, DecidableEq

namespace Slot

variable {α : Type}

instance : Inhabited (Slot α) := ⟨{}⟩

/-- Fill the slot; the first component is what was displaced. -/
def set (s : Slot α) (a : α) : Option α × Slot α := (s.content, ⟨some a⟩)

/-- Empty the slot; the first component is what was taken out. -/
def clear (s : Slot α) : Option α × Slot α := (s.content, ⟨none⟩)

/-- Whether the slot holds something. -/
def isSet (s : Slot α) : Bool := s.content.isSome

end Slot

end WidgetStreams
