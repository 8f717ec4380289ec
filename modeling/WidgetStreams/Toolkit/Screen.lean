import WidgetStreams.Slot
import WidgetStreams.Binding

/-!
# The screen: all widgets with their listeners

This file defines `Screen`, the state of all widgets together with what is
registered at their registration points.

## Main definitions

- `Judge` — who decides the answer to a widget
- `Listener` — who is told of native events
- `Screen` — states and listeners of all widgets
- `Screen.install`, `Screen.uninstall` — registration at a point
- `Screen.current` — the value with which a warm stream starts
-/

namespace WidgetStreams

/-- Who decides whether a widget is told that its event was consumed. -/
inductive Judge
  | always
  /-- The client's predicate of the given number. -/
  | client (predicate : Nat)
  deriving Repr, DecidableEq, Inhabited

/-- A **listener** at a registration point. -/
inductive Listener
  /-- The client's listener of the given number. -/
  | client (callback : Nat)
  /-- A listener that ignores every event. -/
  | silent
  /-- A listener that hands the payloads of a binding to a bridge. -/
  | forward (binding : Binding) (bridge : Nat) (judge : Judge)
  deriving Repr, DecidableEq, Inhabited

/-- The **screen**: the states of all widgets and their listeners. The state of a widget that has a
    view of its own stands under the identity of the view. -/
structure Screen where
  views : Registry ViewState := {}
  texts : Dict ViewId String := {}
  queries : Dict ViewId String := {}
  /-- The queries of search bars. -/
  barQueries : Dict ViewId String := {}
  rows : Dict ViewId Rows := {}
  pages : Dict ViewId Pages := {}
  offsets : Dict ViewId ScrollOffset := {}
  menus : Registry Menu := {}
  /-- The views that can be swiped away. -/
  swipes : Registry ViewId := {}
  /-- The listeners at the sites for one listener. -/
  slots : Dict Point (Slot Listener) := {}
  /-- The listeners at the sites for any number of listeners. -/
  rosters : Dict Point (Registry Listener) := {}
  deriving Repr, DecidableEq

namespace Screen

instance : Inhabited Screen := ⟨{}⟩

-- ════════════════════════════════════════════════════════════════════════
-- Reading
-- ════════════════════════════════════════════════════════════════════════

/-- The state of a view. -/
def view (s : Screen) (v : ViewId) : ViewState := s.views.get v

/-- The flags of a view. -/
def flags (s : Screen) (v : ViewId) : Flags := (s.view v).flags

/-- The text of a text view. -/
def text (s : Screen) (v : ViewId) : String := (s.texts.find? v).getD ""

/-- The query of a search view. -/
def query (s : Screen) (v : ViewId) : String := (s.queries.find? v).getD ""

/-- The query of a search bar. -/
def barQuery (s : Screen) (v : ViewId) : String := (s.barQueries.find? v).getD ""

/-- The rows of an adapter view. -/
def rowsOf (s : Screen) (v : ViewId) : Rows := (s.rows.find? v).getD {}

/-- The pages of a pager. -/
def pagesOf (s : Screen) (v : ViewId) : Pages := (s.pages.find? v).getD {}

/-- How far a scroll view is scrolled. -/
def offset (s : Screen) (v : ViewId) : ScrollOffset := (s.offsets.find? v).getD {}

/-- The slot at a point. -/
def slot (s : Screen) (p : Point) : Slot Listener := (s.slots.find? p).getD {}

/-- The registry at a point. -/
def roster (s : Screen) (p : Point) : Registry Listener := (s.rosters.find? p).getD {}

/-- The thread on which the widget of a point lives. -/
def thread (s : Screen) (p : Point) : Thread :=
  match p.site with
  | .menuClick | .menuDismiss => (s.view (s.menus.get p.owner).anchor).thread
  | .swipe => (s.view (s.swipes.get p.owner)).thread
  | _ => (s.view p.owner).thread

/-- The payload with which a subscription to a warm binding starts. -/
def current (s : Screen) (b : Binding) (owner : Nat) : Payload :=
  match b with
  | .focusChanges => .flag (s.flags owner).focused
  | .focusChangeEvents => .focusChange owner (s.flags owner).focused
  | .texts => .text (s.text owner)
  | .textEvents => .textChange owner (s.text owner) 0 0 0
  | .afterTextEvents => .afterTextChange owner (s.text owner)
  | .itemSelections => .number (s.rowsOf owner).selected
  | .selectionEvents =>
    let rows := s.rowsOf owner
    if rows.selected = invalidPosition then .nothingSelected owner
    else .itemSelected owner rows.selected (rows.idAt rows.selected)
  | .queries => .text (s.query owner)
  | .queryEvents => .queryText owner (s.query owner) false
  | .pageSelections => .page (s.pagesOf owner).current
  | _ => .unit

-- ════════════════════════════════════════════════════════════════════════
-- Writing
-- ════════════════════════════════════════════════════════════════════════

/-- Change the flags of a view. -/
def setFlags (s : Screen) (v : ViewId) (flags : Flags) : Screen :=
  { s with views := s.views.modify v fun state => { state with flags := flags } }

/-- Change the visibility of a view. -/
def setVisibility (s : Screen) (v : ViewId) (visibility : Visibility) : Screen :=
  { s with views := s.views.modify v fun state => { state with visibility := visibility } }

/-- Put `listener` into the slot at a point. A view that is listened to for clicks becomes
    clickable, and the same holds of long clicks. -/
def setListener (s : Screen) (p : Point) (listener : Listener) : Screen :=
  let s := match p.site with
    | .click => s.setFlags p.owner { s.flags p.owner with clickable := true }
    | .longClick => s.setFlags p.owner { s.flags p.owner with longClickable := true }
    | _ => s
  { s with slots := s.slots.insert p ((s.slot p).set listener).2 }

/-- Empty the slot at a point. -/
def clearListener (s : Screen) (p : Point) : Screen :=
  { s with slots := s.slots.insert p ((s.slot p).clear).2 }

/-- Add `listener` to the registry at a point; the first component is its key. -/
def addListener (s : Screen) (p : Point) (listener : Listener) : Nat × Screen :=
  let (key, roster) := (s.roster p).add listener
  (key, { s with rosters := s.rosters.insert p roster })

/-- Take the listener under `key` out of the registry at a point; the first component tells
    whether there was one. -/
def removeListener (s : Screen) (p : Point) (key : Nat) : Bool × Screen :=
  let (removed, roster) := (s.roster p).remove key
  (removed.isSome, { s with rosters := s.rosters.insert p roster })

/-- Register `listener` at a point in the way of its site; a shared site gives out a key. -/
def install (s : Screen) (p : Point) (listener : Listener) : Option Nat × Screen :=
  if p.site.isShared then
    let (key, s) := s.addListener p listener
    (some key, s)
  else (none, s.setListener p listener)

/-- Undo a registration at a point: take out what is under the key, or empty the slot. -/
def uninstall (s : Screen) (p : Point) : Option Nat → Screen
  | some key => (s.removeListener p key).2
  | none => s.clearListener p

-- ════════════════════════════════════════════════════════════════════════
-- Reading after a registration
-- ════════════════════════════════════════════════════════════════════════

/-- **Filling a slot**: the slot at the point holds the listener, every other slot what it held. -/
@[simp] theorem slot_setListener (s : Screen) (p q : Point) (listener : Listener) :
    (s.setListener p listener).slot q = if p = q then ⟨some listener⟩ else s.slot q := by
  by_cases h : p = q <;> simp only [setListener] <;> split <;>
    simp [setFlags, slot, Slot.set, h]

/-- **Emptying a slot**: the slot at the point holds nothing, every other slot what it held. -/
@[simp] theorem slot_clearListener (s : Screen) (p q : Point) :
    (s.clearListener p).slot q = if p = q then ⟨none⟩ else s.slot q := by
  by_cases h : p = q <;> simp [clearListener, slot, Slot.clear, h]

/-- **Adding to a registry**: the registry at the point has the listener added, every other one is
    as it was. -/
@[simp] theorem roster_addListener (s : Screen) (p q : Point) (listener : Listener) :
    (s.addListener p listener).2.roster q =
      if p = q then ((s.roster p).add listener).2 else s.roster q := by
  by_cases h : p = q <;> simp [addListener, roster, h]

/-- **Removing from a registry**: the registry at the point has the key removed, every other one is
    as it was. -/
@[simp] theorem roster_removeListener (s : Screen) (p q : Point) (key : Nat) :
    (s.removeListener p key).2.roster q =
      if p = q then ((s.roster p).remove key).2 else s.roster q := by
  by_cases h : p = q <;> simp [removeListener, roster, h]

/-- A listener is registered at a point, in the slot or in the registry. -/
def Holds (s : Screen) (p : Point) (listener : Listener) : Prop :=
  (s.slot p).content = some listener ∨ listener ∈ (s.roster p).snapshot

@[simp] theorem slots_addListener (s : Screen) (p : Point) (listener : Listener) :
    (s.addListener p listener).2.slots = s.slots := rfl

@[simp] theorem slots_removeListener (s : Screen) (p : Point) (key : Nat) :
    (s.removeListener p key).2.slots = s.slots := rfl

@[simp] theorem rosters_setListener (s : Screen) (p : Point) (listener : Listener) :
    (s.setListener p listener).rosters = s.rosters := by
  simp only [setListener]
  split <;> rfl

@[simp] theorem rosters_clearListener (s : Screen) (p : Point) :
    (s.clearListener p).rosters = s.rosters := rfl

/-- **Registering at a point**: what is registered is the new listener, or it was registered. -/
theorem Holds.of_install {s : Screen} {p q : Point} {new listener : Listener}
    (h : (s.install p new).2.Holds q listener) : s.Holds q listener ∨ p = q ∧ listener = new := by
  simp only [install] at h
  split at h
  · obtain hl | hl := h
    · exact .inl (.inl (by simpa [slot] using hl))
    · rw [roster_addListener] at hl
      split at hl
      · next hpq =>
        rw [Registry.snapshot_add, List.mem_append, List.mem_singleton] at hl
        subst hpq
        exact hl.imp .inr fun e => ⟨rfl, e⟩
      · exact .inl (.inr hl)
  · obtain hl | hl := h
    · rw [slot_setListener] at hl
      split at hl
      · next hpq => exact .inr ⟨hpq, (Option.some.inj hl).symm⟩
      · exact .inl (.inl hl)
    · exact .inl (.inr (by simpa [roster] using hl))

/-- **Registering at a site for one listener** fills the slot there and no other one. -/
theorem slot_install {s : Screen} {p q : Point} (hp : p.site.isShared = false)
    (listener : Listener) :
    (s.install q listener).2.slot p = if q = p then ⟨some listener⟩ else s.slot p := by
  simp only [install]
  split
  · next hq =>
    have hne : q ≠ p := by
      rintro rfl
      rw [hp] at hq
      cases hq
    rw [if_neg hne]
    simp [slot]
  · exact slot_setListener s q p listener

/-- **Undoing a registration** leaves the slots at other points alone. -/
theorem slot_uninstall_of_ne {s : Screen} {p q : Point} (hne : q ≠ p) (key : Option Nat) :
    (s.uninstall q key).slot p = s.slot p := by
  cases key with
  | some key => simp [uninstall, slot]
  | none => rw [uninstall, slot_clearListener, if_neg hne]

/-- **Emptying a slot** registers nothing. -/
theorem Holds.of_clearListener {s : Screen} {p q : Point} {listener : Listener}
    (h : (s.clearListener p).Holds q listener) : s.Holds q listener := by
  obtain hl | hl := h
  · rw [slot_clearListener] at hl
    split at hl
    · cases hl
    · exact .inl hl
  · exact .inr (by simpa [roster] using hl)

/-- **Removing from a registry** registers nothing. -/
theorem Holds.of_removeListener {s : Screen} {p q : Point} {key : Nat} {listener : Listener}
    (h : (s.removeListener p key).2.Holds q listener) : s.Holds q listener := by
  obtain hl | hl := h
  · exact .inl (by simpa [slot] using hl)
  · rw [roster_removeListener] at hl
    split at hl
    · next hpq =>
      subst hpq
      exact .inr (Registry.mem_of_mem_snapshot_remove hl)
    · exact .inr hl

/-- **Undoing a registration** registers nothing. -/
theorem Holds.of_uninstall {s : Screen} {p q : Point} {key : Option Nat} {listener : Listener}
    (h : (s.uninstall p key).Holds q listener) : s.Holds q listener := by
  cases key with
  | none => exact of_clearListener h
  | some => exact of_removeListener h

end Screen

end WidgetStreams
