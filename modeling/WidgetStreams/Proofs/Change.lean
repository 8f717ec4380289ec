import WidgetStreams.Proofs.History
import WidgetStreams.Toolkit.Stream

/-!
# Changes of a toolkit

This file defines the changes that the library makes to a toolkit, as functions
from toolkits to toolkits, and what is read off a toolkit before and after.

## Main definitions

- `Toolkit.HasHandle`, `Toolkit.disposed`, `Toolkit.closed`, `Toolkit.delivering`, … — reading
- `Toolkit.noted`, `Toolkit.notedAll` — events are entered into the journal
- `Toolkit.showing` — the screen is another one
- `Toolkit.starting`, `Toolkit.disposing`, `Toolkit.registering`, … — the other changes

## Design notes

Every change is a record update, so reading a component that it leaves alone is
an equation by `rfl`. What the journal tells after a change is read with
`collect_notedAll` and `occurred_notedAll`.
-/

namespace WidgetStreams

open History

variable {σ : Type}

/-- What the run of an action changes on the screen before any client code runs. -/
def Release.undone : Release → Screen → Screen
  | .detach (.widget binding owner _) key, s => s.uninstall (binding.point owner) key
  | _, s => s

namespace Toolkit

/-- There is a handle of a number. -/
def HasHandle (w : Toolkit σ) (h : HandleId) : Prop := (w.handles.find? h).isSome

/-- There is a bridge of a number. -/
def HasBridge (w : Toolkit σ) (b : BridgeId) : Prop := (w.bridges.find? b).isSome

/-- Whether a handle is disposed. -/
def disposed (w : Toolkit σ) (h : HandleId) : Bool := (w.handles.get h).disposed

/-- Whether the handle of a bridge is disposed. -/
def closed (w : Toolkit σ) (b : BridgeId) : Bool := w.disposed (w.bridges.get b).handle

/-- The thread on which a bridge delivers, if it does. -/
def delivering (w : Toolkit σ) (b : BridgeId) : Option Thread := (w.bridges.get b).delivering

/-- The signals that wait at a bridge. -/
def queue (w : Toolkit σ) (b : BridgeId) : List Signal := (w.bridges.get b).queue

/-- No bridge delivers. -/
def Idle (w : Toolkit σ) : Prop := ∀ b, w.delivering b = none

/-- A bridge belongs to a subscription to a widget. -/
def servesWidget (w : Toolkit σ) (b : BridgeId) : Bool :=
  w.journal.any fun x => match x.event with
    | .subscribing _ bridge (.widget _ _ _) => bridge == b
    | _ => false

/-- The toolkit with an event more in its journal. -/
def noted (w : Toolkit σ) (e : Event) : Toolkit σ := { w with journal := ⟨w.here, e⟩ :: w.journal }

/-- The toolkit with events more in its journal, the first of the list being the earliest. -/
def notedAll (w : Toolkit σ) (es : List Event) : Toolkit σ :=
  { w with journal := (es.map fun e => ⟨w.here, e⟩).reverse ++ w.journal }

/-- The toolkit with a handle changed. -/
def withHandle (w : Toolkit σ) (h : HandleId) (f : Handle → Handle) : Toolkit σ :=
  { w with handles := w.handles.modify h f }

/-- The toolkit with a bridge changed. -/
def withBridge (w : Toolkit σ) (b : BridgeId) (f : Bridge → Bridge) : Toolkit σ :=
  { w with bridges := w.bridges.modify b f }

/-- The toolkit with the screen changed. -/
def withScreen (w : Toolkit σ) (f : Screen → Screen) : Toolkit σ :=
  { w with screen := f w.screen }

/-- The toolkit with another screen. -/
def showing (w : Toolkit σ) (s : Screen) : Toolkit σ := { w with screen := s }

/-- The toolkit with a handle more. -/
def addingHandle (w : Toolkit σ) (h : Handle) : Toolkit σ :=
  { w with handles := (w.handles.add h).2 }

/-- The toolkit with a bridge more, and a handle for it. -/
def opening (w : Toolkit σ) (observer : Observer) : Toolkit σ :=
  { w with
    handles := (w.handles.add {}).2
    bridges := (w.bridges.add { handle := w.handles.next, observer := observer }).2 }

/-- A bridge begins to deliver a signal. -/
def starting (w : Toolkit σ) (b : BridgeId) (signal : Signal) : Toolkit σ :=
  (w.withBridge b fun bridge => { bridge with delivering := some w.here }).notedAll
    [.accepted b signal false, .began b signal]

/-- A bridge puts a signal behind those that wait. -/
def queueing (w : Toolkit σ) (b : BridgeId) (signal : Signal) : Toolkit σ :=
  (w.withBridge b fun bridge => { bridge with queue := bridge.queue ++ [signal] }).noted
    (.accepted b signal true)

/-- A bridge comes to the first of the signals that wait. -/
def advancing (w : Toolkit σ) (b : BridgeId) (signal : Signal) (rest : List Signal) : Toolkit σ :=
  (w.withBridge b fun bridge => { bridge with queue := rest }).noted (.began b signal)

/-- A bridge drops the signals that wait. -/
def dropping (w : Toolkit σ) (b : BridgeId) : Toolkit σ :=
  w.withBridge b fun bridge => { bridge with queue := [] }

/-- A bridge is at the end of a delivery. -/
def finishing (w : Toolkit σ) (b : BridgeId) : Toolkit σ :=
  w.withBridge b fun bridge => { bridge with delivering := none }

/-- The run of an action begins; what there is to undo at a widget is undone with it. -/
def releasing (w : Toolkit σ) (h : HandleId) (action : Release) : Toolkit σ :=
  (w.withScreen action.undone).noted (.releasing h action)

/-- A handle is marked as disposed, and the run of its action begins. -/
def disposing (w : Toolkit σ) (h : HandleId) : Toolkit σ :=
  let marked :=
    (w.withHandle h fun handle => { handle with disposed := true, action := none }).noted
    (.disposed h)
  match (w.handles.get h).action with
  | none => marked
  | some action => marked.releasing h action

/-- A handle is given an action; if it is disposed, the run of the action begins. -/
def arming (w : Toolkit σ) (h : HandleId) (action : Release) : Toolkit σ :=
  if w.disposed h then (w.noted (.armed h action)).releasing h action
  else (w.noted (.armed h action)).withHandle h fun handle => { handle with action := some action }

/-- The key that a widget gives out for a subscription, if it does. -/
def keyOf (w : Toolkit σ) (b : BridgeId) (binding : Binding) (owner : Nat) (judge : Judge) :
    Option Nat :=
  (w.screen.install (binding.point owner) (.forward binding b judge)).1

/-- A widget registers a subscription. -/
def registering (w : Toolkit σ) (h : HandleId) (b : BridgeId) (binding : Binding) (owner : Nat)
    (judge : Judge) : Toolkit σ :=
  let installed := w.screen.install (binding.point owner) (.forward binding b judge)
  (({ w with screen := installed.2 }).noted
    (.registered h (.widget binding owner judge) installed.1)).arming h
      (.detach (.widget binding owner judge) installed.1)

@[simp] theorem notedAll_nil (w : Toolkit σ) : w.notedAll [] = w := rfl

@[simp] theorem notedAll_cons (w : Toolkit σ) (e : Event) (es : List Event) :
    w.notedAll (e :: es) = (w.noted e).notedAll es := by
  simp [notedAll, noted]

theorem notedAll_append (w : Toolkit σ) (es fs : List Event) :
    w.notedAll (es ++ fs) = (w.notedAll es).notedAll fs := by
  simp [notedAll]

theorem notedAll_concat (w : Toolkit σ) (es : List Event) (e : Event) :
    w.notedAll (es ++ [e]) = (w.notedAll es).noted e := by
  simp [notedAll, noted]

@[simp] theorem journal_noted (w : Toolkit σ) (e : Event) :
    (w.noted e).journal = ⟨w.here, e⟩ :: w.journal := rfl

@[simp] theorem journal_withScreen (w : Toolkit σ) (f : Screen → Screen) :
    (w.withScreen f).journal = w.journal := rfl

@[simp] theorem journal_showing (w : Toolkit σ) (s : Screen) :
    (w.showing s).journal = w.journal := rfl

@[simp] theorem journal_opening (w : Toolkit σ) (observer : Observer) :
    (w.opening observer).journal = w.journal := rfl

@[simp] theorem journal_dropping (w : Toolkit σ) (b : BridgeId) :
    (w.dropping b).journal = w.journal := rfl

@[simp] theorem journal_finishing (w : Toolkit σ) (b : BridgeId) :
    (w.finishing b).journal = w.journal := rfl

theorem journal_starting (w : Toolkit σ) (b : BridgeId) (signal : Signal) :
    (w.starting b signal).journal =
      (w.notedAll [.accepted b signal false, .began b signal]).journal := rfl

theorem journal_queueing (w : Toolkit σ) (b : BridgeId) (signal : Signal) :
    (w.queueing b signal).journal = (w.notedAll [.accepted b signal true]).journal := rfl

/-- What the journal says when a bridge takes a signal and delivers it at once. -/
theorem journal_notedAll_starting (w : Toolkit σ) (notes : List Event) (b : BridgeId)
    (signal : Signal) : ((w.notedAll notes).starting b signal).journal =
      (w.notedAll (notes ++ [.accepted b signal false, .began b signal])).journal := by
  simp [starting, notedAll, withBridge]

/-- What the journal says when a bridge takes a signal that is to wait. -/
theorem journal_notedAll_queueing (w : Toolkit σ) (notes : List Event) (b : BridgeId)
    (signal : Signal) : ((w.notedAll notes).queueing b signal).journal =
      (w.notedAll (notes ++ [.accepted b signal true])).journal := by
  simp [queueing, noted, notedAll, withBridge]

theorem journal_advancing (w : Toolkit σ) (b : BridgeId) (signal : Signal) (rest : List Signal) :
    (w.advancing b signal rest).journal = (w.notedAll [.began b signal]).journal := rfl

theorem journal_disposing (w : Toolkit σ) (h : HandleId) :
    (w.disposing h).journal =
      (w.notedAll (.disposed h :: (w.handles.get h).action.toList.map (.releasing h))).journal := by
  simp only [disposing]
  cases (w.handles.get h).action <;> rfl

theorem journal_arming (w : Toolkit σ) (h : HandleId) (action : Release) :
    (w.arming h action).journal = (w.notedAll
      (.armed h action :: if w.disposed h then [.releasing h action] else [])).journal := by
  simp only [arming]
  split <;> rfl

theorem journal_registering (w : Toolkit σ) (h : HandleId) (b : BridgeId) (binding : Binding)
    (owner : Nat) (judge : Judge) :
    let key := w.keyOf b binding owner judge
    (w.registering h b binding owner judge).journal = (w.notedAll
      (.registered h (.widget binding owner judge) key ::
        .armed h (.detach (.widget binding owner judge) key) ::
          if w.disposed h then [.releasing h (.detach (.widget binding owner judge) key)]
          else [])).journal := by
  intro key
  rw [registering, journal_arming, notedAll_cons, notedAll_cons, notedAll_cons]
  rfl

@[simp] theorem here_registering (w : Toolkit σ) (h : HandleId) (b : BridgeId) (binding : Binding)
    (owner : Nat) (judge : Judge) : (w.registering h b binding owner judge).here = w.here := by
  simp only [registering, arming]
  split <;> rfl

section Open

variable {w : Toolkit σ} {h : HandleId} {b : BridgeId} {binding : Binding} {owner : Nat}
  {judge : Judge} (hd : w.disposed h = false)
include hd

/-- What the journal says from the registration of an open subscription on. -/
theorem journal_notedAll_registering (es : List Event) :
    let key := w.keyOf b binding owner judge
    ((w.registering h b binding owner judge).notedAll es).journal = (w.notedAll
      (.registered h (.widget binding owner judge) key ::
        .armed h (.detach (.widget binding owner judge) key) :: es)).journal := by
  intro key
  rw [notedAll, here_registering, journal_registering, hd]
  simp [notedAll, key]

theorem journal_noted_registering (e : Event) :
    let key := w.keyOf b binding owner judge
    ((w.registering h b binding owner judge).noted e).journal = (w.notedAll
      [.registered h (.widget binding owner judge) key,
        .armed h (.detach (.widget binding owner judge) key), e]).journal := by
  intro key
  rw [← journal_notedAll_registering hd, notedAll_cons, notedAll_nil]

theorem journal_starting_registering (e : Event) (c : BridgeId) (signal : Signal) :
    let key := w.keyOf b binding owner judge
    (((w.registering h b binding owner judge).noted e).starting c signal).journal = (w.notedAll
      [.registered h (.widget binding owner judge) key,
        .armed h (.detach (.widget binding owner judge) key), e, .accepted c signal false,
        .began c signal]).journal := by
  intro key
  rw [journal_starting, ← notedAll_cons, journal_notedAll_registering hd]

end Open

theorem journal_registeringClient (w : Toolkit σ) (h : HandleId) (callback : Nat) (thread : Thread)
    (key : Option Nat) :
    ((w.noted (.registered h (.client callback thread) key)).arming h
        (.detach (.client callback thread) key)).journal = (w.notedAll
      (.registered h (.client callback thread) key ::
        .armed h (.detach (.client callback thread) key) ::
          if w.disposed h then [.releasing h (.detach (.client callback thread) key)]
          else [])).journal := by
  rw [journal_arming, ← notedAll_cons]
  rfl

/-- Putting an action in place disposes nothing. -/
theorem disposed_arming (w : Toolkit σ) (h k : HandleId) (action : Release) :
    (w.arming h action).disposed k = w.disposed k := by
  simp only [arming]
  split
  · rfl
  · by_cases e : h = k <;> simp [disposed, withHandle, noted, e]

/-- **What is read off the journal** is the same after entries that make no difference to it. -/
theorem read_notedAll {α : Type} {f : List Entry → α} {es : List Event}
    (hf : ∀ e ∈ es, ∀ (x : Entry) j, x.event = e → f (x :: j) = f j) (w : Toolkit σ) :
    f (w.notedAll es).journal = f w.journal := by
  induction es generalizing w with
  | nil => rfl
  | cons e es ih =>
    rw [notedAll_cons, ih fun a ha => hf a (List.mem_cons_of_mem _ ha)]
    exact hf e List.mem_cons_self _ _ rfl

/-- What `f` makes of noted events comes last. -/
theorem collect_notedAll {α : Type} (f : Event → Option α) (w : Toolkit σ) (es : List Event) :
    collect f (w.notedAll es).journal = collect f w.journal ++ es.filterMap f := by
  induction es generalizing w with
  | nil => simp
  | cons e es ih =>
    rw [notedAll_cons, ih, journal_noted, collect_cons, List.append_assoc]
    cases h : f e <;> simp [h]

theorem occurred_notedAll {e : Event} {w : Toolkit σ} {es : List Event} :
    Occurred e (w.notedAll es).journal ↔ e ∈ es ∨ Occurred e w.journal := by
  induction es generalizing w with
  | nil => simp
  | cons a es ih =>
    rw [notedAll_cons, ih, journal_noted, occurred_cons, List.mem_cons]
    tauto

end Toolkit

theorem History.marks_noted (b : BridgeId) (w : Toolkit σ) (e : Event) :
    marks b (w.noted e).journal = marks b w.journal ++ (mark? b e).toList :=
  collect_cons _ _ _

theorem History.milestones_noted (h : HandleId) (w : Toolkit σ) (e : Event) :
    milestones h (w.noted e).journal = milestones h w.journal ++ (milestone? h e).toList :=
  collect_cons _ _ _

theorem History.accepted_notedAll (b : BridgeId) (w : Toolkit σ) (es : List Event) :
    accepted b (w.notedAll es).journal = accepted b w.journal ++ es.filterMap (accepted? b) :=
  Toolkit.collect_notedAll _ w es

theorem History.marks_notedAll (b : BridgeId) (w : Toolkit σ) (es : List Event) :
    marks b (w.notedAll es).journal = marks b w.journal ++ es.filterMap (mark? b) :=
  Toolkit.collect_notedAll _ w es

theorem History.milestones_notedAll (h : HandleId) (w : Toolkit σ) (es : List Event) :
    milestones h (w.notedAll es).journal =
      milestones h w.journal ++ es.filterMap (milestone? h) :=
  Toolkit.collect_notedAll _ w es

theorem History.releases_notedAll (h : HandleId) (w : Toolkit σ) (es : List Event) :
    releases h (w.notedAll es).journal = releases h w.journal ++ es.filterMap (release? h) :=
  Toolkit.collect_notedAll _ w es

/-- The start of a delivery is no stage of a subscription. -/
theorem History.milestones_starting (h : HandleId) (w : Toolkit σ) (b : BridgeId)
    (signal : Signal) : milestones h (w.starting b signal).journal = milestones h w.journal := by
  rw [Toolkit.journal_starting, milestones_notedAll]
  exact List.append_nil _

/-- The start of a delivery is the start of a call. -/
theorem History.marks_starting (k : BridgeId) (w : Toolkit σ) (b : BridgeId) (signal : Signal) :
    marks k (w.starting b signal).journal =
      marks k w.journal ++ if b = k then [.began signal] else [] := by
  rw [Toolkit.journal_starting, marks_notedAll]
  by_cases e : b = k <;> simp [List.filterMap_cons, mark?, e]

end WidgetStreams
