import Mathlib.Logic.Relation
import WidgetStreams.Proofs.Change

/-!
# What the library does, one change at a time

This file defines the changes that the library makes to a toolkit, with the
conditions under which it makes them. Between two of them client code may run;
within one of them it never does. Whatever a program does with the library, the
toolkit goes through a sequence of these steps, so a property that every step
keeps holds at every moment of every run.

## Main definitions

- `Manners` — what the callbacks of a client may do
- `Turn` — how a widget may change its state when it tells of an event
- `Alteration` — how a widget changes its state that is to tell of it in turn
- `Cause` — why a bridge takes a signal, and what the journal says just before
- `Step`, `Steps` — one change, and any number of them
-/

namespace WidgetStreams

open History

variable {σ : Type}

/-- What the callbacks of a client may do. -/
structure Manners where
  /-- Observers may panic. -/
  observersPanic : Bool
  /-- Callbacks other than observers may panic. The actions of handles always may. -/
  othersPanic : Bool
  /-- Callbacks may call what makes a bridge take a signal. -/
  signals : Bool
  /-- Client code may emit on the bridges of which only a widget knows. -/
  everywhere : Bool
  deriving Repr, DecidableEq

/-- Some callback besides the actions of handles may panic. -/
def Manners.mayPanic (m : Manners) : Prop := m.observersPanic = true ∨ m.othersPanic = true

/-- The events on which no property of bridges, handles or registrations depends. -/
def Event.isAside : Event → Bool
  | .late _ | .dropped _ _ | .failing _ _ | .unhandled _ | .releaseFailed _ _ | .releasePanicked _
  | .refused _ _ | .detached _ _ | .clearing _ _ | .clicked _ | .longClicked _
  | .focusChanged _ _ | .operated _ | .edited _ _ _ _ | .submitted _ | .joined _ => true
  | _ => false

theorem History.mark?_of_isAside {e : Event} (he : e.isAside = true) (b : BridgeId) :
    mark? b e = none := by
  cases e <;> first | rfl | cases he

theorem History.milestone?_of_isAside {e : Event} (he : e.isAside = true) (h : HandleId) :
    milestone? h e = none := by
  cases e <;> first | rfl | cases he

/-- Whether a listener is not of a subscription. -/
def Listener.isRaw : Listener → Bool
  | .forward _ _ _ => false
  | _ => true

/-- What mirrors and feeds show is the same on two screens. -/
def Screen.ShowsAlike (s s' : Screen) : Prop :=
  ∀ binding n, binding.isMirror = true ∨ binding.isFeed = true →
    s'.current binding n = s.current binding n

namespace Screen.ShowsAlike

variable {s s' : Screen}

/-- Mirrors show who has the focus, what is selected, and the queries; feeds show texts and
    pages. -/
theorem of_shown (focused : ∀ v, (s'.flags v).focused = (s.flags v).focused)
    (selected : ∀ v, (s'.rowsOf v).selected = (s.rowsOf v).selected)
    (query : ∀ v, s'.query v = s.query v) (text : ∀ v, s'.text v = s.text v)
    (page : ∀ v, (s'.pagesOf v).current = (s.pagesOf v).current) : s.ShowsAlike s' := by
  intro binding n h
  cases binding with
  | focusChanges => exact congrArg Payload.flag (focused n)
  | itemSelections => exact congrArg Payload.number (selected n)
  | queries => exact congrArg Payload.text (query n)
  | texts => exact congrArg Payload.text (text n)
  | pageSelections => exact congrArg Payload.page (page n)
  | _ => exact absurd h (by decide)

/-- A change of anything but views, rows, queries, texts and pages is none of what they show. -/
theorem of_eq (views : s'.views = s.views) (rows : s'.rows = s.rows)
    (queries : s'.queries = s.queries) (texts : s'.texts = s.texts) (pages : s'.pages = s.pages) :
    s.ShowsAlike s' := by
  refine of_shown (fun v => ?_) (fun v => ?_) (fun v => ?_) (fun v => ?_) fun v => ?_
  · rw [Screen.flags, Screen.view, views]
    rfl
  · rw [Screen.rowsOf, rows]
    rfl
  · rw [Screen.query, queries]
    rfl
  · rw [Screen.text, texts]
    rfl
  · rw [Screen.pagesOf, pages]
    rfl

theorem refl (s : Screen) : s.ShowsAlike s := fun _ _ _ => rfl

end Screen.ShowsAlike

/-- No mirror delivers an event that comes to a point. -/
def Point.Unmirrored (p : Point) (e : NativeEvent) : Prop :=
  ∀ binding : Binding, binding.isMirror = true → binding.site = p.site → binding.payload? e = none

/-- **A turn**: a widget may change its state when it is about to tell the slot at a point of an
    event. What mirrors show changes only there, and only if they deliver the event. Then they
    deliver what they show from now on; and this is new, but that a query may be set again. -/
structure Turn (s s' : Screen) (p : Point) (e : NativeEvent) : Prop where
  slots : s'.slots = s.slots
  rosters : s'.rosters = s.rosters
  elsewhere : ∀ binding n, binding.isMirror = true →
    binding.point n ≠ p ∨ binding.payload? e = none → s'.current binding n = s.current binding n
  told : ∀ binding value, binding.isMirror = true → binding.site = p.site →
    binding.payload? e = some value → s'.current binding p.owner = value ∧
      (binding ≠ .queries → s.current binding p.owner ≠ value)
  feeds : ∀ binding n, binding.isFeed = true → s'.current binding n = s.current binding n

/-- **An alteration**: what the feeds at a point show changes to a value, and nothing else of what
    mirrors and feeds show does. -/
structure Alteration (s s' : Screen) (p : Point) (value : Payload) : Prop where
  slots : s'.slots = s.slots
  rosters : s'.rosters = s.rosters
  mirrors : ∀ binding n, binding.isMirror = true → s'.current binding n = s.current binding n
  elsewhere : ∀ binding n, binding.isFeed = true → binding.point n ≠ p →
    s'.current binding n = s.current binding n
  shown : ∀ binding n, binding.isFeed = true → binding.point n = p → s'.current binding n = value

/-- A change that leaves handles, bridges, registrations, the journal and what mirrors and feeds
    show as they are. -/
structure Aside (w w' : Toolkit σ) : Prop where
  handles : w'.handles = w.handles
  bridges : w'.bridges = w.bridges
  journal : w'.journal = w.journal
  slots : w'.screen.slots = w.screen.slots
  rosters : w'.screen.rosters = w.screen.rosters
  shows : w.screen.ShowsAlike w'.screen
  /-- What a scope holds is a handle. -/
  held : ∀ s, ∀ h ∈ w'.scopes.get s, h ∈ w.scopes.get s ∨ w.HasHandle h

/-- A bridge is the one of a subscription that was registered with a widget. -/
def History.Enrolled (b : BridgeId) (binding : Binding) (owner : Nat) (judge : Judge)
    (j : List Entry) : Prop :=
  ∃ h key, Occurred (.subscribing h b (.widget binding owner judge)) j ∧
    Occurred (.registered h (.widget binding owner judge) key) j

/-- A listener comes from a subscription at a site for any number of listeners. -/
def Toolkit.IsShared (w : Toolkit σ) : Listener → Prop
  | .forward binding b judge =>
    binding.site.isShared = true ∧ ∃ owner, Enrolled b binding owner judge w.journal
  | _ => True

/-- **Why a bridge takes a signal**, what the screen shows by then, and what the journal says just
    before: client code emits on a bridge, the subscription is to fail, or a listener hears of a
    native event. -/
inductive Cause (m : Manners) (w : Toolkit σ) (b : BridgeId) :
    Screen → Signal → List Event → Prop
  | direct (value : Payload) (hs : m.everywhere = true ∨ w.servesWidget b = false) :
      Cause m w b w.screen (.next value) []
  | failing (fault : Fault) : Cause m w b w.screen (.failed fault) [.failing b fault]
  | slot {s : Screen} {p : Point} {e : NativeEvent} {binding : Binding} {judge : Judge}
      {value : Payload} (turn : Turn w.screen s p e)
      (hp : (w.screen.slot p).content = some (.forward binding b judge))
      (hv : binding.payload? e = some value) :
      Cause m w b s (.next value)
        [.dispatched p e (some (.forward binding b judge)), .heard (.forward binding b judge) e]
  | roster {e : NativeEvent} {binding : Binding} {judge : Judge} {value : Payload}
      (hl : w.IsShared (.forward binding b judge)) (hv : binding.payload? e = some value) :
      Cause m w b w.screen (.next value) [.heard (.forward binding b judge) e]

/-- The signal of the latest call of a bridge ends its subscription. -/
def History.Failed (b : BridgeId) (j : List Entry) : Prop :=
  ∃ fault, (began b j).getLast? = some (.failed fault)

/-- **One change** that the library makes, or client code to its own state. -/
inductive Step (m : Manners) : Toolkit σ → Toolkit σ → Prop
  -- what concerns neither bridges nor handles nor registrations
  | note {w : Toolkit σ} {e : Event} (he : e.isAside = true) : Step m w (w.noted e)
  | change {w w' : Toolkit σ} (h : Aside w w') : Step m w w'
  -- handles
  | newHandle {w : Toolkit σ} (disposed : Bool) (action : Option Nat) :
      Step m w (w.addingHandle { disposed := disposed, action := action.map .client })
  | dispose {w : Toolkit σ} {h : HandleId} (hh : w.HasHandle h) (hd : w.disposed h = false) :
      Step m w (w.disposing h)
  | arm {w : Toolkit σ} {h : HandleId} {n : Nat} (hh : w.HasHandle h) :
      Step m w (w.arming h (.client n))
  -- bridges
  | newBridge {w : Toolkit σ} (observer : Observer) : Step m w (w.opening observer)
  | start {w : Toolkit σ} {b : BridgeId} {s : Screen} {signal : Signal} {notes : List Event}
      (hb : w.HasBridge b) (hc : w.closed b = false) (hd : w.delivering b = none)
      (cause : Cause m w b s signal notes) :
      Step m w (((w.showing s).notedAll notes).starting b signal)
  | queue {w : Toolkit σ} {b : BridgeId} {s : Screen} {signal : Signal} {notes : List Event}
      (hm : m.signals = true) (hb : w.HasBridge b) (hc : w.closed b = false)
      (hd : w.delivering b ≠ none) (cause : Cause m w b s signal notes) :
      Step m w (((w.showing s).notedAll notes).queueing b signal)
  | comeBack {w : Toolkit σ} {b : BridgeId} (hr : Running b w.journal)
      (hd : w.delivering b ≠ none) : Step m w (w.noted (.ended b))
  | advance {w : Toolkit σ} {b : BridgeId} {signal : Signal} {rest : List Signal}
      (hr : ¬ Running b w.journal) (hd : w.delivering b ≠ none) (hc : w.closed b = false)
      (hf : ¬ Failed b w.journal) (hq : w.queue b = signal :: rest) :
      Step m w (w.advancing b signal rest)
  | drop {w : Toolkit σ} {b : BridgeId} (hr : ¬ Running b w.journal)
      (hd : w.delivering b ≠ none) (hc : w.closed b = true) : Step m w (w.dropping b)
  | finish {w : Toolkit σ} {b : BridgeId} (hr : ¬ Running b w.journal)
      (hd : w.delivering b ≠ none) (hf : w.closed b = true ∨ ¬ Failed b w.journal)
      (hq : w.queue b = []) : Step m w (w.finishing b)
  | unwind {w : Toolkit σ} {b : BridgeId} (hm : m.observersPanic = true)
      (hr : Running b w.journal) (hd : w.delivering b ≠ none) : Step m w (w.finishing b)
  -- subscriptions
  | subscribe {w : Toolkit σ} (source : Source) (observer : Observer) :
      Step m w (((w.opening observer).noted
        (.subscribing w.handles.next w.bridges.next source)).starting w.bridges.next
          (.subscribed w.handles.next))
  | withdraw {w : Toolkit σ} {h : HandleId} {b : BridgeId} {source : Source}
      (hm : milestones h w.journal = [.subscribing h b source]) (hd : w.disposed h = true) :
      Step m w (w.noted (.withdrawn h))
  | attach {w : Toolkit σ} {h : HandleId} {b : BridgeId} {source : Source}
      (hm : milestones h w.journal = [.subscribing h b source]) (hd : w.disposed h = false) :
      Step m w (w.noted (.attaching h source))
  | registerWidget {w : Toolkit σ} {h : HandleId} {b : BridgeId} {binding : Binding} {owner : Nat}
      {judge : Judge}
      (hm : milestones h w.journal = [.subscribing h b (.widget binding owner judge),
        .attaching h (.widget binding owner judge)])
      (hd : w.disposed h = false) :
      Step m w ((w.registering h b binding owner judge).noted
        (.attached h (w.keyOf b binding owner judge) false))
  | registerWarm {w : Toolkit σ} {h : HandleId} {b : BridgeId} {binding : Binding} {owner : Nat}
      {judge : Judge}
      (hm : milestones h w.journal = [.subscribing h b (.widget binding owner judge),
        .attaching h (.widget binding owner judge)])
      (hd : w.disposed h = false) (hc : w.closed b = false) (hi : w.delivering b = none) :
      Step m w (((w.registering h b binding owner judge).noted
        (.attached h (w.keyOf b binding owner judge) true)).starting b
          (.next ((w.registering h b binding owner judge).screen.current binding owner)))
  | registerClient {w : Toolkit σ} {h : HandleId} {b : BridgeId} {callback : Nat} {thread : Thread}
      {key : Option Nat}
      (hm : milestones h w.journal = [.subscribing h b (.client callback thread),
        .attaching h (.client callback thread)]) :
      Step m w ((w.noted (.registered h (.client callback thread) key)).arming h
        (.detach (.client callback thread) key))
  | attached {w : Toolkit σ} {h : HandleId} {b : BridgeId} {callback : Nat} {thread : Thread}
      {key : Option Nat} (warm : Bool)
      (hm : milestones h w.journal = [.subscribing h b (.client callback thread),
        .attaching h (.client callback thread), .registered h (.client callback thread) key]) :
      Step m w (w.noted (.attached h key warm))
  | conclude {w : Toolkit σ} {h : HandleId} {b : BridgeId} {source : Source}
      (hm : milestones h w.journal = [.subscribing h b source, .withdrawn h] ∨
        ∃ key warm, milestones h w.journal = [.subscribing h b source, .attaching h source,
          .registered h source key, .attached h key warm]) : Step m w (w.noted (.concluded h))
  -- listeners that are not of a subscription, and events that no bridge takes
  | listen {w : Toolkit σ} {p : Point} {listener : Listener} (hl : listener.isRaw = true) :
      Step m w ((w.withScreen fun s => (s.install p listener).2).noted (.installed p listener))
  | unlisten {w : Toolkit σ} {p : Point} :
      Step m w ((w.withScreen fun s => s.clearListener p).noted (.cleared p))
  | removeListener {w : Toolkit σ} {p : Point} {key : Nat} :
      Step m w ((w.withScreen fun s => (s.removeListener p key).2).noted (.removed p key))
  | pass {w : Toolkit σ} {s : Screen} {p : Point} {e : NativeEvent} (turn : Turn w.screen s p e)
      (hp : ∀ binding b judge, (w.screen.slot p).content = some (.forward binding b judge) →
        binding.payload? e = none ∨ w.closed b = true) :
      Step m w ((w.showing s).noted (.dispatched p e (w.screen.slot p).content))
  | hear {w : Toolkit σ} {listener : Listener} {e : NativeEvent}
      (hl : ∀ binding b judge, listener = .forward binding b judge →
        (∃ owner, Enrolled b binding owner judge w.journal) ∧
          (binding.payload? e = none ∨ w.closed b = true)) :
      Step m w (w.noted (.heard listener e))
  -- operations that tell any number of listeners
  | operate {w : Toolkit σ} {p : Point} :
      Step m w (w.noted (.operating p (w.screen.roster p).snapshot))
  | alter {w : Toolkit σ} {s : Screen} {p : Point} {value : Payload}
      (h : Alteration w.screen s p value) : Step m w ((w.showing s).noted (.altered p value))
  -- flags that are set directly
  | flag {w : Toolkit σ} {v : ViewId} {chosen : Flags} {on : Bool} :
      Step m w ((w.withScreen fun s => s.setFlags v ((s.flags v).assign chosen on)).noted
        (.flagged v chosen on))

/-- **Any number of changes**, one after the other. -/
abbrev Steps (m : Manners) : Toolkit σ → Toolkit σ → Prop := Relation.ReflTransGen (Step m)

end WidgetStreams
