import WidgetStreams.Proofs.Habits
import WidgetStreams.Proofs.Widgets

/-!
# Operations that tell any number of listeners

This file defines which operations are running at a point, and proves how edits
and moves go about telling their listeners, whatever these do: each tells of its
change everybody who was registered when it began, one after the other, and is
over when all of them know. Operations may be nested, as listeners may begin
others.

## Main definitions

- `Errand`, `History.errands` — the operations that are running, read off the journal
- `History.InTurn` — an event is in its place among them
- `UI.Conducts` — a computation that keeps events in their places, a habit

## Main results

- `Client.loud` — edits and moves tell in turn
- `Code.conducted` — so do all runs
-/

namespace WidgetStreams

open History UI

variable {τ α β : Type} {m : Manners} {p q : Point}

/-- **An errand**: an operation that is running, with the listeners that it is to tell, what it has
    changed the state of the widget to, and those who are still to be told of that, in order. -/
structure Errand where
  audience : List Listener
  change : Option Payload := none
  rest : List Listener := []
  deriving Repr, DecidableEq

namespace History

/-- **The operations that are running** at a point, the innermost first. -/
def errands (p : Point) : List Entry → List Errand
  | [] => []
  | x :: earlier =>
    match x.event with
    | .operating q listeners =>
      if q = p then { audience := listeners } :: errands p earlier else errands p earlier
    | .altered q value =>
      if q = p then (errands p earlier).modifyHead fun o =>
        { o with change := some value, rest := o.audience }
      else errands p earlier
    | .heard _ e =>
      if e.change?.map Prod.fst = some p then (errands p earlier).modifyHead fun o =>
        { o with rest := o.rest.tail }
      else errands p earlier
    | .operated q => if q = p then (errands p earlier).tail else errands p earlier
    | _ => errands p earlier

/-- **An event is in its place** among the operations at a point: an operation changes the state
    once, a pager's does so first of all; it tells those whose turn it is, of the change; and it is
    over when nobody is left to be told. -/
def InTurn (p : Point) (earlier : List Entry) : Event → Prop
  | .altered q _ => q = p → ∃ o os, errands p earlier = o :: os ∧ o.change = none ∧
    (p.site = .page → ∃ t i, earlier = ⟨t, .operating p o.audience⟩ :: i)
  | .heard l e => ∀ value, e.change? = some (p, value) → ∃ o os rest,
    errands p earlier = o :: os ∧ o.change = some value ∧ o.rest = l :: rest
  | .operated q => q = p → ∃ o os, errands p earlier = o :: os ∧ o.rest = []
  | _ => True

variable {x : Entry} {j : List Entry}

theorem errands_cons_of_isPlain (hx : x.event.isPlain = true) :
    errands p (x :: j) = errands p j := by
  obtain ⟨t, e⟩ := x
  cases e <;> first | rfl | cases hx

theorem errands_notedAll {σ : Type} {w : Toolkit σ} {es : List Event}
    (hes : ∀ e ∈ es, e.isPlain = true) : errands p (w.notedAll es).journal = errands p w.journal :=
  Toolkit.read_notedAll (fun e he _ _ hx => errands_cons_of_isPlain (hx ▸ hes e he)) w

theorem inTurn_of_isPlain {e : Event} (he : e.isPlain = true) : InTurn p j e := by
  cases e with
  | heard | operating | altered | operated => cases he
  | _ => trivial

theorem errands_cons_heard {t : Thread} {l : Listener} {e : NativeEvent}
    (he : e.change?.map Prod.fst ≠ some p) : errands p (⟨t, .heard l e⟩ :: j) = errands p j :=
  if_neg he

end History

-- ════════════════════════════════════════════════════════════════════════
-- Computations that keep events in their places
-- ════════════════════════════════════════════════════════════════════════

/-- All events are in their places at the moments on a desk. -/
def Desk.Conducted (desk : Desk τ) : Prop :=
  ∀ w ∈ desk.moments, ∀ p, Guarded (InTurn p) w.journal

/-- **All events are in their places** by now, and were so at the moments before. -/
structure Toolkit.Conducted (w : Toolkit (Desk τ)) : Prop where
  journal : ∀ p, Guarded (InTurn p) w.journal
  record : w.client.Conducted

/-- The same operations are running. -/
def Toolkit.OperatesAlike {σ : Type} (v w : Toolkit σ) : Prop :=
  ∀ p, errands p w.journal = errands p v.journal

/-- **An outcome** where all events are in their places and `R` holds. A panic is admitted if `p`
    holds. -/
def UI.Ends (p : Prop) (R : Toolkit (Desk τ) → Prop) :
    EStateM.Result Interrupt (Toolkit (Desk τ)) α → Prop
  | .ok _ u => u.Conducted ∧ R u
  | .error (.panic _) u => p ∧ u.Conducted ∧ R u
  | .error .stalled u => u.client.Conducted

/-- **A computation conducts** operations if it keeps all events in their places, and leaves no
    operation of its own running. -/
def UI.Conducts (p : Prop) (α : Type) (x : UI (Desk τ) α) : Prop :=
  ∀ w : Toolkit (Desk τ), w.Conducted → Ends p w.OperatesAlike (x w)

variable {v w u : Toolkit (Desk τ)} {c : Client (Desk τ)}

namespace UI.Ends

variable {r s : Prop} {R R' : Toolkit (Desk τ) → Prop}

theorem mono {y : EStateM.Result Interrupt (Toolkit (Desk τ)) α} (h : Ends r R y) (hp : r → s)
    (hR : ∀ u, R u → R' u) : Ends s R' y := by
  cases y with
  | ok a u => exact ⟨h.1, hR u h.2⟩
  | error e u =>
    cases e with
    | panic => exact ⟨hp h.1, h.2.1, hR u h.2.2⟩
    | stalled => exact h

/-- **Sequence rule**: what comes second starts where the first ends. -/
theorem bind {x : UI (Desk τ) α} {f : α → UI (Desk τ) β} (hx : Ends r R (x w))
    (hR : r → ∀ u, R u → R' u) (hf : ∀ a u, u.Conducted → R u → Ends r R' (f a u)) :
    Ends r R' ((x >>= f) w) := by
  cases hr : x w with
  | ok a u =>
    rw [hr] at hx
    rw [bind_ok hr]
    exact hf a u hx.1 hx.2
  | error e u =>
    rw [hr] at hx
    rw [bind_error hr]
    cases e with
    | panic => exact ⟨hx.1, hx.2.1, hR hx.1 u hx.2.2⟩
    | stalled => exact hx

/-- **Sequence rule** for what does not panic. -/
theorem next {x : UI (Desk τ) α} {f : α → UI (Desk τ) β} (hx : Ends False R (x w))
    (hf : ∀ a u, u.Conducted → R u → Ends False R' (f a u)) : Ends False R' ((x >>= f) w) :=
  hx.bind False.elim hf

end UI.Ends

namespace Toolkit.Conducted

theorem noted (hw : w.Conducted) {e : Event} (he : ∀ p, InTurn p w.journal e) :
    (w.noted e).Conducted :=
  ⟨fun p => guarded_cons.mpr ⟨he p, hw.journal p⟩, hw.record⟩

theorem plain (hw : w.Conducted) {e : Event} (he : e.isPlain = true) :
    (w.noted e).Conducted ∧ w.OperatesAlike (w.noted e) :=
  ⟨hw.noted fun _ => inTurn_of_isPlain he, fun _ => errands_cons_of_isPlain he⟩

theorem mild (hw : w.Conducted) (hu : w.Mild u) : u.Conducted ∧ w.OperatesAlike u :=
  ⟨⟨hu.journal ▸ hw.journal, hu.client ▸ hw.record⟩, fun p => by rw [hu.journal]⟩

end Toolkit.Conducted

namespace UI.Conducts

/-- **Conducting is a habit.** -/
theorem habit : Habit (Conducts (τ := τ)) where
  mono hp hx w hw := (hx w hw).mono hp fun _ h => h
  panic _ hp w hw := ⟨hp, hw, fun _ => rfl⟩
  stalled w hw := hw.record
  spared {α x} hx w hw := by
    obtain ⟨a, u, hr, hu⟩ := hx w
    rw [hr]
    exact hw.mild hu
  note he w hw := hw.plain (Event.isPlain_of_isMild he)
  bind hx hf w hw := by
    refine (hx w hw).bind (fun _ _ h => h) fun a u hu hwu => ?_
    exact (hf a u hu).mono id fun y huy p => (huy p).trans (hwu p)
  catching {α x} hx w hw := by
    have hend := hx w hw
    simp only [UI.catching]
    cases hr : x w with
    | ok => rw [hr] at hend; exact hend
    | error e =>
      rw [hr] at hend
      cases e with
      | panic => exact hend.2
      | stalled => exact hend
  ensuring {α p after x} ha hx w hw := by
    have hend := hx w hw
    have hafter : ∀ u : Toolkit (Desk τ), u.Conducted → w.OperatesAlike u →
        (after u).Conducted ∧ w.OperatesAlike (after u) := by
      intro u hu hwu
      obtain ⟨hau, hau'⟩ := hu.mild (ha u)
      exact ⟨hau, fun q => (hau' q).trans (hwu q)⟩
    simp only [UI.ensuring]
    cases hr : x w with
    | ok => rw [hr] at hend; exact hafter _ hend.1 hend.2
    | error e =>
      rw [hr] at hend
      cases e with
      | panic => exact ⟨hend.1, hafter _ hend.2.1 hend.2.2⟩
      | stalled =>
        change (after _).client.Conducted
        rw [(ha _).client]
        exact hend
  pointwise hx w hw := by
    obtain ⟨y, hy, he⟩ := hx w
    rw [he]
    exact hy w hw

/-- A listener may be told at any time of what is none of a change. -/
theorem heard (l : Listener) (e : NativeEvent) (he : e.change? = none) :
    Conducts (τ := τ) False Unit (UI.note (.heard l e)) := by
  intro w hw
  refine ⟨hw.noted fun p value hv => ?_, fun p => errands_cons_heard ?_⟩
  · rw [he] at hv
    cases hv
  · rw [he]
    simp

end UI.Conducts

/-- **A client conducts** if all its callbacks do. -/
abbrev Client.Conducts (c : Client (Desk τ)) : Prop := c.Has UI.Conducts

-- ════════════════════════════════════════════════════════════════════════
-- In the course of an operation
-- ════════════════════════════════════════════════════════════════════════

/-- These operations are running at a point, and at all others the same as before. -/
structure Toolkit.Proceeds {σ : Type} (v : Toolkit σ) (p : Point) (os : List Errand)
    (w : Toolkit σ) : Prop where
  here : errands p w.journal = os
  elsewhere : ∀ q, q ≠ p → errands q w.journal = errands q v.journal

namespace Toolkit.Proceeds

variable {σ : Type} {v w u : Toolkit σ} {os os' : List Errand}

theorem trans (h : v.Proceeds p os w) (h' : w.Proceeds p os' u) : v.Proceeds p os' u :=
  ⟨h'.here, fun q hq => (h'.elsewhere q hq).trans (h.elsewhere q hq)⟩

theorem after (h : v.OperatesAlike w) (h' : w.Proceeds p os u) : v.Proceeds p os u :=
  ⟨h'.here, fun q hq => (h'.elsewhere q hq).trans (h q)⟩

theorem alike (h : v.Proceeds p os w) (h' : w.OperatesAlike u) : v.Proceeds p os u :=
  ⟨(h' p).trans h.here, fun q hq => (h' q).trans (h.elsewhere q hq)⟩

/-- What proceeds to where it was has left all operations as they were. -/
theorem operatesAlike (h : v.Proceeds p (errands p v.journal) w) : v.OperatesAlike w := by
  intro q
  by_cases hq : q = p
  · subst hq
    exact h.here
  · exact h.elsewhere q hq

end Toolkit.Proceeds

section Course

variable {o : Errand} {os : List Errand} {l : Listener} {ls : List Listener}
  {e : NativeEvent} {value : Payload}

/-- **An operation begins** for its listeners. -/
theorem Toolkit.Conducted.operating (hw : w.Conducted) (p : Point) (ls : List Listener) :
    (w.noted (.operating p ls)).Conducted ∧
      w.Proceeds p ({ audience := ls } :: errands p w.journal) (w.noted (.operating p ls)) :=
  ⟨hw.noted fun _ => trivial, if_pos rfl, fun _ hq => if_neg (Ne.symm hq)⟩

/-- **It changes the state**, and is to tell all of them. A pager's does so as soon as it begins. -/
theorem Toolkit.Conducted.altered (hw : w.Conducted) (s : Screen) (value : Payload)
    (ho : errands p w.journal = { audience := ls } :: os)
    (hpage : p.site = .page → ∃ t i, w.journal = ⟨t, .operating p ls⟩ :: i) :
    ((w.showing s).noted (.altered p value)).Conducted ∧
      w.Proceeds p (⟨ls, some value, ls⟩ :: os) ((w.showing s).noted (.altered p value)) := by
  have hshown : (w.showing s).Conducted := ⟨hw.journal, hw.record⟩
  refine ⟨hshown.noted ?_, ?_, fun _ hq => if_neg (Ne.symm hq)⟩
  · rintro q rfl
    exact ⟨_, _, ho, rfl, hpage⟩
  · refine (if_pos rfl).trans ?_
    change (errands p w.journal).modifyHead _ = _
    rw [ho]
    rfl

/-- **It tells the next of them**, who may do anything in the meantime. -/
theorem Client.Conducts.hearAs (hc : c.Conducts) (hw : w.Conducted)
    (he : e.change? = some (p, value))
    (ho : errands p w.journal = ⟨ls, some value, l :: o.rest⟩ :: os) :
    UI.Ends False (w.Proceeds p (⟨ls, some value, o.rest⟩ :: os)) (c.hearAs l e w) := by
  obtain ⟨x, hx, hr⟩ := UI.Conducts.habit.answering hc l e
  have hheard : (w.noted (.heard l e)).Conducted := by
    refine hw.noted fun q given hq => ?_
    obtain ⟨rfl, rfl⟩ := Prod.mk.inj (Option.some.inj (he.symm.trans hq))
    exact ⟨_, _, _, ho, rfl, rfl⟩
  have hproceeds : w.Proceeds p (⟨ls, some value, o.rest⟩ :: os) (w.noted (.heard l e)) := by
    refine ⟨(if_pos (by rw [he]; rfl)).trans ?_, fun q hq => errands_cons_heard ?_⟩
    · rw [ho]
      rfl
    · rw [he]
      exact fun h => hq (Option.some.inj h).symm
  rw [hr]
  exact (hx _ hheard).mono id fun _ hu => hproceeds.alike hu

/-- **A round of calls about the change** tells all of them. The induction is on those who are still
    to be told. -/
theorem Client.Conducts.notifyAll (hc : c.Conducts) (hw : w.Conducted)
    (he : e.change? = some (p, value)) (rest : List Listener)
    (ho : errands p w.journal = ⟨ls, some value, rest⟩ :: os) :
    UI.Ends False (w.Proceeds p (⟨ls, some value, []⟩ :: os)) (c.notifyAll e rest w) := by
  induction rest generalizing w with
  | nil => exact ⟨hw, ho, fun _ _ => rfl⟩
  | cons l rest ih =>
    have hfirst : UI.Ends False (w.Proceeds p (⟨ls, some value, rest⟩ :: os))
        ((discard (c.hearAs l e) : UI (Desk τ) Unit) w) :=
      (hc.hearAs (o := ⟨ls, some value, rest⟩) hw he ho).next fun _ _ hu hwu => ⟨hu, hwu⟩
    exact hfirst.next fun _ u hu hwu => (ih hu hwu.here).mono id fun _ hy => hwu.trans hy

/-- **An operation** conducts if all its listeners are told of what it changes. -/
theorem UI.Conducts.operate {x : List Listener → UI (Desk τ) α}
    (hx : ∀ ls (w : Toolkit (Desk τ)) os, w.Conducted →
      errands p w.journal = { audience := ls } :: os →
      (∃ t i, w.journal = ⟨t, .operating p ls⟩ :: i) →
      Ends False (fun u => ∃ o, w.Proceeds p (o :: os) u ∧ o.rest = []) (x ls w)) :
    Conducts False α (UI.operate p x) := by
  intro w hw
  let ls := (w.screen.roster p).snapshot
  let begun := w.noted (.operating p ls)
  obtain ⟨hbegun, hwb⟩ := hw.operating p ls
  have hrun := hx ls begun (errands p w.journal) hbegun hwb.here ⟨_, _, rfl⟩
  change Ends False w.OperatesAlike (UI.ensuring (fun u => u.noted (.operated p)) (x ls) begun)
  simp only [UI.ensuring]
  cases hr : x ls begun with
  | ok a u =>
    rw [hr] at hrun
    obtain ⟨hu, o, hproceeds, hrest⟩ := hrun
    have hall := hwb.trans hproceeds
    have hover : w.Proceeds p (errands p w.journal) (u.noted (.operated p)) := by
      refine ⟨(if_pos rfl).trans ?_, fun q hq => ?_⟩
      · rw [hall.here]
        rfl
      · exact (if_neg (Ne.symm hq)).trans (hall.elsewhere q hq)
    refine ⟨hu.noted fun q hq => ?_, hover.operatesAlike⟩
    subst hq
    exact ⟨o, _, hall.here, hrest⟩
  | error e u =>
    rw [hr] at hrun
    cases e with
    | panic => exact hrun.1.elim
    | stalled => exact hrun

end Course

-- ════════════════════════════════════════════════════════════════════════
-- Edits and moves
-- ════════════════════════════════════════════════════════════════════════

/-- Whether a stop on the way is not the one where the page is selected. -/
def PageStep.isPassing : PageStep → Bool
  | .selected _ => false
  | _ => true

namespace Pages

variable {p : Pages} {page : Nat}

/-- On the way to another page that page is selected once. -/
theorem glide_of_ne (h : page ≠ p.current) (dragged : Bool) :
    ∃ first last, p.glide page dragged = first ++ PageStep.selected page :: last ∧
      (∀ step ∈ first, step.isPassing = true) ∧ ∀ step ∈ last, step.isPassing = true := by
  let first : List PageStep := [.motion (if dragged then .dragging else .settling),
    .scrolled (min p.current page) .half (p.width / 2)] ++
      if dragged then [.motion .settling] else []
  refine ⟨first, [.scrolled page .zero 0, .motion .idle], ?_, ?_, by simp [PageStep.isPassing]⟩
  · simp [glide, first, Ne.symm h]
  · cases dragged <;> simp [first, PageStep.isPassing]

theorem glide_self (dragged : Bool) :
    ∀ step ∈ p.glide p.current dragged, step.isPassing = true := by
  cases dragged <;> simp [glide, PageStep.isPassing]

end Pages

section Moves

variable (hc : c.Conducts)
include hc

theorem UI.Conducts.notifyAll {e : NativeEvent} (he : e.change? = none) (ls : List Listener) :
    Conducts False Unit (c.notifyAll e ls) := habit.notifyAll hc ls fun l => heard l e he

theorem Client.Conducts.edit (v : ViewId) (start before count : Nat) (apply : String → String) :
    UI.Conducts False Unit (c.edit v start before count apply) := by
  refine UI.Conducts.operate fun ls w os hw ho _ => ?_
  rw [run_text_bind]
  refine (UI.Conducts.notifyAll hc rfl ls w hw).next fun _ u hu hwu => ?_
  rw [run_text_bind, run_putText_bind]
  obtain ⟨hy, huy⟩ := hu.altered _ (.text (apply (u.screen.text v))) ((hwu _).trans ho) nofun
  obtain ⟨hz, hyz⟩ := hy.plain (e := .edited v start before count) rfl
  refine (hc.notifyAll hz rfl ls ((hyz _).trans huy.here)).next fun _ a ha hza => ?_
  refine (UI.Conducts.notifyAll hc rfl ls a ha).mono id fun b hab => ?_
  exact ⟨_, (Toolkit.Proceeds.after hwu (huy.trans (.after hyz hza))).alike hab, rfl⟩

/-- A way on which no page is selected is none of a change. -/
theorem UI.Conducts.tellSteps (v : ViewId) (ls : List Listener) (steps : List PageStep)
    (hs : ∀ step ∈ steps, step.isPassing = true) :
    Conducts False Unit (c.tellSteps v ls steps) := by
  refine habit.tellSteps hc v (habit.putPages v) ls steps fun l step hstep => heard l _ ?_
  cases step with
  | selected => cases hs _ hstep
  | scrolled | motion => rfl

omit hc in
theorem Client.tellSteps_append (v : ViewId) (ls : List Listener) (steps rest : List PageStep) :
    c.tellSteps v ls (steps ++ rest) =
      (c.tellSteps v ls steps >>= fun _ => c.tellSteps v ls rest) := by
  induction steps with
  | nil => rfl
  | cons step steps ih => simp only [List.cons_append, Client.tellSteps, ih, bind_assoc]

/-- **A move** to another page: it is shown at once, and selected once on the way. -/
theorem Client.Conducts.move {os : List Errand} {ls : List Listener} (v : ViewId) (p : Pages)
    (page : Nat) (first last : List PageStep) (hfirst : ∀ step ∈ first, step.isPassing = true)
    (hlast : ∀ step ∈ last, step.isPassing = true) (hw : w.Conducted)
    (ho : errands ⟨.page, v⟩ w.journal = { audience := ls } :: os)
    (hj : ∃ t i, w.journal = ⟨t, .operating ⟨.page, v⟩ ls⟩ :: i) :
    UI.Ends False (fun u => ∃ o, w.Proceeds ⟨.page, v⟩ (o :: os) u ∧ o.rest = [])
      ((do
        UI.putPages v p
        UI.note (.altered ⟨.page, v⟩ (.page page))
        c.tellSteps v ls (first ++ PageStep.selected page :: last)) w) := by
  rw [run_putPages_bind]
  obtain ⟨hy, hwy⟩ := hw.altered _ (.page page) ho fun _ => hj
  rw [c.tellSteps_append]
  refine (UI.Conducts.tellSteps hc v ls first hfirst _ hy).next fun _ u hu hyu => ?_
  change UI.Ends False _ ((c.notifyAll (.pageSelected v page) ls >>= fun _ =>
    c.tellSteps v ls last) u)
  refine (hc.notifyAll hu rfl ls ((hyu _).trans hwy.here)).next fun _ a ha hua => ?_
  refine (UI.Conducts.tellSteps hc v ls last hlast a ha).mono id fun b hab => ?_
  exact ⟨_, ((hwy.alike hyu).trans hua).alike hab, rfl⟩

/-- **Edits and moves conduct.** -/
theorem Client.Conducts.loud : c.Loud UI.Conducts where
  setText v text := UI.Conducts.habit.bind (UI.Conducts.habit.read fun _ => ⟨_, rfl⟩) fun _ =>
    hc.edit v _ _ _ _
  append v text := UI.Conducts.habit.bind (UI.Conducts.habit.read fun _ => ⟨_, rfl⟩) fun _ =>
    hc.edit v _ _ _ _
  setPage v page smooth := by
    refine UI.Conducts.habit.bind (UI.Conducts.habit.read fun _ => ⟨_, rfl⟩) fun p =>
      UI.Trait.ite (UI.Conducts.habit.pure _) ?_
    by_cases hpage : page ≠ p.current
    · rw [if_pos hpage]
      refine UI.Conducts.habit.bind (UI.Conducts.operate fun ls w os hw ho hj => ?_)
        fun _ => UI.Conducts.habit.pure _
      cases smooth with
      | false =>
        exact hc.move v _ page [] [.scrolled page .zero 0] (by simp)
          (by simp [PageStep.isPassing]) hw ho hj
      | true =>
        obtain ⟨first, last, hsteps, hfirst, hlast⟩ := Pages.glide_of_ne hpage false
        rw [if_pos rfl, hsteps]
        exact hc.move v _ page first last hfirst hlast hw ho hj
    · rw [if_neg hpage]
      exact UI.Conducts.habit.pure _
  swipeTo v page := by
    refine UI.Conducts.habit.bind (UI.Conducts.habit.read fun _ => ⟨_, rfl⟩) fun p =>
      UI.Trait.ite (UI.Conducts.habit.pure _) ?_
    refine UI.Conducts.habit.bind (UI.Conducts.operate fun ls w os hw ho hj => ?_)
      fun _ => UI.Conducts.habit.pure _
    by_cases hpage : page ≠ p.current
    · obtain ⟨first, last, hsteps, hfirst, hlast⟩ := Pages.glide_of_ne hpage true
      rw [if_pos hpage, hsteps]
      exact hc.move v _ page first last hfirst hlast hw ho hj
    · rw [if_neg hpage]
      obtain rfl := not_ne_iff.mp hpage
      refine (UI.Conducts.tellSteps hc v ls _ (Pages.glide_self true) w hw).mono id fun u hwu => ?_
      exact ⟨_, ⟨(hwu _).trans ho, fun q _ => hwu q⟩, rfl⟩

end Moves

-- ════════════════════════════════════════════════════════════════════════
-- All runs conduct
-- ════════════════════════════════════════════════════════════════════════

/-- **A call conducts**, if client code does. -/
theorem Client.Conducts.make (hc : c.Conducts) (k : Call α) :
    UI.Conducts False α (k.make m c) :=
  UI.Conducts.habit.ofCall hc (fun l e he => .heard l e (NativeEvent.change?_of_isMild he))
    hc.loud k

theorem UI.Conducts.observeMoment : Conducts (τ := τ) False Unit UI.observeMoment := by
  intro w hw
  refine ⟨⟨hw.journal, fun u hu => ?_⟩, fun _ => rfl⟩
  obtain rfl | hu := List.mem_cons.mp hu
  · exact hw.journal
  · exact hw.record u hu

theorem UI.Conducts.putOwn (own : τ) : Conducts False Unit (UI.putOwn own) :=
  fun _ hw => ⟨⟨hw.journal, hw.record⟩, fun _ => rfl⟩

/-- **Code conducts**, to any depth, if its callbacks do not panic. -/
theorem Code.conducts (hm : ¬ m.mayPanic) (code : Code m τ) (depth : Nat) :
    (code.client depth).Conducts :=
  UI.Conducts.habit.ofCode .observeMoment .putOwn (fun h => absurd h hm)
    (fun hc _ k _ => UI.Conducts.habit.place .observeMoment (Client.Conducts.make hc k)) code depth

/-- **All events are in their places** at every moment of every run, if callbacks do not panic. When
    a run is over, so are all operations. -/
theorem Code.conducted (code : Code m τ) (depth : Nat) (own : τ)
    (program : Program m τ True True α) (hm : ¬ m.mayPanic) :
    (∀ w ∈ code.moments depth own program, ∀ p, Guarded (InTurn p) w.journal) ∧
      ∀ a u, code.outcome depth own program = .ok a u →
        ∀ p, Guarded (InTurn p) u.journal ∧ errands p u.journal = [] := by
  have hstart : ({ client := { own := own } } : Toolkit (Desk τ)).Conducted :=
    ⟨fun _ => guarded_nil _, nofun⟩
  have hrun := UI.Conducts.habit.ofProgram .observeMoment .putOwn (fun k _ =>
    UI.Conducts.habit.place .observeMoment (Client.Conducts.make (code.conducts hm depth) k))
    program _ hstart
  constructor
  · intro w hw
    simp only [moments] at hw
    cases hr : code.outcome depth own program with
    | ok a u =>
      rw [hr] at hw
      rw [show program.run _ _ = _ from hr] at hrun
      exact hrun.1.record w hw
    | error e u =>
      rw [hr] at hw
      rw [show program.run _ _ = _ from hr] at hrun
      cases e with
      | panic => exact hrun.2.1.record w hw
      | stalled => exact hrun w hw
  · intro a u hr p
    rw [show program.run _ _ = _ from hr] at hrun
    exact ⟨hrun.1.journal p, hrun.2 p⟩

end WidgetStreams
