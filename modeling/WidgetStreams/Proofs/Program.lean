import WidgetStreams.Proofs.Call

/-!
# Programs over the library

This file defines client code as programs that call the library, and proves that
a run of any program, with any programs as callbacks, goes through reachable
toolkits only.

## Main definitions

- `Program` — client code: calls of the library, and computations in between
- `Code` — a program for every callback
- `Code.client` — the client that answers callbacks by their programs, nested up to a depth
- `Code.outcome`, `Code.moments` — the run of a program, and the toolkits that client code saw

## Main results

- `Code.reachable` — every moment of every run is reached by steps
- `Code.idle` — when a run has come to its end, no bridge delivers

## Design notes

A program is a tree: what it does next may depend in any way on the answers it
got and on what it sees of the toolkit. Every time client code is about to do
something, the toolkit is written down on its desk. These are the moments of a
run, and they stay when the run is given up for want of depth or patience.
-/

namespace WidgetStreams

open History UI

variable {τ α : Type} {m : Manners} {s p : Prop}

/-- **A program**: client code with a state of type `τ`. It may reach other client code than actions
    if `s` holds, and panic if `p` holds; a panic may also be caught. -/
inductive Program (m : Manners) (τ : Type) (s : Prop) : Prop → Type → Type 1
  /-- Come to an end. -/
  | done {p : Prop} {α : Type} (a : α) : Program m τ s p α
  /-- Panic with a text. -/
  | panic {p : Prop} {α : Type} (h : p) (message : String) : Program m τ s p α
  /-- Look at the toolkit and at the own state. -/
  | look {p : Prop} {α : Type} (next : Toolkit Unit → τ → Program m τ s p α) : Program m τ s p α
  /-- Change the own state. -/
  | keep {p : Prop} {α : Type} (own : τ) (next : Program m τ s p α) : Program m τ s p α
  /-- Call the library. -/
  | call {p : Prop} {α β : Type} (k : Call β) (hs : k.reach ≠ .actions → s)
      (hp : k.reach.mayPanic m → p) (next : β → Program m τ s p α) : Program m τ s p α
  /-- Go through a part that may panic, and go on in either case. -/
  | attempt {p : Prop} {α β : Type} (body : Program m τ s True β)
      (next : Except String β → Program m τ s p α) : Program m τ s p α
  /-- Go through a part on a new thread, and wait for its end. -/
  | elsewhere {p : Prop} {α β : Type} (body : Program m τ s p β)
      (next : β → Program m τ s p α) : Program m τ s p α

/-- A call that a program makes which is free to reach all client code and to panic. -/
def Program.making {β : Type} (k : Call β) (next : β → Program m τ True True α) :
    Program m τ True True α :=
  .call k (fun _ => trivial) (fun _ => trivial) next

/-- **The desk** of the client: its own state, and the moments so far, latest first. -/
structure Desk (τ : Type) where
  own : τ
  moments : List (Toolkit Unit) := []

/-- Write down the present moment. -/
def UI.observeMoment : UI (Desk τ) Unit :=
  modify fun w => { w with client := { w.client with moments := w.erased :: w.client.moments } }

/-- Change the client's own state. -/
def UI.putOwn (own : τ) : UI (Desk τ) Unit :=
  modify fun w => { w with client := { w.client with own := own } }

/-- Go through a program. -/
def Program.run (c : Client (Desk τ)) {p : Prop} {α : Type} : Program m τ s p α → UI (Desk τ) α
  | .done a => do
    observeMoment
    return a
  | .panic _ message => do
    observeMoment
    throw (.panic message)
  | .look next => do
    observeMoment
    let w ← get
    (next w.erased w.client.own).run c
  | .keep own next => do
    observeMoment
    putOwn own
    next.run c
  | .call k _ _ next => do
    observeMoment
    let answer ← k.make m c
    (next answer).run c
  | .attempt body next => do
    observeMoment
    let result ← catching (body.run c)
    (next result).run c
  | .elsewhere body next => do
    observeMoment
    let result ← onNewThread (body.run c)
    (next result).run c

/-- **Code**: a program for every callback of a client, within the manners. -/
structure Code (m : Manners) (τ : Type) where
  observe : Nat → Signal → Program m τ (m.signals = true) (m.observersPanic = true) Unit
  judge : Nat → Payload → Program m τ (m.signals = true) (m.othersPanic = true) (Except String Bool)
  hear : Nat → NativeEvent → Program m τ (m.signals = true) (m.othersPanic = true) Bool
  release : Nat → Program m τ (m.signals = true) True (Except String Unit)
  attach : Nat → BridgeId → Program m τ (m.signals = true) (m.othersPanic = true) (Option Nat)
  detach : Nat → Option Nat → Program m τ (m.signals = true) True Unit
  current : Nat → Program m τ (m.signals = true) (m.othersPanic = true) Payload
  absorb : Nat → Payload → Program m τ (m.signals = true) (m.othersPanic = true) (Except Fault Unit)

namespace Code

/-- Code whose callbacks do nothing. -/
def quiet (m : Manners) : Code m Unit where
  observe _ _ := .done ()
  judge _ _ := .done (.ok true)
  hear _ _ := .done true
  release _ := .done (.ok ())
  attach _ _ := .done none
  detach _ _ := .done ()
  current _ := .done .unit
  absorb _ _ := .done (.ok ())

/-- The client that answers callbacks by their programs, nested up to a depth. -/
def client (code : Code m τ) : Nat → Client (Desk τ)
  | 0 => .stalled
  | depth + 1 =>
    { patience := depth + 1
      observe := fun n signal => (code.observe n signal).run (code.client depth)
      judge := fun n value => (code.judge n value).run (code.client depth)
      hear := fun n event => (code.hear n event).run (code.client depth)
      release := fun n => (code.release n).run (code.client depth)
      attach := fun n b => (code.attach n b).run (code.client depth)
      detach := fun n key => (code.detach n key).run (code.client depth)
      current := fun n => (code.current n).run (code.client depth)
      absorb := fun n value => (code.absorb n value).run (code.client depth) }

/-- **The run of a program** that is free to reach all client code and to panic. -/
def outcome (code : Code m τ) (depth : Nat) (own : τ) (program : Program m τ True True α) :
    EStateM.Result Interrupt (Toolkit (Desk τ)) α :=
  program.run (code.client depth) { client := { own := own } }

/-- **The moments of a run**: the toolkits that client code saw in its course, in the program or in
    any callback, latest first. -/
def moments (code : Code m τ) (depth : Nat) (own : τ) (program : Program m τ True True α) :
    List (Toolkit Unit) :=
  match code.outcome depth own program with
  | .ok _ w => w.client.moments
  | .error _ w => w.client.moments

end Code

/-- The moments on a desk are reached by steps. -/
def Desk.Faithful (m : Manners) (desk : Desk τ) : Prop :=
  ∀ w ∈ desk.moments, Steps m Toolkit.fresh w

namespace Keeps

theorem observeMoment : Keeps m (Desk.Faithful m) s p (UI.observeMoment : UI (Desk τ) Unit) := by
  intro w hw _
  have ha :
    Aside w { w with client := { w.client with moments := w.erased :: w.client.moments } } :=
    ⟨rfl, rfl, rfl, rfl, rfl, .refl _, fun _ _ h => .inl h⟩
  have hs : Step m w _ := .change ha
  refine ⟨⟨hw.past, hs.sound hw.sound, fun u hu => ?_⟩, .of_aside ha rfl, trivial⟩
  obtain rfl | hu := List.mem_cons.mp hu
  · exact hw.past
  · exact hw.record u hu

theorem putOwn (own : τ) : Keeps m (Desk.Faithful m) s p (UI.putOwn own : UI (Desk τ) Unit) := by
  intro w hw _
  have ha : Aside w { w with client := { w.client with own := own } } :=
    ⟨rfl, rfl, rfl, rfl, rfl, .refl _, fun _ _ h => .inl h⟩
  have hs : Step m w _ := .change ha
  exact ⟨⟨hw.past, hs.sound hw.sound, hw.record⟩, .of_aside ha rfl, trivial⟩

/-- What is done on a new thread is done by the time the old one goes on. -/
theorem onNewThread {σ : Type} {K : σ → Prop} {x : UI σ α} (hx : Keeps m K s p x) :
    Keeps m K s p (UI.onNewThread x) := by
  intro w hw hf
  let w' : Toolkit σ := { w with here := .started (w.started + 1), started := w.started + 1 }
  have ha : Aside w w' := ⟨rfl, rfl, rfl, rfl, rfl, .refl _, fun _ _ h => .inl h⟩
  have hw' : Reached m K w' := hw.steps (.single (.change ha)) rfl
  have hback : ∀ u, Reached m K u → Frame m w' u →
      Reached m K { u with here := w.here } ∧ Frame m w { u with here := w.here } := by
    intro u hu hwu
    have ha' : Aside u { u with here := w.here } :=
      ⟨rfl, rfl, rfl, rfl, rfl, .refl _, fun _ _ h => .inl h⟩
    refine ⟨hu.steps (.single (.change ha')) rfl, ?_, rfl, hwu.delivering,
      hwu.marks, hwu.milestones⟩
    exact (Relation.ReflTransGen.head (.change ha) hwu.steps).tail (.change ha')
  have hrun := hx w' hw' fun hs => (hf hs).imp id fun hi => hi
  change Lands m K p (Frame m w) _
    ((ensuring (fun after => { after with here := w.here }) x >>= fun a => do
      UI.note (.joined (.started (w.started + 1)))
      return a) w')
  have hland : Lands m K p (Frame m w) (fun _ _ => True)
      (ensuring (fun after => { after with here := w.here }) x w') := by
    simp only [ensuring]
    cases hr : x w' with
    | ok a u =>
      rw [hr] at hrun
      obtain ⟨hu, hwu⟩ := hback u hrun.1 hrun.2.1
      exact ⟨hu, hwu, trivial⟩
    | error e u =>
      rw [hr] at hrun
      cases e with
      | panic =>
        obtain ⟨hu, hwu⟩ := hback u hrun.2.1 hrun.2.2
        exact ⟨hrun.1, hu, hwu⟩
      | stalled => exact hrun
  refine hland.bind (fun _ h => h) fun a u hu hwu _ => Lands.after hwu ?_
  exact (Keeps.note (s := False) rfl).bind (fun _ => .pure a) u hu False.elim

/-- Computations of callbacks may make bridges take signals if the manners allow it. -/
theorem of_signals {σ : Type} {K : σ → Prop} {x : UI σ α}
    (hx : Keeps m K (m.signals = true) p x) : Keeps m K False p x :=
  fun w hw _ => hx w hw .inl

end Keeps

/-- **A program keeps the frame** in which it is run. The induction is on the program, with one case
    for each thing that it may do first. -/
theorem Program.keeps {c : Client (Desk τ)} (hc : c.Behaves m (Desk.Faithful m))
    (program : Program m τ s p α) : Keeps m (Desk.Faithful m) s p (program.run c) := by
  induction program with
  | done a => exact Keeps.observeMoment.bind fun _ => .pure a
  | panic h message => exact Keeps.observeMoment.bind fun _ w hw _ => ⟨h, hw, .refl w⟩
  | look next ih =>
    refine Keeps.observeMoment.bind fun _ w hw hf => ?_
    exact ih w.erased w.client.own w hw hf
  | keep own next ih => exact Keeps.observeMoment.bind fun _ => (Keeps.putOwn own).bind fun _ => ih
  | call k hs hp next ih =>
    exact Keeps.observeMoment.bind fun _ => ((k.keeps hc).mono hs hp).bind fun answer => ih answer
  | attempt body next ihb ihn =>
    exact Keeps.observeMoment.bind fun _ => ihb.catching.bind fun result => ihn result
  | elsewhere body next ihb ihn =>
    exact Keeps.observeMoment.bind fun _ => ihb.onNewThread.bind fun result => ihn result

namespace Code

variable (code : Code m τ)

/-- **Code behaves**, to any depth. -/
theorem behaves (depth : Nat) : (code.client depth).Behaves m (Desk.Faithful m) := by
  induction depth with
  | zero => exact Client.behaves_stalled
  | succ depth ih =>
    exact {
      observe := fun n signal => ((code.observe n signal).keeps ih).of_signals
      judge := fun n value => ((code.judge n value).keeps ih).of_signals
      hear := fun n event => ((code.hear n event).keeps ih).of_signals
      release := fun n => ((code.release n).keeps ih).of_signals
      attach := fun n b => ((code.attach n b).keeps ih).of_signals
      detach := fun n key => ((code.detach n key).keeps ih).of_signals
      current := fun n => ((code.current n).keeps ih).of_signals
      absorb := fun n value => ((code.absorb n value).keeps ih).of_signals }

/-- A toolkit with nothing but a client's state is reached. -/
theorem reached_start (own : τ) : Reached m (Desk.Faithful m)
    ({ client := { own := own } } : Toolkit (Desk τ)) where
  past := .refl
  sound := Toolkit.sound_start _
  record := by simp [Desk.Faithful]

variable {code} {depth : Nat} {own : τ} {program : Program m τ True True α}

/-- The run of a program lands. -/
theorem lands (depth : Nat) (own : τ) (program : Program m τ True True α) :
    Lands m (Desk.Faithful m) True (Frame m { client := { own := own } }) (fun _ _ => True)
      (code.outcome depth own program) :=
  (program.keeps (code.behaves depth)) _ (reached_start own) fun _ => .inr fun _ => rfl

/-- **Every moment of every run is reached by steps.** -/
theorem reachable {w : Toolkit Unit} (hw : w ∈ code.moments depth own program) :
    Steps m Toolkit.fresh w := by
  have h := code.lands depth own program
  simp only [moments] at hw
  cases hr : code.outcome depth own program with
  | ok a u =>
    rw [hr] at h hw
    exact h.1.record w hw
  | error e u =>
    rw [hr] at h hw
    cases e with
    | panic => exact h.2.1.record w hw
    | stalled => exact h w hw

/-- **When a run has come to its end**, that is reached by steps too, and no bridge delivers. -/
theorem idle {a : α} {u : Toolkit (Desk τ)} (hr : code.outcome depth own program = .ok a u) :
    Steps m Toolkit.fresh u.erased ∧ u.erased.Idle := by
  have h := code.lands depth own program
  rw [hr] at h
  exact ⟨h.1.past, h.2.1.delivering⟩

/-- **When a run has come to its end by a panic**, no bridge delivers either. -/
theorem idle_of_panic {message : String} {u : Toolkit (Desk τ)}
    (hr : code.outcome depth own program = .error (.panic message) u) :
    Steps m Toolkit.fresh u.erased ∧ u.erased.Idle := by
  have h := code.lands depth own program
  rw [hr] at h
  exact ⟨h.2.1.past, h.2.2.delivering⟩

/-- A result that satisfies a test is one that came back. -/
theorem exists_of_test {P : Toolkit (Desk τ) → Prop} [DecidablePred P]
    {r : EStateM.Result Interrupt (Toolkit (Desk τ)) α}
    (h : (match r with
      | .ok _ u => decide (P u)
      | .error _ _ => false) = true) : ∃ a u, r = .ok a u ∧ P u := by
  cases r with
  | ok a u => exact ⟨a, u, rfl, of_decide_eq_true h⟩
  | error => cases h

/-- Whether a computation came back with an answer, and the toolkit by then passes a test. -/
def answers [DecidableEq α] (r : EStateM.Result Interrupt (Toolkit (Desk τ)) α) (a : α)
    (test : Toolkit (Desk τ) → Bool) : Bool :=
  match r with
  | .ok a' u => a' = a && test u
  | .error _ _ => false

theorem exists_of_answers [DecidableEq α] {a : α} {test : Toolkit (Desk τ) → Bool}
    {r : EStateM.Result Interrupt (Toolkit (Desk τ)) α} (h : answers r a test = true) :
    ∃ u, r = .ok a u ∧ test u = true := by
  cases r with
  | ok a' u =>
    obtain ⟨rfl, hu⟩ : a' = a ∧ test u = true := by simpa [answers] using h
    exact ⟨u, rfl, hu⟩
  | error => cases h

end Code

end WidgetStreams
