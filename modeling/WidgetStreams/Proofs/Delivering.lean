import WidgetStreams.Proofs.Disposing

/-!
# Delivering takes steps

This file proves that operations on bridges land within their frame, whatever
the observers do: in particular a delivery, with all that its observer brings
about and with the signals that come in meanwhile, ends where no call of the
bridge is left running.

## Main definitions

- `Within` — what a delivery leaves alone while it lasts

## Main results

- `Client.Behaves.drain`, `Client.Behaves.deliver` — a delivery lands
- `Client.Behaves.emit`, `Client.Behaves.emitJudged`, `Client.Behaves.fail` — so do its uses
-/

namespace WidgetStreams

open History UI

variable {σ : Type} {m : Manners} {K : σ → Prop} {v w u : Toolkit σ} {c : Client σ}
  {b : BridgeId} {screen : Screen} {signal : Signal}

/-- **Within a delivery** of a bridge that begins at `v`, all is left alone that a frame leaves
    alone, but the bridge delivers. -/
structure Within (m : Manners) (b : BridgeId) (v w : Toolkit σ) : Prop where
  steps : Steps m v w
  here : w.here = v.here
  delivering : ∀ k ≠ b, w.delivering k = v.delivering k
  inside : w.delivering b ≠ none
  marks : ∀ k ≠ b, v.delivering k ≠ none → marks k w.journal = marks k v.journal
  milestones : ∀ h, v.HasHandle h → milestones h w.journal = milestones h v.journal

namespace Within

theorem refl (hd : w.delivering b ≠ none) : Within m b w w :=
  ⟨.refl, rfl, fun _ _ => rfl, hd, fun _ _ _ => rfl, fun _ _ => rfl⟩

theorem trans (h : Within m b v w) (h' : Within m b w u) : Within m b v u where
  steps := h.steps.trans h'.steps
  here := h'.here.trans h.here
  delivering k hk := (h'.delivering k hk).trans (h.delivering k hk)
  inside := h'.inside
  marks k hk hd := (h'.marks k hk (by rwa [h.delivering k hk])).trans (h.marks k hk hd)
  milestones a ha := (h'.milestones a (h.steps.grows.hasHandle ha)).trans (h.milestones a ha)

theorem frame (h : Within m b v w) (h' : Frame m w u) : Within m b v u where
  steps := h.steps.trans h'.steps
  here := h'.here.trans h.here
  delivering k hk := (h'.delivering k).trans (h.delivering k hk)
  inside := by rw [h'.delivering b]; exact h.inside
  marks k hk hd := (h'.marks k (by rwa [h.delivering k hk])).trans (h.marks k hk hd)
  milestones a ha := (h'.milestones a (h.steps.grows.hasHandle ha)).trans (h.milestones a ha)

/-- A step of the delivery itself. -/
theorem step (h : Within m b v w) (hs : Step m w u) (here : u.here = w.here)
    (delivering : ∀ k ≠ b, u.delivering k = w.delivering k) (inside : u.delivering b ≠ none)
    (hmarks : ∀ k ≠ b, History.marks k u.journal = History.marks k w.journal)
    (hmilestones : ∀ a, History.milestones a u.journal = History.milestones a w.journal) :
    Within m b v u where
  steps := h.steps.tail hs
  here := here.trans h.here
  delivering k hk := (delivering k hk).trans (h.delivering k hk)
  inside := inside
  marks k hk hd := (hmarks k hk).trans (h.marks k hk hd)
  milestones a ha := (hmilestones a).trans (h.milestones a ha)

/-- **The end of a delivery** restores the frame. -/
theorem finish (h : Within m b v w) (hd : v.delivering b = none)
    (hs : Step m w (w.finishing b)) : Frame m v (w.finishing b) where
  steps := h.steps.tail hs
  here := h.here
  delivering k := by
    by_cases e : b = k
    · subst e
      simp [Toolkit.delivering, Toolkit.finishing, Toolkit.withBridge] at hd ⊢
      exact hd.symm
    · rw [← h.delivering k (Ne.symm e)]
      simp [Toolkit.delivering, Toolkit.finishing, Toolkit.withBridge, e]
  marks k hk := by
    have hne : k ≠ b := by
      rintro rfl
      exact hk hd
    exact h.marks k hne hk
  milestones := h.milestones

end Within

theorem History.marks_ended (b : BridgeId) (w : Toolkit σ) :
    marks b (w.noted (.ended b)).journal = marks b w.journal ++ [.ended] := by
  simp [marks, mark?]

theorem History.marks_began (b : BridgeId) (w : Toolkit σ) (signal : Signal) :
    marks b (w.noted (.began b signal)).journal = marks b w.journal ++ [.began signal] := by
  simp [marks, mark?]

/-- When a call has come back, none is running. -/
theorem History.not_running_ended (b : BridgeId) (w : Toolkit σ) :
    ¬ Running b (w.noted (.ended b)).journal := by
  rintro ⟨s, hs⟩
  rw [marks_ended, List.getLast?_concat] at hs
  cases hs

/-- When a call has begun, it is running. -/
theorem History.running_began (b : BridgeId) (w : Toolkit σ) (signal : Signal) :
    Running b (w.noted (.began b signal)).journal :=
  ⟨signal, by rw [marks_began, List.getLast?_concat]⟩

/-- What can be said of a bridge between two calls of a delivery. -/
structure Paused (b : BridgeId) (w : Toolkit σ) : Prop where
  notRunning : ¬ Running b w.journal
  failed : w.closed b = true ∨ ¬ Failed b w.journal

/-- A bridge that looks for the next signal drops those that wait if its subscription is
    disposed. -/
theorem UI.takeQueued_of_closed (hcl : w.closed b = true) :
    takeQueued b w = .ok none
      (if (w.queue b).isEmpty then w
        else (w.noted (.dropped b (w.queue b).length)).dropping b) := by
  simp only [takeQueued, run_bridge_bind, run_isClosed_bind, run_ite, if_pos hcl, run_note_bind,
    run_changeBridge_bind, run_pure, Toolkit.queue]
  by_cases hq : (w.bridges.get b).queue.isEmpty = true
  · simp [hq]
  · simp [hq]
    rfl

theorem UI.takeQueued_of_open (hcl : w.closed b = false) :
    takeQueued b w = match w.queue b with
      | [] => .ok none w
      | signal :: rest => .ok (some signal) (w.withBridge b fun x => { x with queue := rest }) := by
  have hopen : ¬ w.closed b = true := by simp [hcl]
  simp only [takeQueued, run_bridge_bind, run_isClosed_bind, run_ite, if_neg hopen, Toolkit.queue]
  cases (w.bridges.get b).queue with
  | nil => rfl
  | cons => rfl

/-- Dropping what waits leaves the delivery paused. -/
theorem Paused.dropping (hp : Paused b w) (hw : Reached m K w) (hvw : Within m b v w)
    (hcl : w.closed b = true) (e : Event) (he : e.isAside = true) :
    Reached m K ((w.noted e).dropping b) ∧ Within m b v ((w.noted e).dropping b) ∧
      Paused b ((w.noted e).dropping b) ∧ ((w.noted e).dropping b).queue b = [] := by
  have hf : Frame m w (w.noted e) := .note w he
  have hp' : ¬ Running b (w.noted e).journal := by
    rw [hf.running hvw.inside]
    exact hp.notRunning
  have hcl' : (w.noted e).closed b = true := hcl
  have hstep : Step m (w.noted e) ((w.noted e).dropping b) := .drop hp' hvw.inside hcl'
  have hnoted := hw.steps hf.steps rfl
  have hdelivering : ∀ k, ((w.noted e).dropping b).delivering k = w.delivering k := by
    intro k
    by_cases h : b = k <;>
      simp [Toolkit.delivering, Toolkit.dropping, Toolkit.withBridge, h] <;> rfl
  refine ⟨hnoted.steps (.single hstep) rfl, ?_, ⟨hp', .inl ?_⟩, ?_⟩
  · refine (hvw.frame hf).step hstep rfl (fun k _ => hdelivering k) ?_ (fun _ _ => rfl) fun _ => rfl
    rw [hdelivering b]
    exact hvw.inside
  · have hb := Toolkit.hasBridge_of_delivering hvw.inside
    have hg : Grows w ((w.noted e).dropping b) := hf.grows.trans hstep.grows
    rw [Toolkit.closed, hg.handle hb]
    exact hg.disposed hcl
  · simp [Toolkit.queue, Toolkit.dropping, Toolkit.withBridge]

/-- Coming to the next signal begins its call. -/
theorem Paused.advancing {rest : List Signal} (hp : Paused b w) (hw : Reached m K w)
    (hvw : Within m b v w) (hcl : w.closed b = false) (hq : w.queue b = signal :: rest) :
    Reached m K (w.advancing b signal rest) ∧ Within m b v (w.advancing b signal rest) := by
  have hfailed : ¬ Failed b w.journal := hp.failed.resolve_left (by simp [hcl])
  have hstep : Step m w (w.advancing b signal rest) :=
    .advance hp.notRunning hvw.inside hcl hfailed hq
  have hdelivering : ∀ k, (w.advancing b signal rest).delivering k = w.delivering k := by
    intro k
    by_cases h : b = k <;> simp [Toolkit.delivering, Toolkit.advancing, Toolkit.withBridge, h,
      Toolkit.noted]
  refine ⟨hw.steps (.single hstep) rfl, hvw.step hstep rfl (fun k _ => hdelivering k) ?_
    (fun k hk => ?_) fun a => ?_⟩
  · rw [hdelivering b]
    exact hvw.inside
  · simp [Toolkit.journal_advancing, History.marks, mark?, hk.symm]
  · simp [Toolkit.journal_advancing, History.milestones, milestone?, subscription?]

namespace Client.Behaves

/-- A call on an observer keeps the frame. -/
theorem tell (hc : c.Behaves m K) (observer : Observer) (signal : Signal) :
    Keeps m K False (m.observersPanic = true) (c.tell observer signal) := by
  have hrecord : ∀ t f, Keeps m K False (m.observersPanic = true) (modify fun w : Toolkit σ =>
      { w with tapes := w.tapes.modify t f }) := fun t f =>
    .modify (fun _ _ => ⟨rfl, rfl, rfl, rfl, rfl, .refl _, fun _ _ h => .inl h⟩) (fun _ => rfl)
      fun _ => rfl
  cases observer with
  | client callback => exact hc.observe callback signal
  | functions onNext onFault =>
    cases signal with
    | subscribed => exact .pure ()
    | next value => exact hc.observe onNext (.next value)
    | failed fault =>
      cases onFault with
      | none => exact .note rfl
      | some onFault => exact hc.observe onFault (.failed fault)
  | tape tape => cases signal <;> exact hrecord tape _

/-- **A call comes back** within the delivery that began it. -/
theorem comeBack (hu : Reached m K u) (hvw : Within m b v (w.noted (.began b signal)))
    (hwu : Frame m (w.noted (.began b signal)) u) :
    Reached m K (u.noted (.ended b)) ∧ Within m b v (u.noted (.ended b)) := by
  have hrun : Running b u.journal := (hwu.running hvw.inside).mpr (running_began b w signal)
  have hd : u.delivering b ≠ none := (hvw.frame hwu).inside
  have hstep : Step m u (u.noted (.ended b)) := .comeBack hrun hd
  refine ⟨hu.steps (.single hstep) rfl, ?_⟩
  refine (hvw.frame hwu).step hstep rfl (fun _ _ => rfl) hd (fun k hk => ?_) fun a => ?_
  · simp [History.marks, mark?, hk.symm]
  · simp [History.milestones, milestone?, subscription?]

/-- The handle of a bridge that delivers is there, and it is the one that it had all along. -/
theorem hasHandle (hu : Reached m K u) (hvw : Within m b v (w.noted (.began b signal)))
    (hwu : Frame m (w.noted (.began b signal)) u) :
    (u.bridges.get b).handle = (w.bridges.get b).handle ∧
      u.HasHandle (w.bridges.get b).handle := by
  have hb : w.HasBridge b := Toolkit.hasBridge_of_delivering hvw.inside
  have hhandle : (u.bridges.get b).handle = (w.bridges.get b).handle := hwu.grows.handle hb
  refine ⟨hhandle, ?_⟩
  rw [← hhandle]
  exact hu.sound.owned (hwu.grows.hasBridge hb)

/-- **One call of a delivery** comes back, and a fault has disposed the handle by then. -/
theorem handOver (hc : c.Behaves m K) (hw : Reached m K (w.noted (.began b signal)))
    (hvw : Within m b v (w.noted (.began b signal))) :
    Lands m K (m.observersPanic = true) (Within m b v) (fun _ u => Paused b u)
      (c.handOver b signal w) := by
  simp only [Client.handOver, run_bridge_bind, run_note_bind]
  refine (hc.tell _ _ _ hw False.elim).bind (fun _ h => hvw.frame h) fun _ u hu hwu _ => ?_
  obtain ⟨hback, hvback⟩ := comeBack hu hvw hwu
  have hd : u.delivering b ≠ none := (hvw.frame hwu).inside
  have hbegan : began b (u.noted (.ended b)).journal = began b w.journal ++ [signal] := by
    rw [began, marks_ended, hwu.marks b hvw.inside, marks_began]
    simp [began, Mark.signal?]
  simp only [run_note_bind]
  have hpaused : (∀ fault, signal ≠ .failed fault) → Paused b (u.noted (.ended b)) := by
    refine fun hne => ⟨not_running_ended b u, .inr ?_⟩
    rintro ⟨fault, hf⟩
    rw [hbegan, List.getLast?_concat] at hf
    exact hne fault (Option.some.inj hf)
  cases signal with
  | subscribed => exact ⟨hback, hvback, hpaused (by simp)⟩
  | next => exact ⟨hback, hvback, hpaused (by simp)⟩
  | failed fault =>
    -- a fault disposes the handle
    obtain ⟨hhandle, hh⟩ := hasHandle hu hvw hwu
    have hb := hwu.grows.hasBridge (Toolkit.hasBridge_of_delivering hvw.inside)
    refine (hc.dispose hback hh).consequence False.elim (fun _ hx => hvback.frame hx) ?_
    intro _ x _ hx hdone
    refine ⟨?_, .inl ?_⟩
    · rw [hx.running hd]
      exact not_running_ended b u
    · rw [Toolkit.closed, hx.grows.handle hb]
      exact hhandle ▸ hdone

/-- A panic in a call leaves the call running: what comes after the call does not panic. -/
theorem running_of_handOver (hc : c.Behaves m K) (hw : Reached m K (w.noted (.began b signal)))
    (hvw : Within m b v (w.noted (.began b signal))) {message : String}
    (hr : c.handOver b signal w = .error (.panic message) u) : Running b u.journal := by
  simp only [Client.handOver, run_bridge_bind, run_note_bind] at hr
  have htell := hc.tell (w.bridges.get b).observer signal _ hw False.elim
  cases ht : c.tell (w.bridges.get b).observer signal (w.noted (.began b signal)) with
  | error e x =>
    rw [bind_error ht] at hr
    cases hr
    rw [ht] at htell
    exact (htell.2.2.running hvw.inside).mpr (running_began b w signal)
  | ok a x =>
    rw [bind_ok ht, run_note_bind] at hr
    rw [ht] at htell
    cases signal with
    | subscribed | next => cases hr
    | failed fault =>
      have hdispose := hc.dispose (comeBack htell.1 hvw htell.2.1).1
        (hasHandle htell.1 hvw htell.2.1).2
      have hr' : c.dispose (w.bridges.get b).handle (x.noted (.ended b)) =
          .error (.panic message) u := hr
      rw [hr'] at hdispose
      exact hdispose.1.elim

/-- **A delivery goes on** until no signal waits. The induction is on the patience of the client:
    between two calls the bridge is paused, and so it may come to the next signal. -/
theorem drain (hc : c.Behaves m K) (n : Nat) (signal : Signal) (w : Toolkit σ)
    (hw : Reached m K (w.noted (.began b signal)))
    (hvw : Within m b v (w.noted (.began b signal))) :
    Lands m K (m.observersPanic = true) (Within m b v) (fun _ u => Paused b u ∧ u.queue b = [])
      (c.drain b n signal w) := by
  induction n generalizing signal w with
  | zero => exact hw.record
  | succ n ih =>
    simp only [Client.drain]
    refine (hc.handOver hw hvw).bind (fun _ h => h) fun _ u hu hvu hp => ?_
    cases hcl : u.closed b with
    | true =>
      rw [bind_ok (takeQueued_of_closed hcl)]
      split
      · next hq => exact ⟨hu, hvu, hp, List.isEmpty_iff.mp hq⟩
      · exact hp.dropping hu hvu hcl _ rfl
    | false =>
      have htake := takeQueued_of_open hcl
      cases hq : u.queue b with
      | nil =>
        rw [hq] at htake
        rw [bind_ok htake]
        exact ⟨hu, hvu, hp, hq⟩
      | cons next rest =>
        rw [hq] at htake
        rw [bind_ok htake]
        obtain ⟨hu', hvu'⟩ := hp.advancing hu hvu hcl hq
        exact ih next _ hu' hvu'

/-- **A panic in a delivery leaves a call running**, the one that panicked. -/
theorem running_of_drain (hc : c.Behaves m K) (n : Nat) (signal : Signal) (w : Toolkit σ)
    (hw : Reached m K (w.noted (.began b signal)))
    (hvw : Within m b v (w.noted (.began b signal))) {message : String}
    (hr : c.drain b n signal w = .error (.panic message) u) : Running b u.journal := by
  induction n generalizing signal w with
  | zero => cases hr
  | succ n ih =>
    simp only [Client.drain] at hr
    have hover := hc.handOver hw hvw
    cases ho : c.handOver b signal w with
    | error e x =>
      rw [bind_error ho] at hr
      cases hr
      exact hc.running_of_handOver hw hvw ho
    | ok a x =>
      rw [bind_ok ho] at hr
      rw [ho] at hover
      obtain ⟨hx, hvx, hp⟩ := hover
      cases hcl : x.closed b with
      | true =>
        rw [bind_ok (takeQueued_of_closed hcl)] at hr
        cases hr
      | false =>
        have htake := takeQueued_of_open hcl
        cases hq : x.queue b with
        | nil =>
          rw [hq] at htake
          rw [bind_ok htake] at hr
          cases hr
        | cons next rest =>
          rw [hq] at htake
          rw [bind_ok htake] at hr
          obtain ⟨hx', hvx'⟩ := hp.advancing hx hvx hcl hq
          exact ih next _ hx' hvx' hr

/-- **A delivery lands** once it has started, and its end restores the frame: it takes steps from
    its start, and when it is over its calls have come back. -/
theorem delivered (hc : c.Behaves m K) (hd : v.delivering b = none)
    (hw : Reached m K (w.starting b signal)) (hvw : Within m b v (w.starting b signal)) :
    Lands m K (m.observersPanic = true) (Frame m v)
      (fun _ u => Steps m (w.starting b signal) u ∧ ¬ Running b u.journal ∧
        ∀ h, (w.starting b signal).HasHandle h →
          milestones h u.journal = milestones h (w.starting b signal).journal)
      (c.deliver b signal w) := by
  let x := (w.noted (.accepted b signal false)).withBridge b
    fun bridge => { bridge with delivering := some w.here }
  have hdrain := hc.drain c.patience signal x hw (.refl hvw.inside)
  change Lands m K _ _ _ (ensuring (fun u => u.finishing b) (c.drain b c.patience signal) x)
  simp only [ensuring]
  cases hr : c.drain b c.patience signal x with
  | ok a u =>
    rw [hr] at hdrain
    obtain ⟨hu, hwu, hp, hq⟩ := hdrain
    have hstep : Step m u (u.finishing b) := .finish hp.notRunning hwu.inside hp.failed hq
    exact ⟨hu.steps (.single hstep) rfl, (hvw.trans hwu).finish hd hstep, hwu.steps.tail hstep,
      hp.notRunning, hwu.milestones⟩
  | error e u =>
    rw [hr] at hdrain
    cases e with
    | panic =>
      obtain ⟨hm, hu, hwu⟩ := hdrain
      have hstep : Step m u (u.finishing b) :=
        .unwind hm (hc.running_of_drain c.patience signal x hw (.refl hvw.inside) hr) hwu.inside
      exact ⟨hm, hu.steps (.single hstep) rfl, (hvw.trans hwu).finish hd hstep⟩
    | stalled => exact hdrain

/-- What has been said of a subscription by the start of a delivery is not added to. -/
theorem deliver (hc : c.Behaves m K) (hd : v.delivering b = none)
    (hw : Reached m K (w.starting b signal)) (hvw : Within m b v (w.starting b signal)) :
    Lands m K (m.observersPanic = true) (Frame m v)
      (fun _ u => ∀ h, (w.starting b signal).HasHandle h →
        milestones h u.journal = milestones h (w.starting b signal).journal)
      (c.deliver b signal w) :=
  (hc.delivered hd hw hvw).weaken fun _ _ _ _ h => h.2.2

end Client.Behaves

/-- The events before a bridge takes a signal are of no bridge and no subscription. -/
theorem Cause.quiet {notes : List Event} (h : Cause m w b screen signal notes) :
    (∀ k, notes.filterMap (mark? k) = []) ∧ ∀ k, notes.filterMap (milestone? k) = [] := by
  cases h <;> exact ⟨fun _ => rfl, fun _ => rfl⟩

/-- What a delivery does first leaves alone what it is to leave alone. -/
theorem Within.starting (hs : Step m w (u.starting b signal)) (here : u.here = w.here)
    (delivering : ∀ k ≠ b, u.delivering k = w.delivering k)
    (hmarks : ∀ k, History.marks k u.journal = History.marks k w.journal)
    (hmilestones : ∀ h, w.HasHandle h →
      History.milestones h u.journal = History.milestones h w.journal) :
    Within m b w (u.starting b signal) where
  steps := .single hs
  here := here
  delivering k hk := by
    rw [← delivering k hk]
    simp [Toolkit.delivering, Toolkit.starting, Toolkit.withBridge, Toolkit.notedAll, hk.symm]
  inside := by simp [Toolkit.delivering, Toolkit.starting, Toolkit.withBridge, Toolkit.notedAll]
  marks k hk _ := by
    rw [marks_starting, if_neg hk.symm, List.append_nil, hmarks k]
  milestones h hh := by rw [milestones_starting, hmilestones h hh]

/-- Waiting behind other signals is in the frame. -/
theorem Frame.queueing {notes : List Event} (cause : Cause m w b screen signal notes)
    (hs : Step m w (((w.showing screen).notedAll notes).queueing b signal)) :
    Frame m w (((w.showing screen).notedAll notes).queueing b signal) := by
  obtain ⟨hmarks, hmilestones⟩ := cause.quiet
  refine of_step hs rfl (fun k => ?_) (fun k => ?_) fun k => ?_
  · by_cases e : b = k <;>
      simp [Toolkit.delivering, Toolkit.queueing, Toolkit.withBridge, Toolkit.notedAll,
        Toolkit.noted, Toolkit.showing, e]
  · rw [Toolkit.journal_queueing, marks_notedAll, marks_notedAll, hmarks k]
    simp [mark?]
  · rw [Toolkit.journal_queueing, milestones_notedAll, milestones_notedAll, hmilestones k]
    simp [milestone?, subscription?]

/-- A bridge that does not deliver and whose subscription is not disposed delivers at once. -/
theorem Client.dispatch_of_open (hd : w.delivering b = none) (hcl : w.closed b = false) :
    c.dispatch b signal w = (c.deliver b signal >>= fun _ => pure true) w := by
  have hd' : (w.bridges.get b).delivering = none := hd
  simp only [Client.dispatch, run_get_bind, run_bridge_bind, hd', run_isClosed_bind, run_ite, hcl,
    Bool.false_eq_true, if_false]

/-- **A bridge takes a signal**: it delivers it at once, and by the end its calls have come back; or
    it lets the signal wait, if it is in the midst of a delivery. -/
def Toolkit.Takes (m : Manners) (b : BridgeId) (signal : Signal) (v w : Toolkit σ) : Prop :=
  v.delivering b = none ∧ Steps m (v.starting b signal) w ∧ ¬ Running b w.journal ∨
    v.delivering b ≠ none ∧ w = v.queueing b signal

namespace Client.Behaves

/-- **Taking a signal** for a cause lands, and the answer tells that it was taken. -/
theorem dispatched (notes : List Event) (hc : c.Behaves m K) (hw : Reached m K w) (hf : Free m w)
    (hb : w.HasBridge b) (hcl : w.closed b = false) (cause : Cause m w b screen signal notes) :
    Lands m K (m.observersPanic = true) (Frame m w)
      (fun taken u => taken = true ∧ ((w.showing screen).notedAll notes).Takes m b signal u)
      (c.dispatch b signal ((w.showing screen).notedAll notes)) := by
  cases hd : w.delivering b with
  | some thread =>
    simp only [Client.dispatch, run_get_bind, run_bridge_bind]
    rw [show (((w.showing screen).notedAll notes).bridges.get b).delivering = some thread from hd]
    simp only [run_ite]
    split
    · have hm : m.signals = true := hf.resolve_right fun hi => by simp [hi b] at hd
      have hinside : w.delivering b ≠ none := by simp [hd]
      have hs : Step m w (((w.showing screen).notedAll notes).queueing b signal) :=
        .queue hm hb hcl hinside cause
      exact ⟨hw.steps (.single hs) rfl, .queueing cause hs, rfl, .inr ⟨hinside, rfl⟩⟩
    · exact hw.record
  | none =>
    rw [Client.dispatch_of_open (w := (w.showing screen).notedAll notes) hd hcl]
    have hs : Step m w (((w.showing screen).notedAll notes).starting b signal) :=
      .start hb hcl hd cause
    obtain ⟨hmarks, hmilestones⟩ := cause.quiet
    have hvw : Within m b w (((w.showing screen).notedAll notes).starting b signal) := by
      refine .starting hs rfl (fun _ _ => rfl) (fun k => ?_) fun h _ => ?_
      · rw [marks_notedAll, hmarks, List.append_nil]
        rfl
      · rw [milestones_notedAll, hmilestones, List.append_nil]
        rfl
    refine (hc.delivered hd (hw.steps (.single hs) rfl) hvw).bind (fun _ h => h) ?_
    exact fun _ u hu hwu h => ⟨hu, hwu, rfl, .inl ⟨hd, h.1, h.2.1⟩⟩

theorem dispatch (notes : List Event) (hc : c.Behaves m K) (hw : Reached m K w) (hf : Free m w)
    (hb : w.HasBridge b) (hcl : w.closed b = false) (cause : Cause m w b screen signal notes) :
    Lands m K (m.observersPanic = true) (Frame m w) (fun _ _ => True)
      (c.dispatch b signal ((w.showing screen).notedAll notes)) :=
  (hc.dispatched notes hw hf hb hcl cause).weaken fun _ _ _ _ _ => trivial

/-- **Emitting** lands. If the subscription is disposed, what is noted before makes no
    difference. -/
theorem emit (notes : List Event) {value : Payload} (hc : c.Behaves m K) (hw : Reached m K w)
    (hf : Free m w) (hb : w.HasBridge b)
    (hpass : w.closed b = true → Reached m K ((w.showing screen).notedAll notes) ∧
      Frame m w ((w.showing screen).notedAll notes))
    (cause : w.closed b = false → Cause m w b screen (.next value) notes) :
    Lands m K (m.observersPanic = true) (Frame m w) (fun _ _ => True)
      (c.emit b value ((w.showing screen).notedAll notes)) := by
  simp only [Client.emit, run_isClosed_bind, run_ite]
  cases hcl : w.closed b with
  | true =>
    obtain ⟨hu, hwu⟩ := hpass hcl
    rw [if_pos (show ((w.showing screen).notedAll notes).closed b = true from hcl)]
    exact Lands.after hwu ((Keeps.note (s := False) rfl).bind (fun _ => .pure _) _ hu False.elim)
  | false =>
    rw [if_neg (by simp [show ((w.showing screen).notedAll notes).closed b = false from hcl])]
    exact hc.dispatch notes hw hf hb hcl (cause hcl)

/-- **Failing** lands. -/
theorem fail {fault : Fault} (hc : c.Behaves m K) (hw : Reached m K w) (hf : Free m w)
    (hb : w.HasBridge b) :
    Lands m K (m.observersPanic = true) (Frame m w) (fun _ _ => True) (c.fail b fault w) := by
  simp only [Client.fail, run_isClosed_bind, run_ite]
  cases hcl : w.closed b with
  | true => exact ⟨hw, .refl w, trivial⟩
  | false =>
    simp only [Bool.false_eq_true, if_false, run_note_bind]
    have htaken := hc.dispatch [.failing b fault] hw hf hb hcl (.failing fault)
    exact htaken.discard fun _ _ h => h

/-- **Emitting for a judge** lands. -/
theorem emitJudged (notes : List Event) {value : Payload} {judge : Judge} (hc : c.Behaves m K)
    (hw : Reached m K w) (hf : Free m w) (hb : w.HasBridge b)
    (hpass : w.closed b = true → Reached m K ((w.showing screen).notedAll notes) ∧
      Frame m w ((w.showing screen).notedAll notes))
    (cause : w.closed b = false → Cause m w b screen (.next value) notes) :
    Lands m K m.mayPanic (Frame m w) (fun _ _ => True)
      (c.emitJudged b value judge ((w.showing screen).notedAll notes)) := by
  have hverdict : Keeps m K False m.mayPanic (c.verdict judge value) := by
    cases judge with
    | always => exact .pure _
    | client n => exact (hc.judge n value).mono id .inr
  simp only [Client.emitJudged, run_isClosed_bind, run_ite]
  split
  · next hcl => exact ⟨(hpass hcl).1, (hpass hcl).2, trivial⟩
  have hemit := ((hc.emit notes hw hf hb hpass cause).mono (q := m.mayPanic) .inl).discard
    (T := fun _ _ => True) fun _ _ h => h
  refine hemit.bind (fun _ h => h) fun _ u hu hwu _ => Lands.after hwu ?_
  refine (hverdict u hu False.elim).next fun answer x hx hux _ => ?_
  cases answer with
  | ok consumed => exact ⟨hx, .refl x, trivial⟩
  | error reason =>
    have hb' : x.HasBridge b := hux.grows.hasBridge (hwu.grows.hasBridge hb)
    refine ((hc.fail hx ((hf.frame hwu).frame hux) hb').mono .inl).next ?_
    exact fun _ y hy _ _ => ⟨hy, .refl y, trivial⟩

end Client.Behaves

end WidgetStreams
