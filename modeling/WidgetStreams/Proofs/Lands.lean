import WidgetStreams.Proofs.Entries

/-!
# Where a computation lands

This file defines what is to be proved of every operation of the library: it
takes a toolkit through steps, whatever client code it calls, and leaves alone
what belongs to the operations around it.

## Main definitions

- `Reached` — a toolkit to which steps lead from a fresh one
- `Frame` — what an operation leaves as it was for the operations around it
- `Lands` — an outcome is one at a reached toolkit
- `Keeps` — a computation lands within the frame of where it starts

## Design notes

Client code keeps records of its own in the client's state. A computation that
is given up gives no toolkit to speak of, but what the client recorded until
then stays true: this is what the parameter `K` is for.
-/

namespace WidgetStreams

open History

variable {σ α β : Type} {m : Manners} {K : σ → Prop} {p q s s' : Prop} {v w u : Toolkit σ}

-- ════════════════════════════════════════════════════════════════════════
-- Reached toolkits
-- ════════════════════════════════════════════════════════════════════════

/-- The toolkit at the start. -/
def Toolkit.fresh : Toolkit Unit := { client := () }

/-- Where steps lead from the start, references are sound. -/
theorem Steps.sound_of_fresh {w : Toolkit Unit} (h : Steps m Toolkit.fresh w) : w.Sound :=
  Steps.sound (Toolkit.sound_start ()) h

/-- **What holds at the start and is kept by every step** holds wherever steps lead. -/
theorem Steps.invariant {I : Toolkit Unit → Prop} {w : Toolkit Unit} (h : Steps m Toolkit.fresh w)
    (start : I Toolkit.fresh)
    (step : ∀ {v w}, Steps m Toolkit.fresh v → I v → Step m v w → I w) : I w := by
  induction h with
  | refl => exact start
  | tail h' h ih => exact step h' ih h

theorem Steps.told {w : Toolkit Unit} (h : Steps m Toolkit.fresh w) : w.Told :=
  h.invariant (Toolkit.told_start ()) fun hv ih h => h.told hv.sound_of_fresh ih

theorem Steps.subscriptions_single {w : Toolkit Unit} (h : Steps m Toolkit.fresh w) : w.Single :=
  h.invariant (fun _ _ _ _ _ ho => absurd ho (not_occurred_nil _)) fun hv ih h =>
    h.single hv.sound_of_fresh ih

theorem Steps.backed {w : Toolkit Unit} (h : Steps m Toolkit.fresh w) : w.Backed :=
  h.invariant (Toolkit.backed_start ()) fun hv ih h => h.backed hv.sound_of_fresh ih

/-- A toolkit without the state of the client. -/
def Toolkit.erased (w : Toolkit σ) : Toolkit Unit := { w with client := () }

/-- **Reached**: steps lead here from a fresh toolkit, and what the client recorded is true. -/
structure Reached (m : Manners) (K : σ → Prop) (w : Toolkit σ) : Prop where
  past : Steps m Toolkit.fresh w.erased
  sound : w.Sound
  record : K w.client

theorem Toolkit.erased_disposing (w : Toolkit σ) (h : HandleId) :
    (w.disposing h).erased = w.erased.disposing h := by
  have ha : (w.erased.handles.get h).action = (w.handles.get h).action := rfl
  simp only [Toolkit.disposing, ha]
  cases (w.handles.get h).action <;> rfl

theorem Toolkit.erased_arming (w : Toolkit σ) (h : HandleId) (action : Release) :
    (w.arming h action).erased = w.erased.arming h action := by
  have hd : w.erased.disposed h = w.disposed h := rfl
  simp only [Toolkit.arming, hd]
  split <;> rfl

theorem Toolkit.erased_registering (w : Toolkit σ) (h : HandleId) (b : BridgeId)
    (binding : Binding) (owner : Nat) (judge : Judge) :
    (w.registering h b binding owner judge).erased =
      w.erased.registering h b binding owner judge :=
  Toolkit.erased_arming _ _ _

theorem Cause.erased {b : BridgeId} {s : Screen} {signal : Signal} {notes : List Event}
    (h : Cause m v b s signal notes) : Cause m v.erased b s signal notes := by
  cases h with
  | direct value hs => exact .direct (w := v.erased) value hs
  | failing fault => exact .failing (w := v.erased) fault
  | slot turn hp hv => exact .slot turn hp hv
  | roster hl hv => exact .roster (w := v.erased) hl hv

/-- A step is a step without the state of the client. -/
theorem Step.erased (h : Step m v w) : Step m v.erased w.erased := by
  cases h with
  | note he => exact .note he
  | change h =>
    exact .change ⟨h.handles, h.bridges, h.journal, h.slots, h.rosters, h.shows, h.held⟩
  | newHandle disposed action => exact .newHandle disposed action
  | dispose hh hd => rw [Toolkit.erased_disposing]; exact .dispose hh hd
  | arm hh => rw [Toolkit.erased_arming]; exact .arm hh
  | newBridge observer => exact .newBridge observer
  | start hb hc hd cause => exact .start (w := v.erased) hb hc hd cause.erased
  | queue hm hb hc hd cause => exact .queue (w := v.erased) hm hb hc hd cause.erased
  | comeBack hr hd => exact .comeBack hr hd
  | advance hr hd hc hf hq => exact .advance hr hd hc hf hq
  | drop hr hd hc => exact .drop hr hd hc
  | finish hr hd hf hq => exact .finish hr hd hf hq
  | unwind hm hr hd => exact .unwind hm hr hd
  | subscribe source observer => exact .subscribe source observer
  | withdraw hm hd => exact .withdraw hm hd
  | attach hm hd => exact .attach hm hd
  | @registerWidget h b binding owner judge hm hd =>
    change Step m v.erased ((v.registering h b binding owner judge).erased.noted _)
    rw [Toolkit.erased_registering]
    exact .registerWidget hm hd
  | @registerWarm h b binding owner judge hm hd hc hi =>
    have hscreen : (v.registering h b binding owner judge).screen =
        (v.erased.registering h b binding owner judge).screen := by
      rw [← Toolkit.erased_registering]
      rfl
    change Step m v.erased (((v.registering h b binding owner judge).erased.noted _).starting b _)
    rw [Toolkit.erased_registering, hscreen]
    exact .registerWarm hm hd hc hi
  | registerClient hm => rw [Toolkit.erased_arming]; exact .registerClient hm
  | attached warm hm => exact .attached warm hm
  | conclude hm => exact .conclude hm
  | listen hl => exact .listen hl
  | unlisten => exact .unlisten
  | removeListener => exact .removeListener
  | pass turn hp => exact .pass (w := v.erased) turn hp
  | hear hl => exact .hear hl
  | operate => exact .operate
  | alter h => exact .alter h
  | flag => exact .flag

theorem Steps.erased (h : Steps m v w) : Steps m v.erased w.erased := by
  induction h with
  | refl => exact .refl
  | tail _ h ih => exact ih.tail h.erased

/-- What the library reaches from a reached toolkit is reached. -/
theorem Reached.steps (hv : Reached m K v) (h : Steps m v w) (hc : w.client = v.client) :
    Reached m K w where
  past := hv.past.trans h.erased
  sound := h.sound hv.sound
  record := hc ▸ hv.record

-- ════════════════════════════════════════════════════════════════════════
-- Frames
-- ════════════════════════════════════════════════════════════════════════

/-- **What an operation leaves alone**: the thread, which bridges deliver, the calls of a bridge
    that delivers already, and how far a subscription has come that was there before. -/
structure Frame (m : Manners) (v w : Toolkit σ) : Prop where
  steps : Steps m v w
  here : w.here = v.here
  delivering : ∀ b, w.delivering b = v.delivering b
  marks : ∀ b, v.delivering b ≠ none → marks b w.journal = marks b v.journal
  milestones : ∀ h, v.HasHandle h → milestones h w.journal = milestones h v.journal

namespace Frame

theorem refl (w : Toolkit σ) : Frame m w w :=
  ⟨.refl, rfl, fun _ => rfl, fun _ _ => rfl, fun _ _ => rfl⟩

theorem trans (h : Frame m v w) (h' : Frame m w u) : Frame m v u where
  steps := h.steps.trans h'.steps
  here := h'.here.trans h.here
  delivering b := (h'.delivering b).trans (h.delivering b)
  marks b hb := (h'.marks b (by rwa [h.delivering b])).trans (h.marks b hb)
  milestones k hk := (h'.milestones k (h.steps.grows.hasHandle hk)).trans (h.milestones k hk)

/-- A step that has nothing to do with calls and subscriptions. -/
theorem of_step (h : Step m v w) (here : w.here = v.here)
    (delivering : ∀ b, w.delivering b = v.delivering b)
    (hmarks : ∀ b, History.marks b w.journal = History.marks b v.journal)
    (hmilestones : ∀ k, History.milestones k w.journal = History.milestones k v.journal) :
    Frame m v w :=
  ⟨.single h, here, delivering, fun b _ => hmarks b, fun k _ => hmilestones k⟩

theorem grows (h : Frame m v w) : Grows v w := h.steps.grows

/-- A bridge that delivers goes on with the call that it is in. -/
theorem running (h : Frame m v w) {b : BridgeId} (hd : v.delivering b ≠ none) :
    Running b w.journal ↔ Running b v.journal := by
  rw [Running, Running, h.marks b hd]

theorem note (w : Toolkit σ) {e : Event} (he : e.isAside = true) : Frame m w (w.noted e) := by
  refine of_step (.note he) rfl (fun _ => rfl) (fun b => ?_) fun k => ?_
  · simp [History.marks, mark?_of_isAside he]
  · simp [History.milestones, milestone?_of_isAside he]

theorem of_aside (h : Aside v w) (here : w.here = v.here) : Frame m v w := by
  refine of_step (.change h) here (fun b => ?_) (fun b => ?_) fun k => ?_
  · rw [Toolkit.delivering, h.bridges, Toolkit.delivering]
  · rw [h.journal]
  · rw [h.journal]

end Frame

/-- The callbacks of the client may make bridges take signals, or else no bridge delivers. -/
def Free (m : Manners) (w : Toolkit σ) : Prop := m.signals = true ∨ w.Idle

theorem Free.frame (h : Free m v) (hf : Frame m v w) : Free m w :=
  h.imp id fun hi b => (hf.delivering b).trans (hi b)

/-- A change of the screen that leaves registrations alone, and what mirrors and feeds show is in
    the frame. -/
theorem Reached.showing (hw : Reached m K w) {t : Screen} (slots : t.slots = w.screen.slots)
    (rosters : t.rosters = w.screen.rosters) (shows : w.screen.ShowsAlike t) :
    Reached m K (w.showing t) ∧ Frame m w (w.showing t) := by
  have ha : Aside w (w.showing t) :=
    ⟨rfl, rfl, rfl, slots, rosters, shows, fun _ _ h => .inl h⟩
  exact ⟨hw.steps (.single (.change ha)) rfl, .of_aside ha rfl⟩

-- ════════════════════════════════════════════════════════════════════════
-- Outcomes
-- ════════════════════════════════════════════════════════════════════════

/-- **An outcome** is at a reached toolkit where `R` holds, and so does `Q` of a result. A panic
    is admitted if `p` holds. -/
def Lands (m : Manners) (K : σ → Prop) (p : Prop) (R : Toolkit σ → Prop)
    (Q : α → Toolkit σ → Prop) : EStateM.Result Interrupt (Toolkit σ) α → Prop
  | .ok a w => Reached m K w ∧ R w ∧ Q a w
  | .error (.panic _) w => p ∧ Reached m K w ∧ R w
  | .error .stalled w => K w.client

section Run

open UI

-- What the first computation of a sequence does, when it does no more than read or change.

@[simp] theorem UI.run_pure (a : α) : (pure a : UI σ α) v = .ok a v := rfl

@[simp] theorem UI.run_ite {c : Prop} [Decidable c] (x y : UI σ α) :
    (if c then x else y) v = if c then x v else y v := by
  split <;> rfl

@[simp] theorem UI.run_get_bind (f : Toolkit σ → UI σ α) : (get >>= f) v = f v v := rfl

@[simp] theorem UI.run_note_bind (e : Event) (f : Unit → UI σ α) :
    (note e >>= f) v = f () (v.noted e) := rfl

@[simp] theorem UI.run_screen_bind (f : Screen → UI σ α) : (screen >>= f) v = f v.screen v := rfl

@[simp] theorem UI.run_isDisposed_bind (h : HandleId) (f : Bool → UI σ α) :
    (isDisposed h >>= f) v = f (v.disposed h) v := rfl

@[simp] theorem UI.run_changeHandle_bind (h : HandleId) (g : Handle → Handle)
    (f : Unit → UI σ α) : (changeHandle h g >>= f) v = f () (v.withHandle h g) := rfl

@[simp] theorem UI.run_bridge_bind (b : BridgeId) (f : Bridge → UI σ α) :
    (bridge b >>= f) v = f (v.bridges.get b) v := rfl

@[simp] theorem UI.run_isClosed_bind (b : BridgeId) (f : Bool → UI σ α) :
    (isClosed b >>= f) v = f (v.closed b) v := rfl

@[simp] theorem UI.run_changeBridge_bind (b : BridgeId) (g : Bridge → Bridge)
    (f : Unit → UI σ α) : (changeBridge b g >>= f) v = f () (v.withBridge b g) := rfl

@[simp] theorem UI.run_newBridge_bind (observer : Observer)
    (f : BridgeId × HandleId → UI σ α) :
    (newBridge observer >>= f) v = f (v.bridges.next, v.handles.next) (v.opening observer) := rfl

end Run

theorem UI.bind_ok {x : UI σ α} {f : α → UI σ β} {a : α} (h : x v = .ok a w) :
    (x >>= f) v = f a w := by
  simp [bind, EStateM.bind, h]

theorem UI.bind_error {x : UI σ α} {f : α → UI σ β} {e : Interrupt} (h : x v = .error e w) :
    (x >>= f) v = .error e w := by
  simp [bind, EStateM.bind, h]

/-- **A sequence comes back** if both of its parts do. -/
theorem UI.of_bind_ok {x : UI σ α} {f : α → UI σ β} {b : β} (h : (x >>= f) v = .ok b w) :
    ∃ a u, x v = .ok a u ∧ f a u = .ok b w := by
  cases hr : x v with
  | ok a u =>
    rw [bind_ok hr] at h
    exact ⟨a, u, rfl, h⟩
  | error e u =>
    rw [bind_error hr] at h
    cases h

/-- **A sequence is interrupted** in one of its parts. -/
theorem UI.of_bind_error {x : UI σ α} {f : α → UI σ β} {e : Interrupt}
    (h : (x >>= f) v = .error e w) :
    x v = .error e w ∨ ∃ a u, x v = .ok a u ∧ f a u = .error e w := by
  cases hr : x v with
  | ok a u =>
    rw [bind_ok hr] at h
    exact .inr ⟨a, u, rfl, h⟩
  | error e' u =>
    rw [bind_error hr] at h
    cases h
    exact .inl rfl

theorem UI.discard_bind (x : UI σ α) (f : Unit → UI σ β) :
    (discard x >>= f) = x >>= fun _ => f () :=
  bind_map_left (fun _ => ()) x f

/-- What is told and thrown away is interrupted where it is told. -/
theorem UI.of_discard_error {x : UI σ α} {e : Interrupt}
    (h : (Functor.discard x : UI σ Unit) v = .error e w) : x v = .error e w := by
  change (x >>= fun _ => pure ()) v = .error e w at h
  obtain h | ⟨_, _, -, h⟩ := of_bind_error h
  · exact h
  · cases h

namespace Lands

variable {R R' : Toolkit σ → Prop} {Q T : α → Toolkit σ → Prop}
  {r : EStateM.Result Interrupt (Toolkit σ) α}

/-- **Consequence rule**: admit more panics and ask less of the end. -/
theorem consequence (h : Lands m K p R Q r) (hp : p → q) (hR : ∀ w, R w → R' w)
    (hQ : ∀ a w, Reached m K w → R w → Q a w → T a w) : Lands m K q R' T r := by
  cases r with
  | ok a w => exact ⟨h.1, hR w h.2.1, hQ a w h.1 h.2.1 h.2.2⟩
  | error reason w =>
    cases reason with
    | panic => exact ⟨hp h.1, h.2.1, hR w h.2.2⟩
    | stalled => exact h

/-- Admit more panics. -/
theorem mono (h : Lands m K p R Q r) (hp : p → q) : Lands m K q R Q r :=
  h.consequence hp (fun _ h => h) fun _ _ _ _ h => h

/-- Ask less of a result. -/
theorem weaken (h : Lands m K p R Q r) (hQ : ∀ a w, Reached m K w → R w → Q a w → T a w) :
    Lands m K p R T r :=
  h.consequence id (fun _ h => h) hQ

/-- **Sequence rule**: what comes second starts where the first lands. -/
theorem bind {x : UI σ α} {f : α → UI σ β} {T : β → Toolkit σ → Prop}
    (hx : Lands m K p R Q (x v)) (hR : ∀ w, R w → R' w)
    (hf : ∀ a w, Reached m K w → R w → Q a w → Lands m K p R' T (f a w)) :
    Lands m K p R' T ((x >>= f) v) := by
  cases hr : x v with
  | ok a w =>
    rw [UI.bind_ok hr]
    rw [hr] at hx
    exact hf a w hx.1 hx.2.1 hx.2.2
  | error e w =>
    rw [UI.bind_error hr]
    rw [hr] at hx
    cases e with
    | panic => exact ⟨hx.1, hx.2.1, hR w hx.2.2⟩
    | stalled => exact hx

/-- **Sequence rule for frames**: the frame of both is the frame of the sequence. -/
theorem next {x : UI σ α} {f : α → UI σ β} {T : β → Toolkit σ → Prop}
    (hx : Lands m K p (Frame m v) Q (x v))
    (hf : ∀ a w, Reached m K w → Frame m v w → Q a w →
      Lands m K p (Frame m w) T (f a w)) :
    Lands m K p (Frame m v) T ((x >>= f) v) := by
  refine hx.bind (fun _ h => h) fun a w hw hvw hQ => ?_
  exact (hf a w hw hvw hQ).consequence id (fun _ h => hvw.trans h) fun _ _ _ _ h => h

/-- The frame of an outcome reaches back over what comes before. -/
theorem after (hvw : Frame m v w) (h : Lands m K p (Frame m w) Q r) :
    Lands m K p (Frame m v) Q r :=
  h.consequence id (fun _ h => hvw.trans h) fun _ _ _ _ h => h

/-- What is thrown away need not be known. -/
theorem discard {x : UI σ α} {T : Unit → Toolkit σ → Prop} (hx : Lands m K p R Q (x v))
    (hQ : ∀ a w, Q a w → T () w) : Lands m K p R T ((Functor.discard x : UI σ Unit) v) := by
  change Lands m K p R T ((x >>= fun _ => pure ()) v)
  exact hx.bind (fun _ h => h) fun a w hw hR ha => ⟨hw, hR, hQ a w ha⟩

/-- A caught panic is a result. -/
theorem catching {x : UI σ α} (hx : Lands m K p R Q (x v)) :
    Lands m K q R (fun _ _ => True) (UI.catching x v) := by
  unfold UI.catching
  cases hr : x v with
  | ok a w =>
    rw [hr] at hx
    exact ⟨hx.1, hx.2.1, trivial⟩
  | error e w =>
    rw [hr] at hx
    cases e with
    | panic => exact ⟨hx.2.1, hx.2.2, trivial⟩
    | stalled => exact hx

end Lands

-- ════════════════════════════════════════════════════════════════════════
-- Computations
-- ════════════════════════════════════════════════════════════════════════

/-- **A computation keeps** the frame of every reached toolkit where it starts. If `s` holds it may
    make bridges take signals, and it may panic if `p` holds. -/
def Keeps (m : Manners) (K : σ → Prop) (s p : Prop) (x : UI σ α) : Prop :=
  ∀ v, Reached m K v → (s → Free m v) → Lands m K p (Frame m v) (fun _ _ => True) (x v)

namespace Keeps

/-- **Consequence rule**: admit signals and panics. -/
theorem mono {x : UI σ α} (h : Keeps m K s p x) (hs : s → s') (hp : p → q) :
    Keeps m K s' q x :=
  fun v hv hf => (h v hv fun h => hf (hs h)).mono hp

theorem pure (a : α) : Keeps m K s p (Pure.pure a : UI σ α) :=
  fun v hv _ => ⟨hv, .refl v, trivial⟩

/-- A computation that is given up keeps everything. -/
theorem stalled : Keeps m K s p (throw .stalled : UI σ α) := fun _ hv _ => hv.record

/-- **Sequence rule**. -/
theorem bind {x : UI σ α} {f : α → UI σ β} (hx : Keeps m K s p x)
    (hf : ∀ a, Keeps m K s p (f a)) : Keeps m K s p (x >>= f) := by
  intro v hv hfree
  refine (hx v hv hfree).next fun a w hw hvw _ => ?_
  exact hf a w hw fun h => (hfree h).frame hvw

theorem discard {x : UI σ α} (hx : Keeps m K s p x) :
    Keeps m K s p (Functor.discard x : UI σ Unit) :=
  fun v hv hf => (hx v hv hf).discard fun _ _ h => h

theorem ite {c : Prop} [Decidable c] {x y : UI σ α} (hx : Keeps m K s p x)
    (hy : Keeps m K s p y) : Keeps m K s p (if c then x else y) := by
  split
  · exact hx
  · exact hy

/-- A caught panic is a result. -/
theorem catching {x : UI σ α} (hx : Keeps m K s p x) : Keeps m K s q (UI.catching x) :=
  fun v hv hf => (hx v hv hf).catching

/-- Reading the toolkit changes nothing. -/
theorem read {x : UI σ α} (h : ∀ v, ∃ a, x v = .ok a v) : Keeps m K s p x := by
  intro v hv _
  obtain ⟨a, ha⟩ := h v
  rw [ha]
  exact ⟨hv, .refl v, trivial⟩

theorem note {e : Event} (he : e.isAside = true) : Keeps m K s p (UI.note e : UI σ Unit) :=
  fun v hv _ => ⟨hv.steps (.single (.note he)) rfl, .note v he, trivial⟩

/-- A change to the side. -/
theorem modify {f : Toolkit σ → Toolkit σ} (hf : ∀ v, v.Sound → Aside v (f v))
    (here : ∀ v, (f v).here = v.here) (client : ∀ v, (f v).client = v.client) :
    Keeps m K s p (modify f : UI σ Unit) := fun v hv _ =>
  ⟨hv.steps (.single (.change (hf v hv.sound))) (client v), .of_aside (hf v hv.sound) (here v),
    trivial⟩

/-- A change of the screen that leaves registrations alone, and what mirrors and feeds show. -/
theorem changeScreen {f : Screen → Screen} (slots : ∀ s, (f s).slots = s.slots)
    (rosters : ∀ s, (f s).rosters = s.rosters) (shows : ∀ t : Screen, t.ShowsAlike (f t)) :
    Keeps m K s p (UI.changeScreen f : UI σ Unit) :=
  modify (fun v _ => ⟨rfl, rfl, rfl, slots v.screen, rosters v.screen, shows v.screen,
    fun _ _ h => .inl h⟩) (fun _ => rfl) fun _ => rfl

end Keeps

end WidgetStreams
