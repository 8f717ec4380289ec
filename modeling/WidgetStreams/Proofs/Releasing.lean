import WidgetStreams.Proofs.Program

/-!
# Actions are run once

This file proves what becomes of the actions of a handle, whatever they do
themselves: the one that is in place when the handle is disposed is run then,
every later one is run as soon as it is put in place, and no other is run.

## Main definitions

- `Deed`, `History.deeds` — what is done with a handle, in order
- `Lifeline`, `Lifeline.Step` — a handle on its own, and what may be done with it
- `Lifeline.Proper`, `Lifeline.Onward` — actions are run once, from the beginning or from then on
- `Client.Disposes`, `Client.Arms` — what a single call does

## Main results

- `Step.lifeline` — a step of the library is any number of steps of each handle, or makes it
- `Client.Behaves.disposes`, `Client.Behaves.arms` — a call runs what it is to run, and comes back
- `Code.actions_run_once` — actions are run once, in every run

## Design notes

An action counts as often as it is put in place: client code may use the same
number again. The journal tells these occasions apart by their order.
-/

namespace WidgetStreams

open History UI

/-- **What is done with a handle**: an action is put in place of the one before, or runs at once if
    the handle is disposed. -/
inductive Deed
  | armed (action : Release)
  | disposed
  | ran (action : Release)
  deriving Repr, DecidableEq

namespace History

/-- What an event says is done with a handle. -/
def deed? (h : HandleId) : Event → Option Deed
  | .armed handle action => if handle = h then some (.armed action) else none
  | .disposed handle => if handle = h then some .disposed else none
  | .releasing handle action => if handle = h then some (.ran action) else none
  | _ => none

/-- What was done with a handle. -/
def deeds (h : HandleId) (j : List Entry) : List Deed := collect (deed? h) j

theorem deeds_notedAll {σ : Type} (h : HandleId) (w : Toolkit σ) (es : List Event) :
    deeds h (w.notedAll es).journal = deeds h w.journal ++ es.filterMap (deed? h) :=
  Toolkit.collect_notedAll _ w es

theorem deed?_of_handle?_ne {e : Event} {h : HandleId} (he : e.handle? ≠ some h) :
    deed? h e = none := by
  cases e with
  | armed k | disposed k | releasing k => exact if_neg fun hk => he (congrArg some hk)
  | _ => rfl

/-- The stages of a subscription are no deeds. -/
theorem deed?_of_handle?_eq {e : Event} {h : HandleId} (he : e.handle? = subscription? e) :
    deed? h e = none := by
  cases e <;> first | rfl | cases he

end History

-- ════════════════════════════════════════════════════════════════════════
-- One handle
-- ════════════════════════════════════════════════════════════════════════

/-- **The lifeline of a handle**: the handle, and what the journal tells of it. -/
structure Lifeline where
  disposed : Bool
  action : Option Release
  deeds : List Deed

namespace Lifeline

/-- **What may be done with a handle.** -/
inductive Step : Lifeline → Lifeline → Prop
  | arm {c : Lifeline} (action : Release) (hd : c.disposed = false) :
      Step c { c with action := some action, deeds := c.deeds ++ [.armed action] }
  | armLate {c : Lifeline} (action : Release) (hd : c.disposed = true) :
      Step c { c with deeds := c.deeds ++ [.armed action, .ran action] }
  | dispose {c : Lifeline} (hd : c.disposed = false) :
      Step c { disposed := true, action := none,
               deeds := c.deeds ++ .disposed :: c.action.toList.map .ran }

/-- **Actions are run once.** As long as a handle is open, actions are put in place and none is run.
    When it is disposed the latest of them is run, or else the one with which it was `made`; and
    each that comes later is run when it comes. For a handle that was made as a disposed one every
    action comes later. -/
inductive Proper : Lifeline → Prop
  | standing (made : Option Release) (before : List Release) :
      Proper ⟨false, before.getLast?.or made, before.map .armed⟩
  | spent (made : Option Release) (before after : List Release) :
      Proper ⟨true, none, before.map .armed ++ .disposed ::
        ((before.getLast?.or made).toList.map .ran ++
          after.flatMap fun action => [.armed action, .ran action])⟩
  | late (made : Option Release) (after : List Release) :
      Proper ⟨true, made, after.flatMap fun action => [.armed action, .ran action]⟩

/-- **What is done with an open handle from then on.** As long as it stays open, actions are put in
    place and none is run. When it is disposed the latest of them is run, or else the one that was
    in place; and each that comes later is run when it comes. -/
inductive Onward (c : Lifeline) : Lifeline → Prop
  | standing (before : List Release) :
      Onward c ⟨false, before.getLast?.or c.action, c.deeds ++ before.map .armed⟩
  | spent (before after : List Release) :
      Onward c ⟨true, none, c.deeds ++ (before.map .armed ++ .disposed ::
        ((before.getLast?.or c.action).toList.map .ran ++
          after.flatMap fun action => [.armed action, .ran action]))⟩

variable {c c' d : Lifeline}

theorem Onward.refl (hd : c.disposed = false) : Onward c c := by
  obtain ⟨disposed, action, deeds⟩ := c
  obtain rfl : disposed = false := hd
  have h := Onward.standing (c := ⟨false, action, deeds⟩) []
  rwa [List.map_nil, List.append_nil] at h

/-- **Every deed keeps what is done in its form.** -/
theorem Onward.step (h : Onward d c) (hs : Step c c') : Onward d c' := by
  cases h with
  | standing before =>
    cases hs with
    | arm action =>
      have h := Onward.standing (c := d) (before ++ [action])
      rwa [List.getLast?_concat, List.map_append, ← List.append_assoc] at h
    | armLate _ hd => cases hd
    | dispose =>
      have h := Onward.spent (c := d) before []
      rwa [List.flatMap_nil, List.append_nil, ← List.append_assoc] at h
  | spent before after =>
    cases hs with
    | arm _ hd | dispose hd => cases hd
    | armLate action =>
      have h := Onward.spent (c := d) before (after ++ [action])
      rw [List.flatMap_append, List.flatMap_singleton] at h
      simpa only [List.append_assoc, List.cons_append] using h

theorem Proper.new (disposed : Bool) (made : Option Release) : Proper ⟨disposed, made, []⟩ := by
  cases disposed with
  | false => exact .standing made []
  | true => exact .late made []

theorem Proper.of_onward {made : Option Release} (h : Onward ⟨false, made, []⟩ c) : Proper c := by
  cases h with
  | standing before => exact .standing made before
  | spent before after => exact .spent made before after

theorem Proper.step (h : c.Proper) (hs : Step c c') : c'.Proper := by
  cases h with
  | standing made before => exact .of_onward ((Onward.standing before).step hs)
  | spent made before after => exact .of_onward ((Onward.spent before after).step hs)
  | late made after =>
    cases hs with
    | arm _ hd | dispose hd => cases hd
    | armLate action =>
      have h := Proper.late made (after ++ [action])
      rwa [List.flatMap_append, List.flatMap_singleton] at h

theorem Onward.steps (h : Onward d c) (hs : Relation.ReflTransGen Step c c') : Onward d c' := by
  induction hs with
  | refl => exact h
  | tail _ hs ih => exact ih.step hs

/-- Any number of deeds keeps what is done in its form. -/
theorem Proper.steps (h : c.Proper) (hs : Relation.ReflTransGen Step c c') : c'.Proper := by
  induction hs with
  | refl => exact h
  | tail _ hs ih => exact ih.step hs

end Lifeline

-- ════════════════════════════════════════════════════════════════════════
-- Handles of a toolkit
-- ════════════════════════════════════════════════════════════════════════

variable {σ τ : Type} {m : Manners} {K : σ → Prop} {v w : Toolkit σ} {h k : HandleId} {c : Client σ}

namespace Toolkit

/-- The lifeline of a handle. -/
def lifeline (w : Toolkit σ) (h : HandleId) : Lifeline where
  disposed := w.disposed h
  action := (w.handles.get h).action
  deeds := deeds h w.journal

/-- A change that leaves a handle alone and says nothing of it. -/
theorem lifeline_eq (es : List Event) (journal : w.journal = (v.notedAll es).journal)
    (hes : ∀ e ∈ es, deed? h e = none) (handle : w.handles.get h = v.handles.get h) :
    w.lifeline h = v.lifeline h := by
  have hnone : es.filterMap (deed? h) = [] := List.filterMap_eq_nil_iff.mpr hes
  simp only [lifeline, disposed, handle, journal, deeds_notedAll, hnone, List.append_nil]

theorem lifeline_noted (w : Toolkit σ) {e : Event} (he : deed? h e = none) :
    (w.noted e).lifeline h = w.lifeline h :=
  lifeline_eq [e] rfl (by simpa using he) rfl

theorem lifeline_starting (w : Toolkit σ) (b : BridgeId) (signal : Signal) :
    (w.starting b signal).lifeline h = w.lifeline h :=
  lifeline_eq _ (journal_starting w b signal) (by simp [deed?]) rfl

/-- An action is put in place, or run at once. -/
theorem lifeline_arming (w : Toolkit σ) (h : HandleId) (action : Release) :
    Lifeline.Step (w.lifeline h) ((w.arming h action).lifeline h) := by
  by_cases hd : w.disposed h = true
  · have hstep := Lifeline.Step.armLate (c := w.lifeline h) action hd
    simp only [lifeline, disposed_arming, get_arming, journal_arming, deeds_notedAll] at hstep ⊢
    simpa [hd, deed?] using hstep
  · have hopen : w.disposed h = false := by simpa using hd
    have hstep := Lifeline.Step.arm (c := w.lifeline h) action hopen
    simp only [lifeline, disposed_arming, get_arming, journal_arming, deeds_notedAll] at hstep ⊢
    simpa [hopen, deed?] using hstep

/-- A registration with a widget puts in place what will undo it. -/
theorem lifeline_registering (w : Toolkit σ) (h : HandleId) {b : BridgeId} {binding : Binding}
    {owner : Nat} {judge : Judge} :
    Lifeline.Step (w.lifeline h) ((w.registering h b binding owner judge).lifeline h) := by
  let shown := w.showing (w.screen.install (binding.point owner) (.forward binding b judge)).2
  have hstep := lifeline_arming
    (shown.noted (.registered h (.widget binding owner judge) (w.keyOf b binding owner judge))) h
      (.detach (.widget binding owner judge) (w.keyOf b binding owner judge))
  rw [lifeline_noted shown rfl] at hstep
  exact hstep

/-- The handle is marked, and what was in place is run. -/
theorem lifeline_disposing (hd : w.disposed h = false) :
    Lifeline.Step (w.lifeline h) ((w.disposing h).lifeline h) := by
  have hstep := Lifeline.Step.dispose (c := w.lifeline h) hd
  simp only [lifeline, disposed_disposing, get_disposing, journal_disposing,
    deeds_notedAll] at hstep ⊢
  cases ha : (w.handles.get h).action <;>
    simpa [deed?, List.filterMap_cons, ha] using hstep

end Toolkit

theorem Toolkit.Sound.deeds_eq_nil (hs : w.Sound) (hh : ¬ w.HasHandle h) :
    deeds h w.journal = [] := by
  refine List.eq_nil_iff_forall_not_mem.mpr fun deed hd => ?_
  obtain ⟨e, ho, he⟩ := mem_collect.mp hd
  have hknown := hs.knows ho
  cases e with
  | armed | disposed | releasing =>
    simp only [deed?] at he
    split at he
    · next e => exact hh (e ▸ hknown)
    · cases he
  | _ => cases he

/-- **A step of the library is any number of steps of each handle**, or makes the handle. -/
theorem Step.lifeline (hs : v.Sound) (h : Step m v w) (k : HandleId) :
    Relation.ReflTransGen Lifeline.Step (v.lifeline k) (w.lifeline k) ∨
      ¬ v.HasHandle k ∧ ∃ disposed action, w.lifeline k = ⟨disposed, action, []⟩ := by
  cases h.treats hs k with
  | apart es hj hes hh =>
    rw [Toolkit.lifeline_eq es hj (fun e he => deed?_of_handle?_ne (hes e he)) hh]
    exact .inl .refl
  | @made w x es hnew hj hes hh =>
    have hnone : es.filterMap (deed? k) = [] :=
      List.filterMap_eq_nil_iff.mpr fun e he => deed?_of_handle?_eq (hes e he)
    have hk : ¬ v.HasHandle k := hnew ▸ hs.not_hasHandle_next
    refine .inr ⟨hk, x.disposed, x.action, ?_⟩
    simp only [Toolkit.lifeline, Toolkit.disposed, hh, hj, deeds_notedAll,
      hs.deeds_eq_nil hk, hnone, List.append_nil]
  | disposed hd => exact .inl (.single (Toolkit.lifeline_disposing hd))
  | armed => exact .inl (.single (v.lifeline_arming k _))
  | registered =>
    rw [Toolkit.lifeline_noted _ rfl]
    exact .inl (.single (v.lifeline_registering k))
  | started =>
    rw [Toolkit.lifeline_starting, Toolkit.lifeline_noted _ rfl]
    exact .inl (.single (v.lifeline_registering k))
  | registeredClient =>
    rw [← v.lifeline_noted (e := .registered k _ _) rfl]
    exact .inl (.single (Toolkit.lifeline_arming _ k _))
  | withdrawn | attaching | attached | concluded =>
    rw [Toolkit.lifeline_noted _ rfl]
    exact .inl .refl

/-- **At every step the actions of every handle are run once.** -/
theorem Steps.proper {w : Toolkit Unit} (h : Steps m Toolkit.fresh w) (k : HandleId) :
    (w.lifeline k).Proper := by
  refine h.invariant (I := fun w => (w.lifeline k).Proper) (.new false none) fun hv ih hs => ?_
  obtain hsteps | ⟨-, disposed, action, hnew⟩ := hs.lifeline hv.sound_of_fresh k
  · exact ih.steps hsteps
  · rw [hnew]
    exact .new disposed action

/-- **From any time on** the actions of a handle that is open by then are run once. -/
theorem Steps.onward (hs : v.Sound) (hh : v.HasHandle k) (hd : v.disposed k = false)
    (h : Steps m v w) : (v.lifeline k).Onward (w.lifeline k) := by
  induction h with
  | refl => exact .refl hd
  | tail hvw h ih =>
    have hsteps := (h.lifeline (Steps.sound hs hvw) k).resolve_right fun hnew =>
      hnew.1 ((Steps.grows hvw).hasHandle hh)
    exact ih.steps hsteps

-- ════════════════════════════════════════════════════════════════════════
-- Single calls
-- ════════════════════════════════════════════════════════════════════════

/-- **A call comes back**, without a panic, by steps from `start`. It is given up only if `stuck`
    holds. -/
def UI.ComesBack (m : Manners) (start : Toolkit σ) (stuck : Prop) :
    EStateM.Result Interrupt (Toolkit σ) Unit → Prop
  | .ok () u => Steps m start u
  | .error (.panic _) _ => False
  | .error .stalled _ => stuck

theorem UI.ComesBack.mono {start : Toolkit σ} {stuck stuck' : Prop}
    {r : EStateM.Result Interrupt (Toolkit σ) Unit} (h : ComesBack m start stuck r)
    (hs : stuck → stuck') : ComesBack m start stuck' r := by
  cases r with
  | ok a u => exact h
  | error e u =>
    cases e with
    | panic => exact h
    | stalled => exact hs h

/-- An action is given up when it is run for a handle from a toolkit on. -/
def Client.Stuck (c : Client σ) (h : HandleId) (action : Release) (w : Toolkit σ) : Prop :=
  ∃ u, c.act action (w.noted (.releasing h action)) = .error .stalled u

/-- The toolkit in which a handle is marked as disposed. -/
def Toolkit.marking (w : Toolkit σ) (h : HandleId) : Toolkit σ :=
  (w.withHandle h fun handle => { handle with disposed := true, action := none }).noted
    (.disposed h)

/-- **What a call that disposes a handle does.** The first one comes back from the toolkit in which
    the handle is disposed and the run of its action has begun; every other one does nothing. -/
structure Client.Disposes (c : Client σ) (m : Manners) (h : HandleId) (w : Toolkit σ) : Prop where
  first : w.disposed h = false → ComesBack m (w.disposing h)
    (∃ action, (w.handles.get h).action = some action ∧ c.Stuck h action (w.marking h))
    (c.dispose h w)
  again : w.disposed h = true → c.dispose h w = .ok () w

/-- **What a call that puts an action in place does.** On an open handle it does no more than that;
    on a disposed one it comes back from the toolkit in which the run of the action has begun. -/
structure Client.Arms (c : Client σ) (m : Manners) (h : HandleId) (action : Release)
    (w : Toolkit σ) : Prop where
  early : w.disposed h = false → c.setAction h action w = .ok () (w.arming h action)
  late : w.disposed h = true → ComesBack m (w.arming h action)
    (c.Stuck h action (w.noted (.armed h action))) (c.setAction h action w)

namespace Client

/-- The run of an action is given up only if the action is. -/
theorem stuck_of_releaseFor {action : Release} {u : Toolkit σ}
    (hr : c.releaseFor h action w = .error .stalled u) : c.Stuck h action w := by
  simp only [releaseFor, run_note_bind] at hr
  cases hact : c.act action (w.noted (.releasing h action)) with
  | ok result x =>
    have hcatch : catching (c.act action) (w.noted (.releasing h action)) = .ok (.ok result) x := by
      rw [catching, hact]
    rw [bind_ok hcatch] at hr
    cases result <;> cases hr
  | error e x =>
    cases e with
    | panic message =>
      have hcatch : catching (c.act action) (w.noted (.releasing h action)) =
          .ok (.error message) x := by rw [catching, hact]
      rw [bind_ok hcatch] at hr
      cases hr
    | stalled => exact ⟨x, hact⟩

/-- **The run of an action comes back**, however the action ends. -/
theorem Behaves.comesBack (hc : c.Behaves m K) {action : Release}
    (hw : Reached m K (w.releasing h action)) :
    ComesBack m (w.releasing h action) (c.Stuck h action w) (c.releaseFor h action w) := by
  have hlands := hc.releaseFor hw
  cases hr : c.releaseFor h action w with
  | ok a u =>
    rw [hr] at hlands
    exact hlands.2.1.steps
  | error e u =>
    rw [hr] at hlands
    cases e with
    | panic => exact hlands.1
    | stalled => exact stuck_of_releaseFor hr

/-- **Disposing runs the action that is in place**, once. -/
theorem Behaves.disposes (hc : c.Behaves m K) (hw : Reached m K w) (hh : w.HasHandle h) :
    c.Disposes m h w where
  again hd := by
    simp only [Client.dispose, run_get_bind, run_ite]
    exact if_pos hd
  first hd := by
    have hopen : ¬ (w.handles.get h).disposed = true := by simpa [Toolkit.disposed] using hd
    have hreached : Reached m K (w.disposing h) := hw.steps (.single (.dispose hh hd)) (by
      simp only [Toolkit.disposing]
      split <;> rfl)
    simp only [Client.dispose, run_get_bind, run_ite, if_neg hopen, run_changeHandle_bind,
      run_note_bind]
    simp only [Toolkit.disposing] at hreached ⊢
    cases ha : (w.handles.get h).action with
    | none => exact Relation.ReflTransGen.refl
    | some action =>
      rw [ha] at hreached
      exact (hc.comesBack (w := w.marking h) hreached).mono fun hstuck => ⟨action, rfl, hstuck⟩

/-- **Putting an action in place** runs it if the handle is disposed. -/
theorem Behaves.arms (hc : c.Behaves m K) (hw : Reached m K w) (hh : w.HasHandle h) (n : Nat) :
    c.Arms m h (.client n) w where
  early hd := setAction_of_open hd
  late hd := by
    have hreached : Reached m K (w.arming h (.client n)) := hw.steps (.single (.arm hh)) (by
      simp only [Toolkit.arming]
      split <;> rfl)
    have hnoted : (w.noted (.armed h (.client n))).disposed h = true := hd
    simp only [Toolkit.arming, if_pos hd] at hreached ⊢
    simp only [Client.setAction, run_note_bind, run_isDisposed_bind, run_ite, if_pos hnoted]
    exact hc.comesBack hreached

end Client

namespace Code

variable {code : Code m τ} {depth : Nat} {own : τ} {α : Type} {program : Program m τ True True α}

/-- **Actions are run once**, at every moment of every run, whatever they do. Wherever a run has
    come to, a call runs what it is to run before it comes back, and no panic comes out of it. -/
theorem actions_run_once :
    (∀ w ∈ code.moments depth own program, ∀ h, (w.lifeline h).Proper) ∧
    ∀ w : Toolkit (Desk τ), Reached m (Desk.Faithful m) w → ∀ h, w.HasHandle h →
      (code.client depth).Disposes m h w ∧ ∀ n, (code.client depth).Arms m h (.client n) w := by
  have hc := code.behaves depth
  exact ⟨fun w hw h => (reachable hw).proper h,
    fun w hw h hh => ⟨hc.disposes hw hh, hc.arms hw hh⟩⟩

/-- Its first action puts another one in place, which panics, disposes the handle once more, and
    fails. -/
def rearmingInside : Code ⟨false, false, false, false⟩ Unit :=
  { quiet _ with
    release := fun n =>
      match n with
      | 1 =>
        .call (.setAction 1 2) (absurd rfl) (fun _ => trivial) fun _ =>
          .call (.dispose 1) (absurd rfl) (fun _ => trivial) fun _ => .done (.error "half done")
      | 2 => .panic trivial "stuck"
      | _ => .done (.ok ()) }

/-- Replace the action of a handle, dispose the handle, and put one more action in place. -/
def disposingRearmed : Program m Unit True True Unit :=
  .making (.newHandle false (some 0)) fun h => .making (.setAction h 1) fun _ =>
    .making (.dispose h) fun _ => .making (.setAction h 3) fun _ => .done ()

/-- The replaced action is not run, and each of the others is run once, at its own time. -/
theorem actions_run_once_rearmed :
    (∃ w ∈ rearmingInside.moments 5 () disposingRearmed, (w.lifeline 1).Proper ∧
      (w.lifeline 1).deeds = [.armed (.client 1), .disposed, .ran (.client 1),
        .armed (.client 2), .ran (.client 2), .armed (.client 3), .ran (.client 3)]) ∧
    let w : Toolkit (Desk Unit) := Toolkit.addingHandle { client := { own := () } }
      { disposed := false, action := some (.client 1) }
    (rearmingInside.client 5).Disposes ⟨false, false, false, false⟩ 1 w ∧
      (rearmingInside.client 5).Arms ⟨false, false, false, false⟩ 1 (.client 3) w := by
  have hfinal := List.head_mem (l := rearmingInside.moments 5 () disposingRearmed) (by decide)
  refine ⟨⟨_, hfinal, actions_run_once.1 _ hfinal 1, by rfl⟩, ?_⟩
  have hw := (reached_start (m := ⟨false, false, false, false⟩) ()).steps
    (.single (.newHandle false (some 1))) rfl
  have hcalls := (@actions_run_once Unit _ rearmingInside 5 () Unit disposingRearmed).2 _ hw 1 rfl
  exact ⟨hcalls.1, hcalls.2 3⟩

end Code

end WidgetStreams
