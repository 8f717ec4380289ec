import WidgetStreams.Proofs.Lands

/-!
# Disposing takes steps

This file proves that operations on handles land within their frame, whatever
the actions of the handles do.

## Main definitions

- `Client.Behaves` — what is asked of client code, one clause for each kind of callback

## Main results

- `Client.Behaves.dispose` — disposing lands, and the handle is disposed there
- `Client.Behaves.setAction` — so does putting an action in place
-/

namespace WidgetStreams

open History UI

variable {σ : Type} {m : Manners} {K : σ → Prop} {v w : Toolkit σ} {c : Client σ}

/-- **Client code behaves**: every callback keeps the frame in which it is called, and panics only
    if the manners allow it. -/
structure Client.Behaves (c : Client σ) (m : Manners) (K : σ → Prop) : Prop where
  observe : ∀ n signal, Keeps m K False (m.observersPanic = true) (c.observe n signal)
  judge : ∀ n value, Keeps m K False (m.othersPanic = true) (c.judge n value)
  hear : ∀ n event, Keeps m K False (m.othersPanic = true) (c.hear n event)
  release : ∀ n, Keeps m K False True (c.release n)
  attach : ∀ n b, Keeps m K False (m.othersPanic = true) (c.attach n b)
  detach : ∀ n key, Keeps m K False True (c.detach n key)
  current : ∀ n, Keeps m K False (m.othersPanic = true) (c.current n)
  absorb : ∀ n value, Keeps m K False (m.othersPanic = true) (c.absorb n value)

theorem Client.behaves_stalled : (Client.stalled : Client σ).Behaves m K where
  observe _ _ := .stalled
  judge _ _ := .stalled
  hear _ _ := .stalled
  release _ := .stalled
  attach _ _ := .stalled
  detach _ _ := .stalled
  current _ := .stalled
  absorb _ _ := .stalled

namespace Frame

/-- What the journal says of a release concerns no call and no subscription. -/
theorem disposing {h : HandleId} (hh : w.HasHandle h) (hd : w.disposed h = false) :
    Frame m w (w.disposing h) := by
  refine of_step (.dispose hh hd) ?_ (fun b => ?_) (fun b => ?_) fun k => ?_
  · simp only [Toolkit.disposing]
    split <;> rfl
  · simp only [Toolkit.disposing]
    split <;> rfl
  · rw [Toolkit.journal_disposing]
    cases (w.handles.get h).action <;> simp [History.marks, mark?]
  · rw [Toolkit.journal_disposing]
    cases (w.handles.get h).action <;> simp [History.milestones, milestone?, subscription?]

end Frame

namespace Client.Behaves

/-- The run of an action lands. The toolkit with the run begun, and what is at the widget undone,
    is the one from which client code takes over. -/
theorem act (hc : c.Behaves m K) {h : HandleId} {action : Release}
    (hw : Reached m K (w.releasing h action)) :
    Lands m K True (Frame m (w.releasing h action)) (fun _ _ => True)
      (c.act action (w.noted (.releasing h action))) := by
  rcases action with n | ⟨⟨binding, owner, judge⟩ | ⟨callback, thread⟩, key⟩
  · exact hc.release n _ hw False.elim
  ·
    exact (Keeps.note (s := False) (e := .detached (.widget binding owner judge) key) rfl).bind
      (fun _ => .pure (Except.ok (ε := String) ())) _ hw False.elim
  · have hundo : Keeps m K False True (c.undo (.client callback thread) key) :=
      (hc.detach callback key).bind fun _ => .note rfl
    exact hundo.bind (fun _ => .pure (Except.ok (ε := String) ())) _ hw False.elim

/-- An action whose run has begun lands, and what becomes of it is only noted. -/
theorem releaseFor (hc : c.Behaves m K) {h : HandleId} {action : Release}
    (hw : Reached m K (w.releasing h action)) :
    Lands m K False (Frame m (w.releasing h action)) (fun _ _ => True)
      (c.releaseFor h action w) := by
  simp only [Client.releaseFor, run_note_bind]
  refine (hc.act hw).catching.bind (fun _ h => h) fun result u hu hwu _ => Lands.after hwu ?_
  obtain panicked | reason | _ := result
  · exact Keeps.note (s := False) rfl u hu False.elim
  · exact Keeps.note (s := False) rfl u hu False.elim
  · exact Keeps.pure (s := False) () u hu False.elim

/-- **Disposing** lands, and the handle is disposed there. -/
theorem dispose (hc : c.Behaves m K) {h : HandleId} (hv : Reached m K v) (hh : v.HasHandle h) :
    Lands m K False (Frame m v) (fun _ w => w.disposed h = true) (c.dispose h v) := by
  by_cases hd : v.disposed h = true
  · have hrun : c.dispose h v = .ok () v := by
      simp only [Client.dispose, run_get_bind, run_ite]
      exact if_pos hd
    rw [hrun]
    exact ⟨hv, .refl v, hd⟩
  have hd : v.disposed h = false := by simpa using hd
  have hf : Frame m v (v.disposing h) := .disposing hh hd
  have hw : Reached m K (v.disposing h) := hv.steps hf.steps (by
    simp only [Toolkit.disposing]
    split <;> rfl)
  have hdone : (v.disposing h).disposed h = true := by
    simp only [Toolkit.disposing]
    split <;> simp [Toolkit.disposed, Toolkit.withHandle, Toolkit.noted, Toolkit.releasing,
      Toolkit.withScreen]
  have hopen : ¬ (v.handles.get h).disposed = true := by simpa [Toolkit.disposed] using hd
  simp only [Client.dispose, run_get_bind, run_ite, if_neg hopen, run_changeHandle_bind,
    run_note_bind]
  simp only [Toolkit.disposing] at hf hw hdone
  split at hw
  · next ha =>
    rw [ha] at hf hdone ⊢
    exact ⟨hw, hf, hdone⟩
  · next action ha =>
    rw [ha] at hf hdone ⊢
    exact (hc.releaseFor hw).consequence id (fun _ hu => hf.trans hu)
      fun _ _ _ hu _ => hu.grows.disposed hdone

/-- **Putting an action in place** lands, if the toolkit with the action in place is reached. -/
theorem setAction (hc : c.Behaves m K) {h : HandleId} {action : Release}
    (hw : Reached m K (w.arming h action)) :
    Lands m K False (Frame m (w.arming h action)) (fun _ _ => True) (c.setAction h action w) := by
  simp only [Client.setAction, run_note_bind, run_isDisposed_bind, run_ite]
  simp only [Toolkit.arming] at hw ⊢
  split at hw
  · next hd =>
    rw [if_pos hd, if_pos (show (w.noted (.armed h action)).disposed h = true from hd)]
    exact hc.releaseFor hw
  · next hd =>
    rw [if_neg hd, if_neg (show ¬ (w.noted (.armed h action)).disposed h = true from hd)]
    exact ⟨hw, .refl _, trivial⟩

end Client.Behaves

/-- A handle that is not disposed takes an action without more ado. -/
theorem Client.setAction_of_open {h : HandleId} {action : Release} (hd : w.disposed h = false) :
    c.setAction h action w = .ok () (w.arming h action) := by
  have hopen : ¬ (w.noted (.armed h action)).disposed h = true := by
    simp [show (w.noted (.armed h action)).disposed h = false from hd]
  simp only [Client.setAction, run_note_bind, run_isDisposed_bind, run_ite, if_neg hopen,
    Toolkit.arming, hd, Bool.false_eq_true, if_false]
  rfl

end WidgetStreams
