import WidgetStreams.Proofs.Owners

/-!
# What a step is to the registries of listeners

This file tells what a step may be to the registries where any number of listeners
may be: at most, one comes or one goes. What is to hold of these registries at every
moment is then a matter of these few cases.

## Main definitions

- `Event.enlists` — an event of a registration, or of a removal
- `Toolkit.Enlists` — what may befall the registries

## Main results

- `Step.enlists` — every step is one of these
-/

namespace WidgetStreams

open History

variable {σ : Type} {m : Manners} {v w : Toolkit σ} {p : Point} {h : HandleId} {b : BridgeId}

namespace Screen

variable {s t : Screen} {q : Point}

theorem roster_congr (h : s.rosters = t.rosters) (p : Point) : s.roster p = t.roster p := by
  rw [Screen.roster, h]
  rfl

/-- **Registering at a site for any number of listeners** adds to the registry there and to no
    other. -/
theorem roster_install (hp : p.site.isShared = true) (listener : Listener) :
    (s.install q listener).2.roster p =
      if q = p then ((s.roster p).add listener).2 else s.roster p := by
  simp only [install]
  split
  · rw [roster_addListener]
    split
    · next hqp => rw [hqp]
    · rfl
  · next hq =>
    have hne : q ≠ p := by
      rintro rfl
      exact hq hp
    rw [if_neg hne]
    exact roster_congr (rosters_setListener s q listener) p

/-- Undoing a registration leaves the registries at other points alone. -/
theorem roster_uninstall_of_ne (hne : q ≠ p) (key : Option Nat) :
    (s.uninstall q key).roster p = s.roster p := by
  cases key with
  | some key => rw [uninstall, roster_removeListener, if_neg hne]
  | none => exact roster_congr (rosters_clearListener s q) p

end Screen

/-- Whether an event is one of a registration at any point, or a removal from one. -/
def Event.enlists : Event → Bool
  | .registered _ (.widget _ _ _) _ | .installed _ _ | .removed _ _ => true
  | _ => false

theorem Event.enlists_of_isAside {e : Event} (he : e.isAside = true) : e.enlists = false := by
  cases e <;> first | rfl | cases he

theorem Cause.not_enlists {b : BridgeId} {s : Screen} {signal : Signal} {notes : List Event}
    (hc : Cause m w b s signal notes) : ∀ e ∈ notes, e.enlists = false := by
  cases hc <;> simp [Event.enlists]

/-- A subscription that has come anywhere has begun. -/
theorem History.occurred_of_milestones {source : Source} {rest : List Event}
    (hm : milestones h w.journal = .subscribing h b source :: rest) :
    Occurred (.subscribing h b source) w.journal :=
  (mem_milestones.mp (hm ▸ List.mem_cons_self)).1

namespace Toolkit

/-- **What may befall the registries of listeners** from one moment to the next. -/
inductive Enlists (v : Toolkit σ) : Toolkit σ → Prop
  /-- Nobody comes and nobody goes. -/
  | quiet {w : Toolkit σ} (es : List Event) (journal : w.journal = (v.notedAll es).journal)
      (events : ∀ e ∈ es, e.enlists = false) (rosters : w.screen.rosters = v.screen.rosters)
      (disposed : ∀ k, v.HasHandle k → w.disposed k = v.disposed k) : Enlists v w
  /-- A handle is disposed. -/
  | disposed {h : HandleId} (alive : v.disposed h = false) : Enlists v (v.disposing h)
  /-- A subscription is registered. -/
  | registered {h : HandleId} {b : BridgeId} {binding : Binding} {n : Nat} {judge : Judge}
      (warm : Bool) (begun : Occurred (.subscribing h b (.widget binding n judge)) v.journal)
      (alive : v.disposed h = false) :
      Enlists v ((v.registering h b binding n judge).noted
        (.attached h (v.keyOf b binding n judge) warm))
  /-- A subscription is registered, and its bridge takes a value. -/
  | started {h : HandleId} {b : BridgeId} {binding : Binding} {n : Nat} {judge : Judge}
      {signal : Signal} (begun : Occurred (.subscribing h b (.widget binding n judge)) v.journal)
      (alive : v.disposed h = false) :
      Enlists v (((v.registering h b binding n judge).noted
        (.attached h (v.keyOf b binding n judge) true)).starting b signal)
  /-- A listener is put there directly. -/
  | listened {q : Point} {listener : Listener} (raw : listener.isRaw = true) :
      Enlists v ((v.withScreen fun s => (s.install q listener).2).noted (.installed q listener))
  /-- A listener is taken out by its key. -/
  | removed {q : Point} {key : Nat} :
      Enlists v ((v.withScreen fun s => (s.removeListener q key).2).noted (.removed q key))

namespace Enlists

/-- What leaves screen and handles as they are. -/
theorem of_screen (es : List Event) (hj : w.journal = (v.notedAll es).journal)
    (hes : ∀ e ∈ es, e.enlists = false) (hs : w.screen = v.screen) (hh : w.handles = v.handles) :
    v.Enlists w := by
  refine .quiet es hj hes (congrArg Screen.rosters hs) fun k _ => ?_
  rw [Toolkit.disposed, hh]
  rfl

/-- An action that is none of a registration with a widget is put in place. -/
theorem arming {u : Toolkit σ} {action : Release} {es : List Event} (ha : ∀ s, action.undone s = s)
    (hj : (u.arming h action).journal = (v.notedAll es).journal)
    (hes : ∀ e ∈ es, e.enlists = false) (hs : u.screen = v.screen) (hh : u.handles = v.handles) :
    v.Enlists (u.arming h action) := by
  refine .quiet es hj hes ?_ fun k _ => ?_
  · rw [screen_arming u h ha, hs]
  · rw [disposed_arming, Toolkit.disposed, hh]
    rfl

/-- A widget changes its state at most, before it tells a bridge of that. -/
theorem of_cause {s : Screen} {signal : Signal} {notes es : List Event}
    (cause : Cause m v b s signal notes) (hes : ∀ e ∈ es, e.enlists = false)
    (hj : w.journal = (v.notedAll (notes ++ es)).journal) (hs : w.screen = s)
    (hh : w.handles = v.handles) : v.Enlists w := by
  refine .quiet _ hj (List.forall_mem_append.mpr ⟨cause.not_enlists, hes⟩)
    (hs ▸ cause.registrations.2) fun k _ => ?_
  rw [Toolkit.disposed, hh]
  rfl

end Enlists

end Toolkit

/-- **Every step is one of these to the registries of listeners.** -/
theorem Step.enlists (h : Step m v w) : v.Enlists w := by
  have hadding : ∀ x k, v.HasHandle k → (v.addingHandle x).disposed k = v.disposed k :=
    fun x _ hk => Toolkit.disposed_addingHandle hk x
  cases h with
  | note he =>
    exact .of_screen [_] rfl (by simpa using Event.enlists_of_isAside he) rfl rfl
  | change h =>
    refine .quiet [] h.journal (by simp) h.rosters fun k _ => ?_
    rw [Toolkit.disposed, h.handles]
    rfl
  | newHandle => exact .quiet [] rfl (by simp) rfl (hadding _)
  | newBridge => exact .quiet [] rfl (by simp) rfl (hadding {})
  | subscribe => exact .quiet [_, _, _] rfl (by simp [Event.enlists]) rfl (hadding {})
  | drop | finish | unwind => exact .of_screen [] rfl (by simp) rfl rfl
  | comeBack | advance | withdraw | attach | attached | conclude | hear | operate =>
    exact .of_screen [_] rfl (by simp [Event.enlists]) rfl rfl
  | flag => exact .quiet [_] rfl (by simp [Event.enlists]) rfl fun _ _ => rfl
  | alter h => exact .quiet [_] rfl (by simp [Event.enlists]) h.rosters fun _ _ => rfl
  | pass turn => exact .quiet [_] rfl (by simp [Event.enlists]) turn.rosters fun _ _ => rfl
  | dispose hh hd => exact .disposed hd
  | arm =>
    refine .arming (fun _ => rfl) (Toolkit.journal_arming _ _ _) ?_ rfl rfl
    split <;> simp [Event.enlists]
  | @registerClient l c callback thread key =>
    refine .arming (fun _ => rfl) (Toolkit.journal_registeringClient v l callback thread key) ?_ rfl
      rfl
    split <;> simp [Event.enlists]
  | start hb hc hd cause =>
    exact .of_cause cause (by simp [Event.enlists]) (Toolkit.journal_notedAll_starting _ _ _ _) rfl
      rfl
  | queue hm hb hc hd cause =>
    exact .of_cause cause (by simp [Event.enlists]) (Toolkit.journal_notedAll_queueing _ _ _ _) rfl
      rfl
  | registerWidget hm hd => exact .registered false (occurred_of_milestones hm) hd
  | registerWarm hm hd => exact .started (occurred_of_milestones hm) hd
  | listen hl => exact .listened hl
  | @unlisten q =>
    exact .quiet [_] rfl (by simp [Event.enlists]) (Screen.rosters_clearListener v.screen q)
      fun _ _ => rfl
  | removeListener => exact .removed

end WidgetStreams
