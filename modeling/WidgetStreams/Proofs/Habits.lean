import WidgetStreams.Proofs.Traits

/-!
# Habits

This file defines habits: traits that are particular about what listeners are
told of edits and moves, and about these themselves. All else that the library
does is within the leeway of a habit.

## Main definitions

- `Toolkit.Mild`, `Event.isMild` — the changes and the events that no habit minds
- `UI.Habit` — a trait that minds nothing else

## Main results

- `UI.Habit.ofActions`, `UI.Habit.ofCall` — calls have it, if edits and moves do
-/

namespace WidgetStreams

open UI

variable {σ α : Type} {m : Manners} {v w : Toolkit σ} {c : Client σ}

/-- What an event says that a widget shows any number of listeners from now on, and at which
    point. -/
def NativeEvent.change? : NativeEvent → Option (Point × Payload)
  | .textChanged view text _ _ _ => some (⟨.watcher, view⟩, .text text)
  | .pageSelected view position => some (⟨.page, view⟩, .page position)
  | _ => none

/-- Whether an event is none of an edit and none of the choice of a page. -/
def NativeEvent.isMild : NativeEvent → Bool
  | .textChanging _ _ _ _ _ | .textChanged _ _ _ _ _ | .textSettled _ _ | .pageSelected _ _ => false
  | _ => true

/-- Whether an event is none that tells of listeners or of operations for any number of them. -/
def Event.isPlain : Event → Bool
  | .heard _ _ | .operating _ _ | .altered _ _ | .operated _ => false
  | _ => true

/-- Whether an event is none that some habit minds. -/
def Event.isMild : Event → Bool
  | .dispatched _ e _ => e.isMild
  | e => e.isPlain

theorem NativeEvent.change?_of_isMild {e : NativeEvent} (he : e.isMild = true) :
    e.change? = none := by
  cases e <;> first | rfl | cases he

theorem NativeEvent.edited?_of_isMild {e : NativeEvent} (he : e.isMild = true) :
    e.edited? = none := by
  cases e <;> first | rfl | cases he

theorem Event.isPlain_of_isMild {e : Event} (he : e.isMild = true) : e.isPlain = true := by
  cases e <;> first | rfl | exact he

/-- Nothing is noted, no text changes, and the client's own state stays as it is. -/
structure Toolkit.Mild (v w : Toolkit σ) : Prop where
  journal : w.journal = v.journal
  client : w.client = v.client
  texts : w.screen.texts = v.screen.texts

/-- What no property minds is mild. -/
theorem Toolkit.Tacit.mild (h : v.Tacit w) : v.Mild w :=
  ⟨h.journal, h.client, h.screen .watcher⟩

theorem Event.isMild_of_isTacit {e : Event} (he : e.isTacit = true) : e.isMild = true := by
  cases e <;> first | rfl | cases he

/-- The leeway of a habit. -/
def Leeway.mild : Leeway σ where
  spares := Toolkit.Mild
  quiet e := e.isMild = true
  spares_of_tacit := Toolkit.Tacit.mild
  quiet_of_isTacit := Event.isMild_of_isTacit

/-- **A habit**: a trait that minds neither mild changes nor mild events. -/
abbrev UI.Habit (P : Prop → ∀ α : Type, UI σ α → Prop) : Prop := Trait .mild P

/-- Whether a site is one of edits or moves. -/
def Site.isLoud : Site → Bool
  | .watcher | .page => true
  | _ => false

theorem Site.isLoud_of_isShared {s : Site} (hs : s.isShared = true) : s.isLoud = true := by
  cases s <;> first | rfl | cases hs

/-- What happens at any other site is mild, but for what listeners are told. -/
theorem Event.isMild_of_isAt {s : Site} {e : Event} (hs : s.isLoud = false) (he : e.isAt s) :
    e.isMild = true ∨ ∃ l event, e = .heard l event ∧ event.isMild = true := by
  have hnative : ∀ event : NativeEvent, s ∈ event.sites → event.isMild = true := by
    intro event hevent
    cases event with
    | textChanging | textChanged | textSettled | pageSelected =>
      rw [List.mem_singleton.mp hevent] at hs
      cases hs
    | _ => rfl
  cases e with
  | dispatched p event reached => exact .inl (hnative event he.2)
  | heard l event => exact .inr ⟨l, event, rfl, hnative event he⟩
  | operating | altered | operated =>
    rw [Site.isLoud_of_isShared he.2] at hs
    cases hs
  | clicked | longClicked | focusChanged | flagged | edited | submitted => exact .inl rfl
  | _ => cases he

namespace UI.Habit

variable {P : Prop → ∀ α : Type, UI σ α → Prop} (hP : Habit P)
include hP

theorem putPages (v : ViewId) (p : Pages) : P False Unit (UI.putPages v p) :=
  hP.spared fun _ => ⟨_, _, rfl, rfl, rfl, rfl⟩

theorem putRows (v : ViewId) (r : Rows) : P False Unit (UI.putRows v r) :=
  hP.spared fun _ => ⟨_, _, rfl, rfl, rfl, rfl⟩

/-- A habit admits all sites but those of edits and moves. -/
theorem admits
    (hheard : ∀ l (e : NativeEvent), e.isMild = true → P False Unit (UI.note (.heard l e)))
    {s : Site} (hs : s.isLoud = false) : Admits P s where
  put {f} hf := by
    have htexts : s ≠ .watcher := by
      rintro rfl
      cases hs
    exact hP.spared fun w => ⟨_, _, rfl, rfl, rfl, hf w.screen .watcher htexts.symm⟩
  tell he := by
    obtain hmild | ⟨l, event, rfl, hmild⟩ := Event.isMild_of_isAt hs he
    · exact hP.note hmild
    · exact hheard l event hmild
  operate hshared := by
    rw [Site.isLoud_of_isShared hshared] at hs
    cases hs

variable (hc : c.Has P)
include hc

/-- **A call that reaches nothing but actions** has the property. -/
theorem ofActions (k : Call α) (hr : k.reach = .actions) : P False α (k.make m c) := by
  refine hP.make (Trait.ofActions hP k hr (fun hsites => ?_) hc)
  cases k with
  | newAdapterView thread ids => exact hP.newAdapterView hP.putRows thread ids
  | newPager | setPageWidth | newMenu | showMenu =>
    exact hP.spared fun _ => ⟨_, _, rfl, rfl, rfl, rfl⟩
  | setFlags v chosen on =>
    exact hP.bind (hP.spared fun _ => ⟨_, _, rfl, rfl, rfl, rfl⟩) fun changed =>
      hP.bind (hP.note rfl) fun _ => hP.pure changed
  | _ => first | exact absurd rfl hsites | cases hr

/-- **A call** has the property if edits and moves have it. -/
theorem ofCall
    (hheard : ∀ l (e : NativeEvent), e.isMild = true → P False Unit (UI.note (.heard l e)))
    (hl : c.Loud P) (k : Call α) : P False α (k.make m c) := by
  have hdirect : ∀ {β : Type} (k : Call β), k.isDirect = true → P False β (k.perform c) := by
    intro β k hk
    by_cases hs : ∀ s ∈ k.sites, s.isLoud = false
    · exact hP.perform hc (hP.connect hc fun _ _ => hP.note rfl) k
        (fun s h => hP.admits hheard (hs s h)) hk
    cases k with
    | setText v text => exact hl.setText v text
    | append v text => exact hl.append v text
    | setPage v page smooth => exact hl.setPage v page smooth
    | swipeTo v page => exact hl.swipeTo v page
    | newPager | setPageWidth => exact hP.spared fun _ => ⟨_, _, rfl, rfl, rfl, rfl⟩
    | _ => exact absurd (by simp [Call.sites, Site.isLoud]) hs
  refine hP.make ?_
  cases k with
  | accept sink value =>
    refine hP.accept hc (fun k hk => hdirect k ?_) sink value
    cases k <;> first | rfl | cases hk
  | _ => exact hdirect _ rfl

end UI.Habit

end WidgetStreams
