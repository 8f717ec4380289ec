import WidgetStreams.Proofs.Twins

/-!
# Computations that twins go through alike

This file defines when two computations do the same in twin toolkits, and proves
how such computations are put together.

## Main definitions

- `Pairing.Matches`, `Pairing.Lawful` — what is asked of the sources of a pairing
- `UI.Agree`, `Pairing.Agree` — two outcomes agree
- `Pairing.Alike` — two computations have outcomes that agree, wherever twins go through them

## Main results

- `Pairing.Agree.bind`, `Pairing.Alike.bind` — sequence rules
- `Pairing.Alike.catching`, `Pairing.Alike.ensuring`, `Pairing.Alike.onNewThread` — for the other
  ways to put computations together

## Design notes

The twin leads: when it comes to an end or panics, so does the one. When it is
given up for want of depth or patience, nothing is said, unless the one hands
over a value whenever its twin does.
-/

namespace WidgetStreams

open History UI

variable {σ α β γ δ : Type} {m : Manners} {K : σ → σ → Prop} {v w u : Toolkit σ} {P : Pairing}
  {c : Client σ}

-- ════════════════════════════════════════════════════════════════════════
-- Laws
-- ════════════════════════════════════════════════════════════════════════

/-- The view that reports an event at a point of its own. Menus and swipe behaviours are no
    views. -/
def NativeEvent.reporter? : NativeEvent → Option ViewId
  | .clicked view | .longClicked view | .focusChanged view _ | .moved view _
  | .textChanging view _ _ _ _ | .textChanged view _ _ _ _ | .textSettled view _
  | .editorActed view _ | .itemClicked view _ _ | .itemSelected view _ _ | .nothingSelected view
  | .queryChanged view _ | .querySubmitted view _ | .keyboardDismissed view _
  | .pageScrolled view _ _ _ | .pageSelected view _ | .pageStateChanged view _
  | .scrolled view _ _ => some view
  | .menuItemClicked _ | .menuDismissed | .swiped _ => none

/-- Whether an event tells of a query that has not changed. -/
def NativeEvent.isStale : NativeEvent → Bool
  | .querySubmitted _ _ | .keyboardDismissed _ _ => true
  | _ => false

/-- **Two bindings match**: they listen at the same site, and what the one delivers for an event is
    made of what the other delivers. Where that is nothing, nobody asks for an answer. -/
structure Pairing.Matches (P : Pairing) (plain event : Binding) (n : Nat) : Prop where
  site : plain.site = event.site
  judged : plain.isJudged = event.isJudged
  payload : ∀ e, plain.payload? e = (event.payload? e).bind P.project
  passed : ∀ e a, event.payload? e = some a → P.project a = none →
    event.isJudged = false ∧ e.isStale = true
  proper : ∀ e a, event.payload? e = some a → e.reporter? = none ∨ e.reporter? = some n →
    P.proper a

/-- **A lawful pairing**: its sources are of the same kind, and values that client code hands over
    itself are handed over as they are. -/
structure Pairing.Lawful (P : Pairing) (m : Manners) : Prop where
  widget : ∀ event n judge, P.twin = .widget event n judge →
    ∃ plain judge', P.source = .widget plain n judge' ∧ P.Matches plain event n
  client : ∀ callback thread, P.twin = .client callback thread → P.source = P.twin
  free : m.everywhere = true ∨ (∃ callback thread, P.twin = .client callback thread) →
    ∀ a, P.project a = some a ∧ P.proper a

/-- Nothing that the twin hands over is passed over by the one. -/
def Pairing.Total (P : Pairing) : Prop := ∀ a, P.proper a → (P.project a).isSome

-- ════════════════════════════════════════════════════════════════════════
-- Outcomes
-- ════════════════════════════════════════════════════════════════════════

/-- **Two outcomes agree** if both are results and `R` relates these, or both are the same panic, in
    toolkits that `Q` relates. If the second is given up, so is the first as far as `p` holds. -/
def UI.Agree (p : Prop) (R : α → β → Prop) (Q : Toolkit σ → Toolkit σ → Prop)
    (r : EStateM.Result Interrupt (Toolkit σ) α) : EStateM.Result Interrupt (Toolkit σ) β → Prop
  | .ok b w => ∃ a v, r = .ok a v ∧ R a b ∧ Q v w
  | .error (.panic message) w => ∃ v, r = .error (.panic message) v ∧ Q v w
  | .error .stalled _ => p → ∃ v, r = .error .stalled v

/-- **Consequence rule**: ask less of the answers and of the toolkits. -/
theorem UI.Agree.mono {p q : Prop} {R R' : α → β → Prop} {Q Q' : Toolkit σ → Toolkit σ → Prop}
    {r : EStateM.Result Interrupt (Toolkit σ) α} {r' : EStateM.Result Interrupt (Toolkit σ) β}
    (h : UI.Agree p R Q r r') (hp : q → p) (hR : ∀ a b, R a b → R' a b)
    (hQ : ∀ v w, Q v w → Q' v w) :
    UI.Agree q R' Q' r r' := by
  cases r' with
  | ok b w =>
    obtain ⟨a, v, hr, hab, hvw⟩ := h
    exact ⟨a, v, hr, hR a b hab, hQ v w hvw⟩
  | error e w =>
    cases e with
    | panic message =>
      obtain ⟨v, hr, hvw⟩ := h
      exact ⟨v, hr, hQ v w hvw⟩
    | stalled => exact fun hq => h (hp hq)

namespace Pairing

/-- **Two outcomes agree** if the answers are related and the toolkits are twins at rest. Nothing is
    said if the twin is given up, unless the pairing is total. -/
def Agree (P : Pairing) (K : σ → σ → Prop) (R : α → β → Prop) :
    EStateM.Result Interrupt (Toolkit σ) α → EStateM.Result Interrupt (Toolkit σ) β → Prop :=
  UI.Agree P.Total R (P.Resting K)

/-- **Two computations are alike** if their outcomes agree wherever twins at rest go through
    them. -/
def Alike (P : Pairing) (K : σ → σ → Prop) (R : α → β → Prop) (x : UI σ α) (y : UI σ β) : Prop :=
  ∀ v w, P.Resting K v w → P.Agree K R (x v) (y w)

variable {R : α → β → Prop} {T : γ → δ → Prop}

/-- **Sequence rule**: what comes second starts where the first ends. -/
theorem Agree.bind {x : UI σ α} {y : UI σ β} {f : α → UI σ γ} {g : β → UI σ δ}
    (hx : P.Agree K R (x v) (y w))
    (hf : ∀ a b v w, R a b → P.Resting K v w → P.Agree K T (f a v) (g b w)) :
    P.Agree K T ((x >>= f) v) ((y >>= g) w) := by
  cases hy : y w with
  | ok b w' =>
    rw [hy] at hx
    obtain ⟨a, v', hr, hab, hvw⟩ := hx
    rw [bind_ok hr, bind_ok hy]
    exact hf a b v' w' hab hvw
  | error e w' =>
    rw [hy] at hx
    rw [bind_error hy]
    cases e with
    | panic message =>
      obtain ⟨v', hr, hvw⟩ := hx
      exact ⟨v', bind_error hr, hvw⟩
    | stalled =>
      intro ht
      obtain ⟨v', hr⟩ := hx ht
      exact ⟨v', bind_error hr⟩

/-- What is changed at the end is changed however a computation ends. -/
theorem Agree.ensuring {f g : Toolkit σ → Toolkit σ} {x : UI σ α} {y : UI σ β}
    (hx : P.Agree K R (x v) (y w)) (hf : ∀ v w, P.Resting K v w → P.Resting K (f v) (g w)) :
    P.Agree K R (UI.ensuring f x v) (UI.ensuring g y w) := by
  unfold UI.ensuring
  cases hy : y w with
  | ok b w' =>
    rw [hy] at hx
    obtain ⟨a, v', hr, hab, hvw⟩ := hx
    rw [hr]
    exact ⟨a, _, rfl, hab, hf v' w' hvw⟩
  | error e w' =>
    rw [hy] at hx
    cases e with
    | panic message =>
      obtain ⟨v', hr, hvw⟩ := hx
      rw [hr]
      exact ⟨_, rfl, hf v' w' hvw⟩
    | stalled =>
      intro ht
      obtain ⟨v', hr⟩ := hx ht
      rw [hr]
      exact ⟨_, rfl⟩

namespace Alike

theorem bind {x : UI σ α} {y : UI σ β} {f : α → UI σ γ} {g : β → UI σ δ} (hx : P.Alike K R x y)
    (hf : ∀ a b, R a b → P.Alike K T (f a) (g b)) : P.Alike K T (x >>= f) (y >>= g) :=
  fun v w h => (hx v w h).bind fun a b v' w' hab h' => hf a b hab v' w' h'

/-- **Sequence rule** for the same answer. -/
theorem next {x y : UI σ α} {f : α → UI σ γ} {g : α → UI σ δ} (hx : P.Alike K Eq x y)
    (hf : ∀ a, P.Alike K T (f a) (g a)) : P.Alike K T (x >>= f) (y >>= g) :=
  hx.bind fun a b hab => by
    subst hab
    exact hf a

theorem mono {R' : α → β → Prop} {x : UI σ α} {y : UI σ β} (hx : P.Alike K R x y)
    (hR : ∀ a b, R a b → R' a b) : P.Alike K R' x y :=
  fun v w h => (hx v w h).mono id hR fun _ _ => id

theorem pure {a : α} {b : β} (h : R a b) : P.Alike K R (Pure.pure a : UI σ α) (Pure.pure b) :=
  fun v _ hvw => ⟨a, v, rfl, h, hvw⟩

theorem stalled : P.Alike K R (throw .stalled : UI σ α) (throw .stalled : UI σ β) :=
  fun v _ _ _ => ⟨v, rfl⟩

theorem panic (message : String) :
    P.Alike K R (throw (.panic message) : UI σ α) (throw (.panic message) : UI σ β) :=
  fun v _ hvw => ⟨v, rfl, hvw⟩

theorem discard {x : UI σ α} {y : UI σ β} (hx : P.Alike K R x y) :
    P.Alike K Eq (Functor.discard x : UI σ Unit) (Functor.discard y) :=
  hx.bind fun _ _ _ => .pure rfl

theorem ite {q : Prop} [Decidable q] {x x' : UI σ α} {y y' : UI σ β} (hx : P.Alike K R x y)
    (hx' : P.Alike K R x' y') : P.Alike K R (if q then x else x') (if q then y else y') := by
  split
  · exact hx
  · exact hx'

/-- What comes to an end and leaves twins at rest. -/
theorem change {x : UI σ α} {y : UI σ β}
    (h : ∀ v w, P.Resting K v w → ∃ a b v' w', x v = .ok a v' ∧ y w = .ok b w' ∧ R a b ∧
      P.Resting K v' w') : P.Alike K R x y := by
  intro v w hvw
  obtain ⟨a, b, v', w', hx, hy, hab, h'⟩ := h v w hvw
  rw [hx, hy]
  exact ⟨a, v', rfl, hab, h'⟩

/-- Reading what is related in twins. -/
theorem read {x : UI σ α} {y : UI σ β}
    (h : ∀ v w, P.Twins K v w → ∃ a b, x v = .ok a v ∧ y w = .ok b w ∧ R a b) :
    P.Alike K R x y := by
  refine change fun v w hvw => ?_
  obtain ⟨a, b, hx, hy, hab⟩ := h v w hvw.toTwins
  exact ⟨a, b, v, w, hx, hy, hab, hvw⟩

theorem get : P.Alike K (P.Resting K) (MonadState.get : UI σ (Toolkit σ)) MonadState.get :=
  change fun v w h => ⟨v, w, v, w, rfl, rfl, h, h⟩

theorem modify {f g : Toolkit σ → Toolkit σ}
    (h : ∀ v w, P.Resting K v w → P.Resting K (f v) (g w)) :
    P.Alike K Eq (modify f : UI σ Unit) (modify g) :=
  change fun v w hvw => ⟨(), (), f v, g w, rfl, rfl, rfl, h v w hvw⟩

theorem note {e e' : Event} (he : e.isDull P.bridge = true) (he' : e'.isDull P.bridge = true) :
    P.Alike K Eq (UI.note e : UI σ Unit) (UI.note e') :=
  modify fun _ _ h => h.noted he he'

theorem calling {e : Event} (he : e.isCall P.bridge = true) :
    P.Alike K Eq (UI.note e : UI σ Unit) (UI.note e) :=
  modify fun _ _ h => h.calling he

theorem changeScreen {f g : Screen → Screen}
    (h : ∀ s t, P.SameScreen s t → P.SameScreen (f s) (g t)) :
    P.Alike K Eq (UI.changeScreen f : UI σ Unit) (UI.changeScreen g) :=
  modify fun _ _ hvw => hvw.showing (h _ _ hvw.screen)

/-- A change of the screen that leaves views and listeners alone, and does not look at them. -/
theorem changeBare {f : Screen → Screen}
    (hf : ∀ s, f s = { f s.bare with views := s.views, slots := s.slots, rosters := s.rosters }) :
    P.Alike K Eq (UI.changeScreen f : UI σ Unit) (UI.changeScreen f) :=
  changeScreen fun _ _ h => h.change hf

theorem changeBridge {b : BridgeId} (hb : b ≠ P.bridge) {f : Bridge → Bridge}
    (hf : ∀ x, (f x).observer = x.observer) :
    P.Alike K Eq (UI.changeBridge b f : UI σ Unit) (UI.changeBridge b f) :=
  modify fun _ _ h => h.withBridge hb hf

theorem catching {x y : UI σ α} (hx : P.Alike K Eq x y) :
    P.Alike K Eq (UI.catching x) (UI.catching y) := by
  intro v w h
  have hxy := hx v w h
  unfold UI.catching
  cases hy : y w with
  | ok b w' =>
    rw [hy] at hxy
    obtain ⟨a, v', hr, rfl, hvw⟩ := hxy
    rw [hr]
    exact ⟨_, v', rfl, rfl, hvw⟩
  | error e w' =>
    rw [hy] at hxy
    cases e with
    | panic message =>
      obtain ⟨v', hr, hvw⟩ := hxy
      rw [hr]
      exact ⟨_, v', rfl, rfl, hvw⟩
    | stalled =>
      intro ht
      obtain ⟨v', hr⟩ := hxy ht
      rw [hr]
      exact ⟨v', rfl⟩

theorem ensuring {f g : Toolkit σ → Toolkit σ} {x : UI σ α} {y : UI σ β}
    (hf : ∀ v w, P.Resting K v w → P.Resting K (f v) (g w)) (hx : P.Alike K R x y) :
    P.Alike K R (UI.ensuring f x) (UI.ensuring g y) :=
  fun v w h => (hx v w h).ensuring hf

theorem onNewThread {x y : UI σ α} (hx : P.Alike K Eq x y) :
    P.Alike K Eq (UI.onNewThread x) (UI.onNewThread y) := by
  intro v w h
  have hback : ∀ v' w', P.Resting K v' w' →
      P.Resting K { v' with here := v.here } { w' with here := w.here } := by
    intro v' w' h'
    rw [h.here]
    exact h'.of_twins { h'.toTwins with here := rfl } rfl fun _ => id
  have hstart : P.Resting K { v with here := .started (v.started + 1), started := v.started + 1 }
      { w with here := .started (w.started + 1), started := w.started + 1 } := by
    rw [h.started]
    exact h.of_twins { h.toTwins with here := rfl, started := rfl } rfl fun _ => id
  have hbody := (ensuring hback hx) _ _ hstart
  refine hbody.bind
    (f := fun a => UI.note (.joined (.started (v.started + 1))) >>= fun _ => Pure.pure a)
    (g := fun a => UI.note (.joined (.started (w.started + 1))) >>= fun _ => Pure.pure a) ?_
  rintro a _ v' w' rfl h'
  exact (note rfl rfl).bind (fun _ _ _ => .pure rfl) v' w' h'

end Alike

end Pairing

end WidgetStreams
