import WidgetStreams.Proofs.Habits

/-!
# What computations uphold

This file proves that client code upholds whatever its calls uphold: a property
of toolkits that holds again at the end of every computation, whether it comes
back or is interrupted, together with what a computation leaves as it was.

## Main definitions

- `UI.left` — the toolkit that a computation leaves
- `Matter` — what is to hold of a toolkit, and what is to stay the same
- `UI.Upholds` — a computation upholds a matter, a habit
- `UI.Leaves` — what a computation leaves if it comes back, and if it does not

## Main results

- `Matter.habit` — upholding a matter is a habit
- `Code.upheld` — a run upholds what its calls uphold

## Design notes

In the midst of an operation a matter need not hold. `UI.Leaves` carries such an
operation from one part to the next, with what is known if a part comes back and
if it does not.
-/

namespace WidgetStreams

open UI

variable {σ τ α β : Type} {m : Manners} {v w u : Toolkit σ}

/-- The toolkit that a computation leaves, however it ends. -/
def UI.left : EStateM.Result Interrupt (Toolkit σ) α → Toolkit σ
  | .ok _ u => u
  | .error _ u => u

/-- **A matter**: what is to hold of a toolkit, and what is to stay the same from one to another. It
    minds neither mild changes nor mild events. -/
structure Matter (σ : Type) where
  holds : Toolkit σ → Prop
  same : Toolkit σ → Toolkit σ → Prop
  refl : ∀ w, same w w
  trans : ∀ {v w u}, same v w → same w u → same v u
  mild : ∀ {v w : Toolkit σ}, holds v → v.Mild w → holds w ∧ same v w
  note : ∀ {w : Toolkit σ} {e : Event}, holds w → e.isMild = true →
    holds (w.noted e) ∧ same w (w.noted e)

/-- **A computation upholds** a matter, however it ends. -/
def UI.Upholds (M : Matter σ) (x : UI σ α) : Prop :=
  ∀ w, M.holds w → M.holds (left (x w)) ∧ M.same w (left (x w))

/-- **Upholding a matter is a habit**, whether there are panics or not. -/
theorem Matter.habit (M : Matter σ) : Habit fun (_ : Prop) (α : Type) (x : UI σ α) =>
    Upholds M x where
  mono _ hx := hx
  panic _ _ w hw := ⟨hw, M.refl w⟩
  stalled w hw := ⟨hw, M.refl w⟩
  spared hx w hw := by
    obtain ⟨a, u, hr, hu⟩ := hx w
    rw [hr]
    exact M.mild hw hu
  note he w hw := M.note hw he
  bind {α β _ x f} hx hf w hw := by
    have hxw := hx w hw
    cases hr : x w with
    | ok a u =>
      rw [hr] at hxw
      rw [bind_ok hr]
      obtain ⟨hu, hwu⟩ := hxw
      exact (hf a u hu).imp_right (M.trans hwu)
    | error e u =>
      rw [hr] at hxw
      rw [bind_error hr]
      exact hxw
  catching {α x} hx w hw := by
    have hxw := hx w hw
    simp only [UI.catching]
    cases hr : x w with
    | ok => rw [hr] at hxw; exact hxw
    | error e => rw [hr] at hxw; cases e <;> exact hxw
  ensuring {α _ after x} ha hx w hw := by
    have hxw := hx w hw
    have hafter : ∀ u, M.holds u ∧ M.same w u → M.holds (after u) ∧ M.same w (after u) :=
      fun u hu => (M.mild hu.1 (ha u)).imp_right (M.trans hu.2)
    simp only [UI.ensuring]
    cases hr : x w <;> rw [hr] at hxw <;> exact hafter _ hxw
  pointwise hx w hw := by
    obtain ⟨y, hy, he⟩ := hx w
    rw [he]
    exact hy w hw

/-- What upholds a matter still does if an entry closes it that does no harm. -/
theorem UI.Upholds.over {M : Matter σ} {e : Event} {x : UI σ α} (he : Upholds M (UI.note e))
    (hx : Upholds M x) : Upholds M (UI.ensuring (fun w => w.noted e) x) := by
  intro w hw
  have hxw := hx w hw
  have hnoted : ∀ u, M.holds u ∧ M.same w u → M.holds (u.noted e) ∧ M.same w (u.noted e) :=
    fun u hu => (he u hu.1).imp_right (M.trans hu.2)
  simp only [UI.ensuring]
  cases hr : x w <;> rw [hr] at hxw <;> exact hnoted _ hxw

-- ════════════════════════════════════════════════════════════════════════
-- Parts of an operation
-- ════════════════════════════════════════════════════════════════════════

/-- **An outcome**: `T` holds of the toolkit if the computation came back, and `E` if it did not. -/
def UI.Leaves (E T : Toolkit σ → Prop) : EStateM.Result Interrupt (Toolkit σ) α → Prop
  | .ok _ u => T u
  | .error _ u => E u

namespace UI.Leaves

variable {E E' T T' : Toolkit σ → Prop}

theorem mono {r : EStateM.Result Interrupt (Toolkit σ) α} (hr : Leaves E T r)
    (hE : ∀ u, E u → E' u) (hT : ∀ u, T u → T' u) : Leaves E' T' r := by
  cases r with
  | ok a u => exact hT u hr
  | error e u => exact hE u hr

/-- **Sequence rule**: what comes second starts where the first ends. -/
theorem bind {x : UI σ α} {f : α → UI σ β} (hx : Leaves E T (x w))
    (hf : ∀ a u, T u → Leaves E T' (f a u)) : Leaves E T' ((x >>= f) w) := by
  cases hr : x w with
  | ok a u =>
    rw [hr] at hx
    rw [bind_ok hr]
    exact hf a u hx
  | error e u =>
    rw [hr] at hx
    rw [bind_error hr]
    exact hx

theorem of_left {r : EStateM.Result Interrupt (Toolkit σ) α} (hr : T (UI.left r)) :
    Leaves T T r := by
  cases r <;> exact hr

/-- **An operation** ends as its end follows on what it leaves. -/
theorem operate {p : Point} {x : List Listener → UI σ α}
    (hx : ∀ ls, Leaves E E (x ls (w.noted (.operating p ls))))
    (hend : ∀ u, E u → T (u.noted (.operated p))) : T (UI.left (UI.operate p x w)) := by
  let ls := (w.screen.roster p).snapshot
  have hrun := hx ls
  change T (UI.left (UI.ensuring (fun u => u.noted (.operated p)) (x ls)
    (w.noted (.operating p ls))))
  simp only [UI.ensuring]
  cases hr : x ls (w.noted (.operating p ls)) <;> rw [hr] at hrun <;> exact hend _ hrun

end UI.Leaves

-- ════════════════════════════════════════════════════════════════════════
-- Runs
-- ════════════════════════════════════════════════════════════════════════

namespace Code

variable {M : Matter (Desk τ)} (hmoment : Upholds M UI.observeMoment)
  (hown : ∀ own, Upholds M (UI.putOwn own))
  (hcall : ∀ {c : Client (Desk τ)}, (c.Has fun _ _ x => Upholds M x) →
    ∀ {β : Type} (k : Call β), Upholds M (k.place m c))
include hmoment hown hcall

/-- **Code upholds** what its calls uphold, to any depth. -/
theorem upholds (code : Code m τ) (depth : Nat) :
    (code.client depth).Has fun _ _ x => Upholds M x :=
  M.habit.ofCode hmoment hown (fun _ _ _ hx => hx) (fun hc _ k _ => hcall hc k) code depth

/-- **A run upholds** what its calls uphold. -/
theorem upheld (code : Code m τ) (depth : Nat) (own : τ) (program : Program m τ True True α)
    (hstart : M.holds { client := { own := own } }) :
    M.holds (left (code.outcome depth own program)) ∧
      M.same { client := { own := own } } (left (code.outcome depth own program)) :=
  M.habit.ofProgram hmoment hown (fun k _ => hcall (upholds hmoment hown hcall code depth) k)
    program _ hstart

end Code

/-- The moments of a run are those on the desk that it leaves. -/
theorem Code.moments_eq_left (code : Code m τ) (depth : Nat) (own : τ)
    (program : Program m τ True True α) :
    code.moments depth own program = (left (code.outcome depth own program)).client.moments := by
  rw [moments]
  cases code.outcome depth own program <;> rfl

end WidgetStreams
