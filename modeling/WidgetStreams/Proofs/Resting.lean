import WidgetStreams.Proofs.Concerns

/-!
# Concerns at rest

This file defines when a concern is at rest: nothing that it is about has changed
since the latest moment. A callback comes back at rest, as the last thing that it
does is to write down a moment. So a call of the library finds at rest what it is
about, and whatever it changes is seen at the next moment.

## Main definitions

- `Concern.Rest` — what it is for a concern to be at rest
- `Concern.Rest.Ends` — an outcome of a computation, at rest or not
- `UI.Settles` — a computation keeps a concern, and leaves it at rest if it finds it so
- `UI.Recovers` — a computation keeps a concern, and leaves it at rest wherever it starts
- `UI.Relies` — a computation keeps a concern that it finds at rest

## Main results

- `Concern.Rest.trait` — settling is a trait
- `Concern.Rest.resumes` — client code recovers
- `Concern.Rest.place` — calls recover with what comes after them
- `Code.rested` — runs keep a concern whose calls find it at rest

## Design notes

A call that is about the site of a concern may leave it restless, for the rest of
the program goes on with a moment. If it panics, it must leave it at rest, as the
panic may be caught in the midst of a call.
-/

namespace WidgetStreams

open History UI

variable {τ α β : Type} {m : Manners} {s : Site} {p q : Prop}

-- ════════════════════════════════════════════════════════════════════════
-- Rest
-- ════════════════════════════════════════════════════════════════════════

/-- **Rest**: a toolkit is as it was at the latest moment, as far as a concern goes. What is apart
    from the site does not end it. -/
structure Concern.Rest (C : Concern s) where
  rests : List (Toolkit Unit) → Toolkit Unit → Prop
  spared : ∀ {us v w}, rests us v → w.journal = v.journal → v.screen.SameAt w.screen s → rests us w
  note : ∀ {us w e}, rests us w → Event.isApart s e → rests us (w.noted e)
  moment : ∀ {us w}, C.holds us w → rests (w :: us) w

namespace Concern.Rest

variable {C : Concern s} (D : C.Rest)

/-- A toolkit at rest. -/
def At (w : Toolkit (Desk τ)) : Prop := D.rests w.client.moments w.erased

/-- **An outcome** that keeps a concern, and where `R` holds. A panic leaves it at rest, unless it
    is one that is admitted, as `p` holds. -/
def Ends (p : Prop) (R : Toolkit (Desk τ) → Prop) :
    EStateM.Result Interrupt (Toolkit (Desk τ)) α → Prop
  | .ok _ u => C.Kept u ∧ R u
  | .error (.panic _) u => C.Kept u ∧ (p ∧ R u ∨ D.At u)
  | .error .stalled u => C.Recorded u.client.moments

end Concern.Rest

/-- **A computation settles** if it keeps a concern, and leaves it at rest if it finds it so. -/
def UI.Settles {C : Concern s} (D : C.Rest) (p : Prop) (α : Type) (x : UI (Desk τ) α) : Prop :=
  ∀ w : Toolkit (Desk τ), C.Kept w → D.Ends p (fun u => D.At w → D.At u) (x w)

/-- **A computation recovers** if it keeps a concern, and leaves it at rest wherever it starts. -/
def UI.Recovers {C : Concern s} (D : C.Rest) (p : Prop) (α : Type) (x : UI (Desk τ) α) : Prop :=
  ∀ w : Toolkit (Desk τ), C.Kept w → D.Ends p D.At (x w)

variable {C : Concern s} {D : C.Rest} {v w u : Toolkit (Desk τ)} {c : Client (Desk τ)}
  {R R' : Toolkit (Desk τ) → Prop}

namespace Concern.Rest

theorem Ends.mono {y : EStateM.Result Interrupt (Toolkit (Desk τ)) α} (h : D.Ends p R y)
    (hp : p → q) (hR : ∀ u, C.Kept u → R u → R' u) : D.Ends q R' y := by
  cases y with
  | ok a u => exact ⟨h.1, hR u h.1 h.2⟩
  | error e u =>
    cases e with
    | panic => exact ⟨h.1, h.2.imp_left (And.imp hp (hR u h.1))⟩
    | stalled => exact h

/-- **Sequence rule**: what comes second starts where the first ends. -/
theorem Ends.bind {x : UI (Desk τ) α} {f : α → UI (Desk τ) β} (hx : D.Ends p R (x w))
    (hR : p → q ∧ ∀ u, R u → R' u) (hf : ∀ a u, C.Kept u → R u → D.Ends q R' (f a u)) :
    D.Ends q R' ((x >>= f) w) := by
  cases hr : x w with
  | ok a u =>
    rw [hr] at hx
    rw [bind_ok hr]
    exact hf a u hx.1 hx.2
  | error e u =>
    rw [hr] at hx
    rw [bind_error hr]
    cases e with
    | panic => exact ⟨hx.1, hx.2.imp_left fun hu => ⟨(hR hu.1).1, (hR hu.1).2 u hu.2⟩⟩
    | stalled => exact hx

/-- What is apart from the site does not end the rest. -/
theorem At.spared (hw : D.At w) (hj : u.journal = w.journal) (hc : u.client = w.client)
    (hs : w.screen.SameAt u.screen s) : D.At u := by
  unfold At
  rw [hc]
  exact D.spared (w := u.erased) hw hj hs

theorem At.noted (hw : D.At w) {e : Event} (he : e.isApart s) : D.At (w.noted e) := D.note hw he

/-- **Changing a toolkit in the end** settles if the change keeps the concern and its rest. -/
theorem ensuring {after : Toolkit (Desk τ) → Toolkit (Desk τ)} {x : UI (Desk τ) α}
    (hafter : ∀ u, C.Kept u → C.Kept (after u) ∧ (D.At u → D.At (after u)))
    (hrecord : ∀ u, C.Recorded u.client.moments → C.Recorded (after u).client.moments)
    (hx : Settles D p α x) : Settles D p α (UI.ensuring after x) := by
  intro w hw
  have hend := hx w hw
  simp only [UI.ensuring]
  cases hr : x w with
  | ok a u =>
    rw [hr] at hend
    obtain ⟨hu, hrest⟩ := hafter u hend.1
    exact ⟨hu, fun h => hrest (hend.2 h)⟩
  | error e u =>
    rw [hr] at hend
    cases e with
    | panic =>
      obtain ⟨hu, hrest⟩ := hafter u hend.1
      exact ⟨hu, hend.2.imp (And.imp_right fun h hw => hrest (h hw)) hrest⟩
    | stalled => exact hrecord u hend

/-- **Settling is a trait.** -/
theorem trait (D : C.Rest) : Trait (.apart s) (Settles D (τ := τ)) where
  mono hp hx w hw := (hx w hw).mono hp fun _ _ h => h
  panic _ hp w hw := ⟨hw, .inl ⟨hp, id⟩⟩
  stalled w hw := hw.record
  spared hx w hw := by
    obtain ⟨a, u, hr, hj, hc, hs⟩ := hx w
    rw [hr]
    exact ⟨(hw.spared hj hc hs).1, fun h => h.spared hj hc hs⟩
  note he w hw := ⟨(hw.noted he).1, fun h => h.noted he⟩
  bind hx hf w hw := by
    refine (hx w hw).bind (fun hp => ⟨hp, fun _ h => h⟩) fun a u hu hwu => ?_
    exact (hf a u hu).mono id fun _ _ h hw => h (hwu hw)
  catching {α x} hx w hw := by
    have hend := hx w hw
    simp only [UI.catching]
    cases hr : x w with
    | ok => rw [hr] at hend; exact hend
    | error e =>
      rw [hr] at hend
      cases e with
      | panic => exact ⟨hend.1, fun h => hend.2.elim (fun hp => hp.2 h) id⟩
      | stalled => exact hend
  ensuring ha hx := by
    refine ensuring (fun u hu => ?_) (fun u hu => ?_) hx
    · obtain ⟨hj, hc, hs⟩ := ha u
      exact ⟨(hu.spared hj hc hs).1, fun h => h.spared hj hc hs⟩
    · rw [(ha u).2.1]
      exact hu
  pointwise hx w hw := by
    obtain ⟨y, hy, he⟩ := hx w
    rw [he]
    exact hy w hw

/-- Settling admits all sites but that of the concern. -/
theorem admits (D : C.Rest) {s' : Site} (hs : s' ≠ s) : Admits (Settles D (τ := τ)) s' where
  put hf := D.trait.spared fun w => ⟨_, _, rfl, rfl, rfl, hf w.screen s hs.symm⟩
  tell he := D.trait.note (.inr ⟨s', hs, he⟩)
  operate {α v x} hshared hx := by
    have he : Event.isApart s (.operated ⟨s', v⟩) := .inr ⟨s', hs, rfl, hshared⟩
    exact ensuring (fun _ hu => ⟨(hu.noted he).1, fun h => h.noted he⟩) (fun _ hu => hu) hx

/-- **At a moment** a concern comes to rest. -/
theorem observeMoment (D : C.Rest) : Recovers D False Unit (UI.observeMoment (τ := τ)) :=
  fun _ hw => ⟨(C.observeMoment _ hw).1, D.moment hw.now⟩

theorem putOwn (D : C.Rest) (own : τ) : Settles D False Unit (UI.putOwn own) :=
  fun _ hw => ⟨(C.putOwn own _ hw).1, id⟩

/-- **Client code recovers**: it settles after a moment. -/
theorem resumes (D : C.Rest) : Resumes (Settles D (τ := τ)) (Recovers D) where
  moment hx w hw := by
    refine (D.observeMoment w hw).bind False.elim fun _ u hu hrest => ?_
    exact (hx u hu).mono id fun _ _ h => h hrest
  weaken hx w hw := (hx w hw).mono id fun _ _ h _ => h
  mono hp hx w hw := (hx w hw).mono hp fun _ _ h => h
  stalled w hw := hw.record

end Concern.Rest

-- ════════════════════════════════════════════════════════════════════════
-- Calls and runs
-- ════════════════════════════════════════════════════════════════════════

/-- **A computation relies on rest** if it keeps a concern that it finds at rest. It need not leave
    it so, unless it panics. -/
def UI.Relies {C : Concern s} (D : C.Rest) (α : Type) (x : UI (Desk τ) α) : Prop :=
  ∀ w : Toolkit (Desk τ), C.Kept w → D.At w → D.Ends False (fun _ => True) (x w)

theorem UI.Settles.relies {x : UI (Desk τ) α} (hx : Settles D False α x) : Relies D α x :=
  fun w hw _ => (hx w hw).mono id fun _ _ _ => trivial

namespace Concern.Rest

/-- What settles may begin what relies on rest. -/
theorem relies_bind {x : UI (Desk τ) α} {f : α → UI (Desk τ) β} (hx : Settles D False α x)
    (hf : ∀ a, Relies D β (f a)) : Relies D β (x >>= f) := by
  intro w hw hrest
  refine (hx w hw).bind False.elim fun a u hu hwu => ?_
  exact hf a u hu (hwu hrest)

/-- **The listener in a slot is told** of an event, and the concern is kept, if it is once all is
    noted of how the event is told. -/
theorem notify (hc : c.Has (Settles D)) {p : Point} {e : NativeEvent}
    (htold : C.Kept (w.notedAll (telling p e (w.screen.slot p).content))) :
    D.Ends False (fun _ => True) (c.notify p e w) := by
  obtain ⟨x, hx, hr⟩ := D.trait.notifying hc p e w
  rw [hr]
  exact (hx _ htold).mono id fun _ _ _ => trivial

/-- **A call recovers** with what comes after it, if that does: the moment before the call is all
    that the call relies on, and the moments after it restore the rest. -/
theorem place (hc : c.Has (Settles D))
    (hconnect : ∀ stream b h, Settles D False Unit (c.connect stream b h))
    (hcall : ∀ {γ : Type} (k : Call γ), s ∈ k.sites → Relies D γ (k.perform c)) {k : Call β}
    {f : β → UI (Desk τ) α} (hf : ∀ b, Recovers D p α (f b)) :
    Recovers D p α (k.place m c >>= f) := by
  have hperform : Relies D β (k.perform c) := by
    refine D.trait.performAbout hc Settles.relies (fun g hx w hw hrest => ?_) (fun _ => D.admits)
      hconnect hcall k
    exact (hx w hw hrest).bind False.elim fun _ u hu _ => ⟨hu, trivial⟩
  intro w hw
  have hplaced : D.Ends False (fun _ => True) (k.place m c w) := by
    refine (D.observeMoment w hw).bind False.elim fun _ u hu hrest => ?_
    simp only [Call.make, run_get_bind, run_ite]
    split
    · exact hperform u hu hrest
    · exact hu.record
  exact hplaced.bind False.elim fun b u hu _ => hf b u hu

end Concern.Rest

namespace Code

variable (hconnect : ∀ {c : Client (Desk τ)}, c.Has (Settles D) →
    ∀ stream b h, Settles D False Unit (c.connect stream b h))
  (hcall : ∀ {c : Client (Desk τ)}, c.Has (Settles D) → ∀ {β : Type} (k : Call β), s ∈ k.sites →
    Relies D β (k.perform c))
include hconnect hcall

/-- **Code recovers** if calls that are about the site rely on no more than rest, to any depth. -/
theorem recovers (code : Code m τ) (depth : Nat) : (code.client depth).Has (Recovers D) := by
  refine D.trait.resumeCode D.resumes D.putOwn (fun _ {α x} hx w hw => ?_)
    (fun {_} hc {_ _ _} k _ {_} hf => ?_) code depth
  · have hend := hx w hw
    cases hr : x w with
    | ok => rw [hr] at hend; exact hend
    | error e =>
      rw [hr] at hend
      cases e with
      | panic => exact ⟨hend.1, .inr (hend.2.elim And.right id)⟩
      | stalled => exact hend
  · have hsettled := hc.mono D.resumes.weaken
    exact D.place hsettled (hconnect hsettled) (hcall hsettled) hf

/-- **A run keeps** a concern whose calls find it at rest, at every moment and when the run is over;
    and then it is at rest. -/
theorem rested (code : Code m τ) (depth : Nat) (own : τ) (program : Program m τ True True α)
    (hstart : C.holds [] Toolkit.fresh) :
    C.Recorded (code.moments depth own program) ∧
    ∀ a u, code.outcome depth own program = .ok a u →
      C.holds (code.moments depth own program) u.erased ∧
        D.rests (code.moments depth own program) u.erased := by
  have hc := code.recovers hconnect hcall depth
  have hsettled := hc.mono D.resumes.weaken
  have hrun := D.trait.resumeProgram D.resumes D.putOwn
    (fun _ _ _ hf => D.place hsettled (hconnect hsettled) (hcall hsettled) hf) program
    ({ client := { own := own } } : Toolkit (Desk τ)) ⟨hstart, fun _ _ h => by simp at h⟩
  change D.Ends _ _ (code.outcome depth own program) at hrun
  simp only [moments]
  cases hr : code.outcome depth own program with
  | ok a u =>
    rw [hr] at hrun
    refine ⟨hrun.1.record, fun a' u' h => ?_⟩
    cases h
    exact ⟨hrun.1.now, hrun.2⟩
  | error e u =>
    rw [hr] at hrun
    refine ⟨?_, fun _ _ h => by cases h⟩
    cases e with
    | panic => exact hrun.1.record
    | stalled => exact hrun

end Code

end WidgetStreams
