import WidgetStreams.Proofs.Traits

/-!
# Concerns

This file defines concerns: what is to hold of the state and of the events at one
site, at every moment of a run and at its end. All that happens elsewhere leaves a
concern alone, so it is enough to look at the calls that are about its site.

## Main definitions

- `Event.isApart`, `Leeway.apart` — what does not happen at a site
- `Concern` — what is to hold with regard to a site, and what is to stay the same
- `Concern.Kept` — it holds now, and did at all moments so far
- `Concern.Ends` — an outcome of a computation that keeps a concern
- `UI.Minds` — a computation keeps a concern, a trait

## Main results

- `Concern.trait` — keeping a concern is a trait
- `Concern.place` — calls keep it, if those do that are about its site
- `Code.kept` — runs keep it

## Design notes

A run that is given up for want of depth or patience may be in the midst of
anything; of it no more is known than that the moments were as they should be. So
may a run that panics, unless the concern says that it holds even then.
-/

namespace WidgetStreams

open UI

variable {τ α β : Type} {m : Manners} {s : Site} {p q : Prop}

-- ════════════════════════════════════════════════════════════════════════
-- Concerns
-- ════════════════════════════════════════════════════════════════════════

/-- An event that does not happen at a site, or may as well happen at another one. -/
def Event.isApart (s : Site) (e : Event) : Prop := e.isTacit = true ∨ ∃ s', s' ≠ s ∧ e.isAt s'

/-- **The leeway of a concern**: changes of anything but the state at a site, and the events that
    are apart from it. -/
def Leeway.apart {σ : Type} (s : Site) : Leeway σ where
  spares v w := w.journal = v.journal ∧ w.client = v.client ∧ v.screen.SameAt w.screen s
  quiet := Event.isApart s
  spares_of_tacit h := ⟨h.journal, h.client, h.screen s⟩
  quiet_of_isTacit := .inl

/-- **A concern** with a site: what is to hold of a toolkit in view of the moments before, latest
    first, and what is to stay the same from one toolkit to another. It minds nothing that is apart
    from the site. -/
structure Concern (s : Site) where
  /-- It holds even after a panic. -/
  panics : Prop
  holds : List (Toolkit Unit) → Toolkit Unit → Prop
  same : Toolkit Unit → Toolkit Unit → Prop
  refl : ∀ w, same w w
  trans : ∀ {v w u}, same v w → same w u → same v u
  spared : ∀ {us v w}, holds us v → w.journal = v.journal → v.screen.SameAt w.screen s →
    holds us w ∧ same v w
  note : ∀ {us w e}, holds us w → Event.isApart s e → holds us (w.noted e) ∧ same w (w.noted e)
  moment : ∀ {us w}, holds us w → holds (w :: us) w

namespace Concern

variable (C : Concern s)

/-- A concern held at moments, latest first. -/
def Recorded (us : List (Toolkit Unit)) : Prop :=
  ∀ x earlier, x :: earlier <:+ us → C.holds earlier x

/-- **A concern is kept**: it holds now, and did at the moments on the desk. -/
structure Kept (w : Toolkit (Desk τ)) : Prop where
  now : C.holds w.client.moments w.erased
  record : C.Recorded w.client.moments

/-- **An outcome** that keeps a concern, and where `R` holds. A panic is admitted if `p` holds. -/
def Ends (p : Prop) (R : Toolkit (Desk τ) → Prop) :
    EStateM.Result Interrupt (Toolkit (Desk τ)) α → Prop
  | .ok _ u => C.Kept u ∧ R u
  | .error (.panic _) u => (p ∨ C.panics) ∧ C.Kept u ∧ R u
  | .error .stalled u => C.Recorded u.client.moments

end Concern

/-- **A computation minds** a concern if it keeps it, and leaves the same what is to stay so. -/
def UI.Minds (C : Concern s) (p : Prop) (α : Type) (x : UI (Desk τ) α) : Prop :=
  ∀ w : Toolkit (Desk τ), C.Kept w → C.Ends p (fun u => C.same w.erased u.erased) (x w)

variable {C : Concern s} {v w u : Toolkit (Desk τ)} {c : Client (Desk τ)}
  {R R' : Toolkit (Desk τ) → Prop}

namespace Concern.Recorded

theorem cons {us : List (Toolkit Unit)} {x : Toolkit Unit} (hx : C.holds us x)
    (h : C.Recorded us) : C.Recorded (x :: us) := by
  intro y earlier hy
  obtain hy | hy := List.suffix_cons_iff.mp hy
  · obtain ⟨rfl, rfl⟩ := List.cons.inj hy
    exact hx
  · exact h y earlier hy

/-- A concern that held at moments held at each of them. -/
theorem holds {us : List (Toolkit Unit)} (h : C.Recorded us) {x : Toolkit Unit} (hx : x ∈ us) :
    ∃ earlier, x :: earlier <:+ us ∧ C.holds earlier x := by
  obtain ⟨later, earlier, rfl⟩ := List.append_of_mem hx
  exact ⟨earlier, List.suffix_append _ _, h x earlier (List.suffix_append _ _)⟩

end Concern.Recorded

namespace Concern.Ends

theorem mono {y : EStateM.Result Interrupt (Toolkit (Desk τ)) α} (h : C.Ends p R y) (hp : p → q)
    (hR : ∀ u, C.Kept u → R u → R' u) : C.Ends q R' y := by
  cases y with
  | ok a u => exact ⟨h.1, hR u h.1 h.2⟩
  | error e u =>
    cases e with
    | panic => exact ⟨h.1.imp_left hp, h.2.1, hR u h.2.1 h.2.2⟩
    | stalled => exact h

/-- **Sequence rule**: what comes second starts where the first ends. -/
theorem bind {x : UI (Desk τ) α} {f : α → UI (Desk τ) β} (hx : C.Ends p R (x w))
    (hR : p ∨ C.panics → ∀ u, R u → R' u) (hf : ∀ a u, C.Kept u → R u → C.Ends p R' (f a u)) :
    C.Ends p R' ((x >>= f) w) := by
  cases hr : x w with
  | ok a u =>
    rw [hr] at hx
    rw [bind_ok hr]
    exact hf a u hx.1 hx.2
  | error e u =>
    rw [hr] at hx
    rw [bind_error hr]
    cases e with
    | panic => exact ⟨hx.1, hx.2.1, hR hx.1 u hx.2.2⟩
    | stalled => exact hx

end Concern.Ends

namespace Concern.Kept

/-- What is apart from the site keeps the concern. -/
theorem spared (hw : C.Kept w) (hj : u.journal = w.journal) (hc : u.client = w.client)
    (hs : w.screen.SameAt u.screen s) : C.Kept u ∧ C.same w.erased u.erased := by
  obtain ⟨hnow, hsame⟩ := C.spared (w := u.erased) hw.now hj hs
  exact ⟨⟨hc ▸ hnow, hc ▸ hw.record⟩, hsame⟩

theorem noted (hw : C.Kept w) {e : Event} (he : e.isApart s) :
    C.Kept (w.noted e) ∧ C.same w.erased (w.noted e).erased := by
  obtain ⟨hnow, hsame⟩ := C.note hw.now he
  exact ⟨⟨hnow, hw.record⟩, hsame⟩

end Concern.Kept

/-- **Keeping a concern is a trait.** -/
theorem Concern.trait (C : Concern s) : Trait (.apart s) (Minds C (τ := τ)) where
  mono hp hx w hw := (hx w hw).mono hp fun _ _ h => h
  panic _ hp w hw := ⟨.inl hp, hw, C.refl _⟩
  stalled w hw := hw.record
  spared hx w hw := by
    obtain ⟨a, u, hr, hj, hc, hs⟩ := hx w
    rw [hr]
    exact hw.spared hj hc hs
  note he w hw := hw.noted he
  bind hx hf w hw := by
    refine (hx w hw).bind (fun _ _ h => h) fun a u hu hwu => ?_
    exact (hf a u hu).mono id fun y _ huy => C.trans hwu huy
  catching {α x} hx w hw := by
    have hend := hx w hw
    simp only [UI.catching]
    cases hr : x w with
    | ok => rw [hr] at hend; exact hend
    | error e =>
      rw [hr] at hend
      cases e with
      | panic => exact hend.2
      | stalled => exact hend
  ensuring {α p after x} ha hx w hw := by
    have hend := hx w hw
    have hafter : ∀ u : Toolkit (Desk τ), C.Kept u → C.same w.erased u.erased →
        C.Kept (after u) ∧ C.same w.erased (after u).erased := by
      intro u hu hwu
      obtain ⟨hj, hc, hs⟩ := ha u
      exact (hu.spared hj hc hs).imp_right (C.trans hwu)
    simp only [UI.ensuring]
    cases hr : x w with
    | ok => rw [hr] at hend; exact hafter _ hend.1 hend.2
    | error e =>
      rw [hr] at hend
      cases e with
      | panic => exact ⟨hend.1, hafter _ hend.2.1 hend.2.2⟩
      | stalled =>
        change C.Recorded (after _).client.moments
        rw [(ha _).2.1]
        exact hend
  pointwise hx w hw := by
    obtain ⟨y, hy, he⟩ := hx w
    rw [he]
    exact hy w hw

/-- What keeps a concern still does if an entry closes it that is apart from the site. -/
theorem UI.Minds.over {e : Event} (he : e.isApart s) {x : UI (Desk τ) α} (hx : Minds C p α x) :
    Minds C p α (UI.ensuring (fun w => w.noted e) x) := by
  intro w hw
  have hend := hx w hw
  have hnoted : ∀ u : Toolkit (Desk τ), C.Kept u → C.same w.erased u.erased →
      C.Kept (u.noted e) ∧ C.same w.erased (u.noted e).erased :=
    fun u hu hwu => (hu.noted he).imp_right (C.trans hwu)
  simp only [UI.ensuring]
  cases hr : x w with
  | ok => rw [hr] at hend; exact hnoted _ hend.1 hend.2
  | error e =>
    rw [hr] at hend
    cases e with
    | panic => exact ⟨hend.1, hnoted _ hend.2.1 hend.2.2⟩
    | stalled => exact hend

/-- A concern admits all sites but its own. -/
theorem Concern.admits (C : Concern s) {s' : Site} (hs : s' ≠ s) :
    Admits (Minds C (τ := τ)) s' where
  put hf := C.trait.spared fun w => ⟨_, _, rfl, rfl, rfl, hf w.screen s hs.symm⟩
  tell he := C.trait.note (.inr ⟨s', hs, he⟩)
  operate {α v x} hshared hx := by
    have he : Event.isAt s' (.operated ⟨s', v⟩) := ⟨rfl, hshared⟩
    exact UI.Minds.over (.inr ⟨s', hs, he⟩) hx

-- ════════════════════════════════════════════════════════════════════════
-- Calls and runs
-- ════════════════════════════════════════════════════════════════════════

namespace Concern

theorem observeMoment (C : Concern s) : Minds C False Unit (UI.observeMoment (τ := τ)) :=
  fun _ hw => ⟨⟨C.moment hw.now, hw.record.cons hw.now⟩, C.refl _⟩

theorem putOwn (C : Concern s) (own : τ) : Minds C False Unit (UI.putOwn own) :=
  fun _ hw => ⟨⟨hw.now, hw.record⟩, C.refl _⟩

/-- **The listener in a slot is told** of an event, and the concern is kept, if it is once the event
    is noted. The state that goes with the event may have changed just before. -/
theorem notify (C : Concern s) (hc : c.Has (Minds C)) {p : Point} {e : NativeEvent}
    (hw : C.Kept (w.noted (.dispatched p e (w.screen.slot p).content)))
    (hsame : C.same v.erased (w.noted (.dispatched p e (w.screen.slot p).content)).erased)
    (hheard : ∀ listener, Minds C (τ := τ) False Unit (UI.note (.heard listener e))) :
    C.Ends False (fun u => C.same v.erased u.erased) (c.notify p e w) := by
  simp only [Client.notify, run_screen_bind, run_note_bind]
  -- the content is in the journal too, so a split of the match alone would not do
  generalize (w.screen.slot p).content = content at hw hsame ⊢
  cases content with
  | none => exact (C.trait.pure none _ hw).mono id fun _ _ h => C.trans hsame h
  | some listener =>
    have htold : Minds C False (Option Bool) (some <$> c.hearAs listener e) :=
      C.trait.bind (C.trait.hearAs hc listener (hheard listener)) fun _ => C.trait.pure _
    exact (htold _ hw).mono id fun _ _ h => C.trans hsame h

/-- **A call keeps a concern** if the calls do that are about its site, with the moment just written
    down. -/
theorem place (C : Concern s) (hc : c.Has (Minds C))
    (hconnect : ∀ stream b h, Minds C False Unit (c.connect stream b h))
    (hcall : ∀ {β : Type} (k : Call β), s ∈ k.sites → ∀ w : Toolkit (Desk τ), C.Kept w →
      w.erased ∈ w.client.moments →
        C.Ends False (fun u => C.same w.erased u.erased) (k.perform c w))
    (k : Call α) : Minds C False α (k.place m c) := by
  intro w hw
  let seen : Toolkit (Desk τ) :=
    { w with client := { w.client with moments := w.erased :: w.client.moments } }
  obtain ⟨hseen, -⟩ := C.observeMoment w hw
  have hperform : C.Ends False (fun u => C.same seen.erased u.erased) (k.perform c seen) := by
    refine C.trait.performAbout hc (Q := fun α x => C.Ends (α := α) False
      (fun u => C.same seen.erased u.erased) (x seen)) (fun hx => hx seen hseen) (fun f hx => ?_)
      (fun _ => C.admits) hconnect (fun k hs => hcall k hs seen hseen (.head _)) k
    exact hx.bind (fun _ _ h => h) fun _ u hu hwu => ⟨hu, hwu⟩
  change C.Ends False _ (k.make m c seen)
  simp only [Call.make, run_get_bind, run_ite]
  split
  · exact hperform
  · exact hseen.record

end Concern

namespace Code

variable (hpanics : m.mayPanic → C.panics)
  (hplace : ∀ {c : Client (Desk τ)}, c.Has (Minds C) → ∀ {β : Type} (k : Call β),
    Minds C False β (k.place m c))
include hpanics hplace

/-- **Code minds** a concern that its calls keep, to any depth. -/
theorem minds (code : Code m τ) (depth : Nat) : (code.client depth).Has (Minds C) := by
  refine C.trait.ofCode C.observeMoment C.putOwn (fun h {α x} hx w hw => ?_)
    (fun hc _ k _ => hplace hc k) code depth
  have hend := hx w hw
  cases hr : x w with
  | ok => rw [hr] at hend; exact hend
  | error e =>
    rw [hr] at hend
    cases e with
    | panic => exact ⟨.inr (hpanics h), hend.2⟩
    | stalled => exact hend

/-- **A run keeps** a concern that its calls keep: it holds at every moment, in view of the moments
    before, and when the run is over. -/
theorem kept (code : Code m τ) (depth : Nat) (own : τ) (program : Program m τ True True α)
    (hstart : C.holds [] Toolkit.fresh) :
    (∀ w ∈ code.moments depth own program, ∃ us, w :: us <:+ code.moments depth own program ∧
      C.holds us w) ∧
    ∀ a u, code.outcome depth own program = .ok a u →
      C.holds (code.moments depth own program) u.erased ∧ C.same Toolkit.fresh u.erased := by
  have hrun := C.trait.ofProgram C.observeMoment C.putOwn
    (fun k _ => hplace (code.minds hpanics hplace depth) k) program
    ({ client := { own := own } } : Toolkit (Desk τ)) ⟨hstart, fun _ _ h => by simp at h⟩
  change C.Ends _ _ (code.outcome depth own program) at hrun
  simp only [moments]
  cases hr : code.outcome depth own program with
  | ok a u =>
    rw [hr] at hrun
    refine ⟨fun w hw => hrun.1.record.holds hw, fun a' u' h => ?_⟩
    cases h
    exact ⟨hrun.1.now, hrun.2⟩
  | error e u =>
    rw [hr] at hrun
    refine ⟨fun w hw => ?_, fun _ _ h => by cases h⟩
    cases e with
    | panic => exact hrun.2.1.record.holds hw
    | stalled => exact Concern.Recorded.holds hrun hw

end Code

end WidgetStreams
