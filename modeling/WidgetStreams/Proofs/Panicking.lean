import WidgetStreams.Proofs.Delivery

/-!
# Observers that panic

This file proves what is left of the contract between bridges and observers
when the callbacks may panic at any point. A panic ends the delivery in whose
midst it comes, and what waits stays where it is: the next signal goes before
it. A fault ends the calls on an observer if its own call comes back; if that
call panics, the handle stays open and calls go on.

## Main definitions

- `History.Punctual` — every call is for the signal that a bridge owes next
- `Toolkit.Retains` — what a bridge keeps of the signals it took
- `Toolkit.EndsWithFault` — what a fault ends

## Main results

- `Code.panics_retain_signals` — no signal is lost by a panic, and none delivered twice
- `Code.faults_end_calls` — a fault whose call came back is the last signal
- `Code.fault_repeated` — a fault whose call panics may be followed by anything
-/

namespace WidgetStreams

open History

variable {σ τ α : Type} {m : Manners} {v w : Toolkit σ} {b : BridgeId} {h : HandleId}

-- ════════════════════════════════════════════════════════════════════════
-- What the journal says of signals
-- ════════════════════════════════════════════════════════════════════════

namespace History

variable {x : Entry} {i j later : List Entry}

/-- An entry does not change what the journal tells of the signals of a bridge. -/
structure Unrelated (b : BridgeId) (x : Entry) : Prop where
  accepted : accepted? b x.event = none
  taken : ∀ waits, taken? b waits x.event = none
  began : (mark? b x.event).bind Mark.signal? = none
  owed : ∀ j, owed b (x :: j) = History.owed b j

/-- **What an entry says of a bridge**: it takes a signal to deliver at once, or to let it wait, it
    begins with one, or it does none of this. -/
theorem signal_cases (b : BridgeId) (x : Entry) :
    (∃ t s, x = ⟨t, .accepted b s false⟩) ∨ (∃ t s, x = ⟨t, .accepted b s true⟩) ∨
      (∃ t s, x = ⟨t, .began b s⟩) ∨ Unrelated b x := by
  obtain ⟨t, e⟩ := x
  cases e with
  | accepted k s queued =>
    by_cases hk : k = b
    · subst hk
      cases queued with
      | false => exact .inl ⟨t, s, rfl⟩
      | true => exact .inr (.inl ⟨t, s, rfl⟩)
    · exact .inr (.inr (.inr ⟨by simp [accepted?, hk], by simp [taken?, hk], rfl,
        by simp [owed, hk]⟩))
  | began k s =>
    by_cases hk : k = b
    · exact .inr (.inr (.inl ⟨t, s, hk ▸ rfl⟩))
    · exact .inr (.inr (.inr ⟨rfl, fun _ => rfl, by simp [mark?, hk], by simp [owed, hk]⟩))
  | ended k =>
    refine .inr (.inr (.inr ⟨rfl, fun _ => rfl, ?_, fun _ => rfl⟩))
    by_cases hk : k = b <;> simp [mark?, Mark.signal?, hk]
  | _ => exact .inr (.inr (.inr ⟨rfl, fun _ => rfl, rfl, fun _ => rfl⟩))

theorem began_cons (b : BridgeId) (x : Entry) (j : List Entry) :
    began b (x :: j) = began b j ++ ((mark? b x.event).bind Mark.signal?).toList := by
  rw [began, marks, collect_cons, List.filterMap_append, ← marks, ← began]
  cases mark? b x.event with
  | none => rfl
  | some mark => cases mark <;> rfl

/-- **Calls are punctual**: each is for the signal that the bridge owes next. -/
def Punctual (b : BridgeId) : List Entry → Prop :=
  Guarded fun earlier e => ∀ s, e = .began b s → (owed b earlier).head? = some s

/-- A punctual call leaves the rest of what is owed. -/
theorem owed_began {t : Thread} {s : Signal} (hp : Punctual b (⟨t, .began b s⟩ :: j)) :
    owed b j = s :: owed b (⟨t, .began b s⟩ :: j) := by
  have hhead := (guarded_cons.mp hp).1 s rfl
  cases ho : owed b j with
  | nil =>
    rw [ho] at hhead
    cases hhead
  | cons a rest =>
    rw [ho] at hhead
    cases hhead
    simp [owed, ho]

/-- **No signal is lost, and none is delivered twice**: what a bridge took is what it began to
    deliver and what it owes. -/
theorem Punctual.perm (hp : Punctual b j) : (accepted b j).Perm (began b j ++ owed b j) := by
  induction j with
  | nil => exact .refl _
  | cons x j ih =>
    have ih := ih (guarded_cons.mp hp).2
    rw [accepted, collect_cons, ← accepted, began_cons]
    obtain ⟨t, s, rfl⟩ | ⟨t, s, rfl⟩ | ⟨t, s, rfl⟩ | hx := signal_cases b x
    · have hnew : owed b (⟨t, .accepted b s false⟩ :: j) = s :: owed b j := by simp [owed]
      simp only [hnew, accepted?, mark?, if_true, Option.toList_some, Option.bind_none,
        Option.toList_none, List.append_nil]
      exact (List.perm_append_singleton _ _).trans ((ih.cons s).trans List.perm_middle.symm)
    · have hnew : owed b (⟨t, .accepted b s true⟩ :: j) = owed b j ++ [s] := by simp [owed]
      simp only [hnew, accepted?, mark?, if_true, Option.toList_some, Option.bind_none,
        Option.toList_none, List.append_nil, ← List.append_assoc]
      exact ih.append_right [s]
    · have hold := owed_began hp
      rw [hold] at ih
      simpa [accepted?, mark?, Mark.signal?] using ih
    · rw [hx.accepted, hx.began, hx.owed, Option.toList_none, List.append_nil, List.append_nil]
      exact ih

/-- **A delivery goes on with what is owed**: with a signal that is to be delivered at once come
    what was owed before it and what was let wait since, until another such signal comes. -/
theorem Punctual.resumed {t : Thread} {s : Signal}
    (hp : Punctual b (later ++ ⟨t, .accepted b s false⟩ :: i)) (hd : direct b later = []) :
    let j := later ++ ⟨t, .accepted b s false⟩ :: i
    began b j ++ owed b j = began b i ++ s :: (owed b i ++ waited b later) := by
  induction later with
  | nil => simp [began_cons, owed, mark?, waited]
  | cons x later ih =>
    rw [direct, collect_cons, List.append_eq_nil_iff] at hd
    have ih := ih (guarded_cons.mp hp).2 hd.1
    rw [waited, collect_cons, ← waited]
    simp only [List.cons_append] at hp ih ⊢
    rw [began_cons]
    obtain ⟨u, a, rfl⟩ | ⟨u, a, rfl⟩ | ⟨u, a, rfl⟩ | hx := signal_cases b x
    · have := hd.2
      simp [taken?] at this
    · have hnew : ∀ k, owed b (⟨u, .accepted b a true⟩ :: k) = owed b k ++ [a] := by simp [owed]
      simp only [hnew, mark?, Option.bind_none, Option.toList_none, List.append_nil, taken?,
        and_self, if_true, Option.toList_some, ← List.append_assoc]
      rw [ih]
      simp
    · have hold := owed_began hp
      rw [hold] at ih
      simpa [mark?, Mark.signal?, taken?] using ih
    · rw [hx.began, hx.owed, hx.taken, Option.toList_none, List.append_nil, List.append_nil]
      exact ih

end History

-- ════════════════════════════════════════════════════════════════════════
-- What bridges keep
-- ════════════════════════════════════════════════════════════════════════

theorem Ledger.retained_subscribed (h : HandleId) : (Ledger.subscribed h).Retained where
  queue := .inl rfl
  rested hd := by cases hd
  ordered := List.suffix_refl _

theorem Ledger.final_subscribed (h : HandleId) : (Ledger.subscribed h).Final := by
  intro before fault after he
  have hlen := congrArg List.length he
  simp [subscribed] at hlen
  omega

theorem Steps.retained {w : Toolkit Unit} (h : Steps m Toolkit.fresh w) (hb : w.HasBridge b) :
    (w.ledger b).Retained :=
  h.ledger ⟨.inl rfl, fun _ _ => rfl, List.suffix_refl _⟩ Ledger.retained_subscribed
    (fun hl h => h.retained hl) hb

theorem Steps.final {w : Toolkit Unit} (h : Steps m Toolkit.fresh w) (hb : w.HasBridge b) :
    (w.ledger b).Final :=
  h.ledger (fun before _ _ he => by cases before <;> cases he) Ledger.final_subscribed
    (fun hl h => h.final hl) hb

/-- **Calls are punctual wherever steps lead**: a signal that is delivered at once was owed first,
    and so was one that waited, as what waits is what is owed. -/
theorem Steps.punctual {w : Toolkit Unit} (h : Steps m Toolkit.fresh w) (b : BridgeId) :
    Punctual b w.journal := by
  refine h.invariant (I := fun w => Punctual b w.journal) (guarded_nil _) fun {v w} hv ih h => ?_
  refine (h.explained hv.sound_of_fresh).guarded ih fun i e _ _ he signal hsignal => ?_
  subst hsignal
  obtain ⟨-, ⟨t, i, rfl⟩ | ⟨rfl, hc, hq⟩⟩ := he
  · simp [owed]
  · have hb : v.HasBridge b := by
      by_contra hb
      have hfind : v.bridges.find? b = none := Option.not_isSome_iff_eq_none.mp hb
      rw [Toolkit.queue, Registry.get, hfind] at hq
      cases hq
    have howed : v.queue b = owed b v.journal := (hv.retained hb).queue_eq hc
    rwa [← howed]

/-- **What a bridge keeps of the signals it took**, though callbacks may panic at any point. -/
structure Toolkit.Retains (w : Toolkit σ) (b : BridgeId) : Prop where
  /-- The bridge is closed if and only if its handle was disposed. -/
  told : w.closed b = true ↔ Occurred (.disposed (w.bridges.get b).handle) w.journal
  /-- What the bridge took is what it began to deliver, each signal once, and what it owes. -/
  conserved : (accepted b w.journal).Perm (began b w.journal ++ owed b w.journal)
  /-- What the bridge owes came last of what it let wait, in the same order. -/
  ordered : owed b w.journal <:+ waited b w.journal
  /-- What waits is what is owed, as long as the handle is not disposed. -/
  waiting : w.closed b = false → w.queue b = owed b w.journal
  /-- So it is after the latest call has panicked, disposed or not. -/
  unwound : w.delivering b = none → Running b w.journal → w.queue b = owed b w.journal
  /-- Nothing waits once a delivery has ended whose latest call came back. -/
  rested : w.delivering b = none → ¬ Running b w.journal → w.queue b = []
  /-- When a signal was delivered at once, what came in the delivery up to now is that signal, then
      what was owed before, and then what was let wait meanwhile, but for what is still owed. -/
  resumed : ∀ later t signal earlier,
    w.journal = later ++ ⟨t, .accepted b signal false⟩ :: earlier →
    direct b later = [] → began b w.journal ++ owed b w.journal =
      began b earlier ++ signal :: (owed b earlier ++ waited b later)
  /-- When the delivery has ended and the latest call came back, all of that has come. -/
  completed : w.closed b = false → w.delivering b = none → ¬ Running b w.journal →
    ∀ later t signal earlier, w.journal = later ++ ⟨t, .accepted b signal false⟩ :: earlier →
      direct b later = [] →
        began b w.journal = began b earlier ++ signal :: (owed b earlier ++ waited b later)

/-- **Bridges keep what they took**, wherever steps lead. -/
theorem Steps.retains {w : Toolkit Unit} (h : Steps m Toolkit.fresh w) (hb : w.HasBridge b) :
    w.Retains b := by
  have hretained := h.retained hb
  have hrested : w.delivering b = none → ¬ Running b w.journal → w.queue b = [] :=
    fun hd => hretained.rested (by simp [Toolkit.ledger, hd])
  have hresumed : ∀ later t signal earlier,
      w.journal = later ++ ⟨t, .accepted b signal false⟩ :: earlier → direct b later = [] →
        began b w.journal ++ owed b w.journal =
          began b earlier ++ signal :: (owed b earlier ++ waited b later) := by
    intro later t signal earlier hj hd
    have hp := h.punctual b
    rw [hj] at hp ⊢
    exact hp.resumed hd
  constructor
  case told => exact ⟨h.told.closed hb, h.told.disposed⟩
  case conserved => exact (h.punctual b).perm
  case ordered => exact hretained.ordered
  case waiting => exact hretained.queue_eq
  case unwound => exact fun _ hr => hretained.queue.resolve_right fun hq => hq.2.2 hr
  case rested => exact hrested
  case resumed => exact hresumed
  case completed =>
    intro hc hd hr later t signal earlier hj hl
    have howed : owed b w.journal = [] := (hretained.queue_eq hc).symm.trans (hrested hd hr)
    have hall := hresumed later t signal earlier hj hl
    rwa [howed, List.append_nil] at hall

/-- **What a fault ends**, though callbacks may panic at any point. -/
structure Toolkit.EndsWithFault (w : Toolkit σ) (b : BridgeId) : Prop where
  /-- The call of a fault that came back is the last one. -/
  last : ∀ before fault after,
    marks b w.journal = before ++ .began (.failed fault) :: .ended :: after → after = []
  /-- When the delivery of such a fault is over, the handle is disposed. -/
  closed : w.delivering b = none → ∀ before fault,
    marks b w.journal = before ++ [.began (.failed fault), .ended] → w.closed b = true
  /-- Nothing is handed over after the disposal. -/
  silent : Guarded (fun earlier e => Occurred (.disposed (w.bridges.get b).handle) earlier →
    ∀ signal, e ≠ .began b signal) w.journal

theorem Steps.endsWithFault {w : Toolkit Unit} (h : Steps m Toolkit.fresh w) (hb : w.HasBridge b) :
    w.EndsWithFault b where
  last before fault after hj := (h.final hb _ _ _ hj).1
  closed hd before fault hj := (h.final hb _ _ _ hj).2 (by simp [Toolkit.ledger, hd])
  silent := h.told.silent hb

namespace Code

variable {code : Code m τ} {depth : Nat} {own : τ} {program : Program m τ True True α}

/-- **No signal is lost by a panic, and none is delivered twice**: at every moment of every run, and
    when a run has come to its end, by a panic or not. Then no bridge delivers. -/
theorem panics_retain_signals :
    (∀ w ∈ code.moments depth own program, ∀ b, w.HasBridge b → w.Retains b) ∧
    ∀ u, ((∃ a, code.outcome depth own program = .ok a u) ∨
        ∃ message, code.outcome depth own program = .error (.panic message) u) →
      u.erased.Idle ∧ ∀ b, u.erased.HasBridge b → u.erased.Retains b := by
  refine ⟨fun w hw b hb => Steps.retains (reachable hw) hb, fun u hr => ?_⟩
  have hend : Steps m Toolkit.fresh u.erased ∧ u.erased.Idle := by
    obtain ⟨a, hr⟩ | ⟨message, hr⟩ := hr
    · exact idle hr
    · exact idle_of_panic hr
  exact ⟨hend.2, fun b hb => Steps.retains hend.1 hb⟩

/-- Its observer emits in the midst of the first value, and then panics. -/
def panickingInside : Code ⟨true, false, true, false⟩ Unit :=
  { quiet _ with
    observe := fun _ signal =>
      match signal with
      | .next .unit =>
        .call (.emit 1 (.flag true)) (fun _ => rfl) id fun _ => .panic rfl "midway"
      | _ => .done () }

/-- Emit a value on the first bridge, though that may panic, and then another one. -/
def emittingOn : Program m Unit True True Unit :=
  .making (.subscribe ⟨.client 0 .main, false⟩ (.client 0)) fun _ =>
    .attempt (.making (.emit 1 .unit) fun _ => .done ()) fun _ =>
      .making (.emit 1 (.flag false)) fun _ => .done ()

/-- The value that was let wait before the panic comes after the next one. -/
theorem panics_retain_signals_inside :
    (∃ w ∈ panickingInside.moments 5 () emittingOn, w.Retains 1 ∧ w.delivering 1 = none ∧
      w.queue 1 = [.next (.flag true)]) ∧
    ∃ u, panickingInside.outcome 5 () emittingOn = .ok () u ∧ u.erased.Retains 1 ∧
      began 1 u.journal =
        [.subscribed 1, .next .unit, .next (.flag false), .next (.flag true)] := by
  have hw := List.get_mem (panickingInside.moments 5 () emittingOn) ⟨3, by decide +kernel⟩
  refine ⟨⟨_, hw, panics_retain_signals.1 _ hw 1 ?_, by decide +kernel, by decide +kernel⟩, ?_⟩
  · change (Registry.find? _ 1).isSome = true
    decide +kernel
  have hend : (match panickingInside.outcome 5 () emittingOn with
      | .ok _ u => decide ((u.bridges.find? 1).isSome = true ∧ began 1 u.journal =
          [.subscribed 1, .next .unit, .next (.flag false), .next (.flag true)])
      | .error _ _ => false) = true := by decide +kernel
  split at hend
  · next u hr =>
    obtain ⟨hb, hbegan⟩ := of_decide_eq_true hend
    exact ⟨u, hr, (panics_retain_signals.2 u (.inl ⟨(), hr⟩)).2 1 hb, hbegan⟩
  · cases hend

/-- **A fault whose call came back ends the calls** on an observer, at every moment of every run and
    when a run has come to its end. -/
theorem faults_end_calls :
    (∀ w ∈ code.moments depth own program, ∀ b, w.HasBridge b → w.EndsWithFault b) ∧
    ∀ a u, code.outcome depth own program = .ok a u →
      ∀ b, u.erased.HasBridge b → u.erased.EndsWithFault b :=
  ⟨fun _ hw _ hb => Steps.endsWithFault (reachable hw) hb,
    fun _ _ hr _ hb => Steps.endsWithFault (idle hr).1 hb⟩

/-- Its observer panics when it is told of a fault. -/
def panickingOnFault : Code ⟨true, false, true, false⟩ Unit :=
  { quiet _ with
    observe := fun _ signal =>
      match signal with
      | .failed _ => .panic rfl "unwilling"
      | _ => .done () }

/-- Fail the first bridge, though that may panic, then emit a value and fail it again. -/
def failingTwice : Program m Unit True True Unit :=
  .making (.subscribe ⟨.client 0 .main, false⟩ (.client 0)) fun _ =>
    .attempt (.making (.fail 1 (.callback "first")) fun _ => .done ()) fun _ =>
      .making (.emit 1 .unit) fun _ =>
        .attempt (.making (.fail 1 (.callback "second")) fun _ => .done ()) fun _ => .done ()

/-- **A fault whose call panics is not the last signal**: the handle stays open, a value follows,
    and then another fault. -/
theorem fault_repeated : ∃ u, panickingOnFault.outcome 5 () failingTwice = .ok () u ∧
    began 1 u.journal = [.subscribed 1, .failed (.callback "first"), .next .unit,
      .failed (.callback "second")] ∧ u.delivering 1 = none ∧ u.disposed 1 = false := by
  have hend : (match panickingOnFault.outcome 5 () failingTwice with
      | .ok _ u => decide (began 1 u.journal = [.subscribed 1, .failed (.callback "first"),
          .next .unit, .failed (.callback "second")] ∧ u.delivering 1 = none ∧ u.disposed 1 = false)
      | .error _ _ => false) = true := by decide +kernel
  split at hend
  · next u hr => exact ⟨u, hr, of_decide_eq_true hend⟩
  · cases hend

end Code

end WidgetStreams
