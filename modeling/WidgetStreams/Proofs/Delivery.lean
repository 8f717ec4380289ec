import WidgetStreams.Proofs.Ledger
import WidgetStreams.Proofs.Program

/-!
# What observers receive

This file proves the contract between bridges and observers, for every run of
every program: in which order calls come, that they do not overlap, that they
end with a fault or a disposal, and that no signal is lost on the way.

## Main definitions

- `Toolkit.ledger` — a bridge of a toolkit on its own

## Main results

- `Step.ledger` — a step of the library is a step of each bridge, or none
- `Code.calls_on_observers` — the calls on the observer of a subscription
- `Code.signals_in_order` — what a bridge delivers of what it took
-/

namespace WidgetStreams

open History

variable {σ τ α : Type} {m : Manners} {v w : Toolkit σ} {b : BridgeId} {h : HandleId}

/-- A bridge of a toolkit on its own. -/
def Toolkit.ledger (w : Toolkit σ) (b : BridgeId) : Ledger where
  queue := w.queue b
  delivering := (w.delivering b).isSome
  closed := w.closed b
  accepted := accepted b w.journal
  waited := waited b w.journal
  owed := owed b w.journal
  marks := marks b w.journal

/-- Whether an event is about what a bridge takes or calls. -/
def Event.isOfBridge : Event → Bool
  | .accepted _ _ _ | .began _ _ | .ended _ => true
  | _ => false

theorem Event.isOfBridge_of_isAside {e : Event} (he : e.isAside = true) : e.isOfBridge = false := by
  cases e <;> first | rfl | cases he

-- ════════════════════════════════════════════════════════════════════════
-- Bridges that a step leaves alone
-- ════════════════════════════════════════════════════════════════════════

theorem History.filterMap_accepted?_eq_nil {es : List Event} (he : ∀ e ∈ es, e.isOfBridge = false)
    (b : BridgeId) : es.filterMap (accepted? b) = [] := by
  refine List.filterMap_eq_nil_iff.mpr fun e h => ?_
  have := he e h
  cases e <;> first | rfl | cases this

theorem History.filterMap_mark?_eq_nil {es : List Event} (he : ∀ e ∈ es, e.isOfBridge = false)
    (b : BridgeId) : es.filterMap (mark? b) = [] := by
  refine List.filterMap_eq_nil_iff.mpr fun e h => ?_
  have := he e h
  cases e <;> first | rfl | cases this

theorem History.filterMap_taken?_eq_nil {es : List Event} (he : ∀ e ∈ es, e.isOfBridge = false)
    (b : BridgeId) (waits : Bool) : es.filterMap (taken? b waits) = [] := by
  refine List.filterMap_eq_nil_iff.mpr fun e h => ?_
  have := he e h
  cases e <;> first | rfl | cases this

theorem History.owed_cons_of_not_isOfBridge {x : Entry} (hx : x.event.isOfBridge = false)
    (b : BridgeId) (j : List Entry) : owed b (x :: j) = owed b j := by
  obtain ⟨t, e⟩ := x
  cases e <;> first | rfl | cases hx

theorem History.owed_notedAll {es : List Event} (he : ∀ e ∈ es, e.isOfBridge = false)
    (b : BridgeId) : owed b (w.notedAll es).journal = owed b w.journal :=
  Toolkit.read_notedAll (fun e hes _ j hx => owed_cons_of_not_isOfBridge (hx ▸ he e hes) b j) w

theorem History.waited_notedAll (b : BridgeId) (w : Toolkit σ) (es : List Event) :
    waited b (w.notedAll es).journal = waited b w.journal ++ es.filterMap (taken? b true) :=
  Toolkit.collect_notedAll _ w es

namespace Toolkit

/-- A change that concerns no bridge may close one, and no more. -/
theorem ledger_eq_closing (es : List Event) (journal : w.journal = (v.notedAll es).journal)
    (he : ∀ e ∈ es, e.isOfBridge = false) (bridge : w.bridges.get b = v.bridges.get b) :
    w.ledger b = { v.ledger b with closed := w.closed b } := by
  simp only [ledger, queue, delivering, journal, bridge, accepted_notedAll, marks_notedAll,
    waited_notedAll, owed_notedAll he, filterMap_accepted?_eq_nil he, filterMap_mark?_eq_nil he,
    filterMap_taken?_eq_nil he, List.append_nil]

/-- A change that concerns neither a bridge nor its handle leaves the bridge as it is. -/
theorem ledger_eq (es : List Event) (journal : w.journal = (v.notedAll es).journal)
    (he : ∀ e ∈ es, e.isOfBridge = false) (bridge : w.bridges.get b = v.bridges.get b)
    (closed : w.closed b = v.closed b) : w.ledger b = v.ledger b := by
  rw [ledger_eq_closing es journal he bridge, closed]
  rfl

theorem ledger_noted {e : Event} (he : e.isOfBridge = false) :
    (w.noted e).ledger b = w.ledger b :=
  ledger_eq [e] rfl (by simpa using he) rfl rfl

-- ════════════════════════════════════════════════════════════════════════
-- Bridges that a step is about
-- ════════════════════════════════════════════════════════════════════════

theorem ledger_starting (w : Toolkit σ) (b k : BridgeId) (signal : Signal) :
    (w.starting b signal).ledger k = if b = k then
      { w.ledger k with delivering := true, accepted := (w.ledger k).accepted ++ [signal],
                        marks := (w.ledger k).marks ++ [.began signal] }
    else w.ledger k := by
  have hbridge : (w.starting b signal).bridges.get k = _ :=
    get_withBridge w b k fun bridge => { bridge with delivering := some w.here }
  have hclosed : (w.starting b signal).closed k = w.closed k := by
    rw [closed, hbridge]
    split <;> rfl
  simp only [ledger, queue, delivering, hbridge, hclosed, journal_starting, accepted_notedAll,
    waited_notedAll, marks_notedAll]
  by_cases e : b = k <;> simp [accepted?, taken?, mark?, owed, List.filterMap_cons, e]

theorem ledger_queueing (w : Toolkit σ) (b k : BridgeId) (signal : Signal) :
    (w.queueing b signal).ledger k = if b = k then
      { w.ledger k with queue := (w.ledger k).queue ++ [signal],
                        accepted := (w.ledger k).accepted ++ [signal],
                        waited := (w.ledger k).waited ++ [signal],
                        owed := (w.ledger k).owed ++ [signal] }
    else w.ledger k := by
  have hbridge : (w.queueing b signal).bridges.get k = _ :=
    get_withBridge w b k fun bridge => { bridge with queue := bridge.queue ++ [signal] }
  have hclosed : (w.queueing b signal).closed k = w.closed k := by
    rw [closed, hbridge]
    split <;> rfl
  simp only [ledger, queue, delivering, hbridge, hclosed, journal_queueing, accepted_notedAll,
    waited_notedAll, marks_notedAll]
  by_cases e : b = k <;> simp [accepted?, taken?, mark?, owed, List.filterMap_cons, e]

theorem ledger_advancing (w : Toolkit σ) (b k : BridgeId) (signal : Signal) (rest : List Signal) :
    (w.advancing b signal rest).ledger k = if b = k then
      { w.ledger k with queue := rest, marks := (w.ledger k).marks ++ [.began signal],
                        owed := (w.ledger k).owed.erase signal }
    else w.ledger k := by
  have hbridge : (w.advancing b signal rest).bridges.get k = _ :=
    get_withBridge w b k fun bridge => { bridge with queue := rest }
  have hclosed : (w.advancing b signal rest).closed k = w.closed k := by
    rw [closed, hbridge]
    split <;> rfl
  simp only [ledger, queue, delivering, hbridge, hclosed, journal_advancing, accepted_notedAll,
    waited_notedAll, marks_notedAll]
  by_cases e : b = k <;> simp [accepted?, taken?, mark?, owed, List.filterMap_cons, e]

theorem ledger_ended (w : Toolkit σ) (b k : BridgeId) :
    (w.noted (.ended b)).ledger k = if b = k then
      { w.ledger k with marks := (w.ledger k).marks ++ [.ended] } else w.ledger k := by
  by_cases e : b = k <;>
    simp [ledger, queue, delivering, closed, disposed, noted, accepted, waited, owed, marks,
      accepted?, taken?, mark?, e]

theorem ledger_dropping (w : Toolkit σ) (b k : BridgeId) :
    (w.dropping b).ledger k = if b = k then { w.ledger k with queue := [] } else w.ledger k := by
  have hbridge : (w.dropping b).bridges.get k = _ :=
    get_withBridge w b k fun bridge => { bridge with queue := [] }
  have hclosed : (w.dropping b).closed k = w.closed k := by
    rw [closed, hbridge]
    split <;> rfl
  simp only [ledger, queue, delivering, hbridge, hclosed, journal_dropping]
  by_cases e : b = k <;> simp [e]

theorem ledger_finishing (w : Toolkit σ) (b k : BridgeId) :
    (w.finishing b).ledger k =
      if b = k then { w.ledger k with delivering := false } else w.ledger k := by
  have hbridge : (w.finishing b).bridges.get k = _ :=
    get_withBridge w b k fun bridge => { bridge with delivering := none }
  have hclosed : (w.finishing b).closed k = w.closed k := by
    rw [closed, hbridge]
    split <;> rfl
  simp only [ledger, queue, delivering, hbridge, hclosed, journal_finishing]
  by_cases e : b = k <;> simp [e]

theorem ledger_arming (w : Toolkit σ) (h : HandleId) (action : Release) :
    (w.arming h action).ledger b = w.ledger b := by
  refine ledger_eq _ (journal_arming w h action) ?_ (by rw [bridges_arming]) ?_
  · split <;> simp [Event.isOfBridge]
  · rw [closed, bridges_arming, disposed_arming]
    rfl

theorem ledger_registering (w : Toolkit σ) (h : HandleId) (c : BridgeId) (binding : Binding)
    (owner : Nat) (judge : Judge) :
    (w.registering h c binding owner judge).ledger b = w.ledger b := by
  rw [registering, ledger_arming, ledger_noted rfl]
  rfl

/-- The disposal of its handle closes a bridge. -/
theorem ledger_disposing (w : Toolkit σ) (h : HandleId) (b : BridgeId) :
    (w.disposing h).ledger b = if h = (w.bridges.get b).handle then
      { w.ledger b with closed := true } else w.ledger b := by
  have hnotes : ∀ e ∈ (.disposed h :: (w.handles.get h).action.toList.map (.releasing h) :
      List Event), e.isOfBridge = false := by
    cases (w.handles.get h).action <;> simp [Event.isOfBridge]
  rw [ledger_eq_closing _ (journal_disposing w h) hnotes (by rw [bridges_disposing]), closed,
    bridges_disposing, disposed_disposing]
  split <;> rfl

theorem ledger_opening (hs : w.Sound) (hb : w.HasBridge b) (observer : Observer) :
    (w.opening observer).ledger b = w.ledger b :=
  ledger_eq [] rfl (by simp) (get_opening hb observer) (hs.closed_opening hb observer)

theorem delivering_ledger_eq_false (hd : w.delivering b = none) :
    (w.ledger b).delivering = false := by
  simp [ledger, hd]

theorem delivering_ledger_eq_true (hd : w.delivering b ≠ none) :
    (w.ledger b).delivering = true := Option.isSome_iff_ne_none.mpr hd

end Toolkit

-- ════════════════════════════════════════════════════════════════════════
-- Steps of the library and steps of a bridge
-- ════════════════════════════════════════════════════════════════════════

theorem Cause.not_isOfBridge {s : Screen} {signal : Signal} {notes : List Event}
    (hc : Cause m w b s signal notes) : ∀ e ∈ notes, e.isOfBridge = false := by
  cases hc <;> simp [Event.isOfBridge]

/-- Only the library itself tells of a handle. -/
theorem Cause.not_subscribed {s : Screen} {signal : Signal} {notes : List Event}
    (hc : Cause m w b s signal notes) : ∀ h, signal ≠ .subscribed h := by
  cases hc <;> simp

/-- **A step of the library is a step of each bridge that there is, or none of it**. -/
theorem Step.ledger (hs : v.Sound) (h : Step m v w) (hb : v.HasBridge b) :
    w.ledger b = v.ledger b ∨ Ledger.Step m.observersPanic (v.ledger b) (w.ledger b) := by
  -- a step of another bridge is none of this one
  have hone : ∀ {k : BridgeId} {l l' : Ledger}, (k = b → Ledger.Step m.observersPanic l l') →
      (if k = b then l' else l) = l ∨
        Ledger.Step m.observersPanic l (if k = b then l' else l) := by
    intro k l l' hstep
    by_cases e : k = b
    · rw [if_pos e]
      exact .inr (hstep e)
    · rw [if_neg e]
      exact .inl rfl
  have hnoted : ∀ {e : Event}, e.isOfBridge = false → (v.noted e).ledger b = v.ledger b ∨
      Ledger.Step m.observersPanic (v.ledger b) ((v.noted e).ledger b) :=
    fun he => .inl (Toolkit.ledger_noted he)
  have hshown : ∀ {s : Screen} {e : Event}, e.isOfBridge = false →
      ((v.showing s).noted e).ledger b = v.ledger b := by
    intro s e he
    rw [Toolkit.ledger_noted he]
    rfl
  have htelling : ∀ {k s signal notes}, Cause m v k s signal notes →
      ((v.showing s).notedAll notes).ledger b = v.ledger b :=
    fun cause => Toolkit.ledger_eq _ rfl cause.not_isOfBridge rfl rfl
  cases h with
  | note he => exact hnoted (Event.isOfBridge_of_isAside he)
  | change h =>
    refine .inl (Toolkit.ledger_eq [] h.journal (by simp) (by rw [h.bridges]) ?_)
    rw [Toolkit.closed, Toolkit.disposed, h.handles, h.bridges]
    rfl
  | newHandle =>
    exact .inl (Toolkit.ledger_eq [] rfl (by simp) rfl
      (Toolkit.disposed_addingHandle (hs.owned hb) _))
  | dispose =>
    rw [Toolkit.ledger_disposing]
    split
    · exact .inr .close
    · exact .inl rfl
  | arm => exact .inl (Toolkit.ledger_arming v _ _)
  | newBridge observer => exact .inl (Toolkit.ledger_opening hs hb observer)
  | @start k s signal notes hk hc hd cause =>
    rw [Toolkit.ledger_starting, htelling cause]
    refine hone fun e => ?_
    subst e
    exact .start cause.not_subscribed (Toolkit.delivering_ledger_eq_false hd) hc
  | @queue k s signal notes hsig hk hc hd cause =>
    rw [Toolkit.ledger_queueing, htelling cause]
    refine hone fun e => ?_
    subst e
    exact .queue cause.not_subscribed (Toolkit.delivering_ledger_eq_true hd) hc
  | @comeBack k hr hd =>
    rw [Toolkit.ledger_ended]
    refine hone fun e => ?_
    subst e
    exact .comeBack hr (Toolkit.delivering_ledger_eq_true hd)
  | @advance k signal rest hr hd hc hf hq =>
    rw [Toolkit.ledger_advancing]
    refine hone fun e => ?_
    subst e
    exact .advance hr (Toolkit.delivering_ledger_eq_true hd) hc hf hq
  | @drop k hr hd hc =>
    rw [Toolkit.ledger_dropping]
    refine hone fun e => ?_
    subst e
    exact .drop hr (Toolkit.delivering_ledger_eq_true hd) hc
  | @finish k hr hd hf hq =>
    rw [Toolkit.ledger_finishing]
    refine hone fun e => ?_
    subst e
    exact .finish hr (Toolkit.delivering_ledger_eq_true hd) hf hq
  | @unwind k hpanic hr hd =>
    rw [Toolkit.ledger_finishing]
    refine hone fun e => ?_
    subst e
    exact .unwind hpanic hr (Toolkit.delivering_ledger_eq_true hd)
  | subscribe source observer =>
    have hne : v.bridges.next ≠ b := by
      rintro rfl
      exact hs.not_hasBridge_next hb
    rw [Toolkit.ledger_starting, if_neg hne, Toolkit.ledger_noted rfl]
    exact .inl (Toolkit.ledger_opening hs hb observer)
  | registerWidget =>
    rw [Toolkit.ledger_noted rfl]
    exact .inl (Toolkit.ledger_registering v _ _ _ _ _)
  | registerWarm hm hd hc hi =>
    rw [Toolkit.ledger_starting, Toolkit.ledger_noted rfl, Toolkit.ledger_registering]
    refine hone fun e => ?_
    subst e
    exact .start (by simp) (Toolkit.delivering_ledger_eq_false hi) hc
  | registerClient =>
    rw [Toolkit.ledger_arming]
    exact hnoted rfl
  | withdraw | attach | attached | conclude | hear | operate => exact hnoted rfl
  | listen | unlisten | removeListener | pass | alter | flag => exact .inl (hshown rfl)

-- ════════════════════════════════════════════════════════════════════════
-- The invariant of all bridges
-- ════════════════════════════════════════════════════════════════════════

namespace Toolkit

/-- What was taken to wait was taken. -/
theorem mem_accepted_of_mem_waited {j : List Entry} {signal : Signal} (h : signal ∈ waited b j) :
    signal ∈ accepted b j := by
  obtain ⟨e, ho, he⟩ := mem_collect.mp h
  refine mem_collect.mpr ⟨e, ho, ?_⟩
  cases e with
  | accepted k s queued =>
    simp only [taken?, accepted?] at he ⊢
    split at he
    · next hk =>
      rw [if_pos hk.1]
      exact he
    · cases he
  | _ => cases he

/-- What is owed was taken. -/
theorem mem_accepted_of_mem_owed {j : List Entry} {signal : Signal} (h : signal ∈ owed b j) :
    signal ∈ accepted b j := by
  induction j with
  | nil => cases h
  | cons x j ih =>
    rw [accepted, collect_cons, List.mem_append]
    rw [owed] at h
    split at h
    · next k s queued hx =>
      rw [hx, accepted?]
      split at h
      · next hk =>
        rw [if_pos hk, Option.toList_some, List.mem_singleton]
        split at h
        · exact (List.mem_append.mp h).imp ih List.mem_singleton.mp
        · exact (List.mem_cons.mp h).symm.imp ih id
      · exact .inl (ih h)
    · split at h
      · exact .inl (ih (List.mem_of_mem_erase h))
      · exact .inl (ih h)
    · exact .inl (ih h)

/-- A new bridge has nothing behind it. -/
theorem Sound.ledger_opening_next (hs : w.Sound) (observer : Observer) :
    (w.opening observer).ledger w.bridges.next = {} := by
  have hbridge : (w.opening observer).bridges.get w.bridges.next =
      { handle := w.handles.next, observer := observer } := by
    rw [Registry.get, hs.find?_opening, if_pos rfl]
    rfl
  have hnone := hs.accepted_eq_nil hs.not_hasBridge_next
  have hwaited : waited w.bridges.next w.journal = [] :=
    List.eq_nil_iff_forall_not_mem.mpr fun _ h => by
      simpa [hnone] using mem_accepted_of_mem_waited h
  have howed : owed w.bridges.next w.journal = [] :=
    List.eq_nil_iff_forall_not_mem.mpr fun _ h => by simpa [hnone] using mem_accepted_of_mem_owed h
  simp only [ledger, queue, delivering, hbridge, hs.closed_opening_next, journal_opening, hnone,
    hwaited, howed, hs.marks_eq_nil hs.not_hasBridge_next]
  rfl

/-- **The bridges are in order**: each keeps its invariant, with the first signals of a subscription
    if it is the bridge of one. -/
def Orderly (w : Toolkit σ) : Prop :=
  ∀ b, w.HasBridge b → ∃ first, (∀ fault, .failed fault ∉ first) ∧ (w.ledger b).Kept first ∧
    ∀ h source, Occurred (.subscribing h b source) w.journal → first = [.subscribed h]

end Toolkit

theorem Ledger.kept_empty : Ledger.Kept [] {} where
  fifo _ := rfl
  ordered := List.prefix_refl _
  settled _ := by
    refine ⟨rfl, ?_, fun _ h => by cases h⟩
    rintro ⟨s, hs⟩
    cases hs
  word := ⟨[], [], rfl, .inl rfl⟩
  waiting := by simp
  alternating := trivial

/-- A bridge at its first call, which tells the observer of the handle. -/
def Ledger.subscribed (h : HandleId) : Ledger where
  delivering := true
  accepted := [.subscribed h]
  marks := [.began (.subscribed h)]

theorem Ledger.kept_subscribed (h : HandleId) : Ledger.Kept [.subscribed h] (.subscribed h) where
  fifo _ := rfl
  ordered := List.prefix_refl _
  settled := by simp [Ledger.subscribed]
  word := ⟨[], [], rfl, .inl rfl⟩
  waiting := by simp [Ledger.subscribed]
  alternating := trivial

/-- **Bridges come one way or the other**: a bridge that there is after a step has taken a step or
    none, or it is new. -/
theorem Step.ledger_or (hs : v.Sound) (h : Step m v w) (hb : w.HasBridge b) :
    v.HasBridge b ∧ (w.ledger b = v.ledger b ∨
        Ledger.Step m.observersPanic (v.ledger b) (w.ledger b)) ∨
      w.ledger b = {} ∨ ∃ h, w.ledger b = .subscribed h := by
  obtain hb' | ⟨rfl, ⟨observer, rfl⟩ | ⟨source, observer, rfl⟩⟩ := h.hasBridge_or hs hb
  · exact .inl ⟨hb', h.ledger hs hb'⟩
  · exact .inr (.inl (hs.ledger_opening_next observer))
  · refine .inr (.inr ⟨v.handles.next, ?_⟩)
    rw [Toolkit.subscribing, Toolkit.ledger_starting, if_pos rfl, Toolkit.ledger_noted rfl,
      hs.ledger_opening_next]
    rfl

/-- **What holds of a new bridge and is kept by its steps** holds of every bridge wherever steps
    lead. -/
theorem Steps.ledger {w : Toolkit Unit} {I : Ledger → Prop} (h : Steps m Toolkit.fresh w)
    (new : I {}) (subscribed : ∀ h, I (.subscribed h))
    (step : ∀ {l l'}, I l → Ledger.Step m.observersPanic l l' → I l') {b : BridgeId}
    (hb : w.HasBridge b) : I (w.ledger b) := by
  refine h.invariant (I := fun w => ∀ b, w.HasBridge b → I (w.ledger b)) (fun b hb => by cases hb)
    (fun hv ih h b hb => ?_) b hb
  obtain ⟨hb', heq | hstep⟩ | heq | ⟨k, heq⟩ := h.ledger_or hv.sound_of_fresh hb
  · exact heq ▸ ih b hb'
  · exact step (ih b hb') hstep
  · exact heq ▸ new
  · exact heq ▸ subscribed k

/-- **Every step leaves the bridges in order**, as long as observers do not panic. -/
theorem Step.orderly (hm : m.observersPanic = false) (hs : v.Sound) (hv : v.Orderly)
    (h : Step m v w) : w.Orderly := by
  intro b hb
  obtain hb' | ⟨rfl, hnew⟩ := h.hasBridge_or hs hb
  · obtain ⟨first, hfirst, hkept, hsub⟩ := hv b hb'
    refine ⟨first, hfirst, ?_, fun k source ho => hsub k source ?_⟩
    · obtain heq | hstep := h.ledger hs hb'
      · rw [heq]
        exact hkept
      · exact (hm ▸ hstep).kept hfirst hkept
    · refine (h.occurred_subscribing hs ho).resolve_right fun he => hs.not_hasBridge_next ?_
      exact he.2.1 ▸ hb'
  · have hhandle : ∀ k source, Occurred (.subscribing k v.bridges.next source) w.journal →
        k = v.handles.next := by
      intro k source ho
      obtain ho | he := h.occurred_subscribing hs ho
      · exact absurd (hs.knows ho).1 hs.not_hasBridge_next
      · exact he.1
    obtain ⟨observer, rfl⟩ | ⟨source, observer, rfl⟩ := hnew
    · refine ⟨[], (by simp), ?_, fun k source ho => ?_⟩
      · rw [hs.ledger_opening_next]
        exact Ledger.kept_empty
      · exact absurd (hs.knows (w := v) ho).1 hs.not_hasBridge_next
    · refine ⟨[.subscribed v.handles.next], by simp, ?_, fun k source' ho => ?_⟩
      · rw [Toolkit.subscribing, Toolkit.ledger_starting, if_pos rfl, Toolkit.ledger_noted rfl,
          hs.ledger_opening_next]
        exact Ledger.kept_subscribed _
      · rw [hhandle k source' ho]

/-- **Bridges are in order wherever steps lead**, as long as observers do not panic. -/
theorem Steps.orderly {w : Toolkit Unit} (hm : m.observersPanic = false)
    (h : Steps m Toolkit.fresh w) : w.Orderly :=
  h.invariant (fun b hb => by cases hb) fun hv ih h => h.orderly hm hv.sound_of_fresh ih

-- ════════════════════════════════════════════════════════════════════════
-- Observers
-- ════════════════════════════════════════════════════════════════════════

/-- **What an observer may rely on**: the calls of the subscription with handle `h` and bridge
    `b`. -/
structure Toolkit.Obliges (w : Toolkit σ) (h : HandleId) (b : BridgeId) : Prop where
  /-- First comes the handle, then values, then at most one fault. -/
  word : IsWord [.subscribed h] (began b w.journal)
  /-- No call begins before the one before it has come back. -/
  alternating : Alternating (marks b w.journal)
  /-- No call begins after the handle was disposed. -/
  silent : Guarded (fun earlier e =>
    Occurred (.disposed h) earlier → ∀ signal, e ≠ .began b signal) w.journal
  /-- The journal tells whether the handle is disposed. -/
  told : w.disposed h = true ↔ Occurred (.disposed h) w.journal
  /-- When the outermost delivery is over, a fault has disposed the handle. -/
  settled : w.delivering b = none →
    ∀ fault, .failed fault ∈ began b w.journal → w.disposed h = true

theorem Toolkit.Orderly.obliges (hw : w.Orderly) (hs : w.Sound) (ht : w.Told) {source : Source}
    (ho : Occurred (.subscribing h b source) w.journal) : w.Obliges h b := by
  obtain ⟨hb, rfl⟩ := hs.knows ho
  obtain ⟨first, -, hkept, hfirst⟩ := hw b hb
  obtain rfl := hfirst _ source ho
  refine ⟨hkept.word, hkept.alternating, ht.silent hb, ⟨ht.closed hb, ht.disposed⟩,
    fun hd fault hf => ?_⟩
  have hidle : (w.ledger b).delivering = false := by simp [ledger, hd]
  exact (hkept.settled hidle).2.2 fault hf

namespace Code

variable {code : Code m τ} {depth : Nat} {own : τ} {program : Program m τ True True α}

/-- **The calls on observers**: at every moment of every run, every observer whose subscription was
    let in has what it may rely on. When the run is over, all faults have disposed their handles. -/
theorem calls_on_observers (hm : m.observersPanic = false) :
    (∀ w ∈ code.moments depth own program, ∀ h b source,
      Occurred (.subscribing h b source) w.journal → w.Obliges h b) ∧
    ∀ a u, code.outcome depth own program = .ok a u → ∀ h b source,
      Occurred (.subscribing h b source) u.journal →
        ∀ fault, .failed fault ∈ began b u.journal → u.disposed h = true := by
  have hobliges : ∀ {w}, Steps m Toolkit.fresh w → ∀ {h b source},
      Occurred (.subscribing h b source) w.journal → w.Obliges h b := by
    intro w hw h b source ho
    exact (hw.orderly hm).obliges hw.sound_of_fresh hw.told ho
  constructor
  · intro w hw h b source ho
    exact hobliges (reachable hw) ho
  · intro a u hr h b source ho fault hf
    obtain ⟨hsteps, hidle⟩ := idle hr
    exact (hobliges hsteps ho).settled (hidle b) fault hf

/-- Its observer emits, and then fails its subscription, in the midst of the first value. -/
def failingInside : Code ⟨false, false, true, false⟩ Unit :=
  { quiet _ with
    observe := fun _ signal =>
      match signal with
      | .next .unit =>
        .call (.emit 1 (.flag true)) (fun _ => rfl) id fun _ =>
          .call (.fail 1 (.callback "enough")) (fun _ => rfl) id fun _ => .done ()
      | _ => .done () }

/-- Subscribe to a source of the client's own, and emit on the bridge. -/
def emitting : Program m Unit True True Unit :=
  .making (.subscribe ⟨.client 0 .main, false⟩ (.client 0)) fun _ =>
    .making (.emit 1 .unit) fun _ => .done ()

/-- The latest moment and the end of a run in which an observer emits and fails inside of a call. -/
theorem calls_on_observers_failing_inside :
    (∃ w ∈ failingInside.moments 5 () emitting,
      Occurred (.subscribing 1 1 (.client 0 .main)) w.journal ∧ w.Obliges 1 1 ∧
      began 1 w.journal =
        [.subscribed 1, .next .unit, .next (.flag true), .failed (.callback "enough")]) ∧
    ∃ u, failingInside.outcome 5 () emitting = .ok () u ∧ u.disposed 1 = true := by
  have hw := List.head_mem (l := failingInside.moments 5 () emitting) (by decide +kernel)
  have ho : Occurred (.subscribing 1 1 (.client 0 .main))
      ((failingInside.moments 5 () emitting).head (by decide +kernel)).journal :=
    ⟨⟨.main, .subscribing 1 1 (.client 0 .main)⟩, by decide +kernel, rfl⟩
  refine ⟨⟨_, hw, ho, (calls_on_observers rfl).1 _ hw 1 1 _ ho, by decide +kernel⟩, ?_⟩
  have hend : (match failingInside.outcome 5 () emitting with
      | .ok _ u => decide (⟨.main, .subscribing 1 1 (.client 0 .main)⟩ ∈ u.journal ∧
          .failed (.callback "enough") ∈ began 1 u.journal)
      | .error _ _ => false) = true := by decide +kernel
  split at hend
  · next u hr =>
    obtain ⟨hmem, hfailed⟩ := of_decide_eq_true hend
    exact ⟨u, hr, (calls_on_observers rfl).2 () u hr 1 1 _ ⟨_, hmem, rfl⟩ _ hfailed⟩
  · cases hend

/-- **Signals are delivered in the order in which they are taken**: at every moment of every run, a
    bridge has delivered what it took except for what waits, until its handle is disposed; then it
    has delivered what it took up to some signal. Outside a delivery nothing waits. -/
theorem signals_in_order (hm : m.observersPanic = false) {w : Toolkit Unit}
    (hw : w ∈ code.moments depth own program) (b : BridgeId) :
    (w.closed b = false → accepted b w.journal = began b w.journal ++ w.queue b) ∧
    began b w.journal <+: accepted b w.journal ∧
    (w.delivering b = none → w.queue b = []) := by
  have hsteps := reachable hw
  by_cases hb : w.HasBridge b
  · obtain ⟨first, -, hkept, -⟩ := hsteps.orderly hm b hb
    refine ⟨hkept.fifo, hkept.ordered, fun hd => (hkept.settled ?_).1⟩
    simp [Toolkit.ledger, hd]
  · have hs := hsteps.sound_of_fresh
    have hfind : w.bridges.find? b = none := Option.not_isSome_iff_eq_none.mp hb
    have hqueue : w.queue b = [] := by
      rw [Toolkit.queue, Registry.get, hfind]
      rfl
    rw [began, hs.accepted_eq_nil hb, hs.marks_eq_nil hb, hqueue]
    exact ⟨fun _ => rfl, List.prefix_refl _, fun _ => rfl⟩

/-- In the midst of the first value a second one waits. -/
theorem signals_in_order_inside :
    ∃ w ∈ failingInside.moments 5 () emitting, w.closed 1 = false ∧
      w.queue 1 = [.next (.flag true)] ∧
      accepted 1 w.journal = [.subscribed 1, .next .unit] ++ [.next (.flag true)] := by
  have hw := List.get_mem (failingInside.moments 5 () emitting) ⟨5, by decide⟩
  exact ⟨_, hw, by rfl, by rfl, (signals_in_order rfl hw 1).1 rfl⟩

end Code

end WidgetStreams
