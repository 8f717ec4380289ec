import WidgetStreams.Proofs.Callbacks

/-!
# Subscriptions that are given up

This file proves what becomes of a subscription that is refused, because its
observer is on a foreign thread, or withdrawn, because its observer disposes it
as soon as it learns of its handle: the observer is told so and no more, the
source is not called, and whatever else there is stays as it was.

## Main definitions

- `Toolkit.AgreesBut` — toolkits agree but for a handle, a bridge and the journal
- `Toolkit.Unattended`, `Toolkit.Withdrawn` — what holds ever after of a handle without a
  subscription, and of a withdrawn subscription
- `Client.Refuses`, `Client.Withdraws` — what a subscription that is given up comes to

## Main results

- `Step.milestones_eq` — a subscription that was concluded takes no further stage
- `Code.aborted_subscriptions_leave_no_trace` — nothing is left of subscriptions that are given up

## Design notes

The observer is called in the middle, and may do as it likes. So each result
compares toolkits up to its calls and from there on: what is changed besides is
a handle, a bridge, and entries in the journal.
-/

namespace WidgetStreams

open History UI

variable {σ τ : Type} {m : Manners} {K : σ → Prop} {v w x y u : Toolkit σ} {c : Client σ}
  {h k : HandleId} {b : BridgeId} {source : Source} {stream : Stream} {observer : Observer}

/-- **Two toolkits agree** but for the handle and the bridge that are given, and the journal. -/
structure Toolkit.AgreesBut (v w : Toolkit σ) (h : Option HandleId) (b : Option BridgeId) :
    Prop where
  here : w.here = v.here
  started : w.started = v.started
  threadCheck : w.threadCheck = v.threadCheck
  screen : w.screen = v.screen
  tapes : w.tapes = v.tapes
  scopes : w.scopes = v.scopes
  overrides : w.overrides = v.overrides
  client : w.client = v.client
  handles : ∀ k, h ≠ some k → w.handles.find? k = v.handles.find? k
  bridges : ∀ k, b ≠ some k → w.bridges.find? k = v.bridges.find? k

-- ════════════════════════════════════════════════════════════════════════
-- What has come to its end
-- ════════════════════════════════════════════════════════════════════════

/-- A closed bridge of which no call is running makes no call. -/
theorem Ledger.Step.marks_eq {panics : Bool} {l l' : Ledger} (h : Ledger.Step panics l l')
    (hc : l.closed = true) (hr : ¬ l.Running) : l'.marks = l.marks := by
  cases h with
  | start _ _ ho | advance _ _ ho =>
    rw [hc] at ho
    cases ho
  | comeBack hr' => exact absurd hr' hr
  | _ => rfl

/-- **A closed bridge of which no call is running** makes no call. -/
theorem Step.marks_eq (hs : v.Sound) (h : Step m v w) (hb : v.HasBridge b)
    (hc : v.closed b = true) (hr : ¬ Running b v.journal) :
    marks b w.journal = marks b v.journal := by
  obtain he | hstep := h.ledger hs hb
  · exact congrArg Ledger.marks he
  · exact hstep.marks_eq hc hr

/-- A closed bridge at rest makes no call and stays at rest. -/
theorem Ledger.Step.rests {panics : Bool} {l l' : Ledger} (h : Ledger.Step panics l l')
    (hc : l.closed = true) (hd : l.delivering = false) :
    l'.marks = l.marks ∧ l'.delivering = false := by
  cases h with
  | start _ _ ho =>
    rw [hc] at ho
    cases ho
  | close => exact ⟨rfl, hd⟩
  | queue _ hd' | comeBack _ hd' | advance _ hd' | drop _ hd' | finish _ hd' | unwind _ _ hd' =>
    rw [hd] at hd'
    cases hd'

/-- **A closed bridge at rest** makes no call and stays at rest, wherever steps lead. -/
theorem Steps.rests (hs : v.Sound) (h : Steps m v w) (hb : v.HasBridge b) (hc : v.closed b = true)
    (hd : v.delivering b = none) :
    marks b w.journal = marks b v.journal ∧ w.delivering b = none := by
  induction h with
  | refl => exact ⟨rfl, hd⟩
  | @tail x y hvx hxy ih =>
    have hgrows : Grows v x := Steps.grows hvx
    have hcx : x.closed b = true := by
      rw [Toolkit.closed, hgrows.handle hb]
      exact hgrows.disposed hc
    obtain ⟨hmarks, hx⟩ := ih
    have hresting : ∀ u : Toolkit σ, (u.ledger b).delivering = false ↔ u.delivering b = none :=
      fun u => by simp [Toolkit.ledger]
    obtain he | hstep := hxy.ledger (Steps.sound hs hvx) (hgrows.hasBridge hb)
    · refine ⟨(congrArg Ledger.marks he).trans hmarks, (hresting y).mp ?_⟩
      rw [he, hresting, hx]
    · obtain ⟨hmarks', hy⟩ := hstep.rests hcx ((hresting x).mpr hx)
      exact ⟨hmarks'.trans hmarks, (hresting y).mp hy⟩

/-- **A handle without a subscription**, or whose subscription is concluded, takes no stage. -/
theorem Step.milestones_eq (hs : v.Sound) (h : Step m v w) (hk : v.HasHandle k)
    (hend : milestones k v.journal = [] ∨ .concluded k ∈ milestones k v.journal) :
    milestones k w.journal = milestones k v.journal := by
  have hquiet : ∀ es, w.journal = (v.notedAll es).journal → (∀ e ∈ es, milestone? k e = none) →
      milestones k w.journal = milestones k v.journal := by
    intro es hj hes
    rw [hj, milestones_notedAll, List.filterMap_eq_nil_iff.mpr hes, List.append_nil]
  -- the subscription is not in the middle of its stages
  have hmiddle : ∀ {e es}, milestones k v.journal = e :: es → .concluded k ∈ e :: es := by
    intro e es hm
    rw [hm] at hend
    exact hend.resolve_left (List.cons_ne_nil _ _)
  cases h.treats hs k with
  | apart es hj hes => exact hquiet es hj fun e he => milestone?_of_handle?_ne (hes e he)
  | made es hnew => exact absurd (hnew ▸ hk) hs.not_hasHandle_next
  | disposed =>
    exact hquiet _ (Toolkit.journal_disposing v k) (by simp [milestone?, subscription?])
  | armed =>
    refine hquiet _ (Toolkit.journal_arming v k _) ?_
    split <;> simp [milestone?, subscription?]
  | withdrawn hm | attaching hm | registered hm | started hm | registeredClient hm
  | attached warm hm =>
    exact absurd (hmiddle hm) (by simp)
  | concluded hm =>
    obtain hm | ⟨key, warm, hm⟩ := hm <;> exact absurd (hmiddle hm) (by simp)

/-- **A handle without a subscription**: it is disposed, belongs to no bridge, and stands for
    nothing that was registered. -/
structure Toolkit.Unattended (w : Toolkit σ) (h : HandleId) : Prop where
  disposed : w.disposed h = true
  bridgeless : ∀ b, w.HasBridge b → (w.bridges.get b).handle ≠ h
  stages : milestones h w.journal = []

/-- **A withdrawn subscription**: its observer was given the handle, and that was all. -/
structure Toolkit.Withdrawn (w : Toolkit σ) (h : HandleId) (b : BridgeId) (source : Source) :
    Prop where
  disposed : w.disposed h = true
  bridge : w.HasBridge b ∧ (w.bridges.get b).handle = h
  /-- The observer was called once, and the call came back. -/
  calls : marks b w.journal = [.began (.subscribed h), .ended]
  /-- The source was not called. -/
  stages : milestones h w.journal = [.subscribing h b source, .withdrawn h, .concluded h]
  /-- No widget has its listener. -/
  unregistered : ∀ p binding judge, ¬ w.screen.Holds p (.forward binding b judge)
  /-- Its listener was told of nothing. -/
  unheard : ∀ binding judge e, ¬ Occurred (.heard (.forward binding b judge) e) w.journal

/-- A handle without a subscription stays without one. -/
theorem Step.unattended (hs : v.Sound) (hv : v.Unattended h) (hstep : Step m v w) :
    w.Unattended h where
  disposed := hstep.grows.disposed hv.disposed
  bridgeless b hb := by
    obtain hb' | ⟨rfl, hnew⟩ := hstep.hasBridge_or hs hb
    · rw [hstep.grows.handle hb']
      exact hv.bridgeless b hb'
    · rw [(hs.opened hnew).1]
      rintro rfl
      exact hs.not_hasHandle_next (Toolkit.hasHandle_of_disposed hv.disposed)
  stages := by
    have hh := Toolkit.hasHandle_of_disposed hv.disposed
    exact (hstep.milestones_eq hs hh (.inl hv.stages)).trans hv.stages

/-- What was never registered has no listener and hears of nothing. -/
theorem Toolkit.Withdrawn.of_stages (hs : w.Sound) (he : w.HearsEnrolled)
    (hd : w.disposed h = true) (hb : w.HasBridge b ∧ (w.bridges.get b).handle = h)
    (calls : marks b w.journal = [.began (.subscribed h), .ended])
    (stages : milestones h w.journal = [.subscribing h b source, .withdrawn h, .concluded h]) :
    w.Withdrawn h b source := by
  have hnever : ∀ {binding owner judge}, ¬ Enrolled b binding owner judge w.journal := by
    rintro binding owner judge ⟨k, key, hsub, hreg⟩
    obtain rfl : k = h := (hs.knows hsub).2.symm.trans hb.2
    have hmem : Event.registered k (.widget binding owner judge) key ∈ milestones k w.journal :=
      mem_milestones.mpr ⟨hreg, rfl⟩
    rw [stages] at hmem
    simp at hmem
  refine ⟨hd, hb, calls, stages, fun p binding judge hp => hnever (hs.placed hp).2, ?_⟩
  intro binding judge e ho
  obtain ⟨i, hi, howner⟩ := he.occurred ho
  obtain ⟨owner, k, key, ⟨a, ha, hae⟩, ⟨r, hr, hre⟩⟩ := howner binding b judge e rfl
  exact hnever ⟨k, key, ⟨a, hi.subset ha, hae⟩, ⟨r, hi.subset hr, hre⟩⟩

/-- A withdrawn subscription stays withdrawn. -/
theorem Step.withdrawn (hs : v.Sound) (he : v.HearsEnrolled) (hv : v.Withdrawn h b source)
    (hstep : Step m v w) : w.Withdrawn h b source := by
  have hh := Toolkit.hasHandle_of_disposed hv.disposed
  have hclosed : v.closed b = true := by
    rw [Toolkit.closed, hv.bridge.2]
    exact hv.disposed
  have hidle : ¬ Running b v.journal := by
    rintro ⟨signal, hlast⟩
    rw [hv.calls] at hlast
    simp at hlast
  refine .of_stages (hstep.sound hs) (hstep.hearsEnrolled hs he) (hstep.grows.disposed hv.disposed)
    ⟨hstep.grows.hasBridge hv.bridge.1, ?_⟩ ?_ ?_
  · exact (hstep.grows.handle hv.bridge.1).trans hv.bridge.2
  · exact (hstep.marks_eq hs hv.bridge.1 hclosed hidle).trans hv.calls
  · exact (hstep.milestones_eq hs hh (.inr (by simp [hv.stages]))).trans hv.stages

/-- **Wherever steps lead**, a handle without a subscription stays without one. -/
theorem Reached.unattended (hw : Reached m K w) (hh : w.Unattended h) {x : Toolkit Unit}
    (hsteps : Steps m w.erased x) : x.Unattended h := by
  induction hsteps with
  | refl => exact ⟨hh.disposed, hh.bridgeless, hh.stages⟩
  | tail hwu hstep ih => exact hstep.unattended (Steps.sound_of_fresh (hw.past.trans hwu)) ih

/-- **Wherever steps lead**, a withdrawn subscription stays withdrawn. -/
theorem Reached.withdrawn (hw : Reached m K w) (hh : w.Withdrawn h b source) {x : Toolkit Unit}
    (hsteps : Steps m w.erased x) : x.Withdrawn h b source := by
  induction hsteps with
  | refl => exact ⟨hh.disposed, hh.bridge, hh.calls, hh.stages, hh.unregistered, hh.unheard⟩
  | tail hwu hstep ih =>
    have hu : Steps m Toolkit.fresh _ := hw.past.trans hwu
    exact hstep.withdrawn (Steps.sound_of_fresh hu) (Steps.hearsEnrolled hu) ih

-- ════════════════════════════════════════════════════════════════════════
-- Refusals
-- ════════════════════════════════════════════════════════════════════════

/-- The toolkit in which an observer learns that it is refused. -/
def Toolkit.refusing (w : Toolkit σ) (owner : Thread) : Toolkit σ :=
  (w.noted (.refused owner w.here)).addingHandle { disposed := true }

/-- The two calls on an observer that is refused, and the handle that the caller gets. -/
def Client.refuse (c : Client σ) (owner caller : Thread) (observer : Observer) (h : HandleId) :
    UI σ HandleId := do
  c.tell observer (.subscribed h)
  c.tell observer (.failed (.wrongThread owner caller))
  newHandle { disposed := true }

/-- **A subscription is refused** by a client at a toolkit. -/
structure Client.Refuses (c : Client σ) (m : Manners) (stream : Stream) (observer : Observer)
    (w : Toolkit σ) : Prop where
  /-- Nothing is done before the observer is called, but that a handle is made for it. -/
  before : w.AgreesBut (w.refusing (stream.source.thread w.screen)) (some w.handles.next) none
  /-- The observer is given the handle and is told of the fault, and no other client code runs. -/
  calls : c.subscribe stream observer w =
    c.refuse (stream.source.thread w.screen) w.here observer w.handles.next
      (w.refusing (stream.source.thread w.screen))
  /-- The handle that it is given is disposed. -/
  given : (w.refusing (stream.source.thread w.screen)).Unattended w.handles.next
  /-- The handle that the caller gets is disposed, and nothing ever comes of either. -/
  ever : ∀ h u, c.subscribe stream observer w = .ok h u → ∀ x, Steps m u.erased x →
    x.Unattended w.handles.next ∧ x.Unattended h

/-- A new handle that is disposed has no subscription. -/
theorem Toolkit.Sound.unattended_addingHandle (hs : w.Sound) :
    (w.addingHandle { disposed := true }).Unattended w.handles.next where
  disposed := by
    rw [Toolkit.disposed, Registry.get, hs.find?_addingHandle, if_pos rfl]
    rfl
  bridgeless b hb he := hs.not_hasHandle_next (he ▸ hs.owned hb)
  stages := hs.milestones_eq_nil hs.not_hasHandle_next

/-- An observer that is refused is called twice. -/
theorem Client.subscribe_of_refused (hn : stream.source.thread w.screen ≠ w.here)
    (ht : w.threadCheck = .enforce) :
    c.subscribe stream observer w =
      c.refuse (stream.source.thread w.screen) w.here observer w.handles.next
        (w.refusing (stream.source.thread w.screen)) := by
  let owner := stream.source.thread w.screen
  have hforeign : ¬ (owner = w.here ∨ w.threadCheck = .disabled) := by simp [owner, hn, ht]
  have hcheck : c.checkThread owner observer w = (do
      c.tell observer (.subscribed w.handles.next)
      c.tell observer (.failed (.wrongThread owner w.here))
      return false : UI σ Bool) (w.refusing owner) := by
    simp only [Client.checkThread, run_get_bind, run_ite, if_neg hforeign]
    rfl
  simp only [Client.subscribe, run_screen_bind, Client.refuse]
  cases hfirst : c.tell observer (.subscribed w.handles.next) (w.refusing owner) with
  | error e x =>
    rw [bind_error hfirst] at hcheck ⊢
    exact bind_error hcheck
  | ok a x =>
    rw [bind_ok hfirst] at hcheck ⊢
    cases hsecond : c.tell observer (.failed (.wrongThread owner w.here)) x with
    | error e y =>
      rw [bind_error hsecond] at hcheck ⊢
      exact bind_error hcheck
    | ok a y =>
      rw [bind_ok hsecond] at hcheck ⊢
      exact bind_ok hcheck

/-- Where a subscription is refused, nothing of the source matters but its thread. -/
theorem Client.subscribe_congr_of_refused {stream' : Stream}
    (hthread : stream'.source.thread w.screen = stream.source.thread w.screen)
    (hn : stream.source.thread w.screen ≠ w.here) (ht : w.threadCheck = .enforce) :
    c.subscribe stream' observer w = c.subscribe stream observer w := by
  rw [subscribe_of_refused hn ht, subscribe_of_refused (hthread ▸ hn) ht, hthread]

/-- **A foreign observer is refused**, while the check is enforced. -/
theorem Client.Behaves.refuses (hc : c.Behaves m K) (hw : Reached m K w)
    (hn : stream.source.thread w.screen ≠ w.here) (ht : w.threadCheck = .enforce) :
    c.Refuses m stream observer w := by
  let owner := stream.source.thread w.screen
  have hnoted : Reached m K (w.noted (.refused owner w.here)) :=
    hw.steps (Frame.note (m := m) w rfl).steps rfl
  have hx : Reached m K (w.refusing owner) :=
    hnoted.steps (.single (.newHandle true none)) rfl
  have hgiven : (w.refusing owner).Unattended w.handles.next :=
    hnoted.sound.unattended_addingHandle
  refine ⟨⟨rfl, rfl, rfl, rfl, rfl, rfl, rfl, rfl, fun k hk => ?_, fun _ _ => rfl⟩,
    subscribe_of_refused hn ht, hgiven, fun h u hr x hux => ?_⟩
  · have hne : w.handles.next ≠ k := fun e => hk (congrArg some e)
    exact (hnoted.sound.find?_addingHandle { disposed := true } k).trans (if_neg hne)
  -- the two calls keep the frame, and the second handle is made after them
  rw [subscribe_of_refused hn ht, Client.refuse] at hr
  have hfirst := hc.tell observer (.subscribed w.handles.next) _ hx False.elim
  cases hr₁ : c.tell observer (.subscribed w.handles.next) (w.refusing owner) with
  | error e y =>
    rw [bind_error hr₁] at hr
    cases hr
  | ok a y =>
    rw [bind_ok hr₁] at hr
    rw [hr₁] at hfirst
    have hsecond := hc.tell observer (.failed (.wrongThread owner w.here)) _ hfirst.1 False.elim
    cases hr₂ : c.tell observer (.failed (.wrongThread owner w.here)) y with
    | error e z =>
      rw [bind_error hr₂] at hr
      cases hr
    | ok a z =>
      rw [bind_ok hr₂] at hr
      rw [hr₂] at hsecond
      obtain ⟨rfl, rfl⟩ : z.handles.next = h ∧ z.addingHandle { disposed := true } = u := by
        cases hr
        exact ⟨rfl, rfl⟩
      have hu := hsecond.1.steps (.single (.newHandle true none)) rfl
      have hsteps := (hfirst.2.1.steps.trans hsecond.2.1.steps).tail (.newHandle true none)
      exact ⟨hx.unattended hgiven ((Steps.erased hsteps).trans hux),
        hu.unattended hsecond.1.sound.unattended_addingHandle hux⟩

-- ════════════════════════════════════════════════════════════════════════
-- Withdrawals
-- ════════════════════════════════════════════════════════════════════════

/-- **A subscription is withdrawn** by a client at a toolkit, if its observer leaves `y` when it has
    been given the handle. -/
structure Client.Withdraws (c : Client σ) (m : Manners) (stream : Stream) (observer : Observer)
    (w y : Toolkit σ) : Prop where
  /-- Nothing is done before the observer is called, but that a handle and a bridge are made. -/
  before : w.AgreesBut (w.subscribing stream.source observer) (some w.handles.next)
    (some w.bridges.next)
  /-- The caller gets the handle. After the observer nobody is called; only the bridge is put to
      rest. -/
  after : ∃ u, c.subscribe stream observer w = .ok w.handles.next u ∧
    y.AgreesBut u none (some w.bridges.next) ∧
    u.delivering w.bridges.next = none ∧ u.queue w.bridges.next = [] ∧
    -- nothing ever comes of the subscription
    ∀ x, Steps m u.erased x → x.Withdrawn w.handles.next w.bridges.next stream.source

/-- The toolkit when a delivery has ended in whose only call the subscription was disposed. -/
def Toolkit.abandoning (w : Toolkit σ) (b : BridgeId) : Toolkit σ :=
  let y := w.noted (.ended b)
  let emptied := if (y.queue b).isEmpty then y
    else (y.noted (.dropped b (y.queue b).length)).dropping b
  emptied.finishing b

/-- **A delivery ends with the call in which the subscription is disposed.** -/
theorem Client.deliver_of_disposed {signal : Signal} (hp : 0 < c.patience)
    (htell : c.tell (w.bridges.get b).observer signal (w.starting b signal) = .ok () y)
    (hsignal : ∀ fault, signal ≠ .failed fault) (hcl : y.closed b = true) :
    c.deliver b signal w = .ok () (y.abandoning b) := by
  obtain ⟨n, hn⟩ := Nat.exists_eq_succ_of_ne_zero (Nat.ne_of_gt hp)
  let x := (w.noted (.accepted b signal false)).withBridge b
    fun bridge => { bridge with delivering := some w.here }
  have hobserver : (x.bridges.get b).observer = (w.bridges.get b).observer := by
    simp [x, Toolkit.withBridge, Toolkit.noted]
  have hover : c.handOver b signal x = .ok () (y.noted (.ended b)) := by
    simp only [Client.handOver, run_bridge_bind, run_note_bind, hobserver]
    have hcall : c.tell (w.bridges.get b).observer signal (x.noted (.began b signal)) = .ok () y :=
      htell
    rw [bind_ok hcall, run_note_bind]
    cases signal with
    | failed fault => exact absurd rfl (hsignal fault)
    | _ => rfl
  have hdrain : c.drain b c.patience signal x = .ok ()
      (if ((y.noted (.ended b)).queue b).isEmpty then y.noted (.ended b)
        else ((y.noted (.ended b)).noted
          (.dropped b ((y.noted (.ended b)).queue b).length)).dropping b) := by
    have hclosed : (y.noted (.ended b)).closed b = true := hcl
    rw [hn, Client.drain, bind_ok hover, bind_ok (takeQueued_of_closed hclosed)]
    rfl
  change ensuring (fun u => u.finishing b) (c.drain b c.patience signal) x = _
  rw [ensuring, hdrain]
  rfl

/-- When a delivery is abandoned, the bridge is at rest and all else is as it was. -/
theorem Toolkit.agreesBut_abandoning (y : Toolkit σ) (b : BridgeId) :
    y.AgreesBut (y.abandoning b) none (some b) ∧
      (y.abandoning b).delivering b = none ∧ (y.abandoning b).queue b = [] := by
  simp only [abandoning]
  split
  · next hq =>
    refine ⟨⟨rfl, rfl, rfl, rfl, rfl, rfl, rfl, rfl, fun _ _ => rfl, fun k hk => ?_⟩, ?_, ?_⟩
    · have hne : b ≠ k := fun e => hk (congrArg some e)
      simp [finishing, withBridge, hne, noted]
    · simp [delivering, finishing, withBridge]
    · simpa [queue, finishing, withBridge] using hq
  · refine ⟨⟨rfl, rfl, rfl, rfl, rfl, rfl, rfl, rfl, fun _ _ => rfl, fun k hk => ?_⟩, ?_, ?_⟩
    · have hne : b ≠ k := fun e => hk (congrArg some e)
      simp [finishing, dropping, withBridge, hne, noted]
    · simp [delivering, finishing, withBridge]
    · simp [queue, finishing, dropping, withBridge]

/-- What the journal says of an abandoned delivery is that its call came back. -/
theorem History.marks_abandoning (y : Toolkit σ) (b : BridgeId) :
    marks b (y.abandoning b).journal = marks b y.journal ++ [.ended] := by
  simp only [Toolkit.abandoning]
  split <;> simp [marks, mark?]

theorem History.milestones_abandoning (y : Toolkit σ) (b : BridgeId) (h : HandleId) :
    milestones h (y.abandoning b).journal = milestones h y.journal := by
  simp only [Toolkit.abandoning]
  split <;> simp [milestones, milestone?, subscription?]

/-- What the journal says when the observer of a new subscription is called for the first time. -/
theorem Toolkit.Sound.read_subscribing (hs : w.Sound) (source : Source) (observer : Observer) :
    marks w.bridges.next (w.subscribing source observer).journal =
        [.began (.subscribed w.handles.next)] ∧
      milestones w.handles.next (w.subscribing source observer).journal =
        [.subscribing w.handles.next w.bridges.next source] := by
  constructor
  · rw [subscribing, marks_starting, if_pos rfl, marks_noted, journal_opening,
      hs.marks_eq_nil hs.not_hasBridge_next]
    rfl
  · exact congrArg Course.stages (hs.course_subscribing source observer)

/-- A subscription is new when its observer is called for the first time. -/
theorem Toolkit.Sound.agreesBut_subscribing (hs : w.Sound) (source : Source)
    (observer : Observer) :
    w.AgreesBut (w.subscribing source observer) (some w.handles.next) (some w.bridges.next) where
  here := rfl
  started := rfl
  threadCheck := rfl
  screen := rfl
  tapes := rfl
  scopes := rfl
  overrides := rfl
  client := rfl
  handles k hk := by
    have hne : w.handles.next ≠ k := fun e => hk (congrArg some e)
    exact (hs.find?_addingHandle {} k).trans (if_neg hne)
  bridges k hk := by
    have hne : w.bridges.next ≠ k := fun e => hk (congrArg some e)
    have hopening := (hs.find?_opening observer k).trans (if_neg hne)
    exact (Registry.find?_modify _ _ _ _).trans ((if_neg hne).trans hopening)

/-- **The subscribing call of an observer that disposes the handle** at once. -/
theorem Client.subscribe_of_disposed (hs : w.Sound) (hp : 0 < c.patience)
    (hn : stream.source.thread w.screen = w.here ∨ w.threadCheck = .disabled)
    (htell : c.tell observer (.subscribed w.handles.next)
      (w.subscribing stream.source observer) = .ok () y)
    (hd : y.disposed w.handles.next = true)
    (hb : (y.bridges.get w.bridges.next).handle = w.handles.next) :
    c.subscribe stream observer w = .ok w.handles.next
      (((y.abandoning w.bridges.next).noted (.withdrawn w.handles.next)).noted
        (.concluded w.handles.next)) := by
  let h := w.handles.next
  let b := w.bridges.next
  let x := w.admitting stream.source observer
  have hbridge : x.bridges.get b = { handle := h, observer := observer } :=
    (hs.get_admitting stream.source observer).2
  have hidle : x.delivering b = none := congrArg Bridge.delivering hbridge
  have hopen : x.closed b = false := hs.closed_opening_next observer
  have hclosed : y.closed b = true := by
    rw [Toolkit.closed, hb]
    exact hd
  have hdispatch : c.dispatch b (.subscribed h) x = .ok true (y.abandoning b) := by
    rw [dispatch_of_open hidle hopen]
    refine bind_ok (deliver_of_disposed hp ?_ (by simp) hclosed)
    rw [hbridge]
    exact htell
  have hdiscard : (discard (c.dispatch b (.subscribed h)) : UI σ Unit) x =
      .ok () (y.abandoning b) := bind_ok hdispatch
  have hdisposed : (y.abandoning b).disposed h = true := by
    rw [Toolkit.disposed, Registry.get,
      (y.agreesBut_abandoning b).1.handles h (by simp)]
    exact hd
  rw [subscribe_of_admitted hn]
  simp only [letIn, run_newBridge_bind, run_note_bind]
  refine (bind_ok hdiscard).trans ?_
  rw [run_isDisposed_bind, run_ite]
  exact if_pos hdisposed

/-- **An observer that disposes the handle at once withdraws its subscription.** -/
theorem Client.Behaves.withdraws (hc : c.Behaves m K) (hw : Reached m K w) (hf : Free m w)
    (hp : 0 < c.patience)
    (hn : stream.source.thread w.screen = w.here ∨ w.threadCheck = .disabled)
    (htell : c.tell observer (.subscribed w.handles.next)
      (w.subscribing stream.source observer) = .ok () y)
    (hd : y.disposed w.handles.next = true) : c.Withdraws m stream observer w y := by
  let h := w.handles.next
  let b := w.bridges.next
  let x := w.subscribing stream.source observer
  have hx : Reached m K x := hw.steps (.single (.subscribe stream.source observer)) rfl
  obtain ⟨hmarks, hstages⟩ := hw.sound.read_subscribing stream.source observer
  obtain ⟨hxh, hoccurred⟩ := hx.sound.hasHandle_of_subscribing hstages
  have hknown := hx.sound.knows hoccurred
  have hdelivering : x.delivering b ≠ none := by
    simp [x, b, Toolkit.delivering, Toolkit.subscribing, Toolkit.starting, Toolkit.withBridge,
      Toolkit.notedAll]
  -- the observer keeps the frame
  have htold := hc.tell observer (.subscribed h) x hx False.elim
  rw [htell] at htold
  obtain ⟨hy, hxy, -⟩ := htold
  have hb : (y.bridges.get b).handle = h := (hxy.grows.handle hknown.1).trans hknown.2
  have hrun := Client.subscribe_of_disposed hw.sound hp hn htell hd hb
  have hlands := hc.subscribe hw hf stream observer
  rw [hrun] at hlands
  obtain ⟨hu, hwu, -⟩ := hlands
  obtain ⟨hagrees, hrest, hempty⟩ := y.agreesBut_abandoning b
  refine ⟨hw.sound.agreesBut_subscribing stream.source observer, _, hrun, ?_, hrest, hempty, ?_⟩
  · exact ⟨hagrees.here, hagrees.started, hagrees.threadCheck, hagrees.screen, hagrees.tapes,
      hagrees.scopes, hagrees.overrides, hagrees.client, hagrees.handles, hagrees.bridges⟩
  have hended :
      milestones h (((y.abandoning b).noted (.withdrawn h)).noted (.concluded h)).journal =
      [.subscribing h b stream.source, .withdrawn h, .concluded h] := by
    rw [milestones_noted, milestones_noted, milestones_abandoning, hxy.milestones h hxh, hstages]
    simp [milestone?, subscription?, h, b]
  have hcalls : marks b (((y.abandoning b).noted (.withdrawn h)).noted (.concluded h)).journal =
      [.began (.subscribed h), .ended] := by
    rw [marks_noted, marks_noted, marks_abandoning, hxy.marks b hdelivering, hmarks]
    rfl
  have hdisposed : (y.abandoning b).disposed h = true := by
    rw [Toolkit.disposed, Registry.get, hagrees.handles h (by simp)]
    exact hd
  have hbridge := hu.sound.knows (hu.sound.hasHandle_of_subscribing hended).2
  exact fun z huz => hu.withdrawn
    (.of_stages hu.sound (Steps.hearsEnrolled hu.past) hdisposed hbridge hcalls hended) huz

namespace Code

variable {code : Code m τ} {depth : Nat}

/-- Only client code disposes a handle when it is given it, and client code that comes back has
    patience. -/
theorem patience_pos {w y : Toolkit (Desk τ)} (hs : w.Sound)
    (htell : (code.client depth).tell observer (.subscribed w.handles.next)
      (w.subscribing source observer) = .ok () y)
    (hd : y.disposed w.handles.next = true) : 0 < (code.client depth).patience := by
  cases depth with
  | succ depth => exact Nat.succ_pos depth
  | zero =>
    have hopen : (w.subscribing source observer).disposed w.handles.next = false :=
      congrArg Course.disposed (hs.course_subscribing source observer)
    have hclosed : (w.subscribing source observer).disposed w.handles.next = true := by
      cases observer <;> cases htell <;> exact hd
    rw [hopen] at hclosed
    cases hclosed

/-- **Subscriptions that are given up leave no trace**: wherever a program subscribes an observer to
    a stream, a foreign observer is refused, and one that disposes its handle at once withdraws. -/
theorem aborted_subscriptions_leave_no_trace {w : Toolkit (Desk τ)}
    (hw : Reached m (Desk.Faithful m) w) (hf : Free m w) (stream : Stream) (observer : Observer) :
    (stream.source.thread w.screen ≠ w.here → w.threadCheck = .enforce →
      (code.client depth).Refuses m stream observer w) ∧
    (stream.source.thread w.screen = w.here ∨ w.threadCheck = .disabled → ∀ y,
      (code.client depth).tell observer (.subscribed w.handles.next)
        (w.subscribing stream.source observer) = .ok () y → y.disposed w.handles.next = true →
      (code.client depth).Withdraws m stream observer w y) := by
  have hc := code.behaves depth
  exact ⟨hc.refuses hw, fun hn y htell hd =>
    hc.withdraws hw hf (patience_pos hw.sound htell hd) hn htell hd⟩

/-- Its observers dispose the handle that they are given. -/
def withdrawing : Code ⟨false, false, true, false⟩ Unit :=
  { quiet _ with
    observe := fun _ signal =>
      match signal with
      | .subscribed h => .call (.dispose h) (fun _ => rfl) (fun hp => hp.elim) fun _ => .done ()
      | _ => .done () }

/-- The same observer is refused by a source on another thread, and withdraws from one on its
    own. -/
theorem aborted_subscriptions_leave_no_trace_unwilling :
    let c := withdrawing.client 5
    let w : Toolkit (Desk Unit) := { client := { own := () } }
    c.Refuses ⟨false, false, true, false⟩ ⟨.client 0 (.started 1), true⟩ (.client 0) w ∧
    ∃ y, c.tell (.client 0) (.subscribed 1) (w.subscribing (.client 0 .main) (.client 0)) =
        .ok () y ∧
      c.Withdraws ⟨false, false, true, false⟩ ⟨.client 0 .main, true⟩ (.client 0) w y := by
  have hw := reached_start (m := ⟨false, false, true, false⟩) ()
  refine ⟨?_, _, rfl, ?_⟩
  · exact (aborted_subscriptions_leave_no_trace hw (.inl rfl) ⟨.client 0 (.started 1), true⟩
      (.client 0)).1 (by decide) rfl
  · exact (aborted_subscriptions_leave_no_trace hw (.inl rfl) ⟨.client 0 .main, true⟩
      (.client 0)).2 (.inl rfl) _ rfl (by rfl)

end Code

end WidgetStreams
