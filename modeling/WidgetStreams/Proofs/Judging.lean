import WidgetStreams.Proofs.Delivery

/-!
# Values that are judged

This file proves what becomes of a value whose consumption a judge decides: it
is taken before the judge is asked, the judge is asked once, and a judge that
fails ends the subscription behind all that was taken before.

## Main definitions

- `Toolkit.Arriving` — a value arrives at a bridge, from a native event or from client code
- `Toolkit.Concludes` — a fault is the last signal of a bridge
- `Client.Judges` — what becomes of a value that is judged

## Main results

- `Code.values_are_judged_once` — what the answer is, and what a judge does that fails
- `Code.judges_follow_calls` — outside a delivery the judge is asked after the call with the value
- `Code.judge_precedes_call` — in the midst of a delivery it is asked before

## Design notes

The judge is client code and may do anything: emit, fail or dispose, or have
another value judged by the same bridge.
-/

namespace WidgetStreams

open History UI

variable {σ τ α : Type} {m : Manners} {K : σ → Prop} {v w u x y z : Toolkit σ} {c : Client σ}
  {b : BridgeId} {value : Payload} {judge : Judge} {signal : Signal} {fault : Fault}

-- ════════════════════════════════════════════════════════════════════════
-- Faults at the end
-- ════════════════════════════════════════════════════════════════════════

namespace History

/-- What the journal tells in order is only added to. -/
theorem collect_isPrefix {β : Type} (f : Event → Option β) {i j : List Entry} (h : i <:+ j) :
    collect f i <+: collect f j := by
  obtain ⟨later, rfl⟩ := h
  rw [collect, collect, List.filterMap_append, List.reverse_append]
  exact List.prefix_append _ _

theorem accepted_isPrefix (b : BridgeId) (h : Grows v w) :
    accepted b v.journal <+: accepted b w.journal := collect_isPrefix _ h.journal

theorem began_isPrefix (b : BridgeId) (h : Grows v w) : began b v.journal <+: began b w.journal :=
  (collect_isPrefix _ h.journal).filterMap _

/-- A fault is the last signal of a subscription, and the only one of its kind. -/
theorem IsWord.last {first before after : List Signal} (hfirst : ∀ f, Signal.failed f ∉ first)
    (h : IsWord first (before ++ .failed fault :: after)) :
    after = [] ∧ ∀ f, .failed f ∉ before := by
  obtain ⟨values, ending, hw, hending⟩ := h
  have hinit : ∀ f, Signal.failed f ∉ first ++ values.map .next := by simp [hfirst]
  obtain rfl | ⟨f, rfl⟩ := hending
  · rw [List.append_nil] at hw
    exact absurd (hw ▸ by simp) (hinit fault)
  obtain rfl | ⟨rest, last, rfl⟩ := List.eq_nil_or_concat' after
  · exact ⟨rfl, (List.append_inj' hw rfl).1 ▸ hinit⟩
  · rw [← List.cons_append, ← List.append_assoc] at hw
    have hrest := (List.append_inj' hw rfl).1
    exact absurd (hrest ▸ by simp) (hinit fault)

end History

/-- Outside a delivery, a fault that was taken has closed the bridge and was the last signal, unless
    the bridge was closed before. -/
theorem Ledger.Kept.concludes {first before : List Signal} {l : Ledger} (hk : l.Kept first)
    (hfirst : ∀ f, Signal.failed f ∉ first) (hd : l.delivering = false)
    (ht : before ++ [.failed fault] <+: l.accepted) :
    l.closed = true ∧ (l.began = before ++ [.failed fault] ∧ (∀ f, .failed f ∉ before) ∨
      l.began <+: before) := by
  obtain ⟨hq, -, hf⟩ := hk.settled hd
  constructor
  · -- an open bridge has delivered the fault, and that has closed it
    by_contra hopen
    rw [Bool.not_eq_true] at hopen
    have hall : l.accepted = l.began := by rw [hk.fifo hopen, hq, List.append_nil]
    have hclosed := hf fault (hall ▸ ht.subset (by simp))
    rw [hopen] at hclosed
    cases hclosed
  · obtain hshort | ⟨after, hafter⟩ := List.prefix_or_prefix_of_prefix hk.ordered ht
    · obtain heq | hbefore := List.prefix_concat_iff.mp hshort
      · exact .inl ⟨heq, (IsWord.last hfirst (heq ▸ hk.word)).2⟩
      · exact .inr hbefore
    · rw [List.append_assoc, List.singleton_append] at hafter
      obtain ⟨rfl, hnone⟩ := IsWord.last hfirst (hafter.symm ▸ hk.word)
      exact .inl ⟨hafter.symm, hnone⟩

/-- **A fault is the last signal** of a bridge, behind those that it took `before`. When no delivery
    goes on, the handle is disposed, and the calls were those with all signals before and then that
    with the fault; or else the handle was disposed before that. -/
structure Toolkit.Concludes (w : Toolkit σ) (b : BridgeId) (before : List Signal) (fault : Fault) :
    Prop where
  taken : before ++ [.failed fault] <+: accepted b w.journal
  closed : w.delivering b = none → w.closed b = true
  calls : w.delivering b = none →
    began b w.journal = before ++ [.failed fault] ∧ (∀ f, .failed f ∉ before) ∨
      began b w.journal <+: before

/-- **What is taken before a fault is all that there is to deliver**, wherever steps lead, as long
    as observers do not panic. -/
theorem Steps.concludes (hm : m.observersPanic = false) (h : Steps m Toolkit.fresh w.erased)
    (hb : w.HasBridge b) {before : List Signal}
    (ht : before ++ [.failed fault] <+: accepted b w.journal) : w.Concludes b before fault := by
  obtain ⟨first, hfirst, hkept, -⟩ := h.orderly hm b hb
  have hend : w.delivering b = none → (w.erased.ledger b).delivering = false := by
    intro hd
    simp [Toolkit.ledger, show w.erased.delivering b = none from hd]
  exact ⟨ht, fun hd => (hkept.concludes hfirst (hend hd) ht).1,
    fun hd => (hkept.concludes hfirst (hend hd) ht).2⟩

-- ════════════════════════════════════════════════════════════════════════
-- What a bridge takes
-- ════════════════════════════════════════════════════════════════════════

/-- **A value arrives** at a bridge: a native event has just been told to the listener of the
    bridge, or client code has the value in its hands. -/
def Toolkit.Arriving (m : Manners) (K : σ → Prop) (b : BridgeId) (value : Payload)
    (x : Toolkit σ) : Prop :=
  ∃ w screen notes, Reached m K w ∧ Free m w ∧ w.HasBridge b ∧
    x = (w.showing screen).notedAll notes ∧
      (w.closed b = false → Cause m w b screen (.next value) notes)

namespace Toolkit

/-- Client code may emit on a bridge that is not a widget's, and on every bridge if the manners
    admit it. -/
theorem Arriving.of_reached (hw : Reached m K w) (hf : Free m w) (hb : w.HasBridge b)
    (hs : m.everywhere = true ∨ w.servesWidget b = false) (value : Payload) :
    w.Arriving m K b value :=
  ⟨w, w.screen, [], hw, hf, hb, rfl, fun _ => .direct value hs⟩

theorem Takes.grows (h : v.Takes m b signal w) : Grows v w := by
  obtain ⟨-, hs, -⟩ | ⟨-, rfl⟩ := h
  · exact (Grows.starting v b signal).trans (Steps.grows hs)
  · exact .queueing v b signal

/-- The signal is the first that is taken from there on. -/
theorem Takes.accepted (h : v.Takes m b signal w) :
    accepted b v.journal ++ [signal] <+: History.accepted b w.journal := by
  obtain ⟨-, hs, -⟩ | ⟨-, rfl⟩ := h
  · refine List.IsPrefix.trans ?_ (accepted_isPrefix b (Steps.grows hs))
    rw [journal_starting, accepted_notedAll]
    simp [accepted?, List.filterMap_cons]
  · rw [journal_queueing, accepted_notedAll]
    simp [accepted?]

/-- Outside a delivery the signal is the first with which a call begins from there on, and the call
    has come back. -/
theorem Takes.began (h : v.Takes m b signal w) (hd : v.delivering b = none) :
    began b v.journal ++ [signal] <+: History.began b w.journal ∧ ¬ Running b w.journal := by
  obtain ⟨-, hs, hr⟩ | ⟨hne, -⟩ := h
  · refine ⟨List.IsPrefix.trans ?_ (began_isPrefix b (Steps.grows hs)), hr⟩
    rw [History.began, History.began, marks_starting, if_pos rfl, List.filterMap_append]
    exact List.prefix_refl _
  · exact absurd hd hne

end Toolkit

namespace Client

/-- What follows the answer of a judge: one that failed ends the subscription. -/
def heed (c : Client σ) (b : BridgeId) : Except String Bool → UI σ Bool
  | .ok consumed => return consumed
  | .error reason => do
    c.fail b (.callback reason)
    return false

theorem emitJudged_of_open (hopen : x.closed b = false) :
    c.emitJudged b value judge x =
      (c.emit b value >>= fun _ => c.verdict judge value >>= c.heed b) x := by
  have hdiscard : ∀ y, (discard (c.emit b value) : UI σ Unit) y =
      (c.emit b value >>= fun _ => pure ()) y := fun _ => rfl
  simp only [emitJudged, run_isClosed_bind, run_ite, hopen, Bool.false_eq_true, if_false]
  cases he : c.emit b value x with
  | ok taken y =>
    rw [bind_ok he,
      bind_ok (show (discard (c.emit b value) : UI σ Unit) x = .ok () y from bind_ok he)]
    cases hv : c.verdict judge value y with
    | ok answer z =>
      rw [bind_ok hv, bind_ok hv]
      cases answer <;> rfl
    | error e z => rw [bind_error hv, bind_error hv]
  | error e y =>
    rw [bind_error he,
      bind_error (show (discard (c.emit b value) : UI σ Unit) x = .error e y from bind_error he)]

theorem emitJudged_of_emit (hopen : x.closed b = false) {taken : Bool}
    (he : c.emit b value x = .ok taken y) :
    c.emitJudged b value judge x = (c.verdict judge value >>= c.heed b) y := by
  rw [emitJudged_of_open hopen, bind_ok he]

theorem heed_eq_true {answer : Except String Bool} :
    c.heed b answer y = .ok true z ↔ answer = .ok true ∧ y = z := by
  cases answer with
  | ok consumed =>
    change (.ok consumed y : EStateM.Result Interrupt (Toolkit σ) Bool) = .ok true z ↔ _
    simp
  | error reason =>
    simp only [heed, reduceCtorEq, false_and, iff_false]
    cases hf : c.fail b (.callback reason) y with
    | ok a u =>
      rw [bind_ok hf]
      simp
    | error e u =>
      rw [bind_error hf]
      simp

theorem emitJudged_of_closed (hclosed : x.closed b = true) :
    c.emitJudged b value judge x = .ok false x := by
  simp only [emitJudged, run_isClosed_bind, run_ite, hclosed, if_true, run_pure]

namespace Behaves

/-- **A value that arrives is taken**, if the emission comes back. -/
theorem takes (hc : c.Behaves m K) (hx : x.Arriving m K b value) (hopen : x.closed b = false) :
    Lands m K (m.observersPanic = true) (fun y => Free m y ∧ y.HasBridge b)
      (fun taken y => taken = true ∧ x.Takes m b (.next value) y) (c.emit b value x) := by
  obtain ⟨w, screen, notes, hw, hf, hb, rfl, hcause⟩ := hx
  have hlands := hc.dispatched notes hw hf hb hopen (hcause hopen)
  simp only [Client.emit, run_isClosed_bind, run_ite, hopen, Bool.false_eq_true, if_false]
  exact hlands.consequence id (fun y hy => ⟨hf.frame hy, hy.grows.hasBridge hb⟩)
    fun _ _ _ _ h => h

/-- **A bridge that is told to fail takes the fault**, if it is open. -/
theorem fails (hc : c.Behaves m K) (hz : Reached m K z) (hf : Free m z) (hb : z.HasBridge b)
    (hopen : z.closed b = false) (fault : Fault) :
    Lands m K (m.observersPanic = true) (fun u => u.HasBridge b)
      (fun _ u => accepted b z.journal ++ [.failed fault] <+: accepted b u.journal)
      (c.fail b fault z) := by
  have hlands := hc.dispatched [.failing b fault] hz hf hb hopen (.failing fault)
  simp only [Client.fail, run_isClosed_bind, run_ite, hopen, Bool.false_eq_true, if_false,
    run_note_bind]
  refine (hlands.discard (T := fun _ u => accepted b z.journal ++ [.failed fault] <+:
    accepted b u.journal) fun _ u h => ?_).consequence id (fun u hu => hu.grows.hasBridge hb)
      fun _ _ _ _ h => h
  have htaken := h.2.accepted
  rwa [accepted_notedAll, show [Event.failing b fault].filterMap (accepted? b) = [] from rfl,
    List.append_nil] at htaken

end Behaves

end Client

-- ════════════════════════════════════════════════════════════════════════
-- What becomes of a judged value
-- ════════════════════════════════════════════════════════════════════════

/-- **What becomes of a value that is judged** at a bridge. -/
structure Client.Judges (c : Client σ) (m : Manners) (b : BridgeId) (value : Payload)
    (judge : Judge) (x : Toolkit σ) : Prop where
  /-- If the handle is disposed the answer is no, and nothing else happens. -/
  disposed : x.closed b = true → c.emitJudged b value judge x = .ok false x
  /-- Otherwise the value is emitted first, from which no panic comes. -/
  calm : x.closed b = false → ∀ message y, c.emit b value x ≠ .error (.panic message) y
  /-- It is taken before anything else is. -/
  taken : x.closed b = false → ∀ taken y, c.emit b value x = .ok taken y →
    accepted b x.journal ++ [.next value] <+: accepted b y.journal
  /-- Then the judge is asked, and once. -/
  asked : x.closed b = false → ∀ taken y, c.emit b value x = .ok taken y →
    c.emitJudged b value judge x = (c.verdict judge value >>= c.heed b) y
  /-- The answer is that of the judge. -/
  answered : x.closed b = false → ∀ taken y, c.emit b value x = .ok taken y →
    ∀ consumed z, c.verdict judge value y = .ok (.ok consumed) z →
      c.emitJudged b value judge x = .ok consumed z
  /-- The answer of a judge that fails is no. A fault is taken behind all that was taken until then,
      the value included, unless the judge has left the handle disposed. -/
  failed : x.closed b = false → ∀ taken y, c.emit b value x = .ok taken y →
    ∀ reason z, c.verdict judge value y = .ok (.error reason) z →
      (z.closed b = true → c.emitJudged b value judge x = .ok false z) ∧
      (z.closed b = false → (∃ u, c.emitJudged b value judge x = .error .stalled u) ∨
        ∃ u, c.emitJudged b value judge x = .ok false u ∧
          .next value ∈ accepted b z.journal ∧
          ∀ t, Steps m u t → t.Concludes b (accepted b z.journal) (.callback reason))
  /-- So the answer is yes only if it is the judge's. -/
  consumed : x.closed b = false → ∀ taken y, c.emit b value x = .ok taken y →
    ∀ z, c.emitJudged b value judge x = .ok true z ↔ c.verdict judge value y = .ok (.ok true) z

namespace Client.Behaves

theorem takes_of_emit (hc : c.Behaves m K) (hx : x.Arriving m K b value)
    (hopen : x.closed b = false) {taken : Bool} (he : c.emit b value x = .ok taken y) :
    Reached m K y ∧ Free m y ∧ y.HasBridge b ∧ x.Takes m b (.next value) y := by
  have hlands := hc.takes hx hopen
  rw [he] at hlands
  exact ⟨hlands.1, hlands.2.1.1, hlands.2.1.2, hlands.2.2.2⟩

/-- **A judge that fails ends the subscription** behind all that the bridge has taken, if it is
    open. -/
theorem heeds_failure (hc : c.Behaves m K) (hm : m.observersPanic = false) (hz : Reached m K z)
    (hf : Free m z) (hb : z.HasBridge b) (hopen : z.closed b = false) (reason : String) :
    (∃ u, c.heed b (.error reason) z = .error .stalled u) ∨
      ∃ u, c.heed b (.error reason) z = .ok false u ∧
        ∀ t, Steps m u t → t.Concludes b (accepted b z.journal) (.callback reason) := by
  have hfails := hc.fails hz hf hb hopen (.callback reason)
  cases hr : c.fail b (.callback reason) z with
  | error e u =>
    rw [hr] at hfails
    cases e with
    | panic =>
      rw [hm] at hfails
      cases hfails.1
    | stalled => exact .inl ⟨u, bind_error hr⟩
  | ok a u =>
    rw [hr] at hfails
    obtain ⟨hu, hbu, htaken⟩ := hfails
    refine .inr ⟨u, bind_ok hr, fun t hut => ?_⟩
    have hgrows := Steps.grows hut
    exact Steps.concludes hm (hu.past.trans hut.erased) (hgrows.hasBridge hbu)
      (htaken.trans (accepted_isPrefix b hgrows))

/-- **A value is judged once**, if observers do not panic. -/
theorem judges (hc : c.Behaves m K) (hm : m.observersPanic = false)
    (hx : x.Arriving m K b value) (judge : Judge) : c.Judges m b value judge x where
  disposed := emitJudged_of_closed
  calm hopen message y he := by
    have hlands := hc.takes hx hopen
    rw [he, hm] at hlands
    cases hlands.1
  taken hopen taken y he := (hc.takes_of_emit hx hopen he).2.2.2.accepted
  asked hopen _ _ he := emitJudged_of_emit hopen he
  answered hopen taken y he consumed z hv := by
    rw [emitJudged_of_emit hopen he, bind_ok hv]
    rfl
  failed hopen taken y he reason z hv := by
    obtain ⟨hy, hf, hb, htaken⟩ := hc.takes_of_emit hx hopen he
    have hheed : c.emitJudged b value judge x = c.heed b (.error reason) z := by
      rw [emitJudged_of_emit hopen he, bind_ok hv]
    have hverdict : Keeps m K False m.mayPanic (c.verdict judge value) := by
      cases judge with
      | always => exact .pure _
      | client n => exact (hc.judge n value).mono id .inr
    have hz := hverdict y hy False.elim
    rw [hv] at hz
    obtain ⟨hz, hyz, -⟩ := hz
    have hvalue : Signal.next value ∈ accepted b z.journal :=
      (accepted_isPrefix b hyz.grows).subset (htaken.accepted.subset (by simp))
    rw [hheed]
    refine ⟨fun hclosed => ?_, fun hopen' => ?_⟩
    · have hnothing : c.fail b (.callback reason) z = .ok () z := by
        simp only [Client.fail, run_isClosed_bind, run_ite, hclosed, if_true, run_pure]
      exact bind_ok hnothing
    · have hends := hc.heeds_failure hm hz (hf.frame hyz) (hyz.grows.hasBridge hb) hopen' reason
      exact hends.imp id fun hu => hu.imp fun _ h => ⟨h.1, hvalue, h.2⟩
  consumed hopen taken y he z := by
    rw [emitJudged_of_emit hopen he]
    cases hv : c.verdict judge value y with
    | error e u =>
      rw [bind_error hv]
      simp
    | ok answer u =>
      rw [bind_ok hv, heed_eq_true]
      simp

end Client.Behaves

namespace Code

variable {code : Code m τ} {depth : Nat}

/-- **Values are judged once**: whenever a value arrives at a bridge in a run, from a native event
    or from client code, outside a delivery or in the midst of one. -/
theorem values_are_judged_once (hm : m.observersPanic = false) {x : Toolkit (Desk τ)}
    (hx : x.Arriving m (Desk.Faithful m) b value) (judge : Judge) :
    (code.client depth).Judges m b value judge x :=
  (code.behaves depth).judges hm hx judge

/-- Client code that never panics. -/
private def gentle : Manners := ⟨false, false, true, false⟩

private theorem never_panics {p : Prop} {r : Reach} (h : r.mayPanic gentle) : p :=
  absurd h (by cases r <;> simp [gentle, Reach.mayPanic, Manners.mayPanic])

/-- Its observer has another value judged in the midst of the first one, and the judge of the first
    fails. -/
def judgingInside : Code gentle Unit :=
  { quiet gentle with
    observe := fun _ signal =>
      match signal with
      | .next .unit =>
        .call (.emitJudged 1 (.flag true) (.client 0)) (fun _ => rfl) never_panics fun _ => .done ()
      | _ => .done ()
    judge := fun _ value => .done (if value = .unit then .error "unsound" else .ok true) }

/-- The first bridge of a toolkit. -/
def bridged : Toolkit (Desk Unit) := Toolkit.opening { client := { own := () } } (.client 0)

/-- The bridge has delivered both values and then the fault, when the emission is over. -/
theorem values_are_judged_once_inside :
    bridged.Arriving gentle (Desk.Faithful gentle) 1 .unit ∧
    (judgingInside.client 5).Judges gentle 1 .unit (.client 0) bridged ∧
    ∃ u, (judgingInside.client 5).emitJudged 1 .unit (.client 0) bridged = .ok false u ∧
      began 1 u.journal = [.next .unit, .next (.flag true), .failed (.callback "unsound")] ∧
      u.closed 1 = true := by
  have hw := (reached_start (m := gentle) ()).steps
    (.single (.newBridge (.client 0))) rfl
  have hx := Toolkit.Arriving.of_reached (b := 1) hw (.inl rfl) rfl (.inr rfl) .unit
  exact ⟨hx, values_are_judged_once rfl hx (.client 0), _, rfl, by rfl, by rfl⟩

/-- **Judges follow calls**: outside a delivery the judge is asked when the call with the value has
    come back, and no other call is running. In the midst of a delivery it is asked when the value
    has been put behind those that wait. If the emission does not come back, it is not asked. -/
theorem judges_follow_calls {x : Toolkit (Desk τ)}
    (hx : x.Arriving m (Desk.Faithful m) b value) (hopen : x.closed b = false) (judge : Judge) :
    let c := code.client depth
    (∀ e y, c.emit b value x = .error e y → c.emitJudged b value judge x = .error e y) ∧
    ∀ taken y, c.emit b value x = .ok taken y →
      c.emitJudged b value judge x = (c.verdict judge value >>= c.heed b) y ∧
      (x.delivering b = none →
        began b x.journal ++ [.next value] <+: began b y.journal ∧ ¬ Running b y.journal) ∧
      (x.delivering b ≠ none → y = x.queueing b (.next value)) := by
  refine ⟨fun e y he => ?_, fun taken y he => ⟨Client.emitJudged_of_emit hopen he, ?_⟩⟩
  · rw [Client.emitJudged_of_open hopen, bind_error he]
  · have htaken := ((code.behaves depth).takes_of_emit hx hopen he).2.2.2
    refine ⟨htaken.began, fun hd => ?_⟩
    obtain ⟨hnone, -⟩ | ⟨-, hy⟩ := htaken
    · exact absurd hnone hd
    · exact hy

/-- The first bridge has begun to deliver a value. -/
private def delivering : Toolkit (Desk Unit) := bridged.starting 1 (.next .unit)

theorem judges_follow_calls_inside :
    bridged.Arriving gentle (Desk.Faithful gentle) 1 .unit ∧
    (∃ y, (judgingInside.client 5).emit 1 .unit bridged = .ok true y ∧
      began 1 y.journal = [.next .unit, .next (.flag true)] ∧ ¬ Running 1 y.journal) ∧
    delivering.Arriving gentle (Desk.Faithful gentle) 1 (.flag true) ∧
    (judgingInside.client 5).emitJudged 1 (.flag true) (.client 0) delivering =
      ((judgingInside.client 5).verdict (.client 0) (.flag true) >>=
        (judgingInside.client 5).heed 1) (delivering.queueing 1 (.next (.flag true))) := by
  have hw := (reached_start (m := gentle) ()).steps (.single (.newBridge (.client 0))) rfl
  have hx := Toolkit.Arriving.of_reached (b := 1) hw (.inl rfl) rfl (.inr rfl) .unit
  have hdirect : Cause gentle bridged 1 bridged.screen (.next .unit) [] := .direct .unit (.inr rfl)
  have hfound : bridged.HasBridge 1 := rfl
  have hstart : Reached gentle (Desk.Faithful gentle) delivering :=
    hw.steps (.single (.start hfound rfl rfl hdirect)) rfl
  have hy := Toolkit.Arriving.of_reached (b := 1) hstart (.inl rfl) rfl (.inr rfl) (.flag true)
  have houtside :=
    @judges_follow_calls Unit gentle 1 .unit judgingInside 5 bridged hx rfl (.client 0)
  have hinside := @judges_follow_calls Unit gentle 1 (.flag true) judgingInside 5 delivering hy rfl
    (.client 0)
  refine ⟨hx, ⟨_, rfl, by rfl, ((houtside.2 true _ rfl).2.1 rfl).2⟩, hy, ?_⟩
  have hasked := hinside.2 true _ rfl
  rw [hasked.1, hasked.2.2 (by decide)]

/-- Its observer has another value judged in the midst of the first one, and the judge keeps a list
    of the values that it is asked about, each with the calls that have begun by then. -/
def judgingEarly : Code gentle (List (Payload × List Signal)) where
  observe _ signal :=
    match signal with
    | .next .unit =>
      .call (.emitJudged 1 (.flag true) (.client 0)) (fun _ => rfl) never_panics fun _ => .done ()
    | _ => .done ()
  judge _ value :=
    .look fun w asked => .keep (asked ++ [(value, began 1 w.journal)]) (.done (.ok true))
  hear _ _ := .done true
  release _ := .done (.ok ())
  attach _ _ := .done none
  detach _ _ := .done ()
  current _ := .done .unit
  absorb _ _ := .done (.ok ())

/-- Have a value judged on a bridge of its own. -/
def judgingTwo : Program gentle (List (Payload × List Signal)) True True Bool :=
  .making (.newBridge (.client 0)) fun ids => .making (.emitJudged ids.1 .unit (.client 0)) .done

/-- **A judge may precede the call**: the value that came in the midst of a delivery is judged
    before its call has begun, although it is delivered in the end. -/
theorem judge_precedes_call : ∃ u, judgingEarly.outcome 5 [] judgingTwo = .ok true u ∧
    u.client.own =
      [(.flag true, [.next .unit]), (.unit, [.next .unit, .next (.flag true)])] ∧
    began 1 u.journal = [.next .unit, .next (.flag true)] :=
  ⟨_, rfl, by rfl, by rfl⟩

end Code

end WidgetStreams
