import WidgetStreams.Proofs.Concerns
import WidgetStreams.Proofs.Mirrors

/-!
# What a subscription at a slot takes

This file proves that the bridge of a subscription that has its slot has taken
just what the journal tells: the value with which the subscription started, if it
did, and then what its binding makes of the native events that came to the slot
since it was registered, in order. Callbacks may do anything meanwhile.

## Main definitions

- `History.arrivals` — the native events that came to a point
- `History.enlisting` — the entries with which a subscription is registered
- `History.Squared` — a subscription took what it was told since then

## Main results

- `Step.informed` — every step keeps subscriptions informed
- `Steps.squared` — a subscription that has its slot took what it was told

## Design notes

A listener that has its slot has had it since it was registered, so every event
that came to the slot since then reached it. Which of the values are handed over
by now is a matter of the bridge alone.
-/

namespace WidgetStreams

open History

-- ════════════════════════════════════════════════════════════════════════
-- Tidings
-- ════════════════════════════════════════════════════════════════════════

namespace History

variable {p : Point} {x : Entry} {j : List Entry} {binding : Binding} {n : Nat}

/-- The native event that comes to a point. -/
def arrival? (p : Point) : Event → Option NativeEvent
  | .dispatched q e _ => if q = p then some e else none
  | _ => none

/-- **The native events that came** to a point. -/
def arrivals (p : Point) (j : List Entry) : List NativeEvent := collect (arrival? p) j

theorem arrivals_cons : arrivals p (x :: j) = arrivals p j ++ (arrival? p x.event).toList :=
  collect_cons _ _ _

theorem arrival?_self (p : Point) (e : NativeEvent) (content : Option Listener) :
    arrival? p (.dispatched p e content) = some e := if_pos rfl

theorem arrival?_of_ne {s : Site} {u v : Nat} (h : v ≠ u) (e : NativeEvent)
    (content : Option Listener) : arrival? ⟨s, u⟩ (.dispatched ⟨s, v⟩ e content) = none :=
  if_neg fun he => h (congrArg Point.owner he)

/-- **The entries with which a subscription is registered**, latest first. Its bridge takes the
    value with which it starts, if it does. -/
def enlisting (t : Thread) (source : Source) (h : HandleId) (b : BridgeId) (key : Option Nat)
    (initial : Option Payload) : List Entry :=
  (initial.toList.map fun value => ⟨t, .accepted b (.next value) false⟩) ++
    [⟨t, .attached h key initial.isSome⟩, ⟨t, .armed h (.detach source key)⟩,
      ⟨t, .registered h source key⟩]

/-- What a binding on a widget makes of an event that comes to its point. -/
def tiding? (binding : Binding) (n : Nat) (e : Event) : Option Payload :=
  (arrival? (binding.point n) e).bind binding.payload?

/-- **What was told** at the point of a binding on a widget, to anybody who listened. -/
def told (binding : Binding) (n : Nat) (j : List Entry) : List Payload :=
  collect (tiding? binding n) j

theorem tiding?_of_no_arrival (binding : Binding) {e : Event}
    (he : arrival? (binding.point n) e = none) :
    tiding? binding n e = none := by
  rw [tiding?, he]
  rfl

theorem tiding?_of_arrival (binding : Binding) {e : Event} {came : NativeEvent}
    (he : arrival? (binding.point n) e = some came) :
    tiding? binding n e = binding.payload? came := by
  rw [tiding?, he]
  rfl

theorem told_cons_of_none (hx : tiding? binding n x.event = none) :
    told binding n (x :: j) = told binding n j := by
  rw [told, collect_cons, hx]
  exact List.append_nil _

theorem told_cons_of_some {value : Payload} (hx : tiding? binding n x.event = some value) :
    told binding n (x :: j) = told binding n j ++ [value] := by
  rw [told, collect_cons, hx]
  rfl

end History

/-- **A subscription is squared** if it took what it was told since it was registered. Then it
    started with what its widget showed, if it did. -/
def History.Squared (m : Manners) (binding : Binding) (n : Nat) (judge : Judge) (h : HandleId)
    (b : BridgeId) (j : List Entry) : Prop :=
  ∃ (x : Toolkit Unit) (later : List Entry) (key : Option Nat) (initial : Option Payload),
    Steps m Toolkit.fresh x ∧
    j = later ++ (enlisting x.here (.widget binding n judge) h b key initial ++ x.journal) ∧
    initial.isSome = warmed h j ∧
    (∀ value ∈ initial, value = x.screen.current binding n) ∧
    taken b j = initial.toList ++ told binding n later

/-- Whether an event tells a subscription to a binding on a widget of nothing. -/
def Event.isUntold (binding : Binding) (n : Nat) (e : Event) : Bool := (tiding? binding n e).isNone

/-- What tells of nothing is nothing that is told. -/
theorem History.filterMap_tiding?_of_isUntold {binding : Binding} {n : Nat} {es : List Event}
    (hes : ∀ e ∈ es, e.isUntold binding n = true) : es.filterMap (tiding? binding n) = [] :=
  List.filterMap_eq_nil_iff.mpr fun e he => Option.isNone_iff_eq_none.mp (hes e he)

theorem Event.isUntold_of_isForeign {h : HandleId} {b : BridgeId} {e : Event}
    (he : e.isForeign h b = true) (binding : Binding) (n : Nat) : e.isUntold binding n = true := by
  cases e with
  | dispatched => cases he
  | _ => rfl

theorem Event.isUntold_of_isStill {e : Event} (he : e.isStill = true)
    (binding : Binding) (n : Nat) :
    e.isUntold binding n = true := by
  cases e with
  | dispatched => cases he
  | _ => rfl

/-- Nothing comes to a site with what is apart from it. -/
theorem Event.arrival?_of_isApart {s : Site} {e : Event} (he : e.isApart s) {p : Point}
    (hp : p.site = s) : arrival? p e = none := by
  obtain he | ⟨s', hs, he⟩ := he
  · cases e <;> first | rfl | cases he
  · cases e with
    | dispatched q e content => exact if_neg fun h => hs (he.1.symm.trans ((congrArg _ h).trans hp))
    | _ => rfl

/-- What widgets show is the same if mirrors and feeds and the rows are. -/
theorem Screen.ShowsAlike.current {s s' : Screen} (h : s.ShowsAlike s') (hrows : s'.rows = s.rows)
    {binding : Binding} {n : Nat} : s'.current binding n = s.current binding n := by
  have hfocused := Payload.flag.inj (h .focusChanges n (.inl rfl))
  have hquery := Payload.text.inj (h .queries n (.inl rfl))
  have htext := Payload.text.inj (h .texts n (.inr rfl))
  have hpage := Payload.page.inj (h .pageSelections n (.inr rfl))
  have hrows : s'.rowsOf n = s.rowsOf n := by
    rw [Screen.rowsOf, hrows]
    rfl
  cases binding <;> simp only [Screen.current, hrows, hfocused, hquery, htext, hpage]

variable {σ τ α : Type} {m : Manners} {v w : Toolkit σ} {p : Point} {h k : HandleId} {b : BridgeId}
  {binding : Binding} {n : Nat} {judge : Judge}

namespace History.Squared

/-- **What comes is told**, and taken. -/
theorem notedAll (hw : Squared m binding n judge h b w.journal) {es : List Event}
    (hwarm : warmed h (w.notedAll es).journal = warmed h w.journal)
    (htaken : taken b (w.notedAll es).journal =
      taken b w.journal ++ es.filterMap (tiding? binding n)) :
    Squared m binding n judge h b (w.notedAll es).journal := by
  obtain ⟨x, later, key, initial, hx, hsplit, hstart, hinitial, hold⟩ := hw
  refine ⟨x, (es.map fun e => ⟨w.here, e⟩).reverse ++ later, key, initial, hx, ?_,
    hstart.trans hwarm.symm, hinitial, ?_⟩
  · rw [List.append_assoc, ← hsplit]
    rfl
  · have hcame : told binding n (es.map fun e => (⟨w.here, e⟩ : Entry)).reverse =
        es.filterMap (tiding? binding n) := by
      rw [told, collect, List.filterMap_reverse, List.reverse_reverse, List.filterMap_map]
      rfl
    rw [htaken, hold, List.append_assoc, ← hcame]
    exact congrArg _ (collect_append _ _ _).symm

/-- Entries that tell a subscription of nothing. -/
theorem untold (hw : Squared m binding n judge h b w.journal) {es : List Event}
    (hspares : ∀ e ∈ es, e.spares h b = true) (huntold : ∀ e ∈ es, e.isUntold binding n = true) :
    Squared m binding n judge h b (w.notedAll es).journal := by
  have hkept : reflection (binding.point n) h b .unit (w.notedAll es).journal =
      reflection (binding.point n) h b .unit w.journal := reflection_notedAll hspares
  refine hw.notedAll (congrArg Reflection.warmed hkept) ?_
  rw [filterMap_tiding?_of_isUntold huntold, List.append_nil]
  exact congrArg Reflection.taken hkept

end History.Squared

-- ════════════════════════════════════════════════════════════════════════
-- Every step keeps subscriptions informed
-- ════════════════════════════════════════════════════════════════════════

namespace Toolkit

/-- **A subscription at a slot is informed**: it took nothing before it was registered, and what it
    was told as long as it has its slot. -/
structure Informs (w : Toolkit σ) (m : Manners) (h : HandleId) (b : BridgeId) (binding : Binding)
    (n : Nat) (judge : Judge) : Prop where
  early : member (binding.point n) h w.journal = false → taken b w.journal = []
  told : w.HasSlot b binding n judge → Squared m binding n judge h b w.journal

/-- **Subscriptions at slots are informed.** -/
def Informed (w : Toolkit σ) (m : Manners) : Prop :=
  ∀ h b binding n judge, binding.site.isShared = false →
    Occurred (.subscribing h b (.widget binding n judge)) w.journal →
      w.Informs m h b binding n judge

/-- A subscription that begins has its listener nowhere. -/
theorem Sound.not_hasSlot_subscribing (hs : w.Sound) (source : Source) (observer : Observer) :
    ¬ (w.subscribing source observer).HasSlot w.bridges.next binding n judge := by
  intro hslot
  obtain ⟨-, h, key, ho, -⟩ := hs.placed (p := binding.point n) (.inl hslot.1)
  exact hs.not_hasBridge_next (hs.knows ho).1

/-- A registration changes nothing of what widgets show. -/
theorem current_registering (hd : w.disposed h = false) :
    (w.registering h b binding n judge).screen.current binding n = w.screen.current binding n := by
  rw [screen_registering w hd]
  have halike := Screen.ShowsAlike.install w.screen (binding.point n) (.forward binding b judge)
  exact halike.current (Screen.SameAt.install _ _ _ .itemSelected)

variable {x : Toolkit Unit}

/-- **A subscription is registered** and starts with no value. -/
theorem squared_registering (hx : Steps m fresh x) (hd : x.disposed h = false)
    (hm : milestones h x.journal =
      [.subscribing h b (.widget binding n judge), .attaching h (.widget binding n judge)])
    (hnone : taken b x.journal = []) :
    Squared m binding n judge h b ((x.registering h b binding n judge).noted
      (.attached h (x.keyOf b binding n judge) false)).journal := by
  refine ⟨x, [], x.keyOf b binding n judge, none, hx, ?_, ?_,
    fun _ h => absurd h (Option.not_mem_none _), ?_⟩
  · exact journal_noted_registering hd _
  · exact ((warmed_registering hd).trans (warmed_of_milestones hm)).symm
  · exact (taken_registering hd).trans hnone

/-- **A subscription is registered** and starts with what its widget shows. -/
theorem squared_registeringWarm (hx : Steps m fresh x) (hd : x.disposed h = false)
    (hnone : taken b x.journal = []) :
    Squared m binding n judge h b (((x.registering h b binding n judge).noted
      (.attached h (x.keyOf b binding n judge) true)).starting b
        (.next ((x.registering h b binding n judge).screen.current binding n))).journal := by
  rw [current_registering hd]
  let value := x.screen.current binding n
  have htaken : taken b ((x.registering h b binding n judge).noted
      (.attached h (x.keyOf b binding n judge) true)).journal = [] :=
    (taken_registering hd).trans hnone
  refine ⟨x, [⟨x.here, .began b (.next value)⟩], x.keyOf b binding n judge, some value, hx, ?_, ?_,
    fun _ h => (Option.some.inj h).symm, ?_⟩
  · exact journal_starting_registering hd _ _ _
  · rw [Option.isSome_some, eq_comm, warmed, List.any_eq_true]
    exact ⟨⟨x.here, .attached h (x.keyOf b binding n judge) true⟩,
      by simp [journal_starting, noted], beq_self_eq_true h⟩
  · rw [taken_starting, htaken, if_pos rfl]
    rfl

end Toolkit

/-- What tells a subscription of nothing leaves it as informed as it was. -/
theorem Toolkit.Informs.quiet (hv : v.Informs m k b binding n judge) (es : List Event)
    (hj : w.journal = (v.notedAll es).journal) (hspares : ∀ e ∈ es, e.spares k b = true)
    (huntold : v.HasSlot b binding n judge → ∀ e ∈ es, e.isUntold binding n = true)
    (hslot : w.HasSlot b binding n judge → v.HasSlot b binding n judge) :
    w.Informs m k b binding n judge := by
  have hkept : reflection (binding.point n) k b .unit w.journal =
      reflection (binding.point n) k b .unit v.journal := by
    rw [hj, reflection_notedAll hspares]
  refine ⟨fun hr => ?_, fun hw => ?_⟩
  · rw [show taken b w.journal = taken b v.journal from congrArg Reflection.taken hkept]
    exact hv.early ((congrArg Reflection.registered hkept).symm.trans hr)
  · rw [hj]
    exact (hv.told (hslot hw)).untold hspares (huntold (hslot hw))

/-- **A native event is told** to the subscription that has the slot. -/
theorem Toolkit.Informs.tell (hv : v.Informs m k b binding n judge) {e : NativeEvent}
    {value : Payload} (hvalue : binding.payload? e = some value) {queued : Bool}
    (hj : w.journal = (v.notedAll
      ([.dispatched (binding.point n) e (some (.forward binding b judge)),
        .heard (.forward binding b judge) e] ++ takings b value queued)).journal)
    (hmember : member (binding.point n) k v.journal = true) (hslot : v.HasSlot b binding n judge) :
    w.Informs m k b binding n judge := by
  have hkept : reflection (binding.point n) k b .unit w.journal =
      { reflection (binding.point n) k b .unit v.journal with
        taken := taken b v.journal ++ [value] } := by
    rw [hj, reflection_takings (by simp [Event.spares])]
    rfl
  refine ⟨fun hr => ?_, fun _ => ?_⟩
  · have hstill : member (binding.point n) k w.journal = true :=
      (congrArg Reflection.registered hkept).trans hmember
    rw [hr] at hstill
    cases hstill
  · have htaken : taken b w.journal = taken b v.journal ++ [value] :=
      congrArg Reflection.taken hkept
    have htold := (tiding?_of_arrival binding (arrival?_self (binding.point n) e
      (some (.forward binding b judge)))).trans hvalue
    have hnone : (.heard (.forward binding b judge) e :: takings b value queued).filterMap
        (tiding? binding n) = [] := by
      refine filterMap_tiding?_of_isUntold ?_
      cases queued <;> simp [takings, Event.isUntold, tiding?, arrival?]
    rw [hj]
    refine (hv.told hslot).notedAll ?_ ?_
    · rw [← hj]
      exact congrArg Reflection.warmed hkept
    · rw [← hj, htaken, List.cons_append, List.filterMap_cons_some htold, List.singleton_append,
        hnone]

/-- **Every step keeps subscriptions informed**, if nobody else emits on the bridges of widgets. -/
theorem Step.informed {v w : Toolkit Unit} (hev : m.everywhere = false)
    (hreach : Steps m Toolkit.fresh v) (hv : v.Informed m) (h : Step m v w) : w.Informed m := by
  have hs := hreach.sound_of_fresh
  have hone := hreach.subscriptions_single
  intro k b binding n judge hp how
  obtain ho | ⟨rfl, rfl, observer, rfl⟩ := h.occurred_subscribing hs how
  swap
  · -- the subscription is new
    refine ⟨fun _ => ?_, fun hslot => absurd hslot (hs.not_hasSlot_subscribing _ observer)⟩
    exact congrArg Reflection.taken
      (hs.reflection_subscribing (p := binding.point n) _ observer .unit)
  have hinformed := hv k b binding n judge hp ho
  obtain ⟨hb, -⟩ := hs.knows ho
  have hopen := h.grows.closed hb
  have hsame := fun es (hj : w.journal = (v.notedAll es).journal)
    (hspares : ∀ e ∈ es, e.spares k b = true)
    (huntold : v.HasSlot b binding n judge → ∀ e ∈ es, e.isUntold binding n = true)
    (hslot : (w.screen.slot (binding.point n)).content = some (.forward binding b judge) →
      (v.screen.slot (binding.point n)).content = some (.forward binding b judge)) =>
    hinformed.quiet es hj hspares huntold fun hw => ⟨hslot hw.1, hopen hw.2⟩
  cases h.befalls hev hs hone ho with
  | quiet es hj hes _ hslot =>
    exact hsame es hj (fun e he => Event.spares_of_isForeign (hes e he))
      (fun _ e he => Event.isUntold_of_isForeign (hes e he) _ _) (hslot hp)
  | registered hm hd =>
    have hnone := hinformed.early (member_of_milestones hm)
    exact ⟨fun _ => (Toolkit.taken_registering hd).trans hnone,
      fun _ => Toolkit.squared_registering hreach hd hm hnone⟩
  | started hm hd =>
    have hnone := hinformed.early (member_of_milestones hm)
    refine ⟨fun hr => ?_, fun _ => Toolkit.squared_registeringWarm hreach hd hnone⟩
    have hmember : member (binding.point n) k (((v.registering k b binding n judge).noted
        (.attached k (v.keyOf b binding n judge) true)).starting b
          (.next ((v.registering k b binding n judge).screen.current binding n))).journal =
            true := by
      refine member_eq_true.mpr ⟨binding, n, judge, v.keyOf b binding n judge, ?_, rfl⟩
      rw [Toolkit.journal_starting_registering hd, Toolkit.occurred_notedAll]
      exact .inl List.mem_cons_self
    rw [hr] at hmember
    cases hmember
  | told turn hcontent halive hmember hvalue hsignals hj =>
    exact hinformed.tell hvalue hj hmember ⟨hcontent, halive⟩
  | notified hshared =>
    rw [hp] at hshared
    cases hshared
  | @toldOther w q e c binding' judge' value queued hcb turn hcontent hj =>
    refine hsame _ hj ?_ (fun hv' => ?_) fun hc => Screen.slot_congr turn.slots _ ▸ hc
    · cases queued <;> simp [takings, Event.spares, hcb]
    · -- the other one's listener is in its own slot
      have hq : q ≠ binding.point n := by
        rintro rfl
        rw [hv'.1] at hcontent
        cases hcontent
        exact hcb rfl
      cases queued <;> simp [takings, Event.isUntold, tiding?, arrival?, hq]
  | @notifiedOther w e c binding' judge' value queued hcb hscreen hj =>
    refine hsame _ hj ?_ (fun _ => ?_) (hscreen ▸ id)
    · cases queued <;> simp [takings, Event.spares, hcb]
    · cases queued <;> simp [takings, Event.isUntold, tiding?, arrival?]
  | @passed s q e turn hpass =>
    refine hsame [_] rfl (by simp [Event.spares]) (fun hv' => ?_) fun hc =>
      Screen.slot_congr turn.slots _ ▸ hc
    rw [List.forall_mem_singleton]
    by_cases hq : q = binding.point n
    · subst hq
      have hnone := (hpass hv'.1).resolve_right (by simp [hv'.2])
      simp [Event.isUntold, tiding?, arrival?, hnone]
    · simp [Event.isUntold, tiding?, arrival?, hq]
  | altered alteration =>
    exact hsame [_] rfl (by simp [Event.spares])
      (fun _ => by simp [Event.isUntold, tiding?, arrival?])
      fun hc => Screen.slot_congr alteration.slots _ ▸ hc
  | advanced | ignored | heardOther | operating | operated | flagged =>
    exact hsame [_] rfl (by simp [Event.spares])
      (fun _ => by simp [Event.isUntold, tiding?, arrival?]) id

/-- **A subscription that has its slot took what it was told**, wherever steps lead. -/
theorem Steps.squared {w : Toolkit Unit} (hev : m.everywhere = false)
    (hw : Steps m Toolkit.fresh w) (hp : binding.site.isShared = false)
    (ho : Occurred (.subscribing h b (.widget binding n judge)) w.journal)
    (hslot : w.HasSlot b binding n judge) : Squared m binding n judge h b w.journal := by
  refine (hw.invariant (I := fun w => w.Informed m) ?_ ?_ h b binding n judge hp ho).told hslot
  · exact fun _ _ _ _ _ _ ho => absurd ho (not_occurred_nil _)
  · exact fun hv ih h => h.informed hev hv ih

-- ════════════════════════════════════════════════════════════════════════
-- Mirrors show what was told last
-- ════════════════════════════════════════════════════════════════════════

/-- **A mirror shows what was told last**, if anything was. -/
def Toolkit.ShowsTold (w : Toolkit σ) (binding : Binding) (n : Nat) : Prop :=
  w.screen.current binding n =
    (told binding n w.journal).getLast?.getD (({} : Screen).current binding n)

/-- What tells of nothing and changes nothing of what is shown. -/
theorem Toolkit.ShowsTold.quiet (hv : v.ShowsTold binding n) (es : List Event)
    (hj : w.journal = (v.notedAll es).journal) (hes : ∀ e ∈ es, e.isUntold binding n = true)
    (hs : w.screen.current binding n = v.screen.current binding n) : w.ShowsTold binding n := by
  rw [ShowsTold, hj, told, collect_notedAll, filterMap_tiding?_of_isUntold hes, List.append_nil, hs]
  exact hv

/-- **A mirror shows what is told** in its turn. -/
theorem Toolkit.ShowsTold.turn (hv : v.ShowsTold binding n) (hmirror : binding.isMirror = true)
    {s : Screen} {q : Point} {e : NativeEvent} (hturn : Turn v.screen s q e)
    {content : Option Listener} {es : List Event}
    (hj : w.journal = (v.notedAll (.dispatched q e content :: es)).journal)
    (hes : ∀ e ∈ es, e.isUntold binding n = true) (hs : w.screen = s) : w.ShowsTold binding n := by
  cases htold : tiding? binding n (.dispatched q e content) with
  | none =>
    refine hv.quiet _ hj (List.forall_mem_cons.mpr ⟨by rw [Event.isUntold, htold]; rfl, hes⟩) ?_
    rw [hs]
    refine hturn.elsewhere binding n hmirror ?_
    by_cases hq : q = binding.point n
    · exact .inr (by simpa [tiding?, arrival?, hq] using htold)
    · exact .inl (Ne.symm hq)
  | some value =>
    obtain ⟨came, hcame, hpayload⟩ := Option.bind_eq_some_iff.mp htold
    obtain ⟨rfl, rfl⟩ : q = binding.point n ∧ e = came := by simpa [arrival?] using hcame
    rw [ShowsTold, hj, told, collect_notedAll, List.filterMap_cons_some htold,
      filterMap_tiding?_of_isUntold hes, List.getLast?_concat, hs]
    exact (hturn.told binding value hmirror rfl hpayload).1

/-- **Every step lets mirrors show what was told last**, but the focus, which may be set
    directly. -/
theorem Step.showsTold (hmirror : binding.isMirror = true) (hfocus : binding ≠ .focusChanges)
    (hv : v.ShowsTold binding n) (h : Step m v w) : w.ShowsTold binding n := by
  cases h.redraws with
  | still es hj hes hshows =>
    exact hv.quiet es hj (fun e he => Event.isUntold_of_isStill (hes e he) _ _)
      (hshows binding n (.inl hmirror))
  | turned _ turn hj hes =>
    exact hv.turn hmirror turn hj (fun e he => Event.isUntold_of_isStill (hes e he) _ _) rfl
  | altered alteration =>
    exact hv.quiet [_] rfl (by simp [Event.isUntold, tiding?, arrival?])
      (alteration.mirrors binding n hmirror)
  | flagged =>
    refine hv.quiet [_] rfl (by simp [Event.isUntold, tiding?, arrival?]) ?_
    cases binding with
    | focusChanges => exact absurd rfl hfocus
    | itemSelections | queries => rfl
    | _ => cases hmirror

/-- **Mirrors show what was told last**, wherever steps lead. -/
theorem Steps.showsTold {w : Toolkit Unit} (hw : Steps m Toolkit.fresh w)
    (hmirror : binding.isMirror = true) (hfocus : binding ≠ .focusChanges) :
    w.ShowsTold binding n :=
  hw.invariant (I := fun w => w.ShowsTold binding n) rfl fun _ ih h =>
    h.showsTold hmirror hfocus ih

end WidgetStreams
