import WidgetStreams.Proofs.Aborting
import WidgetStreams.Proofs.AlikeStreams
import WidgetStreams.Proofs.Releasing

/-!
# Warm streams and cold ones

This file proves that a warm stream is the cold stream of the same source with one
value put in front, the current one: whatever happens after the two subscriptions,
the warm one is ahead by this value, and nothing else is different.

## Main definitions

- `Toolkit.Ahead` — one toolkit is ahead of another by values that a bridge has handed over
- `Client.AttachesQuietly` — a source does not emit while it registers a bridge
- `Client.Leads` — what a warm subscription comes to, compared with the cold one

## Main results

- `Steps.values_of_disposed` — a subscription that is disposed is handed nothing more
- `Code.warm_streams_start_with_current` — warm streams are ahead by their current value

## Design notes

The two runs are one and the same until the source is registered. From there on
the warm one looks at the current value and hands it over, and the two are twins
of which one is ahead.
-/

namespace WidgetStreams

open History UI

variable {σ τ : Type} {m : Manners} {J : σ → Prop} {K : σ → σ → Prop} {v w u t x y : Toolkit σ}
  {P : Pairing} {c : Client σ} {h : HandleId} {b : BridgeId} {source : Source} {observer : Observer}

/-- **One toolkit is ahead of another** by the values that a bridge has handed over there first. -/
structure Toolkit.Ahead (S : τ → τ → Prop) (b : BridgeId) (first : List Payload)
    (v w : Toolkit (Desk τ)) : Prop where
  values : values b v.journal = first ++ values b w.journal
  screen : v.screen.Same w.screen
  disposed : ∀ k, v.disposed k = w.disposed k
  own : S v.client.own w.client.own

/-- Where twins differ in what was handed over first, the one is ahead. -/
theorem Pairing.Resting.toAhead {S : τ → τ → Prop} {v w : Toolkit (Desk τ)} (hP : P.Plain)
    (hgone : P.gone = none) (hvw : P.Resting (Desk.Same S) v w) :
    v.Ahead S P.bridge P.first w where
  values := by rw [hvw.values, hP.project, List.filterMap_some]
  screen := hP.same hgone hvw.screen
  disposed := hvw.disposed
  own := hvw.client

-- ════════════════════════════════════════════════════════════════════════
-- The end of a subscription
-- ════════════════════════════════════════════════════════════════════════

/-- The values are read off the calls. -/
theorem History.values_congr {i j : List Entry} (hij : marks b i = marks b j) :
    values b i = values b j := by
  rw [values, began, hij, values, began]

/-- **A subscription that is disposed is handed nothing more**, wherever steps lead, if its bridge
    is not in the middle of a delivery. -/
theorem Steps.values_of_disposed (hc : c.Behaves m J) (hu : Reached m J u) (hb : u.HasBridge b)
    (hd : u.delivering b = none) (hr : c.dispose (u.bridges.get b).handle u = .ok () t)
    {x : Toolkit Unit} (hx : Steps m t.erased x) : values b x.journal = values b u.journal := by
  have hh := hu.sound.owned hb
  have hdisposes := hc.disposes hu hh
  cases hopen : u.disposed (u.bridges.get b).handle with
  | true =>
    have ht := hdisposes.again hopen
    rw [hr] at ht
    obtain rfl : t = u := by
      cases ht
      rfl
    exact values_congr (Steps.rests (Steps.sound_of_fresh hu.past) hx hb hopen hd).1
  | false =>
    have hsteps := hdisposes.first hopen
    rw [hr] at hsteps
    let y := u.disposing (u.bridges.get b).handle
    have hstep : Step m u y := .dispose hh hopen
    have hclosed : y.closed b = true := by
      rw [Toolkit.closed, Toolkit.bridges_disposing, Toolkit.disposed_disposing]
      simp
    have hresting : y.delivering b = none := by
      rw [Toolkit.delivering, Toolkit.bridges_disposing]
      exact hd
    have hpast : Steps m Toolkit.fresh y.erased := hu.past.tail hstep.erased
    have hyx : Steps m y.erased x := (Steps.erased hsteps).trans hx
    have hlater := Steps.rests (Steps.sound_of_fresh hpast) hyx (hstep.grows.hasBridge hb) hclosed
      hresting
    refine values_congr (hlater.1.trans ?_)
    change marks b y.journal = _
    rw [Toolkit.journal_disposing, marks_notedAll]
    cases (u.handles.get (u.bridges.get b).handle).action <;> simp [mark?]

-- ════════════════════════════════════════════════════════════════════════
-- Enrolling
-- ════════════════════════════════════════════════════════════════════════

/-- A source does not emit by a bridge while it registers the bridge. Widgets never do. -/
def Client.AttachesQuietly (c : Client σ) (source : Source) (b : BridgeId) : Prop :=
  ∀ callback thread, source = .client callback thread → ∀ x key y,
    c.attach callback b x = .ok key y → values b y.journal = values b x.journal

/-- **Nothing is handed over while a bridge is registered** with a quiet source. The bridge is
    closed when its handle is disposed. -/
theorem Client.Behaves.enrolled (hc : c.Behaves m J) (hu : Reached m J u)
    (hd : u.disposed h = false) (hst : Underway m w h b [.subscribing h b source] u)
    (hq : c.AttachesQuietly source b) {key : Option Nat} (hr : c.enroll source b h u = .ok key y) :
    y.closed b = y.disposed h ∧
      (y.disposed h = false → values b y.journal = values b u.journal) := by
  cases source with
  | widget binding owner judge =>
    rw [Client.enroll_widget c hd] at hr
    cases hr
    have hhandle := (hu.sound.knows (hu.sound.hasHandle_of_subscribing hst.stages).2).2
    refine ⟨?_, fun _ => values_congr ?_⟩
    · rw [Toolkit.closed, Toolkit.bridges_registering]
      exact congrArg _ hhandle
    · rw [Toolkit.journal_registering, marks_notedAll, marks_noted]
      simp [mark?]
  | client callback thread =>
    have hlands := hc.enroll_client hu hd hst
    rw [hr] at hlands
    obtain ⟨hy, -, hst', x, hx, hopen⟩ := hlands
    refine ⟨?_, fun ho => ?_⟩
    · rw [Toolkit.closed, (hy.sound.knows (hy.sound.hasHandle_of_subscribing hst'.stages).2).2]
    · rw [hopen ho]
      refine Eq.trans (values_congr ?_) ((hq callback thread rfl _ _ _ hx).trans (values_congr ?_))
      · rw [Toolkit.journal_arming, marks_notedAll, marks_noted]
        split <;> simp [mark?]
      · rw [marks_noted]
        simp [mark?]

-- ════════════════════════════════════════════════════════════════════════
-- Handing over the current value
-- ════════════════════════════════════════════════════════════════════════

/-- To ask for the current value of a source has no effects but on what is recorded. -/
def Client.Peeks (c : Client σ) (P : Pairing) (K : σ → σ → Prop) (source : Source) : Prop :=
  ∀ x, ∃ value z, c.currentValue source x = .ok value z ∧ P.Recorded K [] x z

namespace Client.Impartial

variable (hc : c.Impartial P K)
include hc

/-- **A value is emitted** by a bridge at rest to an observer that only records. -/
theorem emits (hpos : 0 < c.patience) (htell : ∀ signal w, ∃ u,
      c.tell P.observer signal w = .ok () u ∧ P.Recorded K [] w u)
    (hb : y.HasBridge P.bridge) (ho : (y.bridges.get P.bridge).observer = P.observer)
    (hidle : y.closed P.bridge = false → y.delivering P.bridge = none ∧ y.queue P.bridge = [])
    (value : Payload) :
    ∃ taken u, c.emit P.bridge value y = .ok taken u ∧
      P.Recorded K (if y.closed P.bridge then [] else [value]) y u := by
  cases hcl : y.closed P.bridge with
  | true =>
    refine ⟨false, y.noted (.late P.bridge), ?_, .noted hc.equivalence y rfl⟩
    simp only [Client.emit, run_isClosed_bind, run_ite, hcl, if_true]
    rfl
  | false =>
    obtain ⟨hd, hq⟩ := hidle hcl
    have hnext : ∀ fault, Signal.next value ≠ .failed fault := by simp
    obtain ⟨u, hu, hrec⟩ := hc.delivers hpos htell hnext hb ho hd hq
    exact ⟨true, u, (Client.emit_of_open hd hcl).trans (bind_ok hu), hrec⟩

/-- **The current value is handed over**, unless the subscription is disposed. -/
theorem greets (hpeek : c = .stalled ∨ c.Peeks P K source) (hy : P.Resting K x y) :
    c = .stalled ∨ ∃ value z u, c.currentValue source y = .ok value z ∧
      c.greet ⟨source, true⟩ P.bridge y = .ok () u ∧
      P.Recorded K (if y.closed P.bridge then [] else [value]) y u := by
  obtain he | ⟨hpos, htell⟩ := hc.tells
  · exact .inl he
  refine hpeek.imp id fun hpeek => ?_
  obtain ⟨value, z, hz, hyz⟩ := hpeek y
  have hemit : ∃ taken u, c.emit P.bridge value z = .ok taken u ∧
      P.Recorded K (if z.closed P.bridge then [] else [value]) z u := by
    refine hc.emits hpos htell ?_ ?_ ?_ value <;> obtain ⟨_, _, _, rfl⟩ := hyz.rest
    exacts [hy.found, hy.observer, hy.idle]
  have hclosed : z.closed P.bridge = y.closed P.bridge := by
    obtain ⟨_, _, _, rfl⟩ := hyz.rest
    rfl
  rw [hclosed] at hemit
  obtain ⟨taken, u, hu, hzu⟩ := hemit
  refine ⟨value, z, u, hz, (bind_ok hz).trans (bind_ok hu), ?_⟩
  exact hyz.trans hc.equivalence hzu

/-- **A warm stream is settled with** like the cold one, and then the current value is handed
    over. -/
theorem settle_warm (hne : c ≠ .stalled) (hP : P.Plain) (hfirst : P.first = [])
    (hbehaves : c.Behaves m J) (hquiet : c.AttachesQuietly P.twin P.bridge)
    (hpeek : c.Peeks P K P.twin) (ht : Reached m J t) (hd : t.disposed h = false)
    (hst : Underway m w h P.bridge [.subscribing h P.bridge P.twin] t) (hrest : P.Resting K t t)
    (hempty : values P.bridge t.journal = []) :
    (∃ e y, ∀ warm, c.settle ⟨P.twin, warm⟩ P.bridge h t = .error e y) ∨
    ∃ v value u z z', c.settle ⟨P.twin, false⟩ P.bridge h t = .ok h v ∧
      c.settle ⟨P.twin, true⟩ P.bridge h t = .ok h u ∧ v.AgreesBut z none none ∧
      c.currentValue P.twin z = .ok value z' ∧
      (v.disposed h = false → values P.bridge v.journal = []) ∧
      (P.ahead (if v.closed P.bridge then [] else [value])).Resting K u v := by
  have hK := hc.equivalence
  cases hr : c.enroll P.twin P.bridge h t with
  | error e y => exact .inl ⟨e, y, fun warm => bind_error hr⟩
  | ok key y =>
    -- both have come to the same toolkit by now
    have hy : P.Resting K y y := by
      have hagree := hc.enrollOwn (m := m) hP.lawful h t t hrest
      rw [hP.source, hr] at hagree
      obtain ⟨_, _, he, -, hyy⟩ := hagree
      cases he
      exact hyy
    obtain ⟨hclosed, hvalues⟩ := hbehaves.enrolled ht hd hst hquiet hr
    rw [hempty] at hvalues
    let y₁ := y.noted (.attached h key true)
    let y₀ := y.noted (.attached h key false)
    have hy₁ : P.Resting K y₁ y₁ := hy.noted rfl rfl
    obtain ⟨value, z, u, hz, hu, hrec⟩ := (hc.greets (.inr hpeek) hy₁).resolve_left hne
    have hcold : c.settle ⟨P.twin, false⟩ P.bridge h t = .ok h (y₀.noted (.concluded h)) :=
      bind_ok hr
    have hwarm : c.settle ⟨P.twin, true⟩ P.bridge h t = .ok h (u.noted (.concluded h)) := by
      refine (bind_ok hr).trans ?_
      rw [run_note_bind]
      exact bind_ok hu
    refine .inr ⟨_, value, _, y₁, z, hcold, hwarm, ?_, hz, ?_, ?_⟩
    · exact ⟨rfl, rfl, rfl, rfl, rfl, rfl, rfl, rfl, fun _ _ => rfl, fun _ _ => rfl⟩
    · intro hopen
      rw [values_noted (.inl rfl), values_noted (.inl rfl)]
      exact hvalues hopen
    · change (P.ahead (if y.closed P.bridge then [] else [value])).Resting K _ _
      change P.Recorded K (if y.closed P.bridge then [] else [value]) y₁ u at hrec
      have hboth : P.Resting K y₁ y₀ := hy.noted rfl rfl
      refine Pairing.Resting.noted ?_ rfl rfl
      cases hcl : y.closed P.bridge with
      | true =>
        rw [hcl] at hrec
        have hsame : P.ahead [] = P := by rw [Pairing.ahead, ← hfirst]
        rw [if_pos rfl, hsame]
        exact hboth.recorded hK hrec (.refl hK y₀) rfl (by simp)
      | false =>
        rw [hcl] at hrec
        refine hboth.ahead hK hrec hfirst ?_
        rw [values_noted (.inl rfl)]
        exact hvalues (hclosed ▸ hcl)

/-- **A warm subscription** is made like the cold one, and is ahead of it by the current value. -/
theorem warms (hP : P.Plain) (hgone : P.gone = none) (hfirst : P.first = [])
    (hb : P.bridge = w.bridges.next) (hbehaves : c.Behaves m J) (hw : Reached m J w)
    (hn : P.twin.thread w.screen = w.here ∨ w.threadCheck = .disabled)
    (hquiet : c.AttachesQuietly P.twin P.bridge) (hpeek : c = .stalled ∨ c.Peeks P K P.twin) :
    (∃ e y, ∀ warm, c.subscribe ⟨P.twin, warm⟩ P.observer w = .error e y) ∨
    ∃ v value u z z', c.subscribe ⟨P.twin, false⟩ P.observer w = .ok w.handles.next v ∧
      c.subscribe ⟨P.twin, true⟩ P.observer w = .ok w.handles.next u ∧ v.AgreesBut z none none ∧
      c.currentValue P.twin z = .ok value z' ∧
      (v.disposed w.handles.next = false → values P.bridge v.journal = []) ∧
      (P.ahead (if v.closed P.bridge then [] else [value])).Resting K u v := by
  have hK := hc.equivalence
  by_cases hne : c = .stalled
  · obtain ⟨y, hy⟩ : ∃ y, ∀ warm, c.subscribe ⟨P.twin, warm⟩ P.observer w = .error .stalled y := by
      rw [hne]
      exact Client.subscribe_of_stalled P.observer hw.sound hn
    exact .inl ⟨_, y, hy⟩
  obtain ⟨t, hrec, hopen, hdispatch, hrun⟩ := (hc.settles hw.sound hb hn).resolve_left hne
  have hlands := hbehaves.firstCall hw P.twin P.observer
  rw [hdispatch] at hlands
  obtain ⟨ht, -, hst⟩ := hlands
  have hstart : P.Resting K (w.admitting P.twin P.observer) (w.admitting P.twin P.observer) := by
    have hbegin := Pairing.Resting.begin (m := m) hK hw.sound hP.lawful hb hfirst
      (.of_sound hw.sound hb hgone) fun _ _ _ => .of_gone_eq_none hgone _
    rwa [hP.source] at hbegin
  simp only [hrun, ← hb]
  rw [← hb] at hst
  refine hc.settle_warm hne hP hfirst hbehaves hquiet (hpeek.resolve_left hne) ht hopen hst
    (hstart.recorded hK hrec hrec rfl (by simp)) ?_
  rw [hrec.values, List.append_nil, hb, hw.sound.values_admitting]

end Client.Impartial

/-- **A subscription that was made** has its handle from its bridge, which is at rest. -/
theorem Client.Behaves.subscribed (hc : c.Behaves m J) (hw : Reached m J w) (hf : Free m w)
    {stream : Stream} (hn : stream.source.thread w.screen = w.here ∨ w.threadCheck = .disabled)
    (ht : c.subscribe stream observer w = .ok w.handles.next t) :
    Reached m J t ∧ t.HasBridge w.bridges.next ∧
      (t.bridges.get w.bridges.next).handle = w.handles.next ∧
      t.delivering w.bridges.next = none := by
  have hlands := hc.letIn hw hf stream observer
  rw [← Client.subscribe_of_admitted hn, ht] at hlands
  obtain ⟨hreached, hframe, -, es, hst⟩ := hlands
  have hknown := hreached.sound.knows (hreached.sound.hasHandle_of_subscribing hst.stages).2
  exact ⟨hreached, hknown.1, hknown.2, (hframe.delivering _).trans hst.idle⟩

-- ════════════════════════════════════════════════════════════════════════
-- Code
-- ════════════════════════════════════════════════════════════════════════

/-- **What a warm subscription comes to**, if the cold one comes to `v`: it comes to `u`, where the
    bridge has handed over the current value, unless the source has disposed the subscription in the
    course of registering. -/
structure Client.Leads (c : Client (Desk τ)) (m : Manners) (S : τ → τ → Prop) (source : Source)
    (observer : Observer) (h : HandleId) (b : BridgeId) (value : Payload) (u v : Toolkit (Desk τ)) :
    Prop where
  /-- The value is the current one of the source when the subscription is made. -/
  current : ∃ z z', v.AgreesBut z none none ∧ c.currentValue source z = .ok value z'
  /-- It is handed over before the call comes back. -/
  atOnce : v.disposed h = false → values b u.journal = [value] ∧ values b v.journal = []
  /-- Whatever is done afterwards, the one stays ahead by this value. Answers are the same, and so
      is everything that is shown or registered. -/
  later : ∀ {s p : Prop} {α : Type} (program program' : Program m τ s p α),
    let first := if v.disposed h then [] else [value]
    program.Alike ((Pairing.itself b observer source).ahead first) S program' →
      UI.Agree True Eq (Toolkit.Ahead S b first) (program.run c u) (program'.run c v)
  /-- If the handle is disposed, this is all that is ever handed over. -/
  disposed : ∀ t, c.dispose h u = .ok () t → ∀ x, Steps m t.erased x →
    values b x.journal = values b u.journal

namespace Code

variable {code : Code m τ} {depth : Nat} {S : τ → τ → Prop}

/-- To ask for the current value has no effects if the program only records. -/
theorem peeks (hS : Equivalence S)
    (hcurrent : ∀ n thread, source = .client n thread → ∀ own, (code.current n).Records S own own) :
    code.client depth = .stalled ∨ (code.client depth).Peeks P (Desk.Same S) source := by
  cases depth with
  | zero => exact .inl rfl
  | succ depth =>
    refine .inr fun x => ?_
    cases source with
    | widget binding owner judge =>
      exact ⟨_, x, rfl, .refl (Desk.Same.equivalence hS) x⟩
    | client n thread =>
      obtain ⟨value, d, hd, hown⟩ := (hcurrent n thread rfl x.client.own).run
        (c := code.client depth) (w := x) rfl
      exact ⟨value, _, hd, .client_of hown⟩

/-- **A warm stream is its cold stream with the current value in front.** The observer only records,
    the source does not emit while it registers, and its current value is read without effects. Then
    the warm subscription comes to the same end as the cold one and is ahead of it from there on. -/
theorem warm_streams_start_with_current {w : Toolkit (Desk τ)}
    (hw : Reached m (Desk.Faithful m) w) (hf : Free m w) (source : Source) (observer : Observer)
    (hcode : ∀ first,
      code.Impartial ((Pairing.itself w.bridges.next observer source).ahead first) S)
    (hquiet : (code.client depth).AttachesQuietly source w.bridges.next)
    (hcurrent : ∀ n thread, source = .client n thread → ∀ own, (code.current n).Records S own own) :
    let c := code.client depth
    let stream : Stream := ⟨source, true⟩
    let warm := c.subscribe stream observer w
    let cold := c.subscribe stream.cold observer w
    (source.thread w.screen ≠ w.here → w.threadCheck = .enforce → warm = cold) ∧
    (source.thread w.screen = w.here ∨ w.threadCheck = .disabled →
      (∀ e v, cold = .error e v → warm = .error e v) ∧
      ∀ h v, cold = .ok h v → ∃ value u, warm = .ok h u ∧
        c.Leads m S source observer h w.bridges.next value u v) := by
  intro c stream warm cold
  let b := w.bridges.next
  let P := Pairing.itself b observer source
  have hP : ∀ first, (P.ahead first).Plain := fun _ => ⟨rfl, rfl, fun _ => trivial⟩
  have hbehaves : c.Behaves m (Desk.Faithful m) := code.behaves depth
  have himpartial : ∀ first, c.Impartial (P.ahead first) (Desk.Same S) := fun first =>
    (hcode first).client ((hP first).sameJudges (hcode first)) (hP first).lawful depth
  refine ⟨fun hn ht => Client.subscribe_congr_of_refused (by rfl) hn ht, fun hn => ?_⟩
  have hwarms := (himpartial []).warms (hP []) rfl rfl rfl hbehaves hw hn hquiet
    (peeks (hcode []).equivalence hcurrent)
  obtain ⟨e, y, he⟩ | ⟨v, value, u, z, z', hcold, hwarm, hagrees, hz, hempty, hrest⟩ := hwarms
  · refine ⟨fun e' v hv => ?_, fun h v hv => ?_⟩
    · exact (he true).trans ((he false).symm.trans hv)
    · exact absurd ((he false).symm.trans hv) (by simp)
  refine ⟨fun e y hy => absurd (hcold.symm.trans hy) (by simp), fun h v' hv' => ?_⟩
  obtain ⟨rfl, rfl⟩ : w.handles.next = h ∧ v = v' := by
    have := hcold.symm.trans hv'
    cases this
    exact ⟨rfl, rfl⟩
  -- the handle is that of the bridge, in both
  obtain ⟨-, -, hv, -⟩ := hbehaves.subscribed hw hf hn hcold
  have hclosed : v.closed b = v.disposed w.handles.next := by rw [Toolkit.closed, hv]
  change ((P.ahead []).ahead (if v.closed b then [] else [value])).Resting _ u v at hrest
  rw [hclosed] at hrest
  refine ⟨value, u, hwarm, ⟨z, z', hagrees, hz⟩, fun hopen => ?_, fun program program' halike => ?_,
    fun t ht x hx => ?_⟩
  · have hnone : values b v.journal = [] := hempty hopen
    have hvalues : values b u.journal =
        (if v.disposed w.handles.next then [] else [value]) ++ values b v.journal :=
      (hrest.toAhead (hP _) rfl).values
    rw [hopen, hnone] at hvalues
    exact ⟨hvalues, hnone⟩
  · have hrun := halike.run (himpartial _) (hP _).lawful u v hrest
    exact hrun.mono (fun _ => (hP _).total) (fun _ _ => id) fun _ _ h => h.toAhead (hP _) rfl
  · obtain ⟨hu, hb, hh, hd⟩ := hbehaves.subscribed hw hf hn hwarm
    rw [← hh] at ht
    exact Steps.values_of_disposed hbehaves hu hb hd ht hx

/-- Its source counts the bridges that register and has their number as its current value. Its
    observer keeps a list of the values that it is handed. -/
def counting : Code ⟨false, false, true, false⟩ (List Payload × Nat) where
  observe n signal :=
    match n, signal with
    | 0, .next value => .look fun _ own => .keep (own.1 ++ [value], own.2) (.done ())
    | _, _ => .done ()
  judge _ _ := .done (.ok true)
  hear _ _ := .done true
  release _ := .done (.ok ())
  attach _ _ := .look fun _ own => .keep (own.1, own.2 + 1) (.done none)
  detach _ _ := .done ()
  current _ := .look fun _ own => .done (.page own.2)
  absorb _ _ := .done (.ok ())

/-- The source has counted as much. -/
def CountsAlike (x y : List Payload × Nat) : Prop := x.2 = y.2

theorem impartial_counting (hP : P.observer = .client 0) : counting.Impartial P CountsAlike where
  equivalence := ⟨fun _ => rfl, fun h => h.symm, fun h h' => h.trans h'⟩
  observe n signal hn := by
    rw [hP] at hn
    cases n with
    | zero => exact absurd rfl hn
    | succ n => exact .done ()
  judge _ _ := .done _
  hear _ _ := .done _
  release _ := .done _
  attach _ _ := .look fun _ _ own own' _ (h : own.2 = own'.2) =>
    .keep (congrArg (· + 1) h) (.done none)
  detach _ _ := .done _
  current _ := .look fun _ _ own own' _ (h : own.2 = own'.2) => by
    rw [h]
    exact .done _
  absorb _ _ := .done _
  records n signal hn own := by
    rw [hP] at hn
    obtain rfl : 0 = n := hn
    cases signal with
    | next value => exact .look fun _ => .keep (.done (S := CountsAlike) (by exact rfl) ())
    | _ => exact .done (S := CountsAlike) (by exact rfl) ()

/-- The observer is handed the number of bridges in the middle of the call. -/
theorem warm_streams_start_with_current_counting :
    let c := counting.client 5
    let w : Toolkit (Desk (List Payload × Nat)) := { client := { own := ([], 0) } }
    let stream : Stream := ⟨.client 0 .main, true⟩
    ∃ v value u, c.subscribe stream.cold (.client 0) w = .ok 1 v ∧
      c.subscribe stream (.client 0) w = .ok 1 u ∧
      c.Leads ⟨false, false, true, false⟩ CountsAlike (.client 0 .main) (.client 0) 1 1 value u v ∧
      values 1 u.journal = [.page 1] := by
  intro c w stream
  have hquiet : c.AttachesQuietly (.client 0 .main) w.bridges.next := by
    intro n thread _ x key y hy
    cases hy
    rfl
  have hcurrent : ∀ n thread, Source.client 0 .main = .client n thread →
      ∀ own, (counting.current n).Records CountsAlike own own :=
    fun n thread _ own => .look fun _ => .done (S := CountsAlike) (by exact rfl) _
  have hboth := @warm_streams_start_with_current _ _ counting 5 _ w
    (reached_start ([], 0)) (.inl rfl)
    (.client 0 .main) (.client 0) (fun _ => impartial_counting rfl) hquiet hcurrent
  obtain ⟨value, u, hu, hleads⟩ := (hboth.2 (.inl rfl)).2 1 _ rfl
  refine ⟨_, value, u, rfl, hu, hleads, ?_⟩
  cases hu
  rfl

end Code

end WidgetStreams
