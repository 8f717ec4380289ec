import WidgetStreams.Proofs.Alike

/-!
# The library treats twins alike

This file proves that bridges, handles and subscriptions do the same to two
toolkits that are alike but for one subscription each: they come back alike, with
the same answers, and leave the two alike.

## Main definitions

- `Client.Impartial` — a client whose callbacks treat twins alike, and whose observer only records

## Main results

- `Client.Impartial.deliverOwn`, `Client.Impartial.emitOwn` — what the two bridges hand over
- `Client.Impartial.dispose`, `Client.Impartial.setAction`, `Client.Impartial.clearScope` — handles
- `Client.Impartial.emit`, `Client.Impartial.fail`, `Client.Impartial.judged` — every other bridge
- `Client.Impartial.connect`, `Client.Impartial.subscribe` — subscriptions that both of them make

## Design notes

Twins are compared while their two bridges are at rest, which is also how they are
left. Since the observer only records, nothing that it does can make a difference
to anybody else.
-/

namespace WidgetStreams

open History UI

variable {σ α β : Type} {m : Manners} {K : σ → σ → Prop} {v w u : Toolkit σ} {P : Pairing}
  {c : Client σ} {h : HandleId} {b : BridgeId}

/-- **A client treats twins alike**: so do all its callbacks, but those of the observer, which only
    records. The judges of the two sources give the same answer. -/
structure Client.Impartial (P : Pairing) (K : σ → σ → Prop) (c : Client σ) : Prop where
  equivalence : Equivalence K
  observe : ∀ n signal, ¬ P.observer.Calls n →
    P.Alike K Eq (c.observe n signal) (c.observe n signal)
  judge : ∀ n value, P.Alike K Eq (c.judge n value) (c.judge n value)
  hear : ∀ n e, P.Alike K Eq (c.hear n e) (c.hear n e)
  release : ∀ n, P.Alike K Eq (c.release n) (c.release n)
  attach : ∀ n b, P.Alike K Eq (c.attach n b) (c.attach n b)
  detach : ∀ n key, P.Alike K Eq (c.detach n key) (c.detach n key)
  current : ∀ n, P.Alike K Eq (c.current n) (c.current n)
  absorb : ∀ n value, P.Alike K Eq (c.absorb n value) (c.absorb n value)
  verdict : ∀ event n judge plain n' judge', P.twin = .widget event n judge →
    P.source = .widget plain n' judge' → event.isJudged = true → ∀ a b, P.project b = some a →
      P.Alike K Eq (c.verdict judge' a) (c.verdict judge b)
  records : c = .stalled ∨ 0 < c.patience ∧ ∀ n signal w, P.observer.Calls n →
    ∃ d, c.observe n signal w = .ok () { w with client := d } ∧ K w.client d

-- ════════════════════════════════════════════════════════════════════════
-- The observer
-- ════════════════════════════════════════════════════════════════════════

theorem Pairing.Recorded.client_of {d : σ} (hd : K w.client d) :
    P.Recorded K [] w { w with client := d } :=
  ⟨⟨_, _, _, rfl⟩, ⟨rfl, fun _ _ => rfl⟩, fun _ => rfl, (List.append_nil _).symm, rfl, hd⟩

/-- There is more on the tape of the observer. -/
theorem Pairing.Recorded.tape_of (hK : Equivalence K) {t : TapeId} (ht : P.observer = .tape t)
    (f : Tape → Tape) : P.Recorded K [] w { w with tapes := w.tapes.modify t f } where
  rest := ⟨_, _, _, rfl⟩
  tapes := by
    refine ⟨rfl, fun k hk => ?_⟩
    have hne : t ≠ k := fun e => hk (e ▸ ht)
    exact (Registry.find?_modify _ _ _ _).trans (if_neg hne)
  serves _ := rfl
  values := (List.append_nil _).symm
  calls := rfl
  client := hK.refl _

theorem UI.takeQueued_of_empty (hq : w.queue b = []) : takeQueued b w = .ok none w := by
  cases hcl : w.closed b with
  | true =>
    rw [takeQueued_of_closed hcl, hq]
    rfl
  | false => rw [takeQueued_of_open hcl, hq]

namespace Client.Impartial

variable (hc : c.Impartial P K)
include hc

/-- **The observer only records** what it is told, unless the client is given up. -/
theorem tells : c = .stalled ∨ 0 < c.patience ∧ ∀ signal w, ∃ u,
    c.tell P.observer signal w = .ok () u ∧ P.Recorded K [] w u := by
  have hK := hc.equivalence
  refine hc.records.imp id fun ⟨hpos, hrec⟩ => ⟨hpos, fun signal w => ?_⟩
  have hcall : ∀ n signal, P.observer.Calls n → ∃ u, c.observe n signal w = .ok () u ∧
      P.Recorded K [] w u := by
    intro n signal hn
    obtain ⟨d, hd, hKd⟩ := hrec n signal w hn
    exact ⟨_, hd, .client_of hKd⟩
  cases ho : P.observer with
  | client n => exact hcall n signal (by rw [ho]; rfl)
  | functions onNext onFault =>
    rw [ho] at hcall
    cases signal with
    | subscribed k => exact ⟨w, rfl, .client_of (hK.refl w.client)⟩
    | next a => exact hcall onNext _ (.inl rfl)
    | failed fault =>
      cases onFault with
      | none => exact ⟨_, rfl, .noted hK w rfl⟩
      | some n => exact hcall n _ (.inr rfl)
  | tape t => cases signal <;> exact ⟨_, rfl, .tape_of hK ho _⟩

/-- **A delivery by the bridge is one call** on its observer, if the bridge is at rest: nothing
    waits behind it, and the bridge is at rest again. -/
theorem delivers (hpos : 0 < c.patience) (htell : ∀ signal w, ∃ u,
      c.tell P.observer signal w = .ok () u ∧ P.Recorded K [] w u)
    {signal : Signal} (hs : ∀ fault, signal ≠ .failed fault) (hb : u.HasBridge P.bridge)
    (ho : (u.bridges.get P.bridge).observer = P.observer) (hd : u.delivering P.bridge = none)
    (hq : u.queue P.bridge = []) :
    ∃ t, c.deliver P.bridge signal u = .ok () t ∧
      P.Recorded K signal.value?.toList u t := by
  have hK := hc.equivalence
  let x := (u.noted (.accepted P.bridge signal false)).withBridge P.bridge
    fun bridge => { bridge with delivering := some u.here }
  have haccepted : (Event.accepted P.bridge signal false).isDull P.bridge = true := rfl
  -- the call
  obtain ⟨y, hy, hxy⟩ := htell signal (x.noted (.began P.bridge signal))
  have hbegan : P.Recorded K signal.value?.toList x (x.noted (.began P.bridge signal)) := by
    cases signal with
    | next a => exact .began hK x a
    | subscribed k => exact .noted hK x (by simp [Event.isDull, Signal.value?])
    | failed fault => exact absurd rfl (hs fault)
  have hended : (Event.ended P.bridge).isDull P.bridge = true := beq_self_eq_true P.bridge
  have hrec : P.Recorded K signal.value?.toList x (y.noted (.ended P.bridge)) := by
    have hall := (hbegan.trans hK hxy).trans hK (.noted hK y hended)
    rwa [List.append_nil, List.append_nil] at hall
  have hover : c.handOver P.bridge signal x = .ok () (y.noted (.ended P.bridge)) := by
    have hobserver : (x.bridges.get P.bridge).observer = P.observer := by
      simp [x, Toolkit.withBridge, Toolkit.noted, ho]
    simp only [Client.handOver, run_bridge_bind, run_note_bind, hobserver]
    rw [bind_ok hy, run_note_bind]
    cases signal with
    | failed fault => exact absurd rfl (hs fault)
    | _ => rfl
  -- nothing waits behind it
  obtain ⟨tapes, journal, client, hz⟩ := hrec.rest
  have hqueue : (y.noted (.ended P.bridge)).queue P.bridge = [] := by
    rw [hz]
    simpa [x, Toolkit.queue, Toolkit.withBridge, Toolkit.noted] using hq
  have hdrain : c.drain P.bridge c.patience signal x = .ok () (y.noted (.ended P.bridge)) := by
    obtain ⟨n, hn⟩ := Nat.exists_eq_succ_of_ne_zero (Nat.ne_of_gt hpos)
    rw [hn, Client.drain, bind_ok hover, bind_ok (takeQueued_of_empty hqueue)]
    rfl
  refine ⟨(y.noted (.ended P.bridge)).finishing P.bridge, ?_, ⟨tapes, journal, client, ?_⟩,
    hrec.tapes, fun k => (hrec.serves k).trans (Toolkit.servesWidget_noted (.inl haccepted) u k),
    hrec.values.trans (congrArg (· ++ _) (values_noted (.inl haccepted) u)),
    hrec.calls.trans (calls_noted_of_isDull haccepted u), hrec.client⟩
  · change ensuring (fun u => u.finishing P.bridge) (c.drain P.bridge c.patience signal) x = _
    rw [ensuring, hdrain]
  · -- the bridge is as it was
    obtain ⟨bridge, hbridge⟩ := Option.isSome_iff_exists.mp hb
    have hget : u.bridges.get P.bridge = bridge := by
      rw [Registry.get, hbridge]
      rfl
    have hback : (x.finishing P.bridge).bridges = u.bridges := by
      change (u.bridges.modify P.bridge fun bridge =>
        { bridge with delivering := some u.here }).modify
        P.bridge (fun bridge => { bridge with delivering := none }) = _
      rw [Registry.modify, Registry.get_modify, if_pos rfl, Registry.modify, Registry.put_put]
      refine Registry.put_of_find? ?_
      rw [hbridge, ← hget]
      rw [Toolkit.delivering] at hd
      exact congrArg some (by rw [← hd])
    rw [hz]
    exact congrArg (fun bridges => { u with
      bridges := bridges, tapes := tapes, journal := journal, client := client }) hback

/-- **Calls of the two bridges** are alike if the value of the one is made of that of its twin. -/
theorem deliverOwn {signal signal' : Signal} (hs : ∀ fault, signal ≠ .failed fault)
    (hs' : ∀ fault, signal' ≠ .failed fault)
    (hvalues : signal.value?.toList = signal'.value?.toList.filterMap P.project)
    (hproper : ∀ a ∈ signal'.value?.toList, P.proper a) (hvw : P.Resting K v w)
    (hopen : w.closed P.bridge = false) :
    P.Agree K Eq (c.deliver P.bridge signal v) (c.deliver P.bridge signal' w) := by
  obtain rfl | ⟨hpos, htell⟩ := hc.tells
  · exact fun _ => ⟨_, rfl⟩
  obtain ⟨hd, hq⟩ := hvw.idle hopen
  obtain ⟨y, hy, hwy⟩ := hc.delivers hpos htell hs' hvw.found hvw.observer hd hq
  have hfound : v.HasBridge P.bridge := by
    rw [Toolkit.HasBridge, hvw.bridges]
    exact hvw.found
  have hobserver : (v.bridges.get P.bridge).observer = P.observer := by
    rw [hvw.bridges]
    exact hvw.observer
  rw [Toolkit.delivering, ← hvw.bridges] at hd
  rw [Toolkit.queue, ← hvw.bridges] at hq
  obtain ⟨x, hx, hvx⟩ := hc.delivers hpos htell hs hfound hobserver hd hq
  rw [hx, hy]
  exact ⟨(), x, rfl, rfl, hvw.recorded hc.equivalence hvx hwy hvalues hproper⟩

/-- **A value is handed over** by both, by the one what is made of that of its twin. -/
theorem emitOwn {a a' : Payload} (ha : P.project a' = some a) (hproper : P.proper a') :
    P.Alike K Eq (c.emit P.bridge a) (c.emit P.bridge a') := by
  intro v w hvw
  cases hcl : w.closed P.bridge with
  | true =>
    have hcl' : v.closed P.bridge = true := (hvw.closed _).trans hcl
    simp only [Client.emit, run_isClosed_bind, run_ite, hcl, hcl', if_true]
    exact ⟨false, _, rfl, rfl, hvw.noted rfl rfl⟩
  | false =>
    have hcl' : v.closed P.bridge = false := (hvw.closed _).trans hcl
    have hd := (hvw.idle hcl).1
    have hd' : v.delivering P.bridge = none := by
      rw [Toolkit.delivering, hvw.bridges]
      exact hd
    rw [Client.emit_of_open hd hcl, Client.emit_of_open hd' hcl']
    refine (hc.deliverOwn (by simp) (by simp) ?_ ?_ hvw hcl).bind fun _ _ _ _ _ h =>
      ⟨_, _, rfl, rfl, h⟩
    · simp [Signal.value?, ha]
    · simpa [Signal.value?] using hproper

/-- **A value is passed over** by the one that its twin hands over. -/
theorem emitTwin {a : Payload} (ha : P.project a = none) (hproper : P.proper a) :
    P.Alike K (fun _ _ => True) (Pure.pure false : UI σ Bool) (c.emit P.bridge a) := by
  have hK := hc.equivalence
  intro v w hvw
  cases hcl : w.closed P.bridge with
  | true =>
    simp only [Client.emit, run_isClosed_bind, run_ite, hcl, if_true]
    have hlate : P.Recorded K [] w (w.noted (.late P.bridge)) := .noted hK w rfl
    exact ⟨false, v, rfl, trivial, hvw.recorded hK (.refl hK v) hlate rfl (by simp)⟩
  | false =>
    obtain ⟨hd, hq⟩ := hvw.idle hcl
    rw [Client.emit_of_open hd hcl]
    obtain rfl | ⟨hpos, htell⟩ := hc.tells
    · -- a pairing that is total passes nothing over
      intro ht
      have hsome := ht a hproper
      rw [ha] at hsome
      cases hsome
    · have hnext : ∀ fault, Signal.next a ≠ .failed fault := by simp
      obtain ⟨y, hy, hwy⟩ := hc.delivers hpos htell hnext hvw.found hvw.observer hd hq
      rw [bind_ok hy]
      exact ⟨false, v, rfl, trivial, hvw.recorded hK (.refl hK v) hwy
        (by simp [Signal.value?, ha]) (by simpa [Signal.value?] using hproper)⟩

-- ════════════════════════════════════════════════════════════════════════
-- Handles
-- ════════════════════════════════════════════════════════════════════════

/-- **Actions that are the same**, or undo the registrations of the two subscriptions, are alike. -/
theorem act (hP : P.Lawful m) {action action' : Release} (ha : P.SameRelease action action') :
    P.Alike K Eq (c.act action) (c.act action') := by
  have huninstall : ∀ (p : Point) (key : Option Nat) (e e' : Event),
      e.isDull P.bridge = true → e'.isDull P.bridge = true →
      P.Alike K Eq (do UI.changeScreen fun s => s.uninstall p (key.map (P.rekey p)); UI.note e :
          UI σ Unit)
        (do UI.changeScreen fun s => s.uninstall p key; UI.note e') := fun p key e e' he he' =>
    (Pairing.Alike.changeScreen fun _ _ hst => hst.uninstall p key).next fun _ => .note he he'
  have hundo : ∀ {x y : UI σ Unit}, P.Alike K Eq x y → P.Alike K Eq
      (do x; return Except.ok () : UI σ (Except String Unit)) (do y; return Except.ok ()) :=
    fun hx => hx.next fun _ => .pure rfl
  have hsame : ∀ source key, P.Alike K Eq (c.undo source (P.rekeyOf source key))
      (c.undo source key) := by
    intro source key
    cases source with
    | widget binding owner judge =>
      simp only [Client.undo, Binding.detachPoint_eq_point]
      exact huninstall _ key _ _ rfl rfl
    | client callback thread => exact (hc.detach callback key).next fun _ => .note rfl rfl
  cases ha with
  | client n => exact hc.release n
  | detach source key => exact hundo (hsame source key)
  | own key =>
    refine hundo ?_
    cases ht : P.twin with
    | client callback thread =>
      rw [hP.client callback thread ht, ht]
      exact hsame _ key
    | widget event n judge =>
      obtain ⟨plain, judge', hs, hmatch⟩ := hP.widget event n judge ht
      rw [hs]
      have hpoint : plain.point n = event.point n := congrArg (Point.mk · n) hmatch.site
      simp only [Client.undo, Binding.detachPoint_eq_point, hpoint]
      exact huninstall _ key _ _ rfl rfl

theorem releaseFor (hP : P.Lawful m) (k : HandleId) {action action' : Release}
    (ha : P.SameRelease action action') :
    P.Alike K Eq (c.releaseFor k action) (c.releaseFor k action') := by
  refine (Pairing.Alike.note rfl rfl).next fun _ => (hc.act hP ha).catching.next fun result => ?_
  split
  · exact .pure rfl
  · exact .note rfl rfl
  · exact .note rfl rfl

/-- **Disposing is alike** in twins at rest, and also while the bridge is in the middle of a
    delivery if it is the handle of the two subscriptions that is disposed. -/
theorem disposeFrom (hP : P.Lawful m) (hvw : P.Twins K v w) (k : HandleId)
    (hidle : w.closed P.bridge = false → (w.bridges.get P.bridge).handle ≠ k →
      w.delivering P.bridge = none ∧ w.queue P.bridge = []) :
    P.Agree K Eq (c.dispose k v) (c.dispose k w) := by
  have hresting : ∀ {x y : Toolkit σ}, P.Twins K x y → y.bridges = w.bridges →
      y.disposed k = true → (∀ j, w.disposed j = true → y.disposed j = true) →
      P.Resting K x y := by
    intro x y hxy hb hk hd
    refine ⟨hxy, fun hopen => ?_⟩
    rw [Toolkit.closed, hb] at hopen
    rw [Toolkit.delivering, Toolkit.queue, hb]
    refine hidle (Bool.eq_false_iff.mpr fun hj => ?_) fun hj => ?_
    · exact Bool.eq_false_iff.mp hopen (hd _ hj)
    · rw [hj, hk] at hopen
      cases hopen
  have hsame := hvw.handle k
  simp only [Client.dispose, run_get_bind, run_ite, hsame.disposed]
  split
  · next hk => exact ⟨(), v, rfl, rfl, hresting hvw rfl hk fun _ => id⟩
  · simp only [run_changeHandle_bind, run_note_bind]
    have hmarked := (hvw.withHandle k
      (f := fun handle => { handle with disposed := true, action := none })
      (g := fun handle => { handle with disposed := true, action := none })
      fun _ _ _ => ⟨rfl, .none⟩).noted (e := .disposed k) (f := .disposed k) rfl rfl
    have hrest :=
      hresting hmarked rfl (by simp [Toolkit.disposed, Toolkit.withHandle, Toolkit.noted])
      fun j hj => (Grows.withHandle w k fun _ _ => rfl).disposed hj
    have haction := hsame.action
    revert haction
    generalize (v.handles.get k).action = action
    generalize (w.handles.get k).action = action'
    rintro (ha | _)
    · exact hc.releaseFor hP k ha _ _ hrest
    · exact ⟨(), _, rfl, rfl, hrest⟩

theorem dispose (hP : P.Lawful m) (k : HandleId) : P.Alike K Eq (c.dispose k) (c.dispose k) :=
  fun _ _ hvw => hc.disposeFrom hP hvw.toTwins k fun hopen _ => hvw.idle hopen

theorem setAction (hP : P.Lawful m) (k : HandleId) {action action' : Release}
    (ha : P.SameRelease action action') :
    P.Alike K Eq (c.setAction k action) (c.setAction k action') := by
  refine (Pairing.Alike.note rfl rfl).next fun _ => ?_
  refine (Pairing.Alike.read fun v w hvw => ⟨_, _, rfl, rfl, hvw.disposed k⟩).next
    fun disposed => ?_
  refine .ite (hc.releaseFor hP k ha) (.modify fun v w hvw => ?_)
  exact hvw.withHandle k (fun _ _ h => ⟨h.disposed, .some ha⟩) fun _ h => h

theorem disposeHeld (hP : P.Lawful m) (s : ScopeId) (held : List HandleId) :
    P.Alike K Eq (c.disposeHeld s held) (c.disposeHeld s held) := by
  have hput : ∀ held, P.Alike K Eq (UI.putHeld s held : UI σ Unit) (UI.putHeld s held) :=
    fun held => .modify fun v w hvw => hvw.of_twins
      { hvw.toTwins with scopes := congrArg (·.put s held) hvw.scopes } rfl fun _ => id
  induction held with
  | nil => exact hput []
  | cons k earlier ih => exact (hput _).next fun _ => (hc.dispose hP k).next fun _ => ih

theorem clearScope (hP : P.Lawful m) (s : ScopeId) :
    P.Alike K Eq (c.clearScope s) (c.clearScope s) := by
  refine Pairing.Alike.get.bind fun v w hvw => ?_
  rw [hvw.scopes]
  exact (Pairing.Alike.note rfl rfl).next fun _ => hc.disposeHeld hP s _

-- ════════════════════════════════════════════════════════════════════════
-- Bridges
-- ════════════════════════════════════════════════════════════════════════

theorem observes (n : Nat) (signal : Signal) :
    P.Alike K Eq (c.observe n signal) (c.observe n signal) := by
  by_cases hn : P.observer.Calls n
  · obtain rfl | ⟨-, hrec⟩ := hc.records
    · exact .stalled
    · refine .change fun v w hvw => ?_
      obtain ⟨d, hd, hKd⟩ := hrec n signal v hn
      obtain ⟨d', hd', hKd'⟩ := hrec n signal w hn
      exact ⟨(), (), _, _, hd, hd', rfl,
        hvw.recorded hc.equivalence (.client_of hKd) (.client_of hKd') rfl (by simp)⟩
  · exact hc.observe n signal hn

theorem tell (observer : Observer) (signal : Signal) :
    P.Alike K Eq (c.tell observer signal) (c.tell observer signal) := by
  have htape : ∀ (t : TapeId) (f : Tape → Tape),
      P.Alike K Eq (modify fun w => { w with tapes := w.tapes.modify t f } : UI σ Unit)
        (modify fun w => { w with tapes := w.tapes.modify t f }) := by
    refine fun t f => .modify fun v w hvw => hvw.of_twins { hvw.toTwins with tapes := ?_ } rfl
      fun _ => id
    refine ⟨hvw.tapes.1, fun k hk => ?_⟩
    rw [Registry.find?_modify, Registry.find?_modify, hvw.tapes.2 k hk]
    split
    · next he =>
      subst he
      rw [Registry.get, Registry.get, hvw.tapes.2 t hk]
    · rfl
  cases observer with
  | client n => exact hc.observes n signal
  | tape t => cases signal <;> exact htape t _
  | functions onNext onFault =>
    cases signal with
    | subscribed k => exact .pure rfl
    | next a => exact hc.observes onNext _
    | failed fault =>
      cases onFault with
      | none => exact .note rfl rfl
      | some n => exact hc.observes n _

omit hc in
theorem bridge (b : BridgeId) : P.Alike K Eq (UI.bridge b : UI σ Bridge) (UI.bridge b) :=
  .read fun _ _ hvw => ⟨_, _, rfl, rfl, congrArg (·.get b) hvw.bridges⟩

omit hc in
theorem isClosed (b : BridgeId) : P.Alike K Eq (UI.isClosed b : UI σ Bool) (UI.isClosed b) :=
  .read fun _ _ hvw => ⟨_, _, rfl, rfl, hvw.closed b⟩

theorem handOver (hP : P.Lawful m) (hb : b ≠ P.bridge) (signal : Signal) :
    P.Alike K Eq (c.handOver b signal) (c.handOver b signal) := by
  have hbegan : (Event.began b signal).isCall P.bridge = true := bne_iff_ne.mpr hb
  have hended : (Event.ended b).isCall P.bridge = true := bne_iff_ne.mpr hb
  refine (bridge b).next fun bridge => (Pairing.Alike.calling hbegan).next fun _ =>
    (hc.tell bridge.observer signal).next fun _ => (Pairing.Alike.calling hended).next fun _ => ?_
  split
  · exact hc.dispose hP _
  · exact .pure rfl

omit hc in
theorem takeQueued (hb : b ≠ P.bridge) :
    P.Alike K Eq (UI.takeQueued b : UI σ (Option Signal)) (UI.takeQueued b) := by
  refine (bridge b).next fun bridge => (isClosed b).next fun closed => .ite ?_ ?_
  · refine .ite ?_ (.pure rfl)
    exact (Pairing.Alike.note rfl rfl).next fun _ =>
      .next (.changeBridge hb fun _ => rfl) fun _ => .pure rfl
  · split
    · exact .pure rfl
    · exact .next (.changeBridge hb fun _ => rfl) fun _ => .pure rfl

theorem drain (hP : P.Lawful m) (hb : b ≠ P.bridge) (patience : Nat) (signal : Signal) :
    P.Alike K Eq (c.drain b patience signal) (c.drain b patience signal) := by
  induction patience generalizing signal with
  | zero => exact .stalled
  | succ patience ih =>
    refine (hc.handOver hP hb signal).next fun _ => (takeQueued hb).next fun next => ?_
    cases next with
    | none => exact .pure rfl
    | some signal => exact ih signal

theorem deliver (hP : P.Lawful m) (hb : b ≠ P.bridge) (signal : Signal) :
    P.Alike K Eq (c.deliver b signal) (c.deliver b signal) := by
  refine Pairing.Alike.get.bind fun v w hvw => ?_
  rw [hvw.here]
  exact (Pairing.Alike.note rfl rfl).next fun _ =>
    .next (.changeBridge hb fun _ => rfl) fun _ =>
      .ensuring (fun _ _ h => h.finishing b) (hc.drain hP hb _ signal)

theorem dispatch (hP : P.Lawful m) (hb : b ≠ P.bridge) (signal : Signal) :
    P.Alike K Eq (c.dispatch b signal) (c.dispatch b signal) := by
  refine Pairing.Alike.get.bind fun v w hvw => ?_
  rw [hvw.here]
  refine (bridge b).next fun bridge => ?_
  split
  · refine .ite ?_ .stalled
    exact (Pairing.Alike.note rfl rfl).next fun _ =>
      .next (.changeBridge hb fun _ => rfl) fun _ => .pure rfl
  · exact (isClosed b).next fun _ => .ite (.pure rfl)
      ((hc.deliver hP hb signal).next fun _ => .pure rfl)

/-- **The same value is emitted** by the same bridge. By that of the two subscriptions it must be
    handed over as it is. -/
theorem emit (hP : P.Lawful m) (b : BridgeId) (value : Payload)
    (hown : b = P.bridge → P.project value = some value ∧ P.proper value) :
    P.Alike K Eq (c.emit b value) (c.emit b value) := by
  by_cases hb : b = P.bridge
  · rw [hb]
    exact hc.emitOwn (hown hb).1 (hown hb).2
  · exact (isClosed b).next fun _ =>
      .ite ((Pairing.Alike.note rfl rfl).next fun _ => .pure rfl) (hc.dispatch hP hb _)

omit hc in
/-- Nothing is taken from what waits at the bridge of the two subscriptions. -/
theorem takeQueuedOwn : P.Alike K (fun a b => a = none ∧ b = none)
    (UI.takeQueued P.bridge : UI σ (Option Signal)) (UI.takeQueued P.bridge) := by
  intro v w hvw
  cases hcl : w.closed P.bridge with
  | false =>
    have hq := (hvw.idle hcl).2
    have hq' : v.queue P.bridge = [] := by rwa [Toolkit.queue, hvw.bridges]
    rw [takeQueued_of_empty hq, takeQueued_of_empty hq']
    exact ⟨none, v, rfl, ⟨rfl, rfl⟩, hvw⟩
  | true =>
    have hqueue : v.queue P.bridge = w.queue P.bridge := by
      rw [Toolkit.queue, hvw.bridges, Toolkit.queue]
    rw [takeQueued_of_closed hcl, takeQueued_of_closed ((hvw.closed _).trans hcl), hqueue]
    refine ⟨none, _, rfl, ⟨rfl, rfl⟩, ?_⟩
    split
    · exact hvw
    · exact (hvw.noted (e := .dropped _ _) (f := .dropped _ _) rfl rfl).dropping hcl

/-- **The bridge of the two subscriptions is told to fail.** The observer is called once, and then
    the subscription is disposed. -/
theorem deliverFault (hP : P.Lawful m) (fault : Fault) (hvw : P.Resting K v w) :
    P.Agree K Eq (c.deliver P.bridge (.failed fault) v) (c.deliver P.bridge (.failed fault) w) := by
  obtain rfl | ⟨hpos, htell⟩ := hc.tells
  · exact fun _ => ⟨_, rfl⟩
  let f : Bridge → Bridge := fun bridge => { bridge with delivering := some w.here }
  let x := (v.noted (.accepted P.bridge (.failed fault) false)).withBridge P.bridge f
  let y := (w.noted (.accepted P.bridge (.failed fault) false)).withBridge P.bridge f
  have hxy : P.Twins K x y :=
    (hvw.toTwins.noted (e := .accepted _ _ _) (f := .accepted _ _ _) rfl rfl).withBridge _
      fun _ => rfl
  have hover : P.Agree K Eq (c.handOver P.bridge (.failed fault) x)
      (c.handOver P.bridge (.failed fault) y) := by
    obtain ⟨x', hx', hrec⟩ := htell (.failed fault) (x.noted (.began P.bridge (.failed fault)))
    obtain ⟨y', hy', hrec'⟩ := htell (.failed fault) (y.noted (.began P.bridge (.failed fault)))
    have hbegan : (Event.began P.bridge (.failed fault)).isDull P.bridge = true := by
      simp [Event.isDull, Signal.value?]
    have hended : (Event.ended P.bridge).isDull P.bridge = true := beq_self_eq_true P.bridge
    have hcalled := ((hxy.noted hbegan hbegan).recorded hc.equivalence hrec hrec' rfl
      (by simp)).noted hended hended
    simp only [Client.handOver, run_bridge_bind, run_note_bind, hxy.bridges, hxy.observer]
    rw [bind_ok hx', bind_ok hy', run_note_bind, run_note_bind]
    refine hc.disposeFrom hP hcalled _ fun _ hne => absurd ?_ hne
    obtain ⟨_, _, _, rfl⟩ := hrec'.rest
    rfl
  obtain ⟨n, hn⟩ := Nat.exists_eq_succ_of_ne_zero (Nat.ne_of_gt hpos)
  have hdrain : P.Agree K Eq (c.drain P.bridge c.patience (.failed fault) x)
      (c.drain P.bridge c.patience (.failed fault) y) := by
    rw [hn]
    refine hover.bind fun _ _ v' w' _ h => (takeQueuedOwn v' w' h).bind ?_
    rintro _ _ v' w' ⟨rfl, rfl⟩ h
    exact ⟨(), v', rfl, rfl, h⟩
  have hrun : ∀ u : Toolkit σ, u.here = w.here → c.deliver P.bridge (.failed fault) u =
      ensuring (fun t => t.finishing P.bridge) (c.drain P.bridge c.patience (.failed fault))
        ((u.noted (.accepted P.bridge (.failed fault) false)).withBridge P.bridge f) := by
    intro u hu
    simp only [f, ← hu]
    rfl
  rw [hrun v hvw.here, hrun w rfl]
  exact hdrain.ensuring fun _ _ h => h.finishing P.bridge

theorem fail (hP : P.Lawful m) (b : BridgeId) (fault : Fault) :
    P.Alike K Eq (c.fail b fault) (c.fail b fault) := by
  by_cases hb : b = P.bridge
  · rw [hb]
    intro v w hvw
    have hsame := hvw.closed P.bridge
    simp only [Client.fail, run_isClosed_bind, run_ite, hsame, run_note_bind]
    split
    · exact ⟨(), v, rfl, rfl, hvw⟩
    · next hcl =>
      have hcl : w.closed P.bridge = false := by simpa using hcl
      have hnoted := hvw.noted (e := .failing P.bridge fault) (f := .failing P.bridge fault) rfl rfl
      have hd : w.delivering P.bridge = none := (hvw.idle hcl).1
      have hd' : v.delivering P.bridge = none := by rwa [Toolkit.delivering, hvw.bridges]
      have hdispatch : P.Agree K Eq
          (c.dispatch P.bridge (.failed fault) (v.noted (.failing P.bridge fault)))
          (c.dispatch P.bridge (.failed fault) (w.noted (.failing P.bridge fault))) := by
        rw [Client.dispatch_of_open (w := v.noted _) hd' (hsame.trans hcl),
          Client.dispatch_of_open (w := w.noted _) hd hcl]
        exact (hc.deliverFault hP fault hnoted).bind fun _ _ v' _ _ h => ⟨true, v', rfl, rfl, h⟩
      exact hdispatch.bind fun _ _ v' _ _ h => ⟨(), v', rfl, rfl, h⟩
  · exact (isClosed b).next fun _ => .ite (.pure rfl)
      ((Pairing.Alike.note rfl rfl).next fun _ => (hc.dispatch hP hb _).discard)

theorem verdictSame (judge : Judge) (value : Payload) :
    P.Alike K Eq (c.verdict judge value) (c.verdict judge value) := by
  cases judge with
  | always => exact .pure rfl
  | client n => exact hc.judge n value

/-- **A value is emitted and judged**, by bridges and judges that are alike. -/
theorem judged (hP : P.Lawful m) {a a' : Payload} {judge judge' : Judge}
    (hemit : P.Alike K Eq (c.emit b a) (c.emit b a'))
    (hverdict : P.Alike K Eq (c.verdict judge a) (c.verdict judge' a')) :
    P.Alike K Eq (c.emitJudged b a judge) (c.emitJudged b a' judge') := by
  refine (isClosed b).next fun _ => .ite (.pure rfl) ?_
  refine hemit.discard.next fun _ => hverdict.next fun result => ?_
  split
  · exact .pure rfl
  · exact (hc.fail hP b _).next fun _ => .pure rfl

-- ════════════════════════════════════════════════════════════════════════
-- Subscriptions
-- ════════════════════════════════════════════════════════════════════════

omit hc in
theorem screen : P.Alike K P.SameScreen (UI.screen : UI σ Screen) UI.screen :=
  .read fun _ _ hvw => ⟨_, _, rfl, rfl, hvw.screen⟩

omit hc in
theorem newHandle (disposed : Bool) (action : Option Nat) :
    P.Alike K Eq (UI.newHandle { disposed := disposed, action := action.map .client } :
        UI σ HandleId)
      (UI.newHandle { disposed := disposed, action := action.map .client }) :=
  .change fun _ _ hvw =>
    ⟨_, _, _, _, rfl, rfl, hvw.next, hvw.addingHandle (.of_client disposed action)⟩

omit hc in
/-- A new bridge is another one than that of the two subscriptions. -/
theorem newBridge (observer : Observer) : P.Alike K (fun a b => a = b ∧ a.1 ≠ P.bridge)
    (UI.newBridge observer : UI σ (BridgeId × HandleId)) (UI.newBridge observer) := by
  refine .change fun v w hvw => ⟨_, _, _, _, rfl, rfl, ⟨?_, ?_⟩, hvw.opening observer⟩
  · exact Prod.ext (congrArg Registry.next hvw.bridges) hvw.next
  · change v.bridges.next ≠ P.bridge
    rw [hvw.bridges]
    exact Nat.ne_of_gt hvw.past

omit hc in
theorem thread (source : Source) {s t : Screen} (h : P.SameScreen s t) :
    source.thread s = source.thread t := by
  cases source with
  | widget binding owner judge => exact h.thread _
  | client => rfl

theorem checkThread (owner : Thread) (observer : Observer) :
    P.Alike K Eq (c.checkThread owner observer) (c.checkThread owner observer) := by
  refine Pairing.Alike.get.bind fun v w hvw => ?_
  rw [hvw.here, hvw.threadCheck]
  refine .ite (.pure rfl) ((Pairing.Alike.note rfl rfl).next fun _ =>
    (newHandle true none).next fun k => ?_)
  exact (hc.tell observer _).next fun _ => (hc.tell observer _).next fun _ => .pure rfl

theorem currentValue (source : Source) :
    P.Alike K Eq (c.currentValue source) (c.currentValue source) := by
  cases source with
  | widget binding owner judge =>
    exact screen.bind fun s t h => .pure (h.current binding owner)
  | client n thread => exact hc.current n

omit hc in
/-- Registering a listener that stands for itself. -/
theorem installs {p : Point} {listener listener' : Listener} (hl : listener = P.relabel listener')
    (hfits : P.Fits p listener') :
    P.Alike K (fun key key' => key = key'.map (P.rekey p)) (do
        let (key, s) := (← UI.screen).install p listener
        UI.changeScreen fun _ => s
        return key : UI σ (Option Nat))
      (do
        let (key, s) := (← UI.screen).install p listener'
        UI.changeScreen fun _ => s
        return key) := by
  refine .change fun v w hvw => ?_
  obtain ⟨hkey, hscreen⟩ := hvw.screen.install hfits
  exact ⟨_, _, _, _, rfl, rfl, hl ▸ hkey, hvw.showing (hl ▸ hscreen)⟩

theorem attachTo (source : Source) (hb : b ≠ P.bridge) :
    P.Alike K (fun key key' => key = P.rekeyOf source key') (c.attachTo source b)
      (c.attachTo source b) := by
  cases source with
  | client n thread => exact hc.attach n b
  | widget binding owner judge =>
    have hother : ∀ binding' judge', Listener.forward binding b judge ≠
        .forward binding' P.bridge judge' := by
      intro binding' judge' he
      cases he
      exact hb rfl
    exact installs (Pairing.relabel_of_ne hother).symm (Pairing.fits_of_ne hother _)

theorem connect (hP : P.Lawful m) (stream : Stream) (hb : b ≠ P.bridge) (k : HandleId) :
    P.Alike K Eq (c.connect stream b k) (c.connect stream b k) := by
  refine (Pairing.Alike.note rfl rfl).next fun _ => (hc.attachTo stream.source hb).bind ?_
  rintro _ key rfl
  refine (Pairing.Alike.note rfl rfl).next fun _ =>
    (hc.setAction hP k (.detach stream.source key)).next fun _ =>
      (Pairing.Alike.note rfl rfl).next fun _ => .ite ?_ (.pure rfl)
  exact (hc.currentValue stream.source).next fun value =>
    (hc.emit hP b value fun e => absurd e hb).discard

theorem subscribe (hP : P.Lawful m) (stream : Stream) (observer : Observer) :
    P.Alike K Eq (c.subscribe stream observer) (c.subscribe stream observer) := by
  refine screen.bind fun s t h => ?_
  rw [thread stream.source h]
  refine (hc.checkThread _ observer).next fun admitted =>
    .ite ((newHandle true none).next fun _ => .pure rfl) ?_
  refine (newBridge observer).bind ?_
  rintro ⟨b, k⟩ _ ⟨rfl, hb⟩
  refine (Pairing.Alike.modify fun _ _ h => h.subscribing k b _).next fun _ => ?_
  refine (hc.dispatch hP hb _).discard.next fun _ => ?_
  refine (Pairing.Alike.read fun v w hvw => ⟨_, _, rfl, rfl, hvw.disposed k⟩).next
    fun disposed => ?_
  have hend : P.Alike K Eq (UI.note (.concluded k) >>= fun _ => Pure.pure k : UI σ HandleId)
      (UI.note (.concluded k) >>= fun _ => Pure.pure k) :=
    (Pairing.Alike.note rfl rfl).next fun _ => .pure rfl
  exact .ite ((Pairing.Alike.note rfl rfl).next fun _ => hend)
    ((hc.connect hP stream hb k).next fun _ => hend)

end Client.Impartial

end WidgetStreams
