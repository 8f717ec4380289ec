import WidgetStreams.Proofs.AlikePrograms

/-!
# Twin subscriptions

This file proves that two subscriptions that are made in the same toolkit, to the
sources of a pairing and with an observer that only records, leave twins at rest.

## Main definitions

- `Client.settle` — what comes after the observer has learnt of its handle

## Main results

- `Pairing.Resting.begin` — twins at the beginning of two subscriptions
- `Pairing.Resting.ahead` — one of two twins may hand over values in advance
- `Client.Impartial.settles` — an observer that only records learns of its handle
- `Client.Impartial.subscribeOwn` — two subscriptions whose values are made of each other are alike

## Design notes

The two sides do not begin alike, since the one may be warm where its twin is
cold. So what they have in common is cut out: both let the observer in, enroll
with their source, and differ in nothing but what they emit from there on.
-/

namespace WidgetStreams

open History UI

variable {σ α β : Type} {m : Manners} {K : σ → σ → Prop} {v w u x y : Toolkit σ} {P : Pairing}
  {c : Client σ} {h : HandleId} {b : BridgeId} {source : Source} {stream : Stream}
  {observer : Observer} {s : Screen} {xs : List Payload}

namespace Client

/-- What comes after the observer has learnt of its handle and kept it. -/
def settle (c : Client σ) (stream : Stream) (b : BridgeId) (h : HandleId) : UI σ HandleId := do
  let key ← c.enroll stream.source b h
  note (.attached h key stream.warm)
  c.greet stream b
  note (.concluded h)
  return h

end Client

-- ════════════════════════════════════════════════════════════════════════
-- Twins at the beginning
-- ════════════════════════════════════════════════════════════════════════

theorem Toolkit.Sound.ne_forward_next (hs : w.Sound) {p : Point} {listener : Listener}
    (hl : w.screen.Holds p listener) (binding : Binding) (judge : Judge) :
    listener ≠ .forward binding w.bridges.next judge := by
  rintro rfl
  obtain ⟨-, k, key, hsub, -⟩ := hs.placed hl
  exact hs.not_hasBridge_next (hs.knows hsub).1

theorem Toolkit.Sound.values_admitting (hs : w.Sound) (source : Source) (observer : Observer) :
    values w.bridges.next (w.admitting source observer).journal = [] := by
  refine (values_cons rfl).trans ?_
  change values w.bridges.next w.journal = []
  rw [values, began, hs.marks_eq_nil hs.not_hasBridge_next]
  rfl

namespace Pairing

theorem not_hides (hgone : P.gone = none) (p : Point) : ¬ P.Hides p := by
  rw [Hides, hgone]
  exact nofun

theorem rekey_eq (hgone : P.gone = none) (p : Point) (key : Nat) : P.rekey p key = key := by
  rw [rekey, hgone]

theorem SameRelease.of_gone_eq_none (hgone : P.gone = none) (action : Release) :
    P.SameRelease action action := by
  cases action with
  | client n => exact .client n
  | detach source key =>
    have hkey : P.rekeyOf source key = key := by
      cases source <;> cases key <;> simp [rekeyOf, rekey_eq hgone]
    have hsame := SameRelease.detach (P := P) source key
    rwa [hkey] at hsame

/-- A screen is the same as itself before there is a listener of the bridge. -/
theorem SameScreen.of_sound (hs : w.Sound) (hb : P.bridge = w.bridges.next)
    (hgone : P.gone = none) : P.SameScreen w.screen w.screen where
  bare := rfl
  viewsNext := rfl
  views _ := rfl
  slot p _ := by
    cases hp : (w.screen.slot p).content with
    | none => rfl
    | some listener =>
      rw [Option.map_some, relabel_of_ne fun _ _ => hb ▸ hs.ne_forward_next (.inl hp) _ _]
  roster p := by
    refine (Registry.map_eq_self (rekey_eq hgone p _) fun x hx => ⟨rekey_eq hgone p _, ?_⟩).symm
    have hx' : x.2 ∈ (w.screen.roster p).snapshot := List.mem_map_of_mem hx
    exact relabel_of_ne fun _ _ => hb ▸ hs.ne_forward_next (.inr hx') _ _
  placed p listener hl := fits_of_ne (fun _ _ => hb ▸ hs.ne_forward_next hl _ _) p
  gone p own hp := by
    rw [hgone] at hp
    cases hp

/-- **Twins at the beginning of two subscriptions**, made in the same toolkit. The screen of the one
    may be another, as long as it is the same but for what is left out of account. -/
theorem Resting.begin (hK : Equivalence K) (hs : w.Sound) (hP : P.Lawful m)
    (hb : P.bridge = w.bridges.next) (hfirst : P.first = []) (hscreen : P.SameScreen s w.screen)
    (hactions : ∀ k action, (w.handles.get k).action = some action → P.SameRelease action action) :
    P.Resting K ((w.admitting P.source P.observer).showing s) (w.admitting P.twin P.observer) := by
  obtain ⟨hbridge, hget⟩ := hs.get_admitting P.twin P.observer
  rw [← hb] at hbridge hget
  have hnoted : ∀ source, values P.bridge (w.admitting source P.observer).journal = [] :=
    fun source => hb ▸ hs.values_admitting source P.observer
  have hserves : ∀ binding n judge, P.twin = .widget binding n judge →
      (w.admitting P.twin P.observer).servesWidget P.bridge = true := by
    intro binding n judge ht
    simp [Toolkit.admitting, Toolkit.servesWidget, ht, hb]
  refine ⟨?_, fun _ => by rw [Toolkit.delivering, Toolkit.queue, hget]; exact ⟨rfl, rfl⟩⟩
  exact {
    here := rfl
    started := rfl
    threadCheck := rfl
    screen := hscreen
    next := rfl
    handles := fun k => by
      change Option.Rel P.SameHandle ((w.addingHandle {}).handles.find? k)
        ((w.addingHandle {}).handles.find? k)
      rw [hs.find?_addingHandle]
      split
      · exact .some (.of_client false none)
      · cases hk : w.handles.find? k with
        | none => exact .none
        | some x =>
          have hx : w.handles.get k = x := by rw [Registry.get, hk]; rfl
          refine .some ⟨rfl, ?_⟩
          cases ha : x.action with
          | none => exact .none
          | some action => exact .some (hactions k action (hx ▸ ha))
    bridges := rfl
    tapes := ⟨rfl, fun _ _ => rfl⟩
    scopes := rfl
    overrides := rfl
    serves := fun k => by
      simp only [Toolkit.showing, Toolkit.admitting, Toolkit.servesWidget, Toolkit.journal_noted,
        List.any_cons]
      cases ht : P.twin with
      | client callback thread => rw [hP.client callback thread ht, ht]
      | widget binding n judge =>
        obtain ⟨plain, judge', hsource, -⟩ := hP.widget binding n judge ht
        rw [hsource]
    values := by
      rw [hnoted, hfirst]
      exact hnoted P.source
    proper := by simp [hnoted]
    calls := rfl
    found := Option.isSome_iff_exists.mpr ⟨_, hbridge⟩
    past := hb ▸ Nat.lt_succ_self _
    observer := by rw [hget]
    widget := hserves
    client := hK.refl _ }

/-- The pairing in which the one has handed over values in advance. -/
def ahead (P : Pairing) (xs : List Payload) : Pairing := { P with first := xs }

/-- **One of two twins goes ahead**: it hands over values before its twin has handed over any. -/
theorem Resting.ahead (hK : Equivalence K) (h : P.Resting K v w) (hv : P.Recorded K xs v x)
    (hfirst : P.first = []) (hempty : values P.bridge w.journal = []) :
    (P.ahead xs).Resting K x w := by
  have hvalues : values P.bridge x.journal = xs := by
    rw [hv.values, h.values, hfirst, hempty]
    rfl
  have hserves : ∀ b, x.servesWidget b = w.servesWidget b := fun b =>
    (hv.serves b).trans (h.serves b)
  have htapes : x.tapes.next = w.tapes.next ∧
      ∀ t, P.observer ≠ .tape t → x.tapes.find? t = w.tapes.find? t :=
    ⟨hv.tapes.1.trans h.tapes.1, fun t ht => (hv.tapes.2 t ht).trans (h.tapes.2 t ht)⟩
  have hcalls : calls P.bridge x.journal = calls P.bridge w.journal := hv.calls.trans h.calls
  have hclient : K x.client w.client := hK.trans (hK.symm hv.client) h.client
  obtain ⟨_, _, _, rfl⟩ := hv.rest
  refine ⟨?_, h.idle⟩
  exact {
    here := h.here
    started := h.started
    threadCheck := h.threadCheck
    screen := ⟨h.screen.bare, h.screen.viewsNext, h.screen.views, h.screen.slot, h.screen.roster,
      h.screen.placed, h.screen.gone⟩
    next := h.next
    handles := fun k => by
      have hk := h.handles k
      revert hk
      generalize v.handles.find? k = y
      generalize w.handles.find? k = z
      rintro (hyz | _)
      · refine .some ⟨hyz.disposed, ?_⟩
        have haction := hyz.action
        revert haction
        rename_i a b
        generalize a.action = r
        generalize b.action = r'
        rintro (hr | _)
        · cases hr with
          | client n => exact .some (.client n)
          | detach source key => exact .some (.detach source key)
          | own key => exact .some (.own key)
        · exact .none
      · exact .none
    bridges := h.bridges
    tapes := htapes
    scopes := h.scopes
    overrides := h.overrides
    serves := hserves
    values := by
      change values P.bridge _ = xs ++ _
      rw [hvalues, show (values (P.ahead xs).bridge w.journal) = [] from hempty]
      exact (List.append_nil xs).symm
    proper := h.proper
    calls := hcalls
    found := h.found
    past := h.past
    observer := h.observer
    widget := h.widget
    client := hclient }

end Pairing

-- ════════════════════════════════════════════════════════════════════════
-- Letting the observer in
-- ════════════════════════════════════════════════════════════════════════

/-- Connecting is to enroll, and to hand over the current value if the stream is warm. -/
theorem Client.connect_conclude (c : Client σ) (stream : Stream) (b : BridgeId) (h : HandleId) :
    (do c.connect stream b h; note (.concluded h); return h : UI σ HandleId) =
      c.settle stream b h := by
  simp only [connect_eq, settle, bind_assoc]

/-- What is done for an observer that is let in depends on how its first call comes back. -/
theorem Client.letIn_eq (c : Client σ) (stream : Stream) (observer : Observer) (w : Toolkit σ) :
    c.letIn stream observer w =
      (do
        discard (c.dispatch w.bridges.next (.subscribed w.handles.next))
        if ← isDisposed w.handles.next then
          note (.withdrawn w.handles.next)
          note (.concluded w.handles.next)
          return w.handles.next
        else c.settle stream w.bridges.next w.handles.next : UI σ HandleId)
      (w.admitting stream.source observer) := by
  simp only [← connect_conclude]
  rfl

/-- The first call on a new observer is not put off. -/
theorem Client.dispatch_admitting (c : Client σ) (hs : w.Sound) (source : Source)
    (observer : Observer) :
    c.dispatch w.bridges.next (.subscribed w.handles.next) (w.admitting source observer) =
      (c.deliver w.bridges.next (.subscribed w.handles.next) >>= fun _ => pure true)
        (w.admitting source observer) := by
  have hget := (hs.get_admitting source observer).2
  exact dispatch_of_open (by rw [Toolkit.delivering, hget]) (hs.closed_opening_next observer)

/-- A client that is given up is given up before it is known whether the stream is warm. -/
theorem Client.subscribe_of_stalled (observer : Observer) (hs : w.Sound)
    (hn : source.thread w.screen = w.here ∨ w.threadCheck = .disabled) :
    ∃ t, ∀ warm, Client.stalled.subscribe ⟨source, warm⟩ observer w = .error .stalled t := by
  obtain ⟨t, ht⟩ : ∃ t, Client.stalled.dispatch w.bridges.next (.subscribed w.handles.next)
      (w.admitting source observer) = .error .stalled t := by
    rw [dispatch_admitting _ hs]
    exact ⟨_, rfl⟩
  refine ⟨t, fun warm => ?_⟩
  rw [subscribe_of_admitted hn, letIn_eq]
  exact bind_error (bind_error ht)

namespace Client.Impartial

variable (hc : c.Impartial P K)
include hc

/-- **An observer that only records** learns of its handle and keeps it, whether the stream is warm
    or not. -/
theorem settles (hs : w.Sound) (hb : P.bridge = w.bridges.next)
    (hn : source.thread w.screen = w.here ∨ w.threadCheck = .disabled) :
    c = .stalled ∨ ∃ t, P.Recorded K [] (w.admitting source P.observer) t ∧
      t.disposed w.handles.next = false ∧
      c.dispatch w.bridges.next (.subscribed w.handles.next) (w.admitting source P.observer) =
        .ok true t ∧
      ∀ warm, c.subscribe ⟨source, warm⟩ P.observer w =
        c.settle ⟨source, warm⟩ w.bridges.next w.handles.next t := by
  refine hc.tells.imp id fun ⟨hpos, htell⟩ => ?_
  obtain ⟨hfind, hget⟩ := hs.get_admitting source P.observer
  rw [← hb] at hfind hget
  have hfound : (w.admitting source P.observer).HasBridge P.bridge :=
    Option.isSome_iff_exists.mpr ⟨_, hfind⟩
  have hsigned : ∀ fault, Signal.subscribed w.handles.next ≠ .failed fault := by simp
  obtain ⟨t, ht, hrec⟩ := hc.delivers hpos htell hsigned hfound (by rw [hget])
    (by rw [Toolkit.delivering, hget]) (by rw [Toolkit.queue, hget])
  have hopen : t.disposed w.handles.next = false := by
    have hclosed : (w.admitting source P.observer).closed P.bridge = false :=
      hb ▸ hs.closed_opening_next P.observer
    rw [Toolkit.closed, hget] at hclosed
    obtain ⟨_, _, _, rfl⟩ := hrec.rest
    exact hclosed
  rw [hb] at ht
  have hdispatch : c.dispatch w.bridges.next (.subscribed w.handles.next)
      (w.admitting source P.observer) = .ok true t :=
    (c.dispatch_admitting hs source P.observer).trans (bind_ok ht)
  have hdiscard : (discard (c.dispatch w.bridges.next (.subscribed w.handles.next)) : UI σ Unit)
      (w.admitting source P.observer) = .ok () t := bind_ok hdispatch
  refine ⟨t, hrec, hopen, hdispatch, fun warm => ?_⟩
  rw [Client.subscribe_of_admitted hn, Client.letIn_eq, bind_ok hdiscard,
    run_isDisposed_bind, hopen]
  rfl

-- ════════════════════════════════════════════════════════════════════════
-- Settling
-- ════════════════════════════════════════════════════════════════════════

omit hc in
/-- **The bridge is registered** with the two sources, and keys stand for each other. -/
theorem attachToOwn (hc : c.Impartial P K) (hP : P.Lawful m) :
    P.Alike K (fun key key' => key = P.rekeyOf P.twin key') (c.attachTo P.source P.bridge)
      (c.attachTo P.twin P.bridge) := by
  cases ht : P.twin with
  | client callback thread =>
    rw [hP.client callback thread ht, ht]
    exact hc.attach callback P.bridge
  | widget event n judge =>
    obtain ⟨plain, judge', hs, hmatch⟩ := hP.widget event n judge ht
    rw [hs]
    have hpoint : plain.point n = event.point n := congrArg (Point.mk · n) hmatch.site
    have hfits : P.Fits (event.point n) (.forward event P.bridge judge) := by
      rintro _ _ ⟨⟩
      exact ⟨n, ht, rfl⟩
    simp only [Client.attachTo, hpoint]
    exact installs (Pairing.relabel_own ht hs).symm hfits

theorem enrollOwn (hP : P.Lawful m) (h : HandleId) :
    P.Alike K (fun key key' => key = P.rekeyOf P.twin key') (c.enroll P.source P.bridge h)
      (c.enroll P.twin P.bridge h) := by
  refine (Pairing.Alike.note rfl rfl).next fun _ => (attachToOwn hc hP).bind ?_
  rintro _ key rfl
  exact (Pairing.Alike.note rfl rfl).next fun _ => (hc.setAction hP h (.own key)).next fun _ =>
    .pure rfl

/-- **Two subscriptions settle alike**, if the value with which the one starts is made of that with
    which its twin does. -/
theorem settleOwn (hP : P.Lawful m) {warm : Bool} (hcurrent : warm = true →
      P.Alike K (fun a b => P.project b = some a ∧ P.proper b) (c.currentValue P.source)
        (c.currentValue P.twin)) (h : HandleId) :
    P.Alike K Eq (c.settle ⟨P.source, warm⟩ P.bridge h) (c.settle ⟨P.twin, warm⟩ P.bridge h) := by
  refine (hc.enrollOwn hP h).bind fun _ key _ => (Pairing.Alike.note rfl rfl).next fun _ => ?_
  refine Pairing.Alike.next (x := c.greet ⟨P.source, warm⟩ P.bridge) ?_ fun _ =>
    (Pairing.Alike.note rfl rfl).next fun _ => .pure rfl
  cases warm with
  | false => exact .pure rfl
  | true => exact (hcurrent rfl).bind fun a b hab => (hc.emitOwn hab.1 hab.2).discard

/-- **Two subscriptions are alike** that are made in the same toolkit, if the values of the one are
    made of those of its twin. -/
theorem subscribeOwn (hP : P.Lawful m) (hs : w.Sound) (hb : P.bridge = w.bridges.next)
    (hgone : P.gone = none) (hfirst : P.first = []) {warm : Bool}
    (hn : P.source.thread w.screen = w.here ∨ w.threadCheck = .disabled)
    (hthread : P.source.thread w.screen = P.twin.thread w.screen)
    (hcurrent : warm = true →
      P.Alike K (fun a b => P.project b = some a ∧ P.proper b) (c.currentValue P.source)
        (c.currentValue P.twin)) :
    P.Agree K Eq (c.subscribe ⟨P.source, warm⟩ P.observer w)
      (c.subscribe ⟨P.twin, warm⟩ P.observer w) := by
  have hK := hc.equivalence
  have hn' : P.twin.thread w.screen = w.here ∨ w.threadCheck = .disabled := hthread ▸ hn
  have hstalled : c = .stalled → P.Agree K Eq (c.subscribe ⟨P.source, warm⟩ P.observer w)
      (c.subscribe ⟨P.twin, warm⟩ P.observer w) := by
    rintro rfl
    obtain ⟨x, hx⟩ := Client.subscribe_of_stalled P.observer hs hn
    obtain ⟨y, hy⟩ := Client.subscribe_of_stalled P.observer hs hn'
    rw [hx, hy]
    exact fun _ => ⟨x, rfl⟩
  obtain he | ⟨x, hx, -, -, hrun⟩ := hc.settles hs hb hn
  · exact hstalled he
  obtain he | ⟨y, hy, -, -, hrun'⟩ := hc.settles hs hb hn'
  · exact hstalled he
  have hstart : P.Resting K (w.admitting P.source P.observer) (w.admitting P.twin P.observer) :=
    .begin (s := w.screen) hK hs hP hb hfirst (.of_sound hs hb hgone)
      fun _ _ _ => .of_gone_eq_none hgone _
  rw [hrun, hrun', ← hb]
  exact hc.settleOwn hP hcurrent _ _ _ (hstart.recorded hK hx hy rfl (by simp))

end Client.Impartial

-- ════════════════════════════════════════════════════════════════════════
-- A subscription and itself
-- ════════════════════════════════════════════════════════════════════════

/-- **Two screens are the same**: the same widgets are shown, and the same listeners are there. -/
structure Screen.Same (s t : Screen) : Prop where
  bare : s.bare = t.bare
  viewsNext : s.views.next = t.views.next
  views : ∀ n, s.views.find? n = t.views.find? n
  slot : ∀ p, (s.slot p).content = (t.slot p).content
  roster : ∀ p, s.roster p = t.roster p

namespace Pairing

/-- The pairing of a subscription with itself. -/
def itself (b : BridgeId) (observer : Observer) (source : Source) : Pairing where
  bridge := b
  observer := observer
  source := source
  twin := source
  first := []
  project := some
  proper _ := True

/-- **A plain pairing**: both sources are the same, and values are handed over as they are. -/
structure Plain (P : Pairing) : Prop where
  source : P.source = P.twin
  project : P.project = some
  proper : ∀ a, P.proper a

namespace Plain

variable (hP : P.Plain)
include hP

theorem lawful : P.Lawful m where
  widget event n judge ht := by
    refine ⟨event, judge, hP.source.trans ht, rfl, rfl, fun e => ?_, fun e a _ hnone => ?_,
      fun _ a _ _ => hP.proper a⟩
    · rw [hP.project]
      exact (Option.bind_fun_some _).symm
    · rw [hP.project] at hnone
      cases hnone
  client _ _ _ := hP.source
  free _ a := ⟨by rw [hP.project], hP.proper a⟩

theorem total : P.Total := fun a _ => by rw [hP.project]; rfl

theorem relabel_eq (listener : Listener) : P.relabel listener = listener := by
  rw [relabel, hP.source]
  split
  · next hs ht =>
    rw [hs] at ht
    obtain ⟨rfl, -, rfl⟩ := Source.widget.inj ht
    split
    · next he => exact he.symm
    · rfl
  · rfl

/-- Screens that are the same but for the two listeners are the same. -/
theorem same {s t : Screen} (hgone : P.gone = none) (hst : P.SameScreen s t) : s.Same t where
  bare := hst.bare
  viewsNext := hst.viewsNext
  views n := by
    have hveiled : P.veiled n = id := by
      funext x
      have hhidden : P.hidden n = {} := by rw [hidden, hgone]
      simp [veiled, veil, hhidden, Flags.assign]
    have hn := hst.views n
    rwa [hveiled, Option.map_id, id, id] at hn
  slot p := by
    rw [hst.slot p (not_hides hgone p)]
    cases (t.slot p).content with
    | none => rfl
    | some listener => rw [Option.map_some, hP.relabel_eq]
  roster p := by
    rw [hst.roster p]
    exact Registry.map_eq_self (rekey_eq hgone p _) fun x _ =>
      ⟨rekey_eq hgone p _, hP.relabel_eq x.2⟩

theorem sameJudges {τ : Type} {code : Code m τ} {S : τ → τ → Prop} (hc : code.Impartial P S) :
    code.SameJudges P S := by
  intro event n judge plain n' judge' ht hs _
  rw [hP.source, ht] at hs
  obtain ⟨-, -, rfl⟩ := Source.widget.inj hs
  cases judge with
  | always => exact .always
  | client k =>
    refine .client fun a b hab => ?_
    rw [hP.project] at hab
    exact Option.some.inj hab ▸ hc.judge k b

end Plain

end Pairing

end WidgetStreams
