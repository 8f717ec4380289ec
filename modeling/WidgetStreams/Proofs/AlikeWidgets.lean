import WidgetStreams.Proofs.AlikeBridges

/-!
# Widgets treat twins alike

This file proves that the operations of widgets do the same in twin toolkits:
the listeners that they tell stand for each other. An operation may not tell a
slot that is left out of account.

## Main definitions

- `Sink.points` — the slots that may be told of events when a value is put into a sink

## Main results

- `Client.Impartial.hearAs` — listeners that stand for each other answer alike
- `Client.Impartial.notify`, `Client.Impartial.notifyAll` — so do the slots and the registries
-/

namespace WidgetStreams

open History UI

variable {σ τ α β : Type} {m : Manners} {K : σ → σ → Prop} {v w u : Toolkit σ} {P : Pairing}
  {c : Client σ} {b : BridgeId} {p : Point} {listener : Listener} {e : NativeEvent}

/-- The slots that may be told of events when a value is put into a widget. -/
def SinkBinding.points (v : ViewId) : SinkBinding → List Point
  | .query _ => [⟨.query, v⟩]
  | .barQuery => [⟨.barQuery, v⟩]
  | .selection => [⟨.itemSelected, v⟩]
  | _ => []

/-- The slots that may be told of events when a value is put into a sink. -/
def Sink.points : Sink → List Point
  | .widget binding v => binding.points v
  | .client _ => []
  | .adapted _ sink => sink.points

namespace Client.Impartial

variable (hc : c.Impartial P K) (hP : P.Lawful m)
include hc hP

-- ════════════════════════════════════════════════════════════════════════
-- Listeners
-- ════════════════════════════════════════════════════════════════════════

/-- **Listeners that stand for each other answer alike**, unless one passes over what the other
    hands over. -/
theorem hearAs (hfits : P.Fits p listener) (he : e.reporter? = none ∨ e.reporter? = some p.owner) :
    P.Alike K (fun a b => (e.isStale = true → P.Total) → a = b)
      (c.hearAs (P.relabel listener) e) (c.hearAs listener e) := by
  have hequal : ∀ {x y : UI σ Bool}, P.Alike K Eq x y →
      P.Alike K (fun a b => (e.isStale = true → P.Total) → a = b) x y :=
    fun hx => hx.mono fun _ _ hab _ => hab
  by_cases hown : ∃ event judge, listener = .forward event P.bridge judge
  · obtain ⟨event, judge, rfl⟩ := hown
    obtain ⟨n, ht, rfl⟩ := hfits event judge rfl
    obtain ⟨plain, judge', hs, hmatch⟩ := hP.widget event n judge ht
    rw [Pairing.relabel_own ht hs]
    have hdull : ∀ binding judge,
        (Event.heard (.forward binding P.bridge judge) e).isDull P.bridge =
        true := fun _ _ => beq_self_eq_true P.bridge
    refine (Pairing.Alike.note (hdull _ _) (hdull _ _)).next fun _ => ?_
    simp only [hmatch.payload e, hmatch.judged]
    cases hv : event.payload? e with
    | none => exact hequal (.pure rfl)
    | some a =>
      have hproper : P.proper a := hmatch.proper e a hv he
      cases hproject : P.project a with
      | none =>
        obtain ⟨hjudged, hstale⟩ := hmatch.passed e a hv hproject
        simp only [Option.bind_some, hproject, hjudged]
        refine (hc.emitTwin hproject hproper).mono fun _ _ _ htotal => ?_
        have hsome := htotal hstale a hproper
        rw [hproject] at hsome
        cases hsome
      | some x =>
        simp only [Option.bind_some, hproject]
        have hemit := hc.emitOwn hproject hproper
        split
        · next hj =>
          exact hequal (hc.judged hP hemit
            (hc.verdict event n judge plain n judge' ht hs hj x a hproject))
        · exact hequal hemit
  · have hother : ∀ event judge, listener ≠ .forward event P.bridge judge :=
      fun event judge h => hown ⟨event, judge, h⟩
    rw [Pairing.relabel_of_ne hother]
    cases listener with
    | client n => exact (Pairing.Alike.calling rfl).next fun _ => hequal (hc.hear n e)
    | silent => exact (Pairing.Alike.calling rfl).next fun _ => hequal (.pure rfl)
    | forward binding d judge =>
      have hd : d ≠ P.bridge := fun h => hother binding judge (h ▸ rfl)
      have hcall : (Event.heard (.forward binding d judge) e).isCall P.bridge = true :=
        bne_iff_ne.mpr hd
      refine (Pairing.Alike.calling hcall).next fun _ => ?_
      cases hv : binding.payload? e with
      | none =>
        simp only [hv]
        exact hequal (.pure rfl)
      | some a =>
        have hemit := hc.emit hP d a fun h => absurd h hd
        simp only [hv]
        split
        · exact hequal (hc.judged hP hemit (hc.verdictSame judge a))
        · exact hequal hemit

theorem notifyStale {p : Point} (hp : ¬ P.Hides p)
    (he : e.reporter? = none ∨ e.reporter? = some p.owner) :
    P.Alike K (fun a b => (e.isStale = true → P.Total) → a = b) (c.notify p e) (c.notify p e) := by
  refine screen.bind fun s t h => ?_
  rw [h.slot p hp]
  refine (Pairing.Alike.note rfl rfl).next fun _ => ?_
  cases hcontent : (t.slot p).content with
  | none => exact .pure fun _ => rfl
  | some listener =>
    exact (hc.hearAs hP (h.placed p listener (.inl hcontent)) he).bind fun _ _ hab =>
      .pure fun ht => congrArg some (hab ht)

theorem notify {p : Point} (hp : ¬ P.Hides p) (hs : e.isStale = false)
    (he : e.reporter? = none ∨ e.reporter? = some p.owner) :
    P.Alike K Eq (c.notify p e) (c.notify p e) :=
  (hc.notifyStale hP hp he).mono fun _ _ hab => hab fun h => by rw [hs] at h; cases h

theorem ask {p : Point} (hp : ¬ P.Hides p) (hs : e.isStale = false)
    (he : e.reporter? = none ∨ e.reporter? = some p.owner) :
    P.Alike K Eq (c.ask p e) (c.ask p e) :=
  (hc.notify hP hp hs he).next fun _ => .pure rfl

theorem notifyAll {listeners : List Listener} (hl : ∀ l ∈ listeners, P.Fits p l)
    (he : e.reporter? = none ∨ e.reporter? = some p.owner) :
    P.Alike K Eq (c.notifyAll e (listeners.map P.relabel)) (c.notifyAll e listeners) := by
  induction listeners with
  | nil => exact .pure rfl
  | cons l rest ih =>
    obtain ⟨hfits, hrest⟩ := List.forall_mem_cons.mp hl
    exact (hc.hearAs hP hfits he).discard.next fun _ => ih hrest

omit hc hP in
/-- **An operation** tells the listeners that stand for each other. -/
theorem operate {R : α → β → Prop} (p : Point) {body : List Listener → UI σ α}
    {body' : List Listener → UI σ β} (h : ∀ listeners, (∀ l ∈ listeners, P.Fits p l) →
      P.Alike K R (body (listeners.map P.relabel)) (body' listeners)) :
    P.Alike K R (UI.operate p body) (UI.operate p body') := by
  refine screen.bind fun s t hst => ?_
  rw [hst.roster p, Registry.snapshot_map]
  refine (Pairing.Alike.note rfl rfl).next fun _ => .ensuring (fun _ _ hvw => ?_)
    (h _ fun l hl => hst.placed p l (.inr hl))
  exact hvw.noted (e := .operated p) (f := .operated p) rfl rfl

omit hc hP in
/-- Reading what does not depend on listeners. -/
theorem sees {x : UI σ α} (f : Screen → α) (hx : ∀ w, x w = .ok (f w.screen.bare) w) :
    P.Alike K Eq x x :=
  .read fun v w hvw => ⟨_, _, hx v, hx w, congrArg f hvw.screen.bare⟩

-- ════════════════════════════════════════════════════════════════════════
-- Views
-- ════════════════════════════════════════════════════════════════════════

omit hc hP in
theorem flags (v : ViewId) :
    P.Alike K (fun f g => P.veil v f = P.veil v g) (UI.flags v : UI σ Flags) (UI.flags v) :=
  .read fun _ _ hvw => ⟨_, _, rfl, rfl, hvw.screen.flags v⟩

omit hc hP in
/-- The answer is the same, if no flag is chosen that is left out of account. -/
theorem assignFlags (v : ViewId) (chosen : Flags) (on : Bool) :
    P.Alike K (fun a b => P.Spares v chosen → a = b) (UI.assignFlags v chosen on : UI σ Bool)
      (UI.assignFlags v chosen on) := by
  refine (flags v).bind fun f g hfg =>
    .next (.changeScreen fun _ _ h => ?_) fun _ => .pure fun hs => ?_
  · exact h.setFlags (Pairing.veil_assign hfg chosen on)
  · simpa [bne, ← Bool.eq_iff_iff] using Pairing.assign_eq_iff hfg hs on

omit hc hP in
theorem setFlags (v : ViewId) (chosen : Flags) (on : Bool) :
    P.Alike K (fun a b => P.Spares v chosen → a = b) (UI.setFlags v chosen on : UI σ Bool)
      (UI.setFlags v chosen on) :=
  (assignFlags v chosen on).bind fun _ _ hab => (Pairing.Alike.note rfl rfl).next fun _ => .pure hab

omit hc hP in
theorem setVisibility (v : ViewId) (visibility : Visibility) :
    P.Alike K Eq (UI.setVisibility v visibility : UI σ Unit) (UI.setVisibility v visibility) :=
  .changeScreen fun _ _ h => h.setVisibility v visibility

section Focus

variable {v : ViewId} (hv : ¬ P.Hides ⟨.focus, v⟩)
include hv

theorem tellFocus (on : Bool) : P.Alike K Eq (c.tellFocus v on) (c.tellFocus v on) :=
  (Pairing.Alike.note rfl rfl).next fun _ => (hc.notify hP hv rfl (.inr rfl)).discard

theorem requestFocus : P.Alike K Eq (c.requestFocus v) (c.requestFocus v) := by
  refine (flags v).bind fun f g hfg => ?_
  rw [Pairing.enabled_eq hfg, Pairing.focusable_eq hfg, Pairing.focused_eq hfg]
  refine .ite (.pure rfl) (.ite (.pure rfl) ?_)
  exact (assignFlags v _ true).discard.next fun _ =>
    (hc.tellFocus hP hv true).next fun _ => .pure rfl

theorem clearFocus : P.Alike K Eq (c.clearFocus v) (c.clearFocus v) := by
  refine (flags v).bind fun f g hfg => ?_
  rw [Pairing.focused_eq hfg]
  exact (assignFlags v _ false).discard.next fun _ =>
    .ite (hc.tellFocus hP hv false) (.pure rfl)

theorem setFocusable (on : Bool) : P.Alike K Eq (c.setFocusable v on) (c.setFocusable v on) :=
  (setFlags v _ on).discard.next fun _ => .ite (hc.clearFocus hP hv) (.pure rfl)

end Focus

theorem click {v : ViewId} (hv : ¬ P.Hides ⟨.click, v⟩) :
    P.Alike K Eq (c.click v) (c.click v) :=
  (Pairing.Alike.note rfl rfl).next fun _ =>
    (hc.notify hP hv rfl (.inr rfl)).next fun _ => .pure rfl

theorem longClick {v : ViewId} (hv : ¬ P.Hides ⟨.longClick, v⟩) :
    P.Alike K Eq (c.longClick v) (c.longClick v) :=
  (Pairing.Alike.note rfl rfl).next fun _ => hc.ask hP hv rfl (.inr rfl)

theorem touch {v : ViewId} (hv : ¬ P.Hides ⟨.touch, v⟩) (motion : Motion) :
    P.Alike K Eq (c.touch v motion) (c.touch v motion) := by
  refine (flags v).bind fun f g hfg => ?_
  rw [Pairing.enabled_eq hfg]
  exact .ite (hc.ask hP hv rfl (.inr rfl)) (.pure rfl)

theorem hover {v : ViewId} (hv : ¬ P.Hides ⟨.hover, v⟩) (motion : Motion) :
    P.Alike K Eq (c.hover v motion) (c.hover v motion) := by
  refine (flags v).bind fun f g hfg => ?_
  rw [Pairing.enabled_eq hfg]
  exact .ite (hc.ask hP hv rfl (.inr rfl)) (.pure rfl)

theorem swipeAway {n : Nat} (hn : ¬ P.Hides ⟨.swipe, n⟩) :
    P.Alike K Eq (c.swipeAway n) (c.swipeAway n) := by
  refine screen.bind fun s t h => ?_
  rw [h.read (f := fun s => s.swipes) fun _ => rfl]
  exact (setVisibility _ _).next fun _ => (hc.notify hP hn rfl (.inl rfl)).discard

-- ════════════════════════════════════════════════════════════════════════
-- Adapter views
-- ════════════════════════════════════════════════════════════════════════

omit hc hP in
theorem rows (v : ViewId) : P.Alike K Eq (UI.rows v : UI σ Rows) (UI.rows v) :=
  sees (fun s => s.rowsOf v) fun _ => rfl

theorem select {v : ViewId} (hv : ¬ P.Hides ⟨.itemSelected, v⟩) (position : Int32) :
    P.Alike K Eq (c.select v position) (c.select v position) := by
  refine (rows v).next fun r => ?_
  split
  · exact .pure rfl
  · refine .ite ?_ (.pure rfl)
    exact .next (.changeBare fun _ => rfl) fun _ =>
      (hc.notify hP hv rfl (.inr rfl)).discard.next fun _ => .pure rfl

theorem clearSelection {v : ViewId} (hv : ¬ P.Hides ⟨.itemSelected, v⟩) :
    P.Alike K Eq (c.clearSelection v) (c.clearSelection v) :=
  (rows v).next fun _ => .next (.changeBare fun _ => rfl) fun _ =>
    .ite (hc.notify hP hv rfl (.inr rfl)).discard (.pure rfl)

theorem setRows {v : ViewId} (hv : ¬ P.Hides ⟨.itemSelected, v⟩) (ids : List Int64) :
    P.Alike K Eq (c.setRows v ids) (c.setRows v ids) :=
  (rows v).next fun _ => .ite
    (.next (.changeBare fun _ => rfl) fun _ => (hc.notify hP hv rfl (.inr rfl)).discard)
    (.changeBare fun _ => rfl)

theorem clickRow {v : ViewId} (hv : ¬ P.Hides ⟨.itemClick, v⟩) (position : Int32) :
    P.Alike K Eq (c.clickRow v position) (c.clickRow v position) :=
  (rows v).next fun _ => (hc.notify hP hv rfl (.inr rfl)).next fun _ => .pure rfl

theorem longClickRow {v : ViewId} (hv : ¬ P.Hides ⟨.itemLongClick, v⟩) (position : Int32) :
    P.Alike K Eq (c.longClickRow v position) (c.longClickRow v position) :=
  (rows v).next fun _ => hc.ask hP hv rfl (.inr rfl)

-- ════════════════════════════════════════════════════════════════════════
-- Texts and queries
-- ════════════════════════════════════════════════════════════════════════

omit hc hP in
theorem text (v : ViewId) : P.Alike K Eq (UI.text v : UI σ String) (UI.text v) :=
  sees (fun s => s.text v) fun _ => rfl

theorem edit (v : ViewId) (start before count : Nat) (apply : String → String) :
    P.Alike K Eq (c.edit v start before count apply) (c.edit v start before count apply) := by
  refine operate _ fun watchers hw => ?_
  refine (text v).next fun _ => (hc.notifyAll hP hw (.inr rfl)).next fun _ => (text v).next fun _ =>
    .next (.changeBare fun _ => rfl) fun _ => (Pairing.Alike.note rfl rfl).next fun _ =>
      (Pairing.Alike.note rfl rfl).next fun _ => ?_
  exact (hc.notifyAll hP hw (.inr rfl)).next fun _ => hc.notifyAll hP hw (.inr rfl)

theorem setText (v : ViewId) (s : String) : P.Alike K Eq (c.setText v s) (c.setText v s) :=
  (text v).next fun _ => hc.edit hP v _ _ _ _

theorem append (v : ViewId) (s : String) : P.Alike K Eq (c.append v s) (c.append v s) :=
  (text v).next fun _ => hc.edit hP v _ _ _ _

theorem actInEditor {v : ViewId} (hv : ¬ P.Hides ⟨.editorAction, v⟩) (action : Int32) :
    P.Alike K Eq (c.actInEditor v action) (c.actInEditor v action) :=
  hc.ask hP hv rfl (.inr rfl)

theorem submitQuery {v : ViewId} (hv : ¬ P.Hides ⟨.query, v⟩) :
    P.Alike K (fun a b => P.Total → a = b) (c.submitQuery v) (c.submitQuery v) := by
  refine (sees (fun s => s.query v) fun _ => rfl).next fun q => ?_
  refine (Pairing.Alike.note rfl rfl).next fun _ => ?_
  refine (hc.notifyStale hP hv (.inr rfl)).bind fun a b hab => ?_
  exact .pure fun ht => congrArg (·.getD false) (hab fun _ => ht)

theorem setQuery {v : ViewId} (hv : ¬ P.Hides ⟨.query, v⟩) (query : String) (submit : Bool) :
    P.Alike K Eq (c.setQuery v query submit) (c.setQuery v query submit) :=
  .next (.changeBare fun _ => rfl) fun _ => (hc.notify hP hv rfl (.inr rfl)).discard.next fun _ =>
    .ite (hc.submitQuery hP hv).discard (.pure rfl)

theorem setBarQuery {v : ViewId} (hv : ¬ P.Hides ⟨.barQuery, v⟩) (query : String) :
    P.Alike K Eq (c.setBarQuery v query) (c.setBarQuery v query) :=
  .next (.changeBare fun _ => rfl) fun _ => (hc.notify hP hv rfl (.inr rfl)).discard

theorem submitBarQuery {v : ViewId} (hv : ¬ P.Hides ⟨.barQuery, v⟩) :
    P.Alike K Eq (c.submitBarQuery v) (c.submitBarQuery v) :=
  (sees (fun s => s.barQuery v) fun _ => rfl).next fun _ =>
    (hc.notifyStale hP hv (.inr rfl)).discard

theorem dismissKeyboard {v : ViewId} (hv : ¬ P.Hides ⟨.barQuery, v⟩) :
    P.Alike K Eq (c.dismissKeyboard v) (c.dismissKeyboard v) :=
  (sees (fun s => s.barQuery v) fun _ => rfl).next fun _ =>
    (hc.notifyStale hP hv (.inr rfl)).discard

-- ════════════════════════════════════════════════════════════════════════
-- Pagers, menus and scroll views
-- ════════════════════════════════════════════════════════════════════════

omit hc hP in
theorem pages (v : ViewId) : P.Alike K Eq (UI.pages v : UI σ Pages) (UI.pages v) :=
  sees (fun s => s.pagesOf v) fun _ => rfl

theorem tellSteps (v : ViewId) {listeners : List Listener}
    (hl : ∀ l ∈ listeners, P.Fits ⟨.page, v⟩ l) (steps : List PageStep) :
    P.Alike K Eq (c.tellSteps v (listeners.map P.relabel) steps)
      (c.tellSteps v listeners steps) := by
  induction steps with
  | nil => exact .pure rfl
  | cons step rest ih =>
    have htake : P.Alike K Eq (UI.takeStep v step : UI σ Unit) (UI.takeStep v step) := by
      cases step with
      | motion state => exact (pages v).next fun _ => (.changeBare fun _ => rfl)
      | _ => exact .pure rfl
    have hstep : (step.event v).reporter? = some v := by cases step <;> rfl
    exact htake.next fun _ => (hc.notifyAll hP hl (.inr hstep)).next fun _ => ih

theorem setPage (v : ViewId) (page : Nat) (smooth : Bool) :
    P.Alike K Eq (c.setPage v page smooth) (c.setPage v page smooth) := by
  refine (pages v).next fun p => .ite (.pure rfl) (.ite ?_ (.pure rfl))
  refine (operate _ fun ls hl => ?_).next fun _ => .pure rfl
  exact .next (.changeBare fun _ => rfl) fun _ => (Pairing.Alike.note rfl rfl).next fun _ =>
    hc.tellSteps hP v hl _

theorem swipeTo (v : ViewId) (page : Nat) :
    P.Alike K Eq (c.swipeTo v page) (c.swipeTo v page) := by
  refine (pages v).next fun p => .ite (.pure rfl) ?_
  refine (operate _ fun ls hl => ?_).next fun _ => .pure rfl
  have htell := hc.tellSteps hP v hl (p.glide page true)
  refine .ite ?_ htell
  exact .next (.changeBare fun _ => rfl) fun _ => (Pairing.Alike.note rfl rfl).next fun _ => htell

theorem dismissMenu {n : Nat} (hd : ¬ P.Hides ⟨.menuDismiss, n⟩) :
    P.Alike K Eq (c.dismissMenu n) (c.dismissMenu n) :=
  (sees (fun s => s.menus.get n) fun _ => rfl).next fun _ =>
    .next (.changeBare fun _ => rfl) fun _ =>
    .ite (hc.notify hP hd rfl (.inl rfl)).discard (.pure rfl)

theorem chooseItem {n : Nat} (hn : ¬ P.Hides ⟨.menuClick, n⟩)
    (hd : ¬ P.Hides ⟨.menuDismiss, n⟩) (id : Int32) :
    P.Alike K Eq (c.chooseItem n id) (c.chooseItem n id) := by
  refine (sees (fun s => s.menus.get n) fun _ => rfl).next fun menu => ?_
  split
  · exact .pure rfl
  · exact (hc.ask hP hn rfl (.inl rfl)).next fun _ =>
      (hc.dismissMenu hP hd).next fun _ => .pure rfl

theorem scrollTo {v : ViewId} (hv : ¬ P.Hides ⟨.scroll, v⟩) (new : ScrollOffset) :
    P.Alike K Eq (c.scrollTo v new) (c.scrollTo v new) :=
  (sees (fun s => s.offset v) fun _ => rfl).next fun _ => .next (.changeBare fun _ => rfl) fun _ =>
    .ite (hc.notify hP hv rfl (.inr rfl)).discard (.pure rfl)

theorem scrollBy {v : ViewId} (hv : ¬ P.Hides ⟨.scroll, v⟩) (dx dy : Int32) :
    P.Alike K Eq (c.scrollBy v dx dy) (c.scrollBy v dx dy) :=
  (sees (fun s => s.offset v) fun _ => rfl).next fun _ => hc.scrollTo hP hv _

theorem put {v : ViewId} {binding : SinkBinding} (hp : ∀ p ∈ binding.points v, ¬ P.Hides p)
    (value : Payload) : P.Alike K Eq (c.put v binding value) (c.put v binding value) := by
  have hflag : ∀ chosen on, P.Alike K Eq
      (do return Except.ok (← Functor.discard (UI.setFlags v chosen on)) :
        UI σ (Except WidgetError Unit))
      (do return Except.ok (← Functor.discard (UI.setFlags v chosen on))) :=
    fun chosen on => (setFlags v chosen on).discard.next fun _ => .pure rfl
  cases binding <;> cases value
  case activated.flag on => exact hflag _ on
  case clickable.flag on => exact hflag _ on
  case enabled.flag on => exact hflag _ on
  case pressed.flag on => exact hflag _ on
  case selected.flag on => exact hflag _ on
  case visibility.flag => exact (setVisibility v _).next fun _ => .pure rfl
  case text.text => exact (hc.setText hP v _).next fun _ => .pure rfl
  case query.text => exact (hc.setQuery hP (hp _ List.mem_cons_self) _ _).next fun _ => .pure rfl
  case barQuery.text =>
    exact (hc.setBarQuery hP (hp _ List.mem_cons_self) _).next fun _ => .pure rfl
  case selection.number => exact hc.select hP (hp _ List.mem_cons_self) _
  case currentPage.page => exact hc.setPage hP v _ _
  all_goals exact .pure rfl

theorem accept {sink : Sink} (hp : ∀ p ∈ sink.points, ¬ P.Hides p) (value : Payload) :
    P.Alike K Eq (c.accept sink value) (c.accept sink value) := by
  induction sink generalizing value with
  | widget binding v => exact (hc.put hP hp value).next fun _ => .pure rfl
  | client n => exact (hc.absorb n value).next fun _ => .pure rfl
  | adapted adapter sink ih => exact ih hp (adapter.apply value)

end Client.Impartial

end WidgetStreams
