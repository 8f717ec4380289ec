import WidgetStreams.Proofs.Selecting
import WidgetStreams.Proofs.Tidings

/-!
# What subscribers know of a selection

This file proves how far a subscriber to the selection of an adapter view is up to
date. The position that it was told last is the selected one. The row id that came
with it may be that of a row which was replaced since: other rows under a selection
that stays in range are shown without a word. But it is one that a fresh
subscription was given then or later, and no change of the selection was told since.

## Main definitions

- `Toolkit.Known` — an event that a fresh subscription delivers, or delivered since the latest
  change
- `Toolkit.Remembers` — what was told last of a selection is known
- `Concern.remembering` — what was told of selections is known, a concern

## Main results

- `Client.remembering_place` — calls keep it
- `Code.selections_remembered` — what a subscriber to a selection has received last

## Design notes

The value with which a subscription starts is read off the rows in one step with its
registration. In the journal it is the value that is taken right after the entry that
says that the subscription is attached.
-/

namespace WidgetStreams

open History UI

variable {σ τ α : Type} {m : Manners} {c : Client (Desk τ)}

-- ════════════════════════════════════════════════════════════════════════
-- What is known of a selection
-- ════════════════════════════════════════════════════════════════════════

/-- The rows of an adapter view decide what a subscription to its selection starts with. -/
theorem Screen.current_selectionEvents_congr {s s' : Screen} {n : ViewId}
    (h : s'.rowsOf n = s.rowsOf n) :
    s'.current .selectionEvents n = s.current .selectionEvents n := by
  simp only [Screen.current, h]

/-- An event of a selection without the row that is selected. -/
def Payload.unrowed : Payload → Payload
  | .itemSelected view position _ => .itemSelected view position invalidRowId
  | event => event

/-- What a subscription to a selection starts with is up to the selected position, but for the
    row. -/
theorem Screen.unrowed_selectionEvents (s : Screen) (n : ViewId) :
    (s.current .selectionEvents n).unrowed =
      if (s.rowsOf n).selected = invalidPosition then .nothingSelected n
      else .itemSelected n (s.rowsOf n).selected invalidRowId := by
  simp only [Screen.current]
  split <;> rfl

/-- A handle was registered with the selection of an adapter view, and with nothing else. -/
def History.Watches (n : ViewId) (h : HandleId) (j : List Entry) : Prop :=
  (∃ judge key, Occurred (.registered h (.widget .selectionEvents n judge) key) j) ∧
    ∀ source key, Occurred (.registered h source key) j →
      ∃ judge, source = .widget .selectionEvents n judge

namespace Toolkit

/-- **A selection is kept** from one moment to a later one: no change of it is told. -/
structure KeepsSelection (v w : Toolkit Unit) (n : ViewId) : Prop where
  grown : v.journal <:+ w.journal
  told : History.told .selectionEvents n w.journal = History.told .selectionEvents n v.journal
  selected : (w.screen.rowsOf n).selected = (v.screen.rowsOf n).selected

/-- **An event is known** if a fresh subscription to the selection of an adapter view starts with it
    now, or started with it at an earlier moment from which on the selection is kept. There the
    journal was `since` or had grown from that. -/
def Known (us : List (Toolkit Unit)) (w : Toolkit Unit) (n : ViewId) (since : List Entry)
    (e : Payload) : Prop :=
  e = w.screen.current .selectionEvents n ∨
    ∃ y ∈ us, since <:+ y.journal ∧ y.KeepsSelection w n ∧ e = y.screen.current .selectionEvents n

/-- **What was told last of a selection is known**: by an event, or by the value with which a
    subscription started. -/
structure Remembers (us : List (Toolkit Unit)) (w : Toolkit Unit) (n : ViewId) : Prop where
  told : ∀ e ∈ (History.told .selectionEvents n w.journal).getLast?, w.Known us n [] e
  started : ∀ later t t' b h key value rest,
    w.journal =
        later ++ ⟨t, .accepted b (.next value) false⟩ :: ⟨t', .attached h key true⟩ :: rest →
      Watches n h rest → History.told .selectionEvents n later = [] →
        w.Known us n
          (⟨t, .accepted b (.next value) false⟩ :: ⟨t', .attached h key true⟩ :: rest) value
  /-- No subscription is about to start with a value. -/
  settled : ∀ t h key rest, w.journal = ⟨t, .attached h key true⟩ :: rest → ¬ Watches n h rest

variable {us us' : List (Toolkit Unit)} {v w u : Toolkit Unit} {n : ViewId} {e : Payload}
  {since : List Entry}

theorem KeepsSelection.trans (h : v.KeepsSelection w n) (h' : w.KeepsSelection u n) :
    v.KeepsSelection u n :=
  ⟨h.grown.trans h'.grown, h'.told.trans h.told, h'.selected.trans h.selected⟩

/-- What is known stays so while the selection and its row do. -/
theorem Known.grow (hw : w.Known us n since e) (hus : us ⊆ us') (hj : w.journal <:+ u.journal)
    (htold : History.told .selectionEvents n u.journal = History.told .selectionEvents n w.journal)
    (hs : u.screen.rowsOf n = w.screen.rowsOf n) : u.Known us' n since e := by
  obtain rfl | ⟨y, hy, hsince, hkept, rfl⟩ := hw
  · exact .inl (Screen.current_selectionEvents_congr hs).symm
  · exact .inr ⟨y, hus hy, hsince, hkept.trans ⟨hj, htold, congrArg Rows.selected hs⟩, rfl⟩

/-- What is shown when rows are changed is written down. -/
theorem Known.swap (hw : w.Known us n since e) (hmoment : w ∈ us) (hsince : since <:+ w.journal)
    (hkept : w.KeepsSelection u n) : u.Known us n since e := by
  obtain rfl | ⟨y, hy, hsince', hkept', rfl⟩ := hw
  · exact .inr ⟨w, hmoment, hsince, hkept, rfl⟩
  · exact .inr ⟨y, hy, hsince', hkept'.trans hkept, rfl⟩

/-- **What is known is right** but for the row: it has the selected position, if there is one. -/
theorem Known.unrowed (hw : w.Known us n since e) :
    e.unrowed = (w.screen.current .selectionEvents n).unrowed := by
  obtain rfl | ⟨y, -, -, hkept, rfl⟩ := hw
  · rfl
  · rw [Screen.unrowed_selectionEvents, Screen.unrowed_selectionEvents, hkept.selected]

namespace Remembers

/-- Nothing is told, and what is known stays so. -/
theorem of_known (hw : w.Remembers us n) (hj : u.journal = w.journal)
    (hknown : ∀ since e, since <:+ w.journal → w.Known us n since e → u.Known us' n since e) :
    u.Remembers us' n where
  told e he := hknown [] e (List.nil_suffix) (hw.told e (hj ▸ he))
  started later t t' b h key value rest hsplit hwatch htold := by
    rw [hj] at hsplit
    refine hknown _ value ?_ (hw.started later t t' b h key value rest hsplit hwatch htold)
    exact hsplit ▸ List.suffix_append _ _
  settled t h key rest hhead := hw.settled t h key rest (hj ▸ hhead)

/-- An entry more that tells of no selection, and starts no subscription to it. -/
theorem quiet (hw : w.Remembers us n) {x : Entry} (hj : u.journal = x :: w.journal)
    (hs : u.screen.rowsOf n = w.screen.rowsOf n)
    (hx : tiding? .selectionEvents n x.event = none)
    (hstart : ∀ h key, x.event = .attached h key true → ¬ Watches n h w.journal) :
    u.Remembers us n := by
  have htold : ∀ j, History.told .selectionEvents n (x :: j) = History.told .selectionEvents n j :=
    fun _ => told_cons_of_none hx
  have hknown : ∀ {since e}, w.Known us n since e → u.Known us n since e := fun he =>
    he.grow (List.Subset.refl _) (hj ▸ List.suffix_cons _ _) (by rw [hj, htold]) hs
  refine ⟨fun e he => ?_, fun later t t' b h key value rest hsplit hwatch hlater => ?_,
    fun t h key rest hhead => ?_⟩
  · rw [hj, htold] at he
    exact hknown (hw.told e he)
  · rw [hj] at hsplit
    cases later with
    | nil =>
      obtain ⟨rfl, hrest⟩ := List.cons.inj hsplit
      exact absurd hwatch (hw.settled _ _ _ _ hrest)
    | cons y later =>
      obtain ⟨rfl, hrest⟩ := List.cons.inj hsplit
      rw [htold] at hlater
      exact hknown (hw.started later t t' b h key value rest hrest hwatch hlater)
  · rw [hj] at hhead
    obtain ⟨rfl, rfl⟩ := List.cons.inj hhead
    exact hstart h key rfl

/-- **A change of the selection is told**, with what is shown from then on. -/
theorem of_told {x : Entry} {j : List Entry} (hj : u.journal = x :: j)
    (hx : tiding? .selectionEvents n x.event = some (u.screen.current .selectionEvents n)) :
    u.Remembers us n := by
  have htold : ∀ j, History.told .selectionEvents n (x :: j) =
      History.told .selectionEvents n j ++ [u.screen.current .selectionEvents n] :=
    fun _ => told_cons_of_some hx
  refine ⟨fun e he => ?_, fun later t t' b h key value rest hsplit hwatch hlater => ?_,
    fun t h key rest hhead => ?_⟩
  · rw [hj, htold, List.getLast?_concat] at he
    exact .inl (Option.some.inj he).symm
  · rw [hj] at hsplit
    cases later with
    | nil =>
      obtain ⟨rfl, -⟩ := List.cons.inj hsplit
      cases hx
    | cons y later =>
      obtain ⟨rfl, -⟩ := List.cons.inj hsplit
      rw [htold] at hlater
      simp at hlater
  · rw [hj] at hhead
    obtain ⟨rfl, -⟩ := List.cons.inj hhead
    cases hx

/-- **A subscription starts** with what is shown, or it is too late for that. -/
theorem start (hw : w.Remembers us n) {t t' : Thread} {h : HandleId} {key : Option Nat}
    {b : BridgeId} {k : ViewId} {e : Event}
    (hj : u.journal = ⟨t, e⟩ :: ⟨t', .attached h key true⟩ :: w.journal)
    (hs : u.screen = w.screen) (hwatch : Watches n h w.journal → k = n)
    (he : e = .late b ∨
      ∃ queued, e = .accepted b (.next (w.screen.current .selectionEvents k)) queued) :
    u.Remembers us n := by
  have hquiet : tiding? .selectionEvents n e = none := by obtain rfl | ⟨queued, rfl⟩ := he <;> rfl
  have htold : ∀ j, History.told .selectionEvents n (⟨t, e⟩ :: j) =
      History.told .selectionEvents n j := fun _ => told_cons_of_none hquiet
  have hattached : ∀ j, History.told .selectionEvents n (⟨t', .attached h key true⟩ :: j) =
      History.told .selectionEvents n j := fun _ => told_cons_of_none rfl
  have hknown : ∀ {since e}, w.Known us n since e → u.Known us n since e := fun he =>
    he.grow (List.Subset.refl _) (hj ▸ (List.suffix_cons _ _).trans (List.suffix_cons _ _))
      (by rw [hj, htold, hattached]) (by rw [hs])
  refine ⟨fun e' he' => ?_, fun later t₁ t₂ b' h' key' value rest hsplit hwatch' hlater => ?_,
    fun t₁ h' key' rest hhead => ?_⟩
  · rw [hj, htold, hattached] at he'
    exact hknown (hw.told e' he')
  · rw [hj] at hsplit
    obtain _ | ⟨first, _ | ⟨second, later⟩⟩ := later
    · obtain ⟨hfirst, hrest⟩ := List.cons.inj hsplit
      obtain ⟨hsecond, rfl⟩ := List.cons.inj hrest
      cases hsecond
      obtain rfl := hwatch hwatch'
      obtain rfl | ⟨queued, rfl⟩ := he
      · cases hfirst
      · cases hfirst
        exact .inl (by rw [hs])
    · obtain ⟨-, hrest⟩ := List.cons.inj hsplit
      obtain ⟨hsecond, -⟩ := List.cons.inj hrest
      cases hsecond
    · obtain ⟨rfl, htail⟩ := List.cons.inj hsplit
      obtain ⟨rfl, hrest⟩ := List.cons.inj htail
      rw [htold, hattached] at hlater
      exact hknown (hw.started later t₁ t₂ b' h' key' value rest hrest hwatch' hlater)
  · rw [hj] at hhead
    obtain ⟨hfirst, -⟩ := List.cons.inj hhead
    obtain rfl | ⟨queued, rfl⟩ := he <;> cases hfirst

end Remembers

end Toolkit

-- ════════════════════════════════════════════════════════════════════════
-- What was told of selections is known
-- ════════════════════════════════════════════════════════════════════════

/-- **What was told of selections is known**, a concern. -/
def Concern.remembering : Concern .itemSelected where
  panics := True
  holds us w := ∀ n, w.Remembers us n
  same v w := v.journal <:+ w.journal
  refl _ := List.suffix_refl _
  trans h h' := h.trans h'
  spared {us v w} hv hj hs := by
    refine ⟨fun n => (hv n).of_known hj fun since e _ he => ?_, hj ▸ List.suffix_refl _⟩
    exact he.grow (List.Subset.refl _) (hj ▸ List.suffix_refl _) (by rw [hj]) (hs.rowsOf_eq n)
  note {us w e} hw he := by
    refine ⟨fun n => (hw n).quiet rfl rfl ?_ fun h key hattached => ?_, List.suffix_cons _ _⟩
    · exact tiding?_of_no_arrival .selectionEvents (Event.arrival?_of_isApart he rfl)
    · obtain he | ⟨s', -, he⟩ := he
      · rw [show e = _ from hattached] at he
        cases he
      · rw [show e = _ from hattached] at he
        cases he
  moment {us w} hw n := (hw n).of_known rfl fun since e _ he =>
    he.grow (List.subset_cons_self _ _) (List.suffix_refl _) rfl rfl

/-- A listener may hear of anything. -/
theorem UI.remembering_heard (listener : Listener) (e : NativeEvent) :
    Minds Concern.remembering (τ := τ) False Unit (UI.note (.heard listener e)) := fun w hw =>
  have hnow : ∀ n, (w.noted (.heard listener e)).erased.Remembers w.client.moments n :=
    fun n => (hw.now n).quiet rfl rfl rfl nofun
  ⟨⟨hnow, hw.record⟩, List.suffix_cons _ _⟩

/-- **A change of the selected position is told** as a fresh subscription would start with it. -/
theorem Rows.payload?_of_told {v : ViewId} {was is : Rows} {e : NativeEvent} {s : Screen}
    (h : Rows.told v was is = [e]) (hs : s.rowsOf v = is) :
    Binding.selectionEvents.payload? e = some (s.current .selectionEvents v) := by
  simp only [Screen.current, hs]
  rw [Rows.told] at h
  split at h
  · cases h
  split at h
  · next hnone =>
    cases h
    rw [if_pos hnone]
    rfl
  · next hsome =>
    cases h
    rw [if_neg hsome]
    rfl

namespace Client

variable (hc : c.Has (Minds Concern.remembering))
include hc

/-- **What calls do to rows** is known afterwards: a change of the selection is told, and what fresh
    subscriptions would have started with before other rows are shown is written down. -/
theorem remembering_reselects {w : Toolkit (Desk τ)} {v : ViewId}
    {y : EStateM.Result Interrupt (Toolkit (Desk τ)) α} (h : c.Reselects v w y)
    (hw : Concern.remembering.Kept w) (hmoment : w.erased ∈ w.client.moments) :
    Concern.remembering.Ends False (fun u => w.journal <:+ u.journal) y := by
  cases h with
  | quietly hj hclient hrows hkept =>
    refine ⟨⟨fun n => ?_, hclient ▸ hw.record⟩, hj ▸ List.suffix_refl _⟩
    rw [hclient]
    refine (hw.now n).of_known hj fun since e hsince he => he.swap hmoment hsince ?_
    refine ⟨hj ▸ List.suffix_refl _, congrArg _ hj, (congrArg Rows.selected (hrows n)).trans ?_⟩
    split
    · next hn => exact hn ▸ hkept
    · rfl
  | @tells a r e htold =>
    let shown := w.withRows v r
    have hnow : ∀ content n,
        (shown.noted (.dispatched ⟨.itemSelected, v⟩ e content)).erased.Remembers
          w.client.moments n := by
      intro content n
      have hrows := w.rowsOf_withRows v n r
      by_cases hn : v = n
      · subst hn
        refine .of_told rfl ?_
        exact (tiding?_of_arrival .selectionEvents (arrival?_self _ e content)).trans
          (Rows.payload?_of_told htold (hrows.trans (if_pos rfl)))
      · exact (hw.now n).quiet rfl (hrows.trans (if_neg hn))
          (tiding?_of_no_arrival .selectionEvents (arrival?_of_ne hn e content)) nofun
    have hnotify := Concern.remembering.notify (v := w) (w := shown) (p := ⟨.itemSelected, v⟩)
      (e := e) hc ⟨hnow _, hw.record⟩ (List.suffix_cons _ _)
      fun listener => UI.remembering_heard listener e
    exact hnotify.bind (fun _ _ h => h) fun _ u hu hwu => ⟨hu, hwu⟩

/-- **A value with which a subscription starts** is known, if it is one of a selection. -/
theorem remembering_greet {x : Toolkit (Desk τ)} (hx : Concern.remembering.Kept x) {stream : Stream}
    {b : BridgeId} {h : HandleId} {key : Option Nat}
    (hreg : Occurred (.registered h stream.source key) x.journal) :
    Concern.remembering.Ends False (fun u => x.journal <:+ u.journal)
      ((UI.note (.attached h key stream.warm) >>= fun _ => c.greet stream b) x) := by
  have htrait := Concern.remembering.trait (τ := τ)
  have hgreet : Minds Concern.remembering False Unit (c.greet stream b) :=
    Trait.ite (htrait.bind (htrait.currentValue hc _) fun _ => htrait.discard (htrait.emit hc b _))
      (htrait.pure ())
  have hplain : (∀ n, stream.warm = true → ¬ Watches n h x.journal) →
      Concern.remembering.Ends False (fun u => x.journal <:+ u.journal)
        (c.greet stream b (x.noted (.attached h key stream.warm))) := by
    intro hnone
    refine (hgreet (x.noted (.attached h key stream.warm)) ⟨fun n => ?_, hx.record⟩).mono id
      fun _ _ hu => (List.suffix_cons _ _).trans hu
    refine (hx.now n).quiet rfl rfl rfl fun h' key' heq => ?_
    obtain ⟨rfl, -, hwarm⟩ := Event.attached.inj heq
    exact hnone n hwarm
  rw [run_note_bind]
  by_cases hwatch : ∃ n, stream.warm = true ∧ Watches n h x.journal
  swap
  · exact hplain fun n hwarm hn => hwatch ⟨n, hwarm, hn⟩
  -- the value is read off the rows, and taken before anything else happens
  obtain ⟨n, hwarm, hn⟩ := hwatch
  obtain ⟨judge, hsource⟩ := hn.2 _ _ hreg
  let value := x.screen.current .selectionEvents n
  have hrun : c.greet stream b (x.noted (.attached h key stream.warm)) =
      discard (c.emit b value) (x.noted (.attached h key true)) := by
    simp only [Client.greet, hwarm, hsource, if_true]
    rfl
  rw [hrun]
  obtain hstalled | ⟨e, y, he, hy, hemit⟩ :=
    htrait.emitting hc b value (x.noted (.attached h key true))
  · rw [show discard (c.emit b value) _ = _ from bind_error hstalled]
    exact hx.record
  have hkept : Concern.remembering.Kept ((x.noted (.attached h key true)).noted e) := by
    refine ⟨fun k => (hx.now k).start rfl rfl (fun hk => ?_) he, hx.record⟩
    obtain ⟨judge', hsource'⟩ := hk.2 _ _ hreg
    rw [hsource] at hsource'
    exact (Source.widget.inj hsource').2.1
  have hrest : discard (c.emit b value) (x.noted (.attached h key true)) =
      discard y ((x.noted (.attached h key true)).noted e) := by
    change (c.emit b value >>= fun _ => pure ()) _ = (y >>= fun _ => pure ()) _
    cases hr : y ((x.noted (.attached h key true)).noted e) with
    | ok a u => rw [bind_ok (hemit.trans hr), bind_ok hr]
    | error fault u => rw [bind_error (hemit.trans hr), bind_error hr]
  rw [hrest]
  exact (htrait.discard hy _ hkept).mono id fun _ _ hu =>
    ((List.suffix_cons _ _).trans (List.suffix_cons _ _)).trans hu

/-- **A subscription is registered**, and starts with what is known. -/
theorem remembering_connect (stream : Stream) (b : BridgeId) (h : HandleId) :
    Minds Concern.remembering False Unit (c.connect stream b h) := by
  intro w hw
  have htrait := Concern.remembering.trait (τ := τ)
  have hattach : Minds Concern.remembering False (Option Nat)
      (UI.note (.attaching h stream.source) >>= fun _ => c.attachTo stream.source b) :=
    htrait.bind (htrait.quietly rfl) fun _ => htrait.attachTo hc _ _
  have hsplit : c.connect stream b h = (UI.note (.attaching h stream.source) >>= fun _ =>
      c.attachTo stream.source b) >>= fun key => UI.note (.registered h stream.source key) >>=
        fun _ => c.setAction h (.detach stream.source key) >>= fun _ =>
          UI.note (.attached h key stream.warm) >>= fun _ => c.greet stream b := by
    simp only [Client.connect_eq, Client.enroll, bind_assoc, pure_bind]
  rw [hsplit]
  refine (hattach w hw).bind (fun _ _ h => h) fun key u hu hwu => ?_
  rw [run_note_bind]
  let registered := u.noted (.registered h stream.source key)
  obtain ⟨hregistered, hgrown⟩ := hu.noted (e := .registered h stream.source key) (.inl rfl)
  refine (htrait.setAction hc h (.detach stream.source key) registered hregistered).bind
    (fun _ x hx => (hwu.trans hgrown).trans hx) fun _ x hx hux => ?_
  have hreg : Occurred (.registered h stream.source key) x.journal :=
    Occurred.mono (v := registered.erased) (occurred_cons.mpr (.inl rfl)) hux
  exact (remembering_greet hc hx hreg).mono id fun _ _ hxz =>
    ((hwu.trans hgrown).trans hux).trans hxz

/-- **Calls keep** what is known of selections. -/
theorem remembering_place (k : Call α) : Minds Concern.remembering False α (k.place m c) := by
  refine Concern.remembering.place hc (remembering_connect hc) (fun k hs w hw hmoment => ?_) k
  obtain ⟨v, h⟩ := c.reselects w k hs
  exact remembering_reselects hc h hw hmoment

end Client

-- ════════════════════════════════════════════════════════════════════════
-- What subscribers to selections receive
-- ════════════════════════════════════════════════════════════════════════

theorem Toolkit.remembers_start (n : ViewId) : Toolkit.fresh.Remembers [] n where
  told _ he := by cases he
  started later _ _ _ _ _ _ _ hsplit := by simp [Toolkit.fresh] at hsplit
  settled _ _ _ _ hhead := by cases hhead

/-- **Events keep up with a selection**: the last of them has its position, and is known since the
    journal was `since`. -/
structure Toolkit.KeepUp (us : List (Toolkit Unit)) (w : Toolkit Unit) (n : ViewId)
    (since : List Entry) (events : List Payload) : Prop where
  unrowed : ∀ e ∈ events.getLast?, e.unrowed = (w.screen.current .selectionEvents n).unrowed
  known : ∀ e ∈ events.getLast?, w.Known us n since e

/-- **A subscriber keeps up with a selection**: the one with handle `h` and bridge `b`, from the
    time when its subscription was registered. The moments before were `us`. -/
def Toolkit.FollowsSelection (us : List (Toolkit Unit)) (w : Toolkit Unit) (h : HandleId)
    (b : BridgeId) (n : ViewId) (judge : Judge) : Prop :=
  ∃ later t key initial base, w.journal =
      later ++ (enlisting t (.widget .selectionEvents n judge) h b key initial ++ base) ∧
    let since := enlisting t (.widget .selectionEvents n judge) h b key initial ++ base
    let upcoming := values b w.journal ++ (w.queue b).filterMap Signal.value?
    (warmed h w.journal = true → upcoming ≠ []) ∧ w.KeepUp us n since upcoming ∧
    (w.delivering b = none → values b w.journal = upcoming)

/-- What was told last is known since any time before it was told. -/
theorem Toolkit.Known.of_told {us : List (Toolkit Unit)} {w : Toolkit Unit} {n : ViewId}
    {e : Payload} {later since : List Entry} (hw : w.Known us n [] e)
    (hsplit : w.journal = later ++ since) (htold : History.told .selectionEvents n later ≠ []) :
    w.Known us n since e := by
  obtain rfl | ⟨y, hy, -, hkept, rfl⟩ := hw
  · exact .inl rfl
  refine .inr ⟨y, hy, ?_, hkept, rfl⟩
  obtain hsince | ⟨more, hmore⟩ :=
    List.suffix_or_suffix_of_suffix (hsplit ▸ List.suffix_append _ _) hkept.grown
  · exact hsince
  · -- otherwise nothing was told later
    have hsame := hkept.told
    rw [hsplit, ← hmore, History.told, History.told, collect_append, collect_append,
      List.append_assoc, List.append_right_eq_self, List.append_eq_nil_iff] at hsame
    exact absurd hsame.2 htold

/-- **A subscriber keeps up** with what is remembered of a selection. -/
theorem Steps.followsSelection {us : List (Toolkit Unit)} {w : Toolkit Unit}
    (hm : m.observersPanic = false) (hev : m.everywhere = false) (hw : Steps m Toolkit.fresh w)
    {h : HandleId} {b : BridgeId} {n : ViewId} {judge : Judge} (hremembers : w.Remembers us n)
    (ho : Occurred (.subscribing h b (.widget .selectionEvents n judge)) w.journal)
    (hslot : w.HasSlot b .selectionEvents n judge) : w.FollowsSelection us h b n judge := by
  obtain ⟨x, later, key, initial, -, hsplit, hinitial, -, htaken⟩ := hw.squared hev rfl ho hslot
  let since := enlisting x.here (.widget .selectionEvents n judge) h b key initial ++ x.journal
  have hknown : ∀ e ∈ (taken b w.journal).getLast?, w.Known us n since e := by
    intro e he
    rw [htaken] at he
    by_cases hlater : History.told .selectionEvents n later = []
    · -- the subscription started with it
      rw [hlater, List.append_nil] at he
      cases initial with
      | none => cases he
      | some value =>
        obtain rfl : value = e := Option.some.inj he
        refine hremembers.started later x.here x.here b h key value _ hsplit ⟨⟨judge, key, ?_⟩, ?_⟩
          hlater
        · exact ⟨_, .tail _ (.head _), rfl⟩
        · rintro source key' ⟨x, hx, hreg⟩
          have hwhole : x ∈ w.journal :=
            hsplit ▸ List.mem_append_right later (.tail _ (.tail _ hx))
          obtain ⟨⟨b', ho'⟩, -⟩ := hw.backed.registered ⟨x, hwhole, hreg⟩
          exact ⟨judge, (hw.subscriptions_single _ _ _ _ _ ho' ho).2⟩
    · -- it was told since
      have hlast : (History.told .selectionEvents n w.journal).getLast? =
          (History.told .selectionEvents n later).getLast? := by
        rw [hsplit, History.told, collect_append]
        exact List.getLast?_append_of_ne_nil _ hlater
      rw [List.getLast?_append_of_ne_nil _ hlater, ← hlast] at he
      exact (hremembers.told e he).of_told hsplit hlater
  obtain ⟨hupcoming, hsettled⟩ := hw.taken_eq hm (hw.sound_of_fresh.knows ho).1 hslot.2
  refine ⟨later, x.here, key, initial, x.journal, hsplit, fun hwarm => ?_, ?_, fun hd => ?_⟩
  · rw [← hinitial, Option.isSome_iff_exists] at hwarm
    obtain ⟨value, rfl⟩ := hwarm
    rw [← hupcoming, htaken]
    exact List.cons_ne_nil _ _
  · rw [← hupcoming]
    exact ⟨fun e he => (hknown e he).unrowed, hknown⟩
  · rw [← hupcoming, hsettled hd]

namespace Code

variable {code : Code m τ} {depth : Nat} {own : τ} {program : Program m τ True True α}

/-- **Selections are remembered**: at every moment of every run, a subscriber to the selection of an
    adapter view that still has its slot keeps up with it, if observers do not panic. When the run
    is over, it has received all that it was to receive. -/
theorem selections_remembered (hm : m.observersPanic = false) (hev : m.everywhere = false) :
    (∀ w ∈ code.moments depth own program, ∃ us, w :: us <:+ code.moments depth own program ∧
      ∀ h b n judge, Occurred (.subscribing h b (.widget .selectionEvents n judge)) w.journal →
        w.HasSlot b .selectionEvents n judge → w.FollowsSelection us h b n judge) ∧
    ∀ a u, code.outcome depth own program = .ok a u → ∀ h b n judge,
      Occurred (.subscribing h b (.widget .selectionEvents n judge)) u.journal →
        u.HasSlot b .selectionEvents n judge →
          u.erased.FollowsSelection (code.moments depth own program) h b n judge ∧
            u.delivering b = none := by
  obtain ⟨hmoments, hend⟩ := kept (C := Concern.remembering) (fun _ => trivial)
    (fun hc _ k => Client.remembering_place hc k) code depth own program Toolkit.remembers_start
  refine ⟨fun w hw => ?_, fun a u hr h b n judge ho hslot => ?_⟩
  · obtain ⟨us, hus, hremembers⟩ := hmoments w hw
    exact ⟨us, hus, fun h b n judge ho hslot =>
      (reachable hw).followsSelection hm hev (hremembers n) ho hslot⟩
  · have hremembers : u.erased.Remembers _ n := (hend a u hr).1 n
    obtain ⟨hsteps, hidle⟩ := idle hr
    exact ⟨hsteps.followsSelection hm hev hremembers ho hslot, hidle b⟩

/-- Its observer shows another row under the selected position in the midst of hearing of it. -/
def restocking : Code ⟨false, false, true, false⟩ Unit :=
  { quiet _ with
    observe := fun _ signal =>
      match signal with
      | .next (.itemSelected v 1 20) =>
        .call (.setRows v [10, 99]) (fun _ => rfl) (fun h => h.elim id id) fun _ => .done ()
      | _ => .done () }

/-- Subscribe to the selection of an adapter view, select its second row, and show these rows. -/
def replacing (ids : List Int64) : Program m Unit True True Unit :=
  .making (.newAdapterView .main [10, 20]) fun v =>
    .making (.subscribe ⟨.widget .selectionEvents v .always, true⟩ (.client 0)) fun _ =>
      .making (.select v 1) fun _ =>
        .making (.setRows v ids) fun _ => .done ()

/-- It has heard of a row that another one has replaced since then. By the end the selection was
    lost, and of this it has heard. -/
theorem selections_remembered_inside :
    (∃ w ∈ restocking.moments 3 () (replacing [10]), ∃ us,
      w.FollowsSelection us 1 1 1 .always ∧ w.delivering 1 = none ∧
      values 1 w.journal = [.nothingSelected 1, .itemSelected 1 1 20] ∧
      w.screen.current .selectionEvents 1 = .itemSelected 1 1 99) ∧
    ∃ u, restocking.outcome 3 () (replacing [10]) = .ok () u ∧
      u.erased.FollowsSelection (restocking.moments 3 () (replacing [10])) 1 1 1 .always ∧
      values 1 u.journal = [.nothingSelected 1, .itemSelected 1 1 20, .nothingSelected 1] := by
  have hw := List.get_mem (restocking.moments 3 () (replacing [10])) ⟨2, by decide +kernel⟩
  obtain ⟨us, -, hfollows⟩ := (selections_remembered rfl rfl).1 _ hw
  refine ⟨⟨_, hw, us, hfollows 1 1 1 .always ?_ ?_, by decide +kernel, by decide +kernel,
    by decide +kernel⟩, ?_⟩
  · exact ⟨⟨.main, .subscribing 1 1 (.widget .selectionEvents 1 .always)⟩, by decide +kernel, rfl⟩
  · exact ⟨by decide +kernel, by decide +kernel⟩
  obtain ⟨⟨⟩, u, hr, hsub, hcontent, hclosed, hvalues⟩ :=
    exists_of_test (r := restocking.outcome 3 () (replacing [10]))
      (P := fun u => ⟨.main, .subscribing 1 1 (.widget .selectionEvents 1 .always)⟩ ∈ u.journal ∧
        (u.screen.slot ⟨.itemSelected, 1⟩).content = some (.forward .selectionEvents 1 .always) ∧
        u.closed 1 = false ∧
        values 1 u.journal = [.nothingSelected 1, .itemSelected 1 1 20, .nothingSelected 1])
      (by decide +kernel)
  refine ⟨u, hr, ?_, hvalues⟩
  exact ((selections_remembered rfl rfl).2 () u hr 1 1 1 .always ⟨_, hsub, rfl⟩
    ⟨hcontent, hclosed⟩).1

/-- The open subscription of a bridge to the selection of an adapter view started with it and has
    its slot, nothing is running, and yet a fresh one would start with something else than what the
    bridge handed over last. -/
def Outdated (b : BridgeId) (w : Toolkit τ) : Prop :=
  Occurred (.subscribing b b (.widget .selectionEvents 1 .always)) w.journal ∧
    warmed b w.journal = true ∧ w.HasSlot b .selectionEvents 1 .always ∧ w.delivering b = none ∧
    (values b w.journal).getLast? ≠ some (w.screen.current .selectionEvents 1)

instance (b : BridgeId) : DecidablePred (Outdated (τ := τ) b) :=
  fun _ => inferInstanceAs (Decidable (_ ∧ _ ∧ (_ ∧ _) ∧ _ ∧ _))

/-- **Rows may be replaced without a word**: no more than other rows need be shown under the
    selected position. -/
theorem selected_rows_may_be_outdated :
    ∃ a u, (quiet ⟨false, false, true, false⟩).outcome 3 () (replacing [10, 99]) = .ok a u ∧
      Outdated 1 u :=
  exists_of_test (by decide +kernel)

end Code

end WidgetStreams
