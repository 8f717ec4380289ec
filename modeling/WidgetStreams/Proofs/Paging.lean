import WidgetStreams.Proofs.Concerns
import WidgetStreams.Proofs.Feeds
import WidgetStreams.Proofs.Itineraries

/-!
# What listeners to pagers are told

This file proves that a pager is at rest whenever none of its moves is running, on a
page that it has, whatever its listeners do in the midst of hearing of a move. If they
make no moves of their own, whoever is registered all the time is told of a tour.

## Main definitions

- `Travelogue`, `History.travelogue` — what the journal tells of a pager
- `History.Recounts` — it tells of a tour from one time to another
- `Toolkit.Paged` — how a pager and what the journal tells of it stand
- `Concern.paging` — pagers stand like this, a concern

## Main results

- `Client.setPage_fails`, `Client.swipeTo_fails` — which pages are refused, and that a refusal
  changes nothing
- `Client.paging_travel` — a move keeps the concern
- `Code.pagers_come_to_rest` — how pagers stand, and what their listeners are told

## Design notes

The itinerary of a move is fixed when it begins, but the state of the motion is set stop
by stop, and moves that listeners make in the meantime set it as well. All moves that
set it at all end by setting it to rest. So whatever listeners do leaves it as it was or
at rest, and this is what the induction on nested calls rests on.
-/

namespace WidgetStreams

open History UI

variable {σ τ α : Type} {m : Manners} {c : Client (Desk τ)}

-- ════════════════════════════════════════════════════════════════════════
-- What the journal tells of a pager
-- ════════════════════════════════════════════════════════════════════════

/-- The stop of which an event tells, if it is one of a move of a pager. -/
def NativeEvent.stop? (v : ViewId) : NativeEvent → Option PageStep
  | .pageScrolled owner position offset px =>
    if owner = v then some (.scrolled position offset px) else none
  | .pageSelected owner page => if owner = v then some (.selected page) else none
  | .pageStateChanged owner state => if owner = v then some (.motion state) else none
  | _ => none

theorem PageStep.stop?_event (step : PageStep) (v x : ViewId) :
    (step.event v).stop? x = if v = x then some step else none := by
  cases step <;> rfl

/-- An event that is none of a move of a pager tells of no page. -/
theorem NativeEvent.change?_ne_of_stop? {v : ViewId} {e : NativeEvent} (he : e.stop? v = none) :
    e.change?.map Prod.fst ≠ some ⟨.page, v⟩ := by
  cases e with
  | pageSelected owner page =>
    rintro h
    obtain rfl : owner = v := congrArg Point.owner (Option.some.inj h)
    simp [stop?] at he
  | textChanged => exact fun h => nomatch congrArg Point.site (Option.some.inj h)
  | _ => exact nofun

/-- **What the journal tells of a pager.** -/
structure Travelogue where
  /-- How many of its moves are running. -/
  running : Nat
  /-- Whom its moves were to tell. -/
  audiences : List (List Listener)
  /-- The pages that became current. -/
  turns : List Nat
  /-- Who was told of which stop. -/
  reports : List (Listener × PageStep)

namespace Travelogue

/-- The page that became current last. -/
def page (log : Travelogue) : Nat := log.turns.getLast?.getD 0

/-- The page after stops that select all pages that become current meanwhile. -/
theorem page_eq {log log' : Travelogue} {steps : List PageStep}
    (h : log'.turns = log.turns ++ visits steps) : log'.page = pageAfter log.page steps := by
  rw [page, h, List.getLast?_append, pageAfter, page]
  cases (visits steps).getLast? <;> rfl

/-- More was told. -/
def telling (log : Travelogue) (told : List (Listener × PageStep)) : Travelogue :=
  { log with reports := log.reports ++ told }

end Travelogue

namespace History

/-- Whom a move is to tell that begins at a pager. -/
def moving? (v : ViewId) : Event → Option (List Listener)
  | .operating p listeners => if p = ⟨.page, v⟩ then some listeners else none
  | _ => none

/-- The page that becomes current. -/
def turn? (v : ViewId) : Event → Option Nat
  | .altered p (.page page) => if p = ⟨.page, v⟩ then some page else none
  | _ => none

/-- Who is told of which stop. -/
def report? (v : ViewId) : Event → Option (Listener × PageStep)
  | .heard listener e => (e.stop? v).map (listener, ·)
  | _ => none

/-- **What the journal tells of a pager.** -/
def travelogue (v : ViewId) (j : List Entry) : Travelogue where
  running := (errands ⟨.page, v⟩ j).length
  audiences := collect (moving? v) j
  turns := collect (turn? v) j
  reports := collect (report? v) j

end History

/-- Whether an event is one of a move of a pager. -/
def Event.isPaging (v : ViewId) : Event → Bool
  | .operating p _ | .altered p _ | .operated p => p = ⟨.page, v⟩
  | .heard _ e => (e.stop? v).isSome
  | _ => false

/-- What does not happen at the site of pagers is none of a move. -/
theorem Event.isPaging_of_isApart {e : Event} (he : e.isApart .page) (v : ViewId) :
    e.isPaging v = false := by
  obtain he | ⟨s', hs, he⟩ := he
  · cases e <;> first | rfl | cases he
  · cases e with
    | operating p | altered p | operated p =>
      exact decide_eq_false fun h => hs (he.1.symm.trans (congrArg Point.site h))
    | heard listener e =>
      cases e with
      | pageScrolled | pageSelected | pageStateChanged => exact absurd (List.mem_singleton.mp he) hs
      | _ => rfl
    | _ => rfl

namespace History

variable {v : ViewId} {x : Entry} {i j k : List Entry} {t : Thread} {l : Listener}
  {ls : List Listener}

/-- What is none of a move of a pager is not told of it. -/
theorem travelogue_cons (hx : x.event.isPaging v = false) :
    travelogue v (x :: j) = travelogue v j := by
  obtain ⟨t, e⟩ := x
  cases e with
  | operating p | operated p =>
    have hp : p ≠ ⟨.page, v⟩ := of_decide_eq_false hx
    simp [travelogue, errands, moving?, turn?, report?, hp]
  | altered p value =>
    have hp : p ≠ ⟨.page, v⟩ := of_decide_eq_false hx
    cases value <;> simp [travelogue, errands, moving?, turn?, report?, hp]
  | heard listener e =>
    have he : e.stop? v = none := by simpa [Event.isPaging] using hx
    rw [travelogue, errands_cons_heard (NativeEvent.change?_ne_of_stop? he)]
    simp [travelogue, moving?, turn?, report?, he]
  | _ => simp [travelogue, errands, moving?, turn?, report?]

theorem travelogue_cons_operating : travelogue v (⟨t, .operating ⟨.page, v⟩ ls⟩ :: j) =
    { travelogue v j with
      running := (travelogue v j).running + 1
      audiences := (travelogue v j).audiences ++ [ls] } := by
  simp [travelogue, errands, moving?, turn?, report?]

theorem travelogue_cons_altered {page : Nat} :
    travelogue v (⟨t, .altered ⟨.page, v⟩ (.page page)⟩ :: j) =
      { travelogue v j with turns := (travelogue v j).turns ++ [page] } := by
  simp [travelogue, errands, moving?, turn?, report?]

theorem travelogue_cons_heard {step : PageStep} :
    travelogue v (⟨t, .heard l (step.event v)⟩ :: j) = (travelogue v j).telling [(l, step)] := by
  cases step <;> simp [travelogue, Travelogue.telling, errands, moving?, turn?, report?,
    PageStep.event, NativeEvent.change?, NativeEvent.stop?]

theorem travelogue_cons_operated : travelogue v (⟨t, .operated ⟨.page, v⟩⟩ :: j) =
    { travelogue v j with running := (travelogue v j).running - 1 } := by
  simp [travelogue, errands, moving?, turn?, report?]

/-- **Moves come one after the other**: none begins while another one is running. -/
def InSuccession (v : ViewId) : List Entry → Prop :=
  Guarded fun earlier e => (moving? v e).isSome = true → (travelogue v earlier).running = 0

instance (v : ViewId) (j : List Entry) : Decidable (InSuccession v j) :=
  inferInstanceAs (Decidable (Guarded _ j))

-- ════════════════════════════════════════════════════════════════════════
-- In the course of a move
-- ════════════════════════════════════════════════════════════════════════

/-- From one time to another the same moves are running, and these all the time. -/
structure Spans (v : ViewId) (i j : List Entry) : Prop where
  grown : i <:+ j
  running : (travelogue v j).running = (travelogue v i).running
  busy : 0 < (travelogue v i).running → ∀ k, i <:+ k → k <:+ j → 0 < (travelogue v k).running

/-- Two suffixes of each other are the same. -/
theorem eq_of_suffix_of_suffix (h : i <:+ j) (h' : j <:+ i) : i = j :=
  h.eq_of_length_le h'.length_le

namespace Spans

theorem refl (v : ViewId) (j : List Entry) : Spans v j j :=
  ⟨List.suffix_refl _, rfl, fun h _ hi hj => eq_of_suffix_of_suffix hi hj ▸ h⟩

theorem trans (h : Spans v i j) (h' : Spans v j k) : Spans v i k := by
  refine ⟨h.grown.trans h'.grown, h'.running.trans h.running, fun hi l hil hlk => ?_⟩
  obtain hlj | hjl := List.suffix_or_suffix_of_suffix hlk h'.grown
  · exact h.busy hi l hil hlj
  · exact h'.busy (h.running ▸ hi) l hjl hlk

/-- An entry more that neither begins nor ends a move. -/
theorem cons (hx : (travelogue v (x :: j)).running = (travelogue v j).running) :
    Spans v j (x :: j) := by
  refine ⟨List.suffix_cons _ _, hx, fun hj k hjk hk => ?_⟩
  obtain rfl | hk := List.suffix_cons_iff.mp hk
  · exact hx ▸ hj
  · exact eq_of_suffix_of_suffix hjk hk ▸ hj

/-- As long as the journal grows beyond where a move began the move is running, until it has
    ended. -/
theorem midst {begun ended : Entry} (h : Spans v (begun :: i) j)
    (hbegun : 0 < (travelogue v (begun :: i)).running) (hk : k <:+ ended :: j) :
    k = ended :: j ∨ k <:+ i ∨ 0 < (travelogue v k).running := by
  obtain hk | hk := List.suffix_cons_iff.mp hk
  · exact .inl hk
  obtain hkb | hbk := List.suffix_or_suffix_of_suffix hk h.grown
  · obtain rfl | hki := List.suffix_cons_iff.mp hkb
    · exact .inr (.inr hbegun)
    · exact .inr (.inl hki)
  · exact .inr (.inr (h.busy hbegun k hbk hk))

end Spans

end History

namespace Toolkit

/-- The state of the motion of a pager. -/
def motion (w : Toolkit σ) (v : ViewId) : ScrollState := (w.screen.pagesOf v).scrollState

/-- **A pager gets on** from one toolkit to another: the same moves are running, and this much was
    told if moves come one after the other. The state of the motion is as given, or at rest. -/
structure GetsOn (v : ViewId) (w u : Toolkit Unit) (told : List (Listener × PageStep))
    (state : ScrollState) : Prop where
  spans : Spans v w.journal u.journal
  told : InSuccession v u.journal → 0 < (travelogue v w.journal).running →
    travelogue v u.journal = (travelogue v w.journal).telling told
  motion : u.motion v = state ∨ u.motion v = .idle

/-- **A pager is left alone** from one toolkit to another: nobody is told of anything. -/
abbrev Rests (v : ViewId) (w u : Toolkit Unit) : Prop := GetsOn v w u [] (w.motion v)

variable {v : ViewId} {w u y : Toolkit Unit} {told told' : List (Listener × PageStep)}
  {state state' : ScrollState}

namespace GetsOn

theorem trans {last : ScrollState} (h : GetsOn v w u told state) (h' : GetsOn v u y told' state')
    (hmotion : y.motion v = last ∨ y.motion v = .idle) : GetsOn v w y (told ++ told') last := by
  refine ⟨h.spans.trans h'.spans, fun hy hw => ?_, hmotion⟩
  have hu := h.told (hy.of_suffix h'.spans.grown) hw
  rw [h'.told hy (h.spans.running ▸ hw), hu]
  simp [Travelogue.telling]

/-- The pager is left alone afterwards. -/
theorem rest (h : GetsOn v w u told state) (h' : Rests v u y) : GetsOn v w y told state := by
  refine List.append_nil told ▸ h.trans h' (h'.motion.elim (fun hy => ?_) .inr)
  rw [hy]
  exact h.motion

/-- What is written down is none of a move, and the state of the motion stays. -/
theorem quiet {x : Entry} (hj : u.journal = x :: w.journal) (hx : x.event.isPaging v = false)
    (hp : u.screen.pagesOf v = w.screen.pagesOf v) : Rests v w u := by
  have hlog := travelogue_cons (j := w.journal) hx
  refine ⟨hj ▸ .cons (congrArg Travelogue.running hlog), fun _ _ => ?_, .inl ?_⟩
  · rw [hj, hlog]
    simp [Travelogue.telling]
  · exact congrArg Pages.scrollState hp

/-- Nothing is written down. -/
theorem still (hj : u.journal = w.journal) (hmotion : u.motion v = state) :
    GetsOn v w u [] state := by
  refine ⟨hj ▸ .refl _ _, fun _ _ => ?_, .inl hmotion⟩
  rw [hj]
  simp [Travelogue.telling]

end GetsOn

end Toolkit

-- ════════════════════════════════════════════════════════════════════════
-- How a pager stands
-- ════════════════════════════════════════════════════════════════════════

/-- Everybody in the audience of a move is told of every stop. -/
def broadcast (audience : List Listener) (steps : List PageStep) : List (Listener × PageStep) :=
  steps.flatMap fun step => audience.map (·, step)

/-- **The journal recounts a tour** from one time to another: each move told its audience of one leg
    of it. -/
def History.Recounts (v : ViewId) (i j : List Entry) : Prop :=
  ∃ trips : List (List Listener × List PageStep),
    Tour (travelogue v i).page (trips.map Prod.snd) (travelogue v j).page ∧
    (travelogue v j).audiences = (travelogue v i).audiences ++ trips.map Prod.fst ∧
    (travelogue v j).turns =
      (travelogue v i).turns ++ visits (trips.map Prod.snd).flatten ∧
    (travelogue v j).reports =
      (travelogue v i).reports ++ trips.flatMap fun trip => broadcast trip.1 trip.2

namespace History.Recounts

variable {v : ViewId} {i j k : List Entry}

theorem refl (v : ViewId) (j : List Entry) : Recounts v j j := ⟨[], .stay _, by simp [visits]⟩

theorem trans (h : Recounts v i j) (h' : Recounts v j k) : Recounts v i k := by
  obtain ⟨trips, htour, haudiences, hturns, hreports⟩ := h
  obtain ⟨trips', htour', haudiences', hturns', hreports'⟩ := h'
  refine ⟨trips ++ trips', ?_, ?_, ?_, ?_⟩
  · rw [List.map_append]
    exact htour.trans htour'
  · rw [haudiences', haudiences, List.map_append, List.append_assoc]
  · rw [hturns', hturns, List.map_append, List.flatten_append, visits_append, List.append_assoc]
  · rw [hreports', hreports, List.flatMap_append, List.append_assoc]

end History.Recounts

/-- **How a pager stands**, with what the journal tells of it. -/
structure Toolkit.Paged (w : Toolkit σ) (v : ViewId) : Prop where
  /-- The current page is one of the pager's, or the first if it has none. -/
  bounded : (w.screen.pagesOf v).current < (w.screen.pagesOf v).count ∨
    (w.screen.pagesOf v).count = 0 ∧ (w.screen.pagesOf v).current = 0
  current : (w.screen.pagesOf v).current = (travelogue v w.journal).page
  /-- It is at rest when none of its moves is running. -/
  idle : (travelogue v w.journal).running = 0 → w.motion v = .idle
  /-- A pager that is to be made has no pages. -/
  blank : w.screen.views.next ≤ v → (w.screen.pagesOf v).count = 0
  /-- If moves come one after the other, they make up a tour. -/
  recounts : InSuccession v w.journal → (travelogue v w.journal).running = 0 →
    ∀ base, base <:+ w.journal → (travelogue v base).running = 0 → Recounts v base w.journal

namespace Toolkit.Paged

variable {v : ViewId} {w u : Toolkit σ}

theorem start (v : ViewId) : Toolkit.fresh.Paged v where
  bounded := .inr ⟨rfl, rfl⟩
  current := rfl
  idle _ := rfl
  blank _ := rfl
  recounts _ _ base hbase _ := by
    obtain rfl := List.suffix_nil.mp hbase
    exact .refl _ _

/-- Nothing is written down of the pager, and its pages stay as they are. -/
theorem of_same (hw : w.Paged v) (hj : u.journal = w.journal)
    (hp : u.screen.pagesOf v = w.screen.pagesOf v)
    (hnext : w.screen.views.next ≤ u.screen.views.next) : u.Paged v where
  bounded := hp ▸ hw.bounded
  current := by rw [hp, hj, hw.current]
  idle hrest := by
    rw [motion, hp]
    exact hw.idle (hj ▸ hrest)
  blank hv := hp ▸ hw.blank (Nat.le_trans hnext hv)
  recounts := hj ▸ hw.recounts

/-- What is written down is none of a move. -/
theorem quiet (hw : w.Paged v) {e : Event} (he : e.isPaging v = false) : (w.noted e).Paged v := by
  have hlog : travelogue v (w.noted e).journal = travelogue v w.journal := travelogue_cons he
  refine ⟨hw.bounded, hlog ▸ hw.current, fun hrest => hw.idle (hlog ▸ hrest), hw.blank,
    fun hflat hrest base hbase hb => ?_⟩
  obtain rfl | hbase := List.suffix_cons_iff.mp hbase
  · exact .refl _ _
  · rw [Recounts, hlog]
    exact hw.recounts (hflat.of_suffix (List.suffix_cons _ _)) (hlog ▸ hrest) base hbase hb

end Toolkit.Paged

/-- **Pagers stand** as they should, a concern. What leaves pagers alone leaves them at rest, if it
    does not leave the state of their motion as it was. -/
def Concern.paging : Concern .page where
  panics := False
  holds _ w := ∀ v, w.Paged v
  same w u := ∀ v, w.Rests v u
  refl w v := .still rfl rfl
  trans h h' v := (h v).rest (h' v)
  spared {us v w} hv hj hs := by
    have hp : ∀ n, w.screen.pagesOf n = v.screen.pagesOf n := fun n => by
      rw [Screen.pagesOf, hs.1]
      rfl
    exact ⟨fun n => (hv n).of_same hj (hp n) hs.2, fun n =>
      .still hj (congrArg Pages.scrollState (hp n))⟩
  note hw he :=
    have hpaging := Event.isPaging_of_isApart he
    ⟨fun v => (hw v).quiet (hpaging v), fun v => .quiet rfl (hpaging v) rfl⟩
  moment hw v := hw v

-- ════════════════════════════════════════════════════════════════════════
-- Moves
-- ════════════════════════════════════════════════════════════════════════

/-- The state of the motion after these stops. -/
def motionAfter (state : ScrollState) (steps : List PageStep) : ScrollState :=
  (motions steps).getLast?.getD state

theorem motionAfter_cons (state : ScrollState) (step : PageStep) (steps : List PageStep) :
    motionAfter state (step :: steps) = motionAfter (step.motion?.getD state) steps := by
  cases step with
  | motion next =>
    rw [motionAfter, show motions (.motion next :: steps) = next :: motions steps from rfl,
      List.getLast?_cons]
    rfl
  | scrolled | selected => rfl

/-- Wherever stops lead to from rest, they lead to from any state, unless that is rest. -/
theorem motionAfter_idle (state : ScrollState) (steps : List PageStep) :
    motionAfter .idle steps = motionAfter state steps ∨ motionAfter .idle steps = .idle := by
  simp only [motionAfter]
  cases (motions steps).getLast? with
  | none => exact .inr rfl
  | some _ => exact .inl rfl

/-- A leg that sets the state of the motion at all leads to rest. -/
theorem Leg.motionAfter {page next : Nat} {steps : List PageStep} (h : Leg page steps next)
    (state : ScrollState) :
    motionAfter state steps = state ∨ motionAfter state steps = .idle := by
  obtain hs | hs | hs := h.motions <;> rw [WidgetStreams.motionAfter, hs]
  · exact .inl rfl
  · exact .inr rfl
  · exact .inr rfl

namespace Toolkit

/-- Pages are replaced. -/
def withPages (w : Toolkit σ) (v : ViewId) (p : Pages) : Toolkit σ :=
  w.showing { w.screen with pages := w.screen.pages.insert v p }

theorem pagesOf_withPages (w : Toolkit σ) (v n : ViewId) (p : Pages) :
    (w.withPages v p).screen.pagesOf n = if v = n then p else w.screen.pagesOf n :=
  Screen.pagesOf_insert w.screen v n p

/-- **A move is under way** from one toolkit to another, and leaves all other pagers alone. -/
structure Voyages (v : ViewId) (w u : Toolkit Unit) (told : List (Listener × PageStep))
    (state : ScrollState) : Prop where
  here : GetsOn v w u told state
  others : ∀ x, x ≠ v → Rests x w u

variable {v : ViewId} {w u y : Toolkit Unit} {told told' : List (Listener × PageStep)}
  {state state' : ScrollState}

namespace Voyages

theorem trans {last : ScrollState} (h : Voyages v w u told state) (h' : Voyages v u y told' state')
    (hmotion : y.motion v = last ∨ y.motion v = .idle) : Voyages v w y (told ++ told') last :=
  ⟨h.here.trans h'.here hmotion, fun x hx => (h.others x hx).rest (h'.others x hx)⟩

/-- All pagers are left alone afterwards. -/
theorem rest (h : Voyages v w u told state) (h' : Concern.paging.same u y) :
    Voyages v w y told state :=
  ⟨h.here.rest (h' v), fun x hx => (h.others x hx).rest (h' x)⟩

/-- What follows goes on from where the motion is. -/
theorem next (h : Voyages v w u told state) (h' : Voyages v u y told' (u.motion v)) :
    Voyages v w y (told ++ told') state := by
  refine h.trans h' (h'.here.motion.elim (fun hy => ?_) .inr)
  rw [hy]
  exact h.here.motion

theorem running (h : Voyages v w u told state) :
    (travelogue v u.journal).running = (travelogue v w.journal).running := h.here.spans.running

end Voyages

/-- While a move is running, a pager need not be at rest, nor has it come to a page by a tour. -/
theorem Paged.of_running {u : Toolkit σ} (hrun : 0 < (travelogue v u.journal).running)
    (bounded : (u.screen.pagesOf v).current < (u.screen.pagesOf v).count ∨
      (u.screen.pagesOf v).count = 0 ∧ (u.screen.pagesOf v).current = 0)
    (current : (u.screen.pagesOf v).current = (travelogue v u.journal).page)
    (blank : u.screen.views.next ≤ v → (u.screen.pagesOf v).count = 0) : u.Paged v where
  bounded := bounded
  current := current
  idle hrest := absurd hrest (Nat.ne_of_gt hrun)
  blank := blank
  recounts _ hrest := absurd hrest (Nat.ne_of_gt hrun)

end Toolkit

namespace Toolkit

variable {w : Toolkit σ} {v : ViewId} {ls : List Listener} {page : Nat}

/-- A move begins, and the page to which it leads becomes current, if it is another one. -/
def embarked (w : Toolkit σ) (v : ViewId) (ls : List Listener) (page : Nat) : Toolkit σ :=
  let begun := w.noted (.operating ⟨.page, v⟩ ls)
  if page = (w.screen.pagesOf v).current then begun
  else (begun.withPages v { w.screen.pagesOf v with current := page }).noted
    (.altered ⟨.page, v⟩ (.page page))

theorem erased_embarked (w : Toolkit σ) (v : ViewId) (ls : List Listener) (page : Nat) :
    (w.embarked v ls page).erased = w.erased.embarked v ls page := by
  rw [embarked, apply_ite Toolkit.erased]
  rfl

theorem pagesOf_embarked (n : ViewId) : (w.embarked v ls page).screen.pagesOf n =
    if v = n then { w.screen.pagesOf v with current := page } else w.screen.pagesOf n := by
  rw [embarked]
  by_cases hpage : page = (w.screen.pagesOf v).current
  · rw [if_pos hpage]
    split
    · next hn => rw [hpage, ← hn]; rfl
    · rfl
  · rw [if_neg hpage]
    exact (w.noted _).pagesOf_withPages v n _

/-- A move that begins is running, and turns to a page if that is what it is to select. -/
theorem travelogue_embarked {steps : List PageStep}
    (h : Leg (w.screen.pagesOf v).current steps page) :
    travelogue v (w.embarked v ls page).journal =
      { travelogue v w.journal with
        running := (travelogue v w.journal).running + 1
        audiences := (travelogue v w.journal).audiences ++ [ls]
        turns := (travelogue v w.journal).turns ++ visits steps } := by
  rw [embarked]
  obtain ⟨hnext, hs⟩ | ⟨hnext, hs⟩ := h.visits
  · rw [if_neg hnext, hs]
    refine travelogue_cons_altered.trans ?_
    rw [show travelogue v ((w.noted (.operating ⟨.page, v⟩ ls)).withPages v _).journal = _ from
      travelogue_cons_operating]
  · rw [if_pos hnext, hs, List.append_nil]
    exact travelogue_cons_operating

/-- The move is all that is running more, from the time when it begins. -/
theorem spans_embarked : Spans v (w.noted (.operating ⟨.page, v⟩ ls)).journal
    (w.embarked v ls page).journal := by
  rw [embarked]
  split
  · exact .refl _ _
  · refine .cons ?_
    rw [travelogue_cons_altered]

/-- A move that begins is none of another pager. -/
theorem rests_embarked {w : Toolkit Unit} {n : ViewId} (hn : n ≠ v) :
    Rests n w (w.embarked v ls page) := by
  have hpoint : (⟨.page, v⟩ : Point) ≠ ⟨.page, n⟩ := fun h => hn (congrArg Point.owner h).symm
  have hbegun : Rests n w (w.noted (.operating ⟨.page, v⟩ ls)) :=
    .quiet rfl (decide_eq_false hpoint) rfl
  rw [embarked]
  split
  · exact hbegun
  · refine hbegun.rest (.quiet rfl (decide_eq_false hpoint) ?_)
    exact ((w.noted _).pagesOf_withPages v n _).trans (if_neg hn.symm)

/-- Other pagers stand as before. -/
theorem Paged.embarked {n : ViewId} (hw : w.Paged n) (hn : n ≠ v) :
    (w.embarked v ls page).Paged n := by
  have hpoint : (⟨.page, v⟩ : Point) ≠ ⟨.page, n⟩ := fun h => hn (congrArg Point.owner h).symm
  have hbegun : (w.noted (.operating ⟨.page, v⟩ ls)).Paged n := hw.quiet (decide_eq_false hpoint)
  rw [Toolkit.embarked]
  split
  · exact hbegun
  · refine Paged.quiet ?_ (decide_eq_false hpoint)
    refine hbegun.of_same rfl ?_ (Nat.le_refl _)
    exact ((w.noted _).pagesOf_withPages v n _).trans (if_neg hn.symm)

end Toolkit

section Moves

variable {w : Toolkit (Desk τ)} {v : ViewId}

/-- The state of the motion is set in the midst of a move. -/
theorem Concern.Kept.takeStep (hw : Concern.paging.Kept w)
    (hrun : 0 < (travelogue v w.journal).running) (step : PageStep) :
    ∃ u : Toolkit (Desk τ), UI.takeStep v step w = .ok () u ∧ Concern.paging.Kept u ∧
      w.erased.Voyages v u.erased [] (step.motion?.getD (w.motion v)) ∧
      u.motion v = step.motion?.getD (w.motion v) := by
  cases step with
  | scrolled | selected => exact ⟨w, rfl, hw, ⟨.still rfl rfl, fun _ _ => .still rfl rfl⟩, rfl⟩
  | motion state =>
    let u := w.withPages v { w.screen.pagesOf v with scrollState := state }
    have hpages : u.screen.pagesOf v = { w.screen.pagesOf v with scrollState := state } :=
      (w.pagesOf_withPages v v _).trans (if_pos rfl)
    have hothers : ∀ x, x ≠ v → u.screen.pagesOf x = w.screen.pagesOf x := fun x hx =>
      (w.pagesOf_withPages v x _).trans (if_neg hx.symm)
    have hmotion : u.motion v = state := congrArg Pages.scrollState hpages
    refine ⟨u, rfl, ⟨fun x => ?_, hw.record⟩, ⟨.still rfl hmotion, fun x hx => ?_⟩, hmotion⟩
    · by_cases hx : x = v
      · subst hx
        have hstands := hw.now x
        refine .of_running hrun ?_ ?_ fun hnext => ?_
        · rw [show u.erased.screen.pagesOf x = _ from hpages]
          exact hstands.bounded
        · rw [show u.erased.screen.pagesOf x = _ from hpages]
          exact hstands.current
        · rw [show u.erased.screen.pagesOf x = _ from hpages]
          exact hstands.blank hnext
      · exact (hw.now x).of_same rfl (hothers x hx) (Nat.le_refl _)
    · exact .still rfl (congrArg Pages.scrollState (hothers x hx))

namespace Client

variable (hc : c.Has (Minds Concern.paging))
include hc

/-- **One of the audience is told** of a stop, and may do anything in the meantime. -/
theorem paging_hearAs (hw : Concern.paging.Kept w) (hrun : 0 < (travelogue v w.journal).running)
    (l : Listener) (step : PageStep) :
    Concern.paging.Ends False (fun u => w.erased.Voyages v u.erased [(l, step)] (w.motion v))
      (c.hearAs l (step.event v) w) := by
  obtain ⟨x, hx, hr⟩ := Concern.paging.trait.answering hc l (step.event v)
  let heard := w.noted (.heard l (step.event v))
  have hlog : travelogue v heard.journal = (travelogue v w.journal).telling [(l, step)] :=
    travelogue_cons_heard
  have hother : ∀ n, n ≠ v → Event.isPaging n (.heard l (step.event v)) = false := by
    intro n hn
    rw [Event.isPaging, PageStep.stop?_event, if_neg hn.symm]
    rfl
  have hheard : Concern.paging.Kept heard := by
    refine ⟨fun n => ?_, hw.record⟩
    by_cases hn : n = v
    · subst hn
      have hstands := hw.now n
      refine .of_running ?_ hstands.bounded ?_ hstands.blank
      · rw [show (travelogue n heard.erased.journal) = _ from hlog]
        exact hrun
      · rw [show (travelogue n heard.erased.journal) = _ from hlog]
        exact hstands.current
    · exact (hw.now n).quiet (hother n hn)
  have hvoyage : w.erased.Voyages v heard.erased [(l, step)] (w.motion v) := by
    have hrunning : (travelogue v heard.journal).running = (travelogue v w.journal).running := by
      rw [hlog]
      rfl
    refine ⟨⟨.cons hrunning, fun _ _ => hlog, .inl rfl⟩, fun n hn => ?_⟩
    exact .quiet rfl (hother n hn) rfl
  rw [hr]
  exact (hx heard hheard).mono id fun _ _ hu => hvoyage.rest hu

/-- **The audience is told** of a stop. The induction is on those who are still to be told. -/
theorem paging_notifyAll (hw : Concern.paging.Kept w)
    (hrun : 0 < (travelogue v w.journal).running) (ls : List Listener) (step : PageStep) :
    Concern.paging.Ends False
      (fun u => w.erased.Voyages v u.erased (ls.map (·, step)) (w.motion v))
      (c.notifyAll (step.event v) ls w) := by
  induction ls generalizing w with
  | nil => exact ⟨hw, .still rfl rfl, fun _ _ => .still rfl rfl⟩
  | cons l ls ih =>
    have hfirst : Concern.paging.Ends False
        (fun u => w.erased.Voyages v u.erased [(l, step)] (w.motion v))
        ((discard (c.hearAs l (step.event v)) : UI (Desk τ) Unit) w) :=
      (paging_hearAs hc hw hrun l step).bind (fun _ _ h => h) fun _ _ hu hwu => ⟨hu, hwu⟩
    refine hfirst.bind (fun hp => (hp.elim id id).elim) fun _ u hu hwu => ?_
    have hrunning : 0 < (travelogue v u.journal).running := hwu.running ▸ hrun
    exact (ih hu hrunning).mono id fun _ _ huy => hwu.next huy

/-- **An itinerary is told**, stop by stop. The induction is on the stops to come. -/
theorem paging_tellSteps (hw : Concern.paging.Kept w)
    (hrun : 0 < (travelogue v w.journal).running) (ls : List Listener) (steps : List PageStep) :
    Concern.paging.Ends False
      (fun u => w.erased.Voyages v u.erased (broadcast ls steps) (motionAfter (w.motion v) steps))
      (c.tellSteps v ls steps w) := by
  induction steps generalizing w with
  | nil => exact ⟨hw, .still rfl rfl, fun _ _ => .still rfl rfl⟩
  | cons step steps ih =>
    obtain ⟨t, htake, ht, hwt, hmotion⟩ := hw.takeStep hrun step
    have hrunning : 0 < (travelogue v t.journal).running := hwt.running ▸ hrun
    rw [Client.tellSteps, bind_ok htake, motionAfter_cons, ← hmotion]
    refine (paging_notifyAll hc ht hrunning ls step).bind (fun hp => (hp.elim id id).elim)
      fun _ u hu htu => ?_
    have hrunning : 0 < (travelogue v u.journal).running := htu.running ▸ hrunning
    refine (ih hu hrunning).mono id fun y _ huy => ?_
    rw [broadcast, List.flatMap_cons]
    refine (hwt.next htu).trans huy ?_
    -- the audience left the state of the motion as it was set, or at rest
    obtain hy | hy := huy.here.motion
    · obtain hset | hidle := htu.here.motion
      · exact .inl (hy.trans (congrArg (motionAfter · steps) hset))
      · rw [show u.motion v = .idle from hidle] at hy
        exact (motionAfter_idle (t.motion v) steps).imp hy.trans hy.trans
    · exact .inr hy

omit hc in
/-- **A move begins**: it is running, and its page is current at once. -/
theorem paging_embarked {ls : List Listener} {page : Nat} {steps : List PageStep}
    (hw : Concern.paging.Kept w) (hleg : Leg (w.screen.pagesOf v).current steps page)
    (hpage : page < (w.screen.pagesOf v).count) : Concern.paging.Kept (w.embarked v ls page) := by
  have hlog : travelogue v (w.embarked v ls page).journal = _ := w.travelogue_embarked hleg
  have hpages : (w.embarked v ls page).screen.pagesOf v =
      { w.screen.pagesOf v with current := page } := (w.pagesOf_embarked v).trans (if_pos rfl)
  have hcurrent : (w.screen.pagesOf v).current = (travelogue v w.journal).page := (hw.now v).current
  have hturned : (travelogue v (w.embarked v ls page).journal).page = page := by
    rw [Travelogue.page_eq (congrArg Travelogue.turns hlog), ← hcurrent, hleg.pageAfter_eq]
  have hsame : (w.embarked v ls page).screen.views = w.screen.views ∧
      (w.embarked v ls page).client = w.client := by
    rw [Toolkit.embarked]
    split <;> exact ⟨rfl, rfl⟩
  refine ⟨fun n => ?_, hsame.2 ▸ hw.record⟩
  by_cases hn : n = v
  · subst hn
    have hstands := hw.now n
    refine .of_running ?_ ?_ ?_ fun hnext => ?_
    · rw [show travelogue n (w.embarked n ls page).erased.journal = _ from hlog]
      exact Nat.succ_pos _
    · rw [show (w.embarked n ls page).erased.screen.pagesOf n = _ from hpages]
      exact .inl hpage
    · rw [show (w.embarked n ls page).erased.screen.pagesOf n = _ from hpages]
      exact hturned.symm
    · rw [show (w.embarked n ls page).erased.screen.pagesOf n = _ from hpages]
      rw [show (w.embarked n ls page).erased.screen.views = _ from hsame.1] at hnext
      exact hstands.blank hnext
  · rw [w.erased_embarked]
    exact (hw.now n).embarked hn

omit hc in
/-- **A move that is over** was one leg. -/
theorem recounts_over {page : Nat} {steps : List PageStep} {i j k l : List Entry}
    {ls : List Listener} {current : Nat} (hleg : Leg current steps page)
    (hcurrent : current = (travelogue v i).page)
    (hl : travelogue v l = { travelogue v k with running := (travelogue v k).running - 1 })
    (hk : travelogue v k = (travelogue v j).telling (broadcast ls steps))
    (hj : travelogue v j =
      { travelogue v i with
        running := (travelogue v i).running + 1
        audiences := (travelogue v i).audiences ++ [ls]
        turns := (travelogue v i).turns ++ visits steps }) : Recounts v i l := by
  have hall : travelogue v l =
      { running := (travelogue v i).running
        audiences := (travelogue v i).audiences ++ [ls]
        turns := (travelogue v i).turns ++ visits steps
        reports := (travelogue v i).reports ++ broadcast ls steps } := by
    rw [hl, hk, hj]
    rfl
  refine ⟨[(ls, steps)], ?_, ?_, ?_, ?_⟩
  · rw [Travelogue.page_eq (congrArg Travelogue.turns hall), ← hcurrent, hleg.pageAfter_eq]
    exact .single hleg
  all_goals rw [hall]
  · rfl
  · rw [List.map_singleton, List.flatten_singleton]
  · rw [List.flatMap_singleton]

omit hc in
/-- **A move is over** when its itinerary is told. The journal recounts one leg more. -/
theorem paging_arrive {ls : List Listener} {page : Nat} {steps : List PageStep}
    {u : Toolkit (Desk τ)} (hw : Concern.paging.Kept w)
    (hleg : Leg (w.screen.pagesOf v).current steps page) (hu : Concern.paging.Kept u)
    (hvoyage : (w.embarked v ls page).erased.Voyages v u.erased (broadcast ls steps)
      (motionAfter ((w.embarked v ls page).motion v) steps)) :
    Concern.paging.Kept (u.noted (.operated ⟨.page, v⟩)) ∧
      Concern.paging.same w.erased (u.noted (.operated ⟨.page, v⟩)).erased := by
  let begun := w.noted (.operating ⟨.page, v⟩ ls)
  let done := u.noted (.operated ⟨.page, v⟩)
  have hlog : travelogue v (w.embarked v ls page).journal = _ := w.travelogue_embarked hleg
  have hbegun : 0 < (travelogue v begun.journal).running := by
    rw [show travelogue v begun.journal = _ from travelogue_cons_operating]
    exact Nat.succ_pos _
  have hspans : Spans v begun.journal u.journal := w.spans_embarked.trans hvoyage.here.spans
  have hdone : travelogue v done.journal = _ := travelogue_cons_operated
  have hrunning : (travelogue v done.journal).running = (travelogue v w.journal).running := by
    have hu : (travelogue v u.journal).running = (travelogue v w.journal).running + 1 :=
      hvoyage.running.trans (congrArg Travelogue.running hlog)
    rw [hdone, hu]
    rfl
  have hmidst : ∀ k, k <:+ done.journal →
      k = done.journal ∨ k <:+ w.journal ∨ 0 < (travelogue v k).running := fun _ =>
    hspans.midst hbegun
  have hgrown : begun.journal <:+ done.journal := hspans.grown.trans (List.suffix_cons _ _)
  have hmotion : done.motion v = w.motion v ∨ done.motion v = .idle := by
    have hstart : (w.embarked v ls page).motion v = w.motion v := by
      rw [Toolkit.motion, w.pagesOf_embarked, if_pos rfl]
      rfl
    obtain hu | hu := hvoyage.here.motion
    · rw [hstart] at hu
      exact (hleg.motionAfter _).imp hu.trans hu.trans
    · exact .inr hu
  have hother : ∀ n, n ≠ v → Event.isPaging n (.operated ⟨.page, v⟩) = false := fun n hn =>
    decide_eq_false fun h => hn (congrArg Point.owner h).symm
  refine ⟨⟨fun n => ?_, hu.record⟩, fun n => ?_⟩
  · by_cases hn : n = v
    swap
    · exact (hu.now n).quiet (hother n hn)
    subst hn
    have hstands := hu.now n
    refine ⟨hstands.bounded, ?_, fun hrest => ?_, hstands.blank,
      fun hflat hrest base hbase hb => ?_⟩
    · rw [show travelogue n done.erased.journal = _ from hdone]
      exact hstands.current
    · have hidle : w.motion n = .idle := (hw.now n).idle (hrunning ▸ hrest)
      exact hmotion.elim (fun h => h.trans hidle) id
    obtain rfl | hbase | hbase := hmidst base hbase
    · exact .refl _ _
    · have hflat' : InSuccession n u.journal := Guarded.of_suffix hflat (List.suffix_cons _ _)
      have htold : travelogue n u.journal = _ := hvoyage.here.told hflat' (by
        rw [show travelogue n (w.embarked n ls page).erased.journal = _ from hlog]
        exact Nat.succ_pos _)
      have hgone : w.journal <:+ u.journal := (List.suffix_cons _ _).trans hspans.grown
      refine ((hw.now n).recounts (hflat'.of_suffix hgone)
        (hrunning ▸ hrest) base hbase hb).trans ?_
      exact recounts_over hleg (hw.now n).current hdone htold hlog
    · exact absurd hb (Nat.ne_of_gt hbase)
  · by_cases hn : n = v
    · subst hn
      refine ⟨⟨?_, hrunning, fun hw k hwk hk => ?_⟩, fun hflat hw => ?_, hmotion⟩
      · exact (List.suffix_cons _ _).trans hgrown
      · obtain rfl | hkw | hk := hmidst k hk
        · exact hrunning ▸ hw
        · exact eq_of_suffix_of_suffix hwk hkw ▸ hw
        · exact hk
      · have hfirst : Guarded _ begun.journal := Guarded.of_suffix hflat hgrown
        have hmoving : (moving? n (.operating ⟨.page, n⟩ ls)).isSome = true := by simp [moving?]
        exact absurd ((guarded_cons.mp hfirst).1 hmoving) (Nat.ne_of_gt hw)
    · have hothers := hvoyage.others n hn
      rw [w.erased_embarked] at hothers
      exact ((Toolkit.rests_embarked hn).rest hothers).rest (.quiet rfl (hother n hn) rfl)

/-- **A move keeps the concern**: when it is over, the pager has come to rest, or its motion is as
    it was. -/
theorem paging_travel {page : Nat} {steps : List PageStep} {x : List Listener → UI (Desk τ) Unit}
    (hw : Concern.paging.Kept w) (hleg : Leg (w.screen.pagesOf v).current steps page)
    (hpage : page < (w.screen.pagesOf v).count)
    (hx : ∀ ls, x ls (w.noted (.operating ⟨.page, v⟩ ls)) =
      c.tellSteps v ls steps (w.embarked v ls page)) :
    Concern.paging.Ends False (fun u => Concern.paging.same w.erased u.erased)
      (UI.operate ⟨.page, v⟩ x w) := by
  let ls := (w.screen.roster ⟨.page, v⟩).snapshot
  let begun := w.noted (.operating ⟨.page, v⟩ ls)
  let embarked := w.embarked v ls page
  have hlog : travelogue v embarked.journal = _ := w.travelogue_embarked hleg
  have hrunning : 0 < (travelogue v embarked.journal).running := by
    rw [hlog]
    exact Nat.succ_pos _
  have hrun := paging_tellSteps hc (paging_embarked hw hleg hpage) hrunning ls steps
  change Concern.paging.Ends False _
    (UI.ensuring (fun u => u.noted (.operated ⟨.page, v⟩)) (x ls) begun)
  simp only [UI.ensuring, show x ls begun = _ from hx ls]
  cases hr : c.tellSteps v ls steps embarked with
  | ok a u =>
    rw [hr] at hrun
    exact paging_arrive hw hleg hrun.1 hrun.2
  | error e u =>
    rw [hr] at hrun
    cases e with
    | panic => exact (hrun.1.elim id id).elim
    | stalled => exact hrun

/-- **A page is shown**, smoothly or at once, and the concern is kept. -/
theorem paging_setPage (v : ViewId) (page : Nat) (smooth : Bool) :
    Minds Concern.paging False (Except WidgetError Unit) (c.setPage v page smooth) := by
  intro w hw
  simp only [Client.setPage, run_pages_bind, run_ite]
  split
  · exact ⟨hw, Concern.paging.refl _⟩
  · next hcount =>
    have hpage : page < (w.screen.pagesOf v).count := Nat.lt_of_not_le hcount
    by_cases hne : page ≠ (w.screen.pagesOf v).current
    · rw [if_pos hne]
      have hleg : Leg (w.screen.pagesOf v).current
          (if smooth = true then (w.screen.pagesOf v).glide page false
            else Pages.jump page) page := by
        cases smooth with
        | false => exact Pages.leg_jump hne
        | true => exact Pages.leg_glide (.inl hne)
      refine (paging_travel hc hw hleg hpage fun ls => ?_).bind (fun _ _ h => h)
        fun _ u hu hwu => ⟨hu, hwu⟩
      rw [Toolkit.embarked, if_neg hne]
      rfl
    · rw [if_neg hne]
      exact ⟨hw, Concern.paging.refl _⟩

/-- **A pager is swiped** to a page, and the concern is kept. -/
theorem paging_swipeTo (v : ViewId) (page : Nat) :
    Minds Concern.paging False (Except WidgetError Unit) (c.swipeTo v page) := by
  intro w hw
  simp only [Client.swipeTo, run_pages_bind, run_ite]
  split
  · exact ⟨hw, Concern.paging.refl _⟩
  · next hcount =>
    have hpage : page < (w.screen.pagesOf v).count := Nat.lt_of_not_le hcount
    have hleg : Leg (w.screen.pagesOf v).current ((w.screen.pagesOf v).glide page true) page :=
      Pages.leg_glide (.inr rfl)
    refine (paging_travel hc hw hleg hpage fun ls => ?_).bind (fun _ _ h => h)
      fun _ u hu hwu => ⟨hu, hwu⟩
    by_cases hne : page = (w.screen.pagesOf v).current
    · rw [Toolkit.embarked, if_pos hne, if_neg (not_not.mpr hne)]
    · rw [Toolkit.embarked, if_neg hne, if_pos hne]
      rfl

omit hc in
/-- **Pagers are made** and given a width while their motion and the pages that they show stay as
    they are. Only one that is new may get other pages. -/
theorem paging_repaged {u : Toolkit (Desk τ)} (hw : Concern.paging.Kept w)
    (hj : u.journal = w.journal) (hclient : u.client = w.client)
    (hnext : w.screen.views.next ≤ u.screen.views.next)
    (hpages : ∀ n, (u.screen.pagesOf n).current = (w.screen.pagesOf n).current ∧
      u.motion n = w.motion n ∧ ((u.screen.pagesOf n).count = (w.screen.pagesOf n).count ∨
        (w.screen.pagesOf n).count = 0 ∧ n < u.screen.views.next)) :
    Concern.paging.Kept u ∧ Concern.paging.same w.erased u.erased := by
  refine ⟨⟨fun n => ?_, hclient ▸ hw.record⟩, fun n => .still hj (hpages n).2.1⟩
  obtain ⟨hcurrent, hmotion, hcount⟩ := hpages n
  have hstands := hw.now n
  refine ⟨?_, ?_, fun hrest => ?_, fun hn => ?_, ?_⟩
  · have hbounded : (w.screen.pagesOf n).current < (w.screen.pagesOf n).count ∨
        (w.screen.pagesOf n).count = 0 ∧ (w.screen.pagesOf n).current = 0 := hstands.bounded
    change (u.screen.pagesOf n).current < (u.screen.pagesOf n).count ∨
      (u.screen.pagesOf n).count = 0 ∧ (u.screen.pagesOf n).current = 0
    omega
  · exact hcurrent.trans (hstands.current.trans (congrArg (fun j => (travelogue n j).page) hj.symm))
  · have hrest' : (travelogue n w.journal).running = 0 := hj ▸ hrest
    exact hmotion.trans (hstands.idle hrest')
  · have hblank : (w.screen.pagesOf n).count = 0 := hstands.blank (Nat.le_trans hnext hn)
    obtain hcount | ⟨-, hearly⟩ := hcount
    · exact hcount.trans hblank
    · exact absurd hn (Nat.not_le_of_lt hearly)
  · rw [show u.erased.journal = _ from hj]
    exact hstands.recounts

/-- **Calls keep** pagers standing as they should. -/
theorem paging_place (k : Call α) : Minds Concern.paging False α (k.place m c) := by
  refine Concern.paging.place hc (fun stream b h => ?_) (fun k hs w hw _ => ?_) k
  · refine Concern.paging.trait.connect hc (fun h key w hw => ?_) stream b h
    have hnow : ∀ v, (w.noted (.attached h key true)).erased.Paged v :=
      fun v => (hw.now v).quiet rfl
    exact ⟨⟨hnow, hw.record⟩, fun v => .quiet rfl rfl rfl⟩
  · cases k with
    | newPager thread count =>
      let v := w.screen.views.next
      let made := w.withPages v { w.screen.pagesOf v with count := count }
      let u := made.showing { made.screen with
        views := (w.screen.views.add { thread := thread }).2 }
      have hrun : Call.perform c (.newPager thread count) w = .ok v u := rfl
      rw [hrun]
      refine paging_repaged hw rfl rfl (Nat.le_succ _) fun n => ?_
      have hn : u.screen.pagesOf n = _ := w.pagesOf_withPages v n _
      rw [Toolkit.motion, hn]
      split
      · next hv =>
        subst hv
        exact ⟨rfl, rfl, .inr ⟨(hw.now v).blank (Nat.le_refl _), Nat.lt_succ_self _⟩⟩
      · exact ⟨rfl, rfl, .inl rfl⟩
    | setPageWidth v width =>
      let u := w.withPages v { w.screen.pagesOf v with width := width }
      have hrun : Call.perform c (.setPageWidth v width) w = .ok () u := rfl
      rw [hrun]
      refine paging_repaged hw rfl rfl (Nat.le_refl _) fun n => ?_
      have hn : u.screen.pagesOf n = _ := w.pagesOf_withPages v n _
      rw [Toolkit.motion, hn]
      split
      · next hv => exact hv ▸ ⟨rfl, rfl, .inl rfl⟩
      · exact ⟨rfl, rfl, .inl rfl⟩
    | setPage v page smooth => exact paging_setPage hc v page smooth w hw
    | swipeTo v page => exact paging_swipeTo hc v page w hw
    | _ => simp [Call.sites] at hs

end Client

end Moves

namespace Client

/-- A call that has gone on after a check does not refuse anything. -/
theorem ne_refused {x : UI σ Unit} {w u : Toolkit σ} {e : WidgetError} :
    (x >>= fun _ => (pure (.ok ()) : UI σ (Except WidgetError Unit))) w ≠ .ok (.error e) u := by
  intro h
  cases hx : x w with
  | ok a y =>
    rw [bind_ok hx] at h
    cases h
  | error fault y =>
    rw [bind_error hx] at h
    cases h

/-- **A page is refused if and only if the pager does not have it**, and then nothing changes and
    nobody is told. -/
theorem setPage_fails (c : Client σ) (v : ViewId) (page : Nat) (smooth : Bool) (w : Toolkit σ) :
    (¬ page < (w.screen.pagesOf v).count → c.setPage v page smooth w =
      .ok (.error (.pageOutOfRange page (w.screen.pagesOf v).count)) w) ∧
    (page < (w.screen.pagesOf v).count → ∀ e u, c.setPage v page smooth w ≠ .ok (.error e) u) := by
  simp only [Client.setPage, run_pages_bind, run_ite]
  refine ⟨fun h => if_pos (Nat.le_of_not_lt h), fun h e u => ?_⟩
  rw [if_neg (Nat.not_le_of_lt h)]
  split
  · exact ne_refused
  · exact nofun

/-- A swipe to a page is refused likewise. -/
theorem swipeTo_fails (c : Client σ) (v : ViewId) (page : Nat) (w : Toolkit σ) :
    (¬ page < (w.screen.pagesOf v).count → c.swipeTo v page w =
      .ok (.error (.pageOutOfRange page (w.screen.pagesOf v).count)) w) ∧
    (page < (w.screen.pagesOf v).count → ∀ e u, c.swipeTo v page w ≠ .ok (.error e) u) := by
  simp only [Client.swipeTo, run_pages_bind, run_ite]
  refine ⟨fun h => if_pos (Nat.le_of_not_lt h), fun h e u => ?_⟩
  rw [if_neg (Nat.not_le_of_lt h)]
  exact ne_refused

end Client

-- ════════════════════════════════════════════════════════════════════════
-- What listeners to pagers are told
-- ════════════════════════════════════════════════════════════════════════

/-- The stop of which a listener is told, if it is the one. -/
def stopFor? (l : Listener) (report : Listener × PageStep) : Option PageStep :=
  if report.1 = l then some report.2 else none

/-- The stops of a pager of which a listener was told. -/
def History.stopsTold (v : ViewId) (l : Listener) (j : List Entry) : List PageStep :=
  (travelogue v j).reports.filterMap (stopFor? l)

/-- Whoever is some times in an audience is told of every stop as often. -/
theorem filterMap_broadcast (l : Listener) (audience : List Listener) (steps : List PageStep) :
    (broadcast audience steps).filterMap (stopFor? l) =
      steps.flatMap (List.replicate (audience.count l) ·) := by
  have hstop : ∀ step : PageStep, (audience.map (·, step)).filterMap (stopFor? l) =
      List.replicate (audience.count l) step := by
    intro step
    induction audience with
    | nil => rfl
    | cons x audience ih =>
      by_cases hx : x = l <;> simp [stopFor?, hx, ih, List.replicate_succ]
  induction steps with
  | nil => rfl
  | cons step steps ih =>
    rw [broadcast, List.flatMap_cons, List.filterMap_append, hstop, List.flatMap_cons, ← ih]
    rfl

/-- Whoever is equally often in all audiences is told of a whole tour. -/
theorem filterMap_broadcasts {l : Listener} {k : Nat}
    (trips : List (List Listener × List PageStep)) (hl : ∀ trip ∈ trips, trip.1.count l = k) :
    (trips.flatMap fun trip => broadcast trip.1 trip.2).filterMap (stopFor? l) =
      (trips.map Prod.snd).flatten.flatMap (List.replicate k ·) := by
  induction trips with
  | nil => rfl
  | cons trip trips ih =>
    obtain ⟨hfirst, hrest⟩ := List.forall_mem_cons.mp hl
    rw [List.flatMap_cons, List.filterMap_append, filterMap_broadcast, hfirst, ih hrest,
      List.map_cons, List.flatten_cons, List.flatMap_append]

/-- **A pager is in order**, and so is what its listeners were told. -/
structure Toolkit.PagerInOrder (w : Toolkit σ) (v : ViewId) : Prop where
  /-- The current page is one of the pager's, or the first if it has none. -/
  bounded : (w.screen.pagesOf v).current < (w.screen.pagesOf v).count ∨
    (w.screen.pagesOf v).count = 0 ∧ (w.screen.pagesOf v).current = 0
  /-- It is the page that became current last. -/
  current : (w.screen.pagesOf v).current = (travelogue v w.journal).page
  /-- The pager is at rest whenever none of its moves is running. -/
  idle : (travelogue v w.journal).running = 0 → (w.screen.pagesOf v).scrollState = .idle
  /-- If its moves come one after the other, then from any time on there is one sequence of stops
      that everybody is told of who is registered all the time, once for each registration. -/
  guided : InSuccession v w.journal → (travelogue v w.journal).running = 0 →
    ∀ later base, w.journal = later ++ base → (travelogue v base).running = 0 →
      ∃ steps, Guide (travelogue v base).page steps (travelogue v later).turns ∧
        ∀ l k, (∀ audience ∈ (travelogue v later).audiences, audience.count l = k) →
          stopsTold v l later = steps.flatMap (List.replicate k ·)

theorem Toolkit.Paged.inOrder {w : Toolkit σ} {v : ViewId} (hw : w.Paged v) : w.PagerInOrder v where
  bounded := hw.bounded
  current := hw.current
  idle := hw.idle
  guided hflat hrest later base hsplit hbase := by
    have hsuffix : base <:+ w.journal := hsplit ▸ List.suffix_append _ _
    obtain ⟨trips, htour, haudiences, hturns, hreports⟩ :=
      hw.recounts hflat hrest base hsuffix hbase
    rw [hsplit] at haudiences hturns hreports
    have haudiences : (travelogue v later).audiences = trips.map Prod.fst :=
      List.append_cancel_left ((collect_append _ _ _).symm.trans haudiences)
    have hturns : (travelogue v later).turns = visits (trips.map Prod.snd).flatten :=
      List.append_cancel_left ((collect_append _ _ _).symm.trans hturns)
    have hreports : (travelogue v later).reports = trips.flatMap fun trip =>
        broadcast trip.1 trip.2 :=
      List.append_cancel_left ((collect_append _ _ _).symm.trans hreports)
    refine ⟨(trips.map Prod.snd).flatten, hturns ▸ htour.guide, fun l k hl => ?_⟩
    rw [stopsTold, hreports]
    refine filterMap_broadcasts trips fun trip htrip => hl trip.1 ?_
    exact haudiences ▸ List.mem_map_of_mem htrip

namespace Code

variable {code : Code m τ} {depth : Nat} {own : τ} {program : Program m τ True True α}

/-- **Pagers come to rest**: at every moment of every run all pagers are in order, if callbacks do
    not panic, whatever listeners do in the midst of hearing of a move. When the run is over no move
    is running. A page is refused if and only if the pager does not have it, and then nothing
    changes and nobody is told. -/
theorem pagers_come_to_rest (hm : ¬ m.mayPanic) :
    (∀ w ∈ code.moments depth own program, ∀ v, w.PagerInOrder v) ∧
    (∀ a u, code.outcome depth own program = .ok a u → ∀ v,
      (travelogue v u.journal).running = 0 ∧ u.erased.PagerInOrder v) ∧
    ∀ (c : Client (Desk τ)) (v : ViewId) (page : Nat) (w : Toolkit (Desk τ)),
      let count := (w.screen.pagesOf v).count
      (¬ page < count →
        (∀ smooth, c.setPage v page smooth w = .ok (.error (.pageOutOfRange page count)) w) ∧
        c.swipeTo v page w = .ok (.error (.pageOutOfRange page count)) w) ∧
      (page < count → ∀ e u, (∀ smooth, c.setPage v page smooth w ≠ .ok (.error e) u) ∧
        c.swipeTo v page w ≠ .ok (.error e) u) := by
  obtain ⟨hmoments, hend⟩ := kept (C := Concern.paging) (fun h => absurd h hm)
    (fun hc _ k => Client.paging_place hc k) code depth own program Toolkit.Paged.start
  refine ⟨fun w hw v => ?_, fun a u hr v => ?_, fun c v page w => ?_⟩
  · obtain ⟨_, -, hpaged⟩ := hmoments w hw
    exact (hpaged v).inOrder
  · obtain ⟨hpaged, hsame⟩ := hend a u hr
    exact ⟨(hsame v).spans.running, (hpaged v).inOrder⟩
  · refine ⟨fun h => ⟨fun smooth => ?_, (c.swipeTo_fails v page w).1 h⟩,
      fun h e u => ⟨fun smooth => ?_, (c.swipeTo_fails v page w).2 h e u⟩⟩
    · exact (c.setPage_fails v page smooth w).1 h
    · exact (c.setPage_fails v page smooth w).2 h e u

/-- Its listener swipes a pager to the third page in the midst of hearing that the second one is
    selected. -/
def leafing : Code ⟨false, false, true, false⟩ Unit :=
  { quiet _ with
    hear := fun _ e =>
      match e with
      | .pageSelected v 1 =>
        .call (.swipeTo v 2) (fun _ => rfl) (fun h => h.elim id id) fun _ => .done true
      | _ => .done true }

/-- Listen to a pager, show its second page smoothly, and swipe it back. -/
def browsing : Program m Unit True True Unit :=
  .making (.newPager .main 3) fun v =>
    .making (.listen ⟨.page, v⟩ (some 0)) fun _ =>
      .making (.setPage v 1 true) fun _ =>
        .making (.swipeTo v 0) fun _ => .done ()

/-- In the midst of a move another one is running, in which the pager is dragged; by the end it has
    come to rest. If the listener does nothing it hears of a tour to the second page and back. -/
theorem pagers_come_to_rest_inside :
    (∃ w ∈ leafing.moments 3 () browsing, w.PagerInOrder 1 ∧
      (travelogue 1 w.journal).running = 2 ∧ (w.screen.pagesOf 1).scrollState = .dragging) ∧
    (∃ a u, leafing.outcome 3 () browsing = .ok a u ∧ u.erased.PagerInOrder 1 ∧
      (travelogue 1 u.journal).turns = [1, 2, 0]) ∧
    ∃ a u, (quiet ⟨false, false, true, false⟩).outcome 3 () browsing = .ok a u ∧
      u.erased.PagerInOrder 1 ∧ InSuccession 1 u.journal ∧
      stopsTold 1 (.client 0) u.journal = [.motion .settling, .scrolled 0 .half 540, .selected 1,
        .scrolled 1 .zero 0, .motion .idle, .motion .dragging, .scrolled 0 .half 540,
        .motion .settling, .selected 0, .scrolled 0 .zero 0, .motion .idle] := by
  have hnever : ¬ Manners.mayPanic ⟨false, false, true, false⟩ := by simp [Manners.mayPanic]
  refine ⟨?_, ?_, ?_⟩
  · have hw := List.get_mem (leafing.moments 3 () browsing) ⟨15, by decide +kernel⟩
    exact ⟨_, hw, (pagers_come_to_rest hnever).1 _ hw 1, by decide +kernel, by decide +kernel⟩
  · obtain ⟨a, u, hr, hturns⟩ := exists_of_test (r := leafing.outcome 3 () browsing)
      (P := fun u => (travelogue 1 u.journal).turns = [1, 2, 0]) (by decide +kernel)
    exact ⟨a, u, hr, ((pagers_come_to_rest hnever).2.1 a u hr 1).2, hturns⟩
  · obtain ⟨a, u, hr, hflat, hstops⟩ := exists_of_test
      (r := (quiet ⟨false, false, true, false⟩).outcome 3 () browsing)
      (P := fun u => InSuccession 1 u.journal ∧ stopsTold 1 (.client 0) u.journal = [
        .motion .settling, .scrolled 0 .half 540, .selected 1, .scrolled 1 .zero 0, .motion .idle,
        .motion .dragging, .scrolled 0 .half 540, .motion .settling, .selected 0,
        .scrolled 0 .zero 0, .motion .idle]) (by decide +kernel)
    exact ⟨a, u, hr, ((pagers_come_to_rest hnever).2.1 a u hr 1).2, hflat, hstops⟩

end Code

end WidgetStreams
