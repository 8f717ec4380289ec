import WidgetStreams.Proofs.Tidings

/-!
# Scroll views and who follows them

This file proves that the journal tells where every scroll view is: each event
starts where the one before it ended, and none ends where it starts. So what a
subscriber receives is a chain of moves, from where the view was when the
subscription was registered to where it is.

## Main definitions

- `History.offsetOf` — where a scroll view is by what the journal tells
- `History.Travels` — every event starts where the view is, and moves it
- `Scrolls` — events that form a chain
- `Concern.scrolling` — the journal tells where scroll views are, a concern

## Main results

- `Client.scrolling_place` — calls keep it
- `Code.scrolls_form_chains` — what a subscriber to a scroll view receives

## Design notes

The offset is replaced before anybody is told. Between the two no client code
runs, so the journal lags behind by no more than the event that is about to be
told.
-/

namespace WidgetStreams

open History UI

variable {σ τ α : Type} {m : Manners} {c : Client (Desk τ)}

-- ════════════════════════════════════════════════════════════════════════
-- Chains of events
-- ════════════════════════════════════════════════════════════════════════

/-- **Events form a chain** from one offset to another: each starts where the one before it ended,
    and ends somewhere else. -/
inductive Scrolls (v : ViewId) : ScrollOffset → List Payload → ScrollOffset → Prop
  | rest (o : ScrollOffset) : Scrolls v o [] o
  | move {old new last : ScrollOffset} {events : List Payload} (hne : new ≠ old)
      (h : Scrolls v new events last) : Scrolls v old (.scrollChange v new old :: events) last

namespace Scrolls

variable {v : ViewId} {old new last : ScrollOffset} {events events' : List Payload}

/-- A chain goes on with one move more. -/
theorem concat (h : Scrolls v old events last) (hne : new ≠ last) :
    Scrolls v old (events ++ [.scrollChange v new last]) new := by
  induction h with
  | rest o => exact .move hne (.rest new)
  | move hne' _ ih => exact .move hne' (ih hne)

/-- The first part of a chain is one. -/
theorem left_of_append (h : Scrolls v old (events ++ events') last) :
    ∃ mid, Scrolls v old events mid := by
  induction events generalizing old with
  | nil => exact ⟨old, .rest old⟩
  | cons event events ih =>
    cases h with
    | move hne h =>
      obtain ⟨mid, hmid⟩ := ih h
      exact ⟨mid, .move hne hmid⟩

end Scrolls

namespace History

variable {v : ViewId} {x : Entry} {j : List Entry}

/-- **Where a scroll view is** by what the journal tells. -/
def offsetOf (v : ViewId) (j : List Entry) : ScrollOffset :=
  match (arrivals ⟨.scroll, v⟩ j).getLast? with
  | some (.scrolled _ new _) => new
  | _ => {}

/-- **Every event moves a scroll view** from where it is to somewhere else. -/
def Travels (v : ViewId) (j : List Entry) : Prop :=
  Guarded (fun earlier e => ∀ came ∈ arrival? ⟨.scroll, v⟩ e,
    ∃ new, new ≠ offsetOf v earlier ∧ came = .scrolled v new (offsetOf v earlier)) j

theorem offsetOf_cons_of_none (hx : arrival? ⟨.scroll, v⟩ x.event = none) :
    offsetOf v (x :: j) = offsetOf v j := by
  rw [offsetOf, arrivals_cons, hx, Option.toList_none, List.append_nil]
  rfl

theorem offsetOf_cons_of_some {u : ViewId} {new old : ScrollOffset}
    (hx : arrival? ⟨.scroll, v⟩ x.event = some (.scrolled u new old)) :
    offsetOf v (x :: j) = new := by
  rw [offsetOf, arrivals_cons, hx, Option.toList_some, List.getLast?_concat]

theorem Travels.cons_of_none (h : Travels v j) (hx : arrival? ⟨.scroll, v⟩ x.event = none) :
    Travels v (x :: j) :=
  guarded_cons.mpr ⟨by simp [hx], h⟩

/-- **What the journal tells is a chain.** The induction is on what came later. -/
theorem Travels.scrolls {later base : List Entry} (h : Travels v (later ++ base)) :
    Scrolls v (offsetOf v base) (told .scrollChangeEvents v later)
      (offsetOf v (later ++ base)) := by
  induction later with
  | nil => exact .rest _
  | cons x later ih =>
    obtain ⟨hx, hrest⟩ := guarded_cons.mp h
    have hchain := ih hrest
    rw [List.cons_append, told, collect_cons, ← told, tiding?]
    cases hcame : arrival? (Binding.scrollChangeEvents.point v) x.event with
    | none =>
      rw [offsetOf_cons_of_none hcame]
      simpa using hchain
    | some came =>
      obtain ⟨new, hne, rfl⟩ := hx came hcame
      rw [offsetOf_cons_of_some hcame]
      exact hchain.concat hne

end History

-- ════════════════════════════════════════════════════════════════════════
-- The journal tells where scroll views are
-- ════════════════════════════════════════════════════════════════════════

namespace Toolkit

variable {v : ViewId} {w : Toolkit σ}

/-- **The journal tells** where scroll views are. -/
def Located (w : Toolkit σ) : Prop :=
  ∀ v, w.screen.offset v = offsetOf v w.journal ∧ Travels v w.journal

/-- The toolkit with a scroll view at a place. -/
def scrolledTo (w : Toolkit σ) (v : ViewId) (new : ScrollOffset) : Toolkit σ :=
  w.withScreen fun s => { s with offsets := s.offsets.insert v new }

theorem offset_scrolledTo (w : Toolkit σ) (v u : ViewId) (new : ScrollOffset) :
    (w.scrolledTo v new).screen.offset u = if v = u then new else w.screen.offset u := by
  simp only [scrolledTo, withScreen, Screen.offset, Dict.find?_insert]
  split <;> rfl

/-- What does not come to scroll views leaves them where they are. -/
theorem Located.of_apart {u : Toolkit σ} (hw : w.Located) {x : Entry}
    (hj : u.journal = x :: w.journal) (hs : u.screen.offsets = w.screen.offsets)
    (hx : ∀ v, arrival? ⟨.scroll, v⟩ x.event = none) : u.Located := by
  intro v
  obtain ⟨hoffset, htravels⟩ := hw v
  rw [hj, offsetOf_cons_of_none (hx v), Screen.offset, hs]
  exact ⟨hoffset, htravels.cons_of_none (hx v)⟩

/-- A scroll view that is put where it is stays there. -/
theorem Located.stay (hw : w.Located) : (w.scrolledTo v (w.screen.offset v)).Located := by
  intro u
  refine ⟨?_, (hw u).2⟩
  rw [offset_scrolledTo]
  split
  · next h => rw [h]; exact (hw u).1
  · exact (hw u).1

/-- **A scroll view moves**, and the journal tells. -/
theorem Located.move (hw : w.Located) {new : ScrollOffset} (hne : w.screen.offset v ≠ new)
    (content : Option Listener) : ((w.scrolledTo v new).noted
      (.dispatched ⟨.scroll, v⟩ (.scrolled v new (w.screen.offset v)) content)).Located := by
  intro u
  obtain ⟨hoffset, htravels⟩ := hw u
  have hscreen := offset_scrolledTo w v u new
  by_cases h : v = u
  · subst h
    have hcame := arrival?_self ⟨.scroll, v⟩ (.scrolled v new (w.screen.offset v)) content
    refine ⟨?_, guarded_cons.mpr ⟨fun came hc => ?_, htravels⟩⟩
    · rw [journal_noted, offsetOf_cons_of_some hcame]
      exact hscreen.trans (if_pos rfl)
    · obtain rfl := Option.some.inj (hcame.symm.trans hc)
      exact ⟨new, fun he => hne (hoffset.trans he.symm), by rw [hoffset]; rfl⟩
  · have hcame := arrival?_of_ne (s := .scroll) h (.scrolled v new (w.screen.offset v)) content
    refine ⟨?_, htravels.cons_of_none hcame⟩
    rw [journal_noted, offsetOf_cons_of_none hcame]
    exact (hscreen.trans (if_neg h)).trans hoffset

end Toolkit

/-- **Where scroll views are**, a concern. -/
def Concern.scrolling : Concern .scroll where
  panics := True
  holds _ w := w.Located
  same _ _ := True
  refl _ := trivial
  trans _ _ := trivial
  spared {_ v w} hv hj hs := by
    refine ⟨fun u => ?_, trivial⟩
    rw [hj, Screen.offset, show w.screen.offsets = v.screen.offsets from hs]
    exact hv u
  note hw he := ⟨hw.of_apart rfl rfl fun _ => Event.arrival?_of_isApart he rfl, trivial⟩
  moment hw := hw

/-- A listener may hear of anything. -/
theorem UI.scrolling_heard (listener : Listener) (e : NativeEvent) :
    Minds Concern.scrolling (τ := τ) False Unit (UI.note (.heard listener e)) := fun w hw =>
  have hnow : (w.noted (.heard listener e)).erased.Located :=
    hw.now.of_apart rfl rfl fun _ => rfl
  ⟨⟨hnow, hw.record⟩, trivial⟩

/-- **Scrolling to a place** lets the journal tell where scroll views are. -/
theorem Client.scrolling_scrollTo (hc : c.Has (Minds Concern.scrolling))
    (v : ViewId) (new : ScrollOffset) :
    Minds Concern.scrolling False Unit (c.scrollTo v new) := by
  intro w hw
  let there := w.scrolledTo v new
  by_cases hne : w.screen.offset v = new
  · have hrun : c.scrollTo v new w = .ok () there := by
      change (if w.screen.offset v ≠ new then _ else _ : UI (Desk τ) Unit) there = _
      rw [if_neg (not_not.mpr hne)]
      rfl
    rw [hrun]
    subst hne
    exact ⟨⟨hw.now.stay, hw.record⟩, trivial⟩
  · have hrun : c.scrollTo v new w =
        discard (c.notify ⟨.scroll, v⟩ (.scrolled v new (w.screen.offset v))) there := by
      change (if w.screen.offset v ≠ new then _ else _ : UI (Desk τ) Unit) there = _
      rw [if_pos hne]
    rw [hrun]
    have htold := Concern.scrolling.notify (v := w) (w := there) (p := ⟨.scroll, v⟩)
      (e := .scrolled v new (w.screen.offset v)) hc ⟨hw.now.move hne _, hw.record⟩ trivial
      fun listener => UI.scrolling_heard listener _
    exact htold.bind (fun _ _ h => h) fun _ u hu _ => ⟨hu, trivial⟩

/-- **Calls keep** the concern where scroll views are. -/
theorem Client.scrolling_place (hc : c.Has (Minds Concern.scrolling)) (k : Call α) :
    Minds Concern.scrolling False α (k.place m c) := by
  refine Concern.scrolling.place hc (fun stream b h => ?_) (fun k hs w hw _ => ?_) k
  · refine Concern.scrolling.trait.connect hc (fun h key w hw => ?_) stream b h
    have hnow : (w.noted (.attached h key true)).erased.Located :=
      hw.now.of_apart rfl rfl fun _ => rfl
    exact ⟨⟨hnow, hw.record⟩, trivial⟩
  · cases k with
    | scrollTo v new => exact Client.scrolling_scrollTo hc v new w hw
    | scrollBy v dx dy =>
      exact Concern.scrolling.trait.bind (Concern.scrolling.trait.read fun _ => ⟨_, rfl⟩)
        (fun _ => Client.scrolling_scrollTo hc v _) w hw
    | _ => simp [Call.sites] at hs

-- ════════════════════════════════════════════════════════════════════════
-- What subscribers to scroll views receive
-- ════════════════════════════════════════════════════════════════════════

/-- A coordinate at the ends of the range at most. -/
def clamp (i : Int) : Int := max (-2147483648) (min 2147483647 i)

theorem toInt_addSaturating (a b : Int32) :
    (addSaturating a b).toInt = clamp (a.toInt + b.toInt) := by
  have hlow : -2 ^ 31 ≤ clamp (a.toInt + b.toInt) := by unfold clamp; omega
  have hhigh : clamp (a.toInt + b.toInt) < 2 ^ 31 := by unfold clamp; omega
  exact Int32.toInt_ofInt_of_le hlow hhigh

/-- **A subscriber follows a scroll view**: the one with handle `h` and bridge `b`. -/
structure Toolkit.FollowsFrom (w : Toolkit σ) (b : BridgeId) (v : ViewId) (start : ScrollOffset) :
    Prop where
  /-- What it has received is a chain from where it started. -/
  received : ∃ o, Scrolls v start (values b w.journal) o
  /-- By the time everything that waits is handed over, the chain ends where the view is. -/
  upcoming : Scrolls v start (values b w.journal ++ (w.queue b).filterMap Signal.value?)
    (w.screen.offset v)
  /-- Outside its own callback the subscriber has received all of it. -/
  settled : w.delivering b = none → Scrolls v start (values b w.journal) (w.screen.offset v)

/-- **A subscriber follows a scroll view** from where it was when the subscription with handle `h`
    and bridge `b` was registered. -/
def Toolkit.FollowsScrolls (w : Toolkit σ) (h : HandleId) (b : BridgeId) (v : ViewId)
    (judge : Judge) : Prop :=
  ∃ later t key base, w.journal =
      later ++ (enlisting t (.widget .scrollChangeEvents v judge) h b key none ++ base) ∧
    w.FollowsFrom b v (offsetOf v base)

/-- What a registration adds to the journal moves no scroll view. -/
theorem History.offsetOf_enlisting {v : ViewId} {t : Thread} {source : Source} {h : HandleId}
    {b : BridgeId} {key : Option Nat} {initial : Option Payload} {base : List Entry} :
    offsetOf v (enlisting t source h b key initial ++ base) = offsetOf v base := by
  cases initial <;> rfl

theorem Steps.followsScrolls {w : Toolkit Unit} (hm : m.observersPanic = false)
    (hev : m.everywhere = false) (hw : Steps m Toolkit.fresh w) (hlocated : w.Located)
    {h : HandleId} {b : BridgeId} {v : ViewId} {judge : Judge}
    (ho : Occurred (.subscribing h b (.widget .scrollChangeEvents v judge)) w.journal)
    (hcold : warmed h w.journal = false) (hslot : w.HasSlot b .scrollChangeEvents v judge) :
    w.FollowsScrolls h b v judge := by
  obtain ⟨x, later, key, initial, -, hsplit, hinitial, -, htaken⟩ := hw.squared hev rfl ho hslot
  obtain rfl : initial = none := by
    rwa [hcold, Option.isSome_eq_false_iff, Option.isNone_iff_eq_none] at hinitial
  obtain ⟨hoffset, htravels⟩ := hlocated v
  have hchain : Scrolls v (offsetOf v x.journal) (taken b w.journal) (w.screen.offset v) := by
    rw [hsplit] at htravels hoffset
    rw [htaken, Option.toList_none, List.nil_append, hoffset, ← offsetOf_enlisting]
    exact htravels.scrolls
  obtain ⟨htold, hsettled⟩ := hw.taken_eq hm (hw.sound_of_fresh.knows ho).1 hslot.2
  rw [htold] at hchain
  refine ⟨later, x.here, key, x.journal, hsplit, hchain.left_of_append, hchain, fun hd => ?_⟩
  rwa [← hsettled hd, htold]

namespace Code

variable {code : Code m τ} {depth : Nat} {own : τ} {program : Program m τ True True α}

/-- **Scrolls form chains**: at every moment of every run, a subscriber to a scroll view that still
    has its slot follows the view from where it was when the subscription was registered, if
    observers do not panic. When the run is over, it has received all moves of the view. A move by a
    distance leads to the exact sum, as far as the range goes, and a move to where the view is
    tells nobody. -/
theorem scrolls_form_chains (hm : m.observersPanic = false) (hev : m.everywhere = false) :
    (∀ w ∈ code.moments depth own program, (∀ v, w.screen.offset v = offsetOf v w.journal) ∧
      ∀ h b v judge, Occurred (.subscribing h b (.widget .scrollChangeEvents v judge)) w.journal →
        warmed h w.journal = false → w.HasSlot b .scrollChangeEvents v judge →
          w.FollowsScrolls h b v judge) ∧
    (∀ a u, code.outcome depth own program = .ok a u →
      (∀ v, u.screen.offset v = offsetOf v u.journal) ∧
      ∀ h b v judge, Occurred (.subscribing h b (.widget .scrollChangeEvents v judge)) u.journal →
        warmed h u.journal = false → u.HasSlot b .scrollChangeEvents v judge →
          u.erased.FollowsScrolls h b v judge ∧ u.delivering b = none) ∧
    ∀ (c : Client (Desk τ)) v dx dy (w : Toolkit (Desk τ)), ∃ new : ScrollOffset,
      new.x.toInt = clamp ((w.screen.offset v).x.toInt + dx.toInt) ∧
      new.y.toInt = clamp ((w.screen.offset v).y.toInt + dy.toInt) ∧
      (w.scrolledTo v new).screen.offset v = new ∧
      c.scrollBy v dx dy w = (if w.screen.offset v ≠ new then
        discard (c.notify ⟨.scroll, v⟩ (.scrolled v new (w.screen.offset v))) else pure ())
          (w.scrolledTo v new) := by
  obtain ⟨hmoments, hend⟩ := kept (C := Concern.scrolling) (fun _ => trivial)
    (fun hc _ k => Client.scrolling_place hc k) code depth own program fun _ => ⟨rfl, guarded_nil _⟩
  refine ⟨fun w hw => ?_, fun a u hr => ?_, fun c v dx dy w => ?_⟩
  · obtain ⟨_, -, hlocated⟩ := hmoments w hw
    exact ⟨fun v => (hlocated v).1, fun h b v judge ho hcold hslot =>
      (reachable hw).followsScrolls hm hev hlocated ho hcold hslot⟩
  · have hlocated : u.erased.Located := (hend a u hr).1
    obtain ⟨hsteps, hidle⟩ := idle hr
    exact ⟨fun v => (hlocated v).1, fun h b v judge ho hcold hslot =>
      ⟨hsteps.followsScrolls hm hev hlocated ho hcold hslot, hidle b⟩⟩
  · exact ⟨⟨addSaturating _ dx, addSaturating _ dy⟩, toInt_addSaturating _ _,
      toInt_addSaturating _ _, (w.offset_scrolledTo v v _).trans (if_pos rfl), rfl⟩

/-- Its observer scrolls on in the midst of hearing of a move to the upper edge. -/
def drifting : Code ⟨false, false, true, false⟩ Unit :=
  { quiet _ with
    observe := fun _ signal =>
      match signal with
      | .next (.scrollChange v ⟨_, 0⟩ _) =>
        .call (.scrollBy v 5 5) (fun _ => rfl) (fun h => h.elim id id) fun _ => .done ()
      | _ => .done () }

/-- Scroll a view, subscribe to its moves, and scroll it to the right edge. -/
def scrolling : Program m Unit True True Unit :=
  .making (.newView .main) fun v =>
    .making (.scrollTo v ⟨7, 9⟩) fun _ =>
      .making (.subscribe ⟨.widget .scrollChangeEvents v .always, false⟩ (.client 0)) fun _ =>
        .making (.scrollTo v ⟨2147483647, 0⟩) fun _ => .done ()

/-- In the midst of hearing of the first move the observer waits to hear of the second one, which
    goes no further to the right; it has heard of it when the run is over. -/
theorem scrolls_form_chains_inside :
    (∃ w ∈ drifting.moments 3 () scrolling, w.FollowsScrolls 1 1 1 .always ∧
      values 1 w.journal = [.scrollChange 1 ⟨2147483647, 0⟩ ⟨7, 9⟩] ∧
      w.queue 1 = [.next (.scrollChange 1 ⟨2147483647, 5⟩ ⟨2147483647, 0⟩)]) ∧
    ∃ u, drifting.outcome 3 () scrolling = .ok () u ∧ u.erased.FollowsScrolls 1 1 1 .always ∧
      values 1 u.journal = [.scrollChange 1 ⟨2147483647, 0⟩ ⟨7, 9⟩,
        .scrollChange 1 ⟨2147483647, 5⟩ ⟨2147483647, 0⟩] := by
  have hw := List.get_mem (drifting.moments 3 () scrolling) ⟨2, by decide +kernel⟩
  refine ⟨⟨_, hw, ((scrolls_form_chains rfl rfl).1 _ hw).2 1 1 1 .always ?_ ?_ ?_, ?_, ?_⟩, ?_⟩
  · exact ⟨⟨.main, .subscribing 1 1 (.widget .scrollChangeEvents 1 .always)⟩, by decide +kernel,
      rfl⟩
  · decide +kernel
  · exact ⟨by decide +kernel, by decide +kernel⟩
  · decide +kernel
  · decide +kernel
  obtain ⟨⟨⟩, u, hr, hsub, hcold, hcontent, hclosed, hvalues⟩ :=
    exists_of_test (r := drifting.outcome 3 () scrolling)
      (P := fun u => ⟨.main, .subscribing 1 1 (.widget .scrollChangeEvents 1 .always)⟩ ∈ u.journal ∧
        warmed 1 u.journal = false ∧ (u.screen.slot ⟨.scroll, 1⟩).content =
          some (.forward .scrollChangeEvents 1 .always) ∧ u.closed 1 = false ∧
        values 1 u.journal = [.scrollChange 1 ⟨2147483647, 0⟩ ⟨7, 9⟩,
          .scrollChange 1 ⟨2147483647, 5⟩ ⟨2147483647, 0⟩]) (by decide +kernel)
  refine ⟨u, hr, ?_, hvalues⟩
  exact (((scrolls_form_chains rfl rfl).2.1 () u hr).2 1 1 1 .always ⟨_, hsub, rfl⟩ hcold
    ⟨hcontent, hclosed⟩).1

end Code

end WidgetStreams
