import WidgetStreams.Proofs.Tidings

/-!
# Search views and what their subscribers are told

This file proves that no subscriber to a search view hears of a submission before
it has been shown the query that is submitted, and that it hears of each
submission once. The observer may change the query or submit it again in the midst
of hearing of a change or of a submission, to any depth.

## Main definitions

- `History.queryOf` — the query of a search view by what the journal tells
- `History.Searched` — submissions are told at once, each with the query of the view
- `Searches` — what a subscriber is told leads up to a query, with a number of submissions
- `Concern.searching` — the journal tells of queries and submissions as it should, a concern

## Main results

- `Client.searching_place` — calls keep it
- `Code.submissions_follow_queries` — what a subscriber to a search view receives

## Design notes

Changes and submissions go through the same slot, so they are told in the order in
which they come about, and nothing comes between the query that a submission reads
and the event that tells of it.
-/

namespace WidgetStreams

open History UI

variable {σ τ α : Type} {m : Manners} {c : Client (Desk τ)}

-- ════════════════════════════════════════════════════════════════════════
-- What a subscriber is told
-- ════════════════════════════════════════════════════════════════════════

/-- The query of an event that tells of a change. -/
def Payload.changed? : Payload → Option String
  | .queryText _ query false => some query
  | _ => none

/-- Whether an event tells of a submission. -/
def Payload.isSubmission : Payload → Bool
  | .queryText _ _ true => true
  | _ => false

/-- The query that events have shown last as the current one. -/
def shown (events : List Payload) : Option String := (events.filterMap Payload.changed?).getLast?

/-- **Submissions are no surprise**: each is of the query that was shown last before it. -/
def Foretold (events : List Payload) : Prop :=
  ∀ earlier view query later, events = earlier ++ .queryText view query true :: later →
    shown earlier = some query

/-- **Events lead up to a query**, with a number of submissions on the way. -/
structure Searches (events : List Payload) (query : String) (submissions : Nat) : Prop where
  foretold : Foretold events
  shown : shown events = some query
  count : events.countP Payload.isSubmission = submissions

theorem Foretold.left_of_append {events events' : List Payload} (h : Foretold (events ++ events')) :
    Foretold events := by
  rintro earlier view query later rfl
  exact h earlier view query (later ++ events') (by simp)

/-- One event more is no surprise if it tells of no submission, or of that of what was shown
    last. -/
theorem Foretold.concat {events : List Payload} {event : Payload} (h : Foretold events)
    (hevent : ∀ view query, event = .queryText view query true → shown events = some query) :
    Foretold (events ++ [event]) := by
  intro earlier view query later hsplit
  rcases List.eq_nil_or_concat later with rfl | ⟨later, last, rfl⟩
  · obtain ⟨rfl, hlast⟩ := List.append_inj' hsplit rfl
    exact hevent view query (List.cons.inj hlast).1
  · rw [List.concat_eq_append, ← List.cons_append, ← List.append_assoc] at hsplit
    exact h earlier view query later (List.append_inj' hsplit rfl).1

namespace Searches

variable {events : List Payload} {query : String} {n : Nat}

/-- The first event shows a query. -/
theorem first (view : ViewId) (query : String) :
    Searches [.queryText view query false] query 0 where
  foretold := by
    intro earlier view query later h
    rcases List.append_eq_singleton_iff.mp h.symm with ⟨-, h⟩ | ⟨-, h⟩ <;> cases h
  shown := rfl
  count := rfl

/-- The query changes. -/
theorem change (h : Searches events query n) (view : ViewId) (new : String) :
    Searches (events ++ [.queryText view new false]) new n where
  foretold := h.foretold.concat nofun
  shown := by simp [WidgetStreams.shown, Payload.changed?]
  count := by simp [h.count, Payload.isSubmission]

/-- The query is submitted. -/
theorem submit (h : Searches events query n) (view : ViewId) :
    Searches (events ++ [.queryText view query true]) query (n + 1) where
  foretold := h.foretold.concat fun _ _ he => by cases he; exact h.shown
  shown := by
    have hshown := h.shown
    rw [WidgetStreams.shown] at hshown ⊢
    simpa [Payload.changed?, List.filterMap_cons] using hshown
  count := by simp [h.count, Payload.isSubmission, List.countP_cons]

end Searches

-- ════════════════════════════════════════════════════════════════════════
-- What the journal tells of queries
-- ════════════════════════════════════════════════════════════════════════

/-- Whether an event says that a search view is about to tell of a submission. -/
def Event.submits (v : ViewId) : Event → Bool
  | .submitted u => u == v
  | _ => false

theorem Event.not_submits_of_isApart {e : Event} (he : e.isApart .query) (v : ViewId) :
    e.submits v = false := by
  obtain he | ⟨s', hs, he⟩ := he
  · cases e <;> first | rfl | cases he
  · cases e <;> first | rfl | exact absurd he hs

namespace History

variable {v : ViewId} {x : Entry} {j : List Entry}

/-- **The query of a search view** by what the journal tells. -/
def queryOf (v : ViewId) (j : List Entry) : String :=
  match (told .queries v j).getLast? with
  | some (.text query) => query
  | _ => ""

/-- The latest entry says that a search view is about to tell of a submission. -/
def submitting (v : ViewId) : List Entry → Bool
  | [] => false
  | x :: _ => x.event.submits v

/-- The number of submissions. -/
def submissions (v : ViewId) (j : List Entry) : Nat := j.countP fun x => x.event.submits v

/-- **Submissions are told at once**, each with the query of the view, and nothing else is told of
    but changes of the query. -/
def Searched (v : ViewId) (j : List Entry) : Prop :=
  Guarded (fun earlier e =>
    if submitting v earlier then
      arrival? ⟨.query, v⟩ e = some (.querySubmitted v (queryOf v earlier)) ∧ e.submits v = false
    else ∀ came ∈ arrival? ⟨.query, v⟩ e, ∃ query, came = .queryChanged v query) j

theorem queryOf_cons_of_none (hx : tiding? .queries v x.event = none) :
    queryOf v (x :: j) = queryOf v j := by
  rw [queryOf, told_cons_of_none hx, queryOf]

theorem queryOf_cons_of_changed {u : ViewId} {query : String}
    (hx : arrival? ⟨.query, v⟩ x.event = some (.queryChanged u query)) :
    queryOf v (x :: j) = query := by
  have htold : tiding? .queries v x.event = some (.text query) := tiding?_of_arrival .queries hx
  rw [queryOf, told_cons_of_some htold, List.getLast?_concat]

/-- What comes at no search view leaves its query. -/
theorem queryOf_cons_of_no_arrival (hx : arrival? ⟨.query, v⟩ x.event = none) :
    queryOf v (x :: j) = queryOf v j :=
  queryOf_cons_of_none (tiding?_of_no_arrival .queries hx)

/-- A submission leaves the query. -/
theorem queryOf_cons_of_submitted {u : ViewId} {query : String}
    (hx : arrival? ⟨.query, v⟩ x.event = some (.querySubmitted u query)) :
    queryOf v (x :: j) = queryOf v j :=
  queryOf_cons_of_none (tiding?_of_arrival .queries hx)

/-- **What the journal tells** leads up to the query of the view; a submission that is about to be
    told of is not among the events yet. The induction is on what came later. -/
theorem Searched.searches {later base : List Entry} (h : Searched v (later ++ base))
    (hbase : submitting v base = false) :
    ∃ n, Searches (.queryText v (queryOf v base) false :: told .queryEvents v later)
        (queryOf v (later ++ base)) n ∧
      submissions v later = n + (submitting v (later ++ base)).toNat := by
  induction later with
  | nil => exact ⟨0, .first v _, by rw [List.nil_append, hbase]; rfl⟩
  | cons x later ih =>
    obtain ⟨hx, hrest⟩ := guarded_cons.mp (show Guarded _ (x :: (later ++ base)) from h)
    obtain ⟨n, hsearches, hcount⟩ := ih hrest
    have htold : told .queryEvents v (x :: later) = told .queryEvents v later ++
        ((arrival? ⟨.query, v⟩ x.event).bind Binding.queryEvents.payload?).toList :=
      collect_cons _ _ _
    have hnumber : submissions v (x :: later) =
        submissions v later + (submitting v (x :: (later ++ base))).toNat := by
      rw [submissions, List.countP_cons, ← submissions, submitting]
      cases x.event.submits v <;> rfl
    rw [List.cons_append, htold, ← List.cons_append, hnumber, hcount]
    split at hx
    · next hsubmitting =>
      -- the submission is told of
      obtain ⟨hcame, hquiet⟩ := hx
      rw [hcame, queryOf_cons_of_submitted hcame, hsubmitting, submitting, hquiet]
      exact ⟨n + 1, hsearches.submit v, rfl⟩
    · next hquiet =>
      rw [Bool.not_eq_true] at hquiet
      rw [hquiet]
      cases hcame : arrival? ⟨.query, v⟩ x.event with
      | none =>
        rw [queryOf_cons_of_no_arrival hcame]
        exact ⟨n, by simpa using hsearches, rfl⟩
      | some came =>
        obtain ⟨query, rfl⟩ := hx came hcame
        rw [queryOf_cons_of_changed hcame]
        exact ⟨n, hsearches.change v query, rfl⟩

end History

-- ════════════════════════════════════════════════════════════════════════
-- The journal tells of queries and submissions as it should
-- ════════════════════════════════════════════════════════════════════════

namespace Toolkit

variable {v : ViewId} {w : Toolkit σ}

/-- **The journal tells** of queries and submissions as it should, and no submission is about to be
    told of. -/
def Consulted (w : Toolkit σ) : Prop :=
  ∀ v, w.screen.query v = queryOf v w.journal ∧ submitting v w.journal = false ∧
    Searched v w.journal

/-- The toolkit with a query in a search view. -/
def withQuery (w : Toolkit σ) (v : ViewId) (query : String) : Toolkit σ :=
  w.withScreen fun s => { s with queries := s.queries.insert v query }

theorem query_withQuery (w : Toolkit σ) (v u : ViewId) (query : String) :
    (w.withQuery v query).screen.query u = if v = u then query else w.screen.query u :=
  Screen.query_insert w.screen v u query

/-- What does not come to search views changes no query, and submits none. -/
theorem Consulted.of_apart {u : Toolkit σ} (hw : w.Consulted) {x : Entry}
    (hj : u.journal = x :: w.journal) (hs : u.screen.queries = w.screen.queries)
    (hx : ∀ v, arrival? ⟨.query, v⟩ x.event = none) (hquiet : ∀ v, x.event.submits v = false) :
    u.Consulted := by
  intro v
  obtain ⟨hquery, hrest, hsearched⟩ := hw v
  refine ⟨?_, by rw [hj]; exact hquiet v, ?_⟩
  · rw [hj, queryOf_cons_of_no_arrival (hx v), Screen.query, hs]
    exact hquery
  · rw [hj]
    refine guarded_cons.mpr ⟨?_, hsearched⟩
    rw [if_neg (by rw [hrest]; decide), hx v]
    intro e he
    cases he

/-- **A query changes**, and the journal tells. -/
theorem Consulted.change (hw : w.Consulted) (query : String) (content : Option Listener) :
    ((w.withQuery v query).noted
      (.dispatched ⟨.query, v⟩ (.queryChanged v query) content)).Consulted := by
  intro u
  obtain ⟨hquery, hrest, hsearched⟩ := hw u
  have hscreen := query_withQuery w v u query
  by_cases h : v = u
  · subst h
    have hcame := arrival?_self ⟨.query, v⟩ (.queryChanged v query) content
    refine ⟨?_, rfl, guarded_cons.mpr ⟨?_, hsearched⟩⟩
    · rw [journal_noted, queryOf_cons_of_changed hcame]
      exact hscreen.trans (if_pos rfl)
    · rw [if_neg (by rw [show (w.withQuery v query).journal = w.journal from rfl, hrest]; decide)]
      exact fun came hc => ⟨query, (Option.some.inj (hcame.symm.trans hc)).symm⟩
  · have hcame := arrival?_of_ne (s := .query) h (.queryChanged v query) content
    refine ⟨?_, rfl, guarded_cons.mpr ⟨?_, hsearched⟩⟩
    · rw [journal_noted, queryOf_cons_of_no_arrival hcame]
      exact (hscreen.trans (if_neg h)).trans hquery
    · rw [if_neg (by rw [show (w.withQuery v query).journal = w.journal from rfl, hrest]; decide),
        hcame]
      nofun

/-- **A query is submitted**, and the journal tells. -/
theorem Consulted.submit (hw : w.Consulted) (content : Option Listener) :
    ((w.noted (.submitted v)).noted
      (.dispatched ⟨.query, v⟩ (.querySubmitted v (w.screen.query v)) content)).Consulted := by
  intro u
  obtain ⟨hquery, hrest, hsearched⟩ := hw u
  have hnoted : queryOf u (w.noted (.submitted v)).journal = queryOf u w.journal :=
    queryOf_cons_of_no_arrival rfl
  have hfirst : Searched u (w.noted (.submitted v)).journal := by
    refine guarded_cons.mpr ⟨?_, hsearched⟩
    rw [if_neg (by rw [hrest]; decide)]
    nofun
  by_cases h : v = u
  · subst h
    have hcame := arrival?_self ⟨.query, v⟩ (.querySubmitted v (w.screen.query v)) content
    refine ⟨?_, rfl, guarded_cons.mpr ⟨?_, hfirst⟩⟩
    · rw [journal_noted, queryOf_cons_of_submitted hcame, hnoted]
      exact hquery
    · rw [if_pos (show submitting v (w.noted (.submitted v)).journal = true from
        beq_self_eq_true v), hcame, hnoted, hquery]
      exact ⟨rfl, rfl⟩
  · have hcame := arrival?_of_ne (s := .query) h (.querySubmitted v (w.screen.query v)) content
    refine ⟨?_, rfl, guarded_cons.mpr ⟨?_, hfirst⟩⟩
    · rw [journal_noted, queryOf_cons_of_no_arrival hcame, hnoted]
      exact hquery
    · rw [if_neg (by simp [submitting, Event.submits, h]), hcame]
      nofun

end Toolkit

/-- **What search views tell**, a concern. -/
def Concern.searching : Concern .query where
  panics := True
  holds _ w := w.Consulted
  same _ _ := True
  refl _ := trivial
  trans _ _ := trivial
  spared {_ v w} hv hj hs := by
    refine ⟨fun u => ?_, trivial⟩
    rw [hj, Screen.query, show w.screen.queries = v.screen.queries from hs]
    exact hv u
  note hw he := ⟨hw.of_apart rfl rfl (fun _ => Event.arrival?_of_isApart he rfl)
    (Event.not_submits_of_isApart he), trivial⟩
  moment hw := hw

/-- A listener may hear of anything. -/
theorem UI.searching_heard (listener : Listener) (e : NativeEvent) :
    Minds Concern.searching (τ := τ) False Unit (UI.note (.heard listener e)) := fun w hw =>
  have hnow : (w.noted (.heard listener e)).erased.Consulted :=
    hw.now.of_apart rfl rfl (fun _ => rfl) fun _ => rfl
  ⟨⟨hnow, hw.record⟩, trivial⟩

namespace Client

variable (hc : c.Has (Minds Concern.searching))
include hc

/-- **A submission** is told of at once. -/
theorem searching_submitQuery (v : ViewId) :
    Minds Concern.searching False Bool (c.submitQuery v) := by
  intro w hw
  have hrun : c.submitQuery v w = (c.notify ⟨.query, v⟩ (.querySubmitted v (w.screen.query v)) >>=
      fun answer => pure (answer.getD false)) (w.noted (.submitted v)) := rfl
  rw [hrun]
  have htold := Concern.searching.notify (v := w) (w := w.noted (.submitted v)) (p := ⟨.query, v⟩)
    (e := .querySubmitted v (w.screen.query v)) hc ⟨hw.now.submit _, hw.record⟩ trivial
    fun listener => UI.searching_heard listener _
  exact htold.bind (fun _ _ h => h) fun _ u hu _ => ⟨hu, trivial⟩

/-- **A change of the query** is told of at once, and so is the submission that may come after
    it. -/
theorem searching_setQuery (v : ViewId) (query : String) (submit : Bool) :
    Minds Concern.searching False Unit (c.setQuery v query submit) := by
  intro w hw
  have hrun : c.setQuery v query submit w =
      (discard (c.notify ⟨.query, v⟩ (.queryChanged v query)) >>= fun _ =>
        if submit then discard (c.submitQuery v) else pure ()) (w.withQuery v query) := rfl
  rw [hrun]
  have htold := Concern.searching.notify (v := w) (w := w.withQuery v query) (p := ⟨.query, v⟩)
    (e := .queryChanged v query) hc ⟨hw.now.change query _, hw.record⟩ trivial
    fun listener => UI.searching_heard listener _
  have hchanged := htold.bind (f := fun _ => pure ()) (fun _ _ h => h) fun _ u hu _ => ⟨hu, trivial⟩
  have hrest : Minds Concern.searching False Unit
      (if submit then discard (c.submitQuery v) else pure ()) :=
    Trait.ite (Concern.searching.trait.discard (searching_submitQuery hc v))
      (Concern.searching.trait.pure ())
  exact hchanged.bind (fun _ _ h => h) fun _ u hu _ => hrest u hu

/-- **Calls keep** the concern what search views tell. -/
theorem searching_place (k : Call α) : Minds Concern.searching False α (k.place m c) := by
  refine Concern.searching.place hc (fun stream b h => ?_) (fun k hs w hw _ => ?_) k
  · refine Concern.searching.trait.connect hc (fun h key w hw => ?_) stream b h
    have hnow : (w.noted (.attached h key true)).erased.Consulted :=
      hw.now.of_apart rfl rfl (fun _ => rfl) fun _ => rfl
    exact ⟨⟨hnow, hw.record⟩, trivial⟩
  · cases k with
    | setQuery v query submit => exact searching_setQuery hc v query submit w hw
    | submitQuery v => exact searching_submitQuery hc v w hw
    | _ => simp [Call.sites] at hs

end Client

-- ════════════════════════════════════════════════════════════════════════
-- What subscribers to search views receive
-- ════════════════════════════════════════════════════════════════════════

/-- The journal tells the query of every search view, wherever steps lead. -/
theorem Steps.query_eq {w : Toolkit Unit} (hw : Steps m Toolkit.fresh w) (v : ViewId) :
    w.screen.query v = queryOf v w.journal := by
  have hshows : Payload.text (w.screen.query v) =
      (History.told .queries v w.journal).getLast?.getD (.text "") :=
    hw.showsTold (show Binding.queries.isMirror = true from rfl) nofun
  rw [queryOf]
  cases hlast : (History.told .queries v w.journal).getLast? with
  | none =>
    rw [hlast] at hshows
    exact Payload.text.inj hshows
  | some value =>
    rw [hlast, Option.getD_some] at hshows
    rw [← hshows]

/-- **A subscriber follows a search view**: the one with handle `h` and bridge `b`, from the time
    when its subscription was registered. -/
def Toolkit.FollowsQueries (w : Toolkit σ) (h : HandleId) (b : BridgeId) (v : ViewId)
    (judge : Judge) : Prop :=
  ∃ later t key value base, w.journal =
      later ++ (enlisting t (.widget .queryEvents v judge) h b key (some value) ++ base) ∧
    -- no submission that it has heard of was a surprise
    Foretold (values b w.journal) ∧
    -- by the time everything that waits is handed over, it has heard of all submissions since then
    Searches (values b w.journal ++ (w.queue b).filterMap Signal.value?) (w.screen.query v)
      (submissions v later) ∧
    -- outside its own callback it has
    (w.delivering b = none → Searches (values b w.journal) (w.screen.query v) (submissions v later))

theorem Steps.followsQueries {w : Toolkit Unit} (hm : m.observersPanic = false)
    (hev : m.everywhere = false) (hw : Steps m Toolkit.fresh w) (hconsulted : w.Consulted)
    {h : HandleId} {b : BridgeId} {v : ViewId} {judge : Judge}
    (ho : Occurred (.subscribing h b (.widget .queryEvents v judge)) w.journal)
    (hwarm : warmed h w.journal = true) (hslot : w.HasSlot b .queryEvents v judge) :
    w.FollowsQueries h b v judge := by
  obtain ⟨x, later, key, initial, hx, hsplit, hinitial, hvalue, htaken⟩ :=
    hw.squared hev rfl ho hslot
  rw [hwarm] at hinitial
  obtain ⟨value, rfl⟩ := Option.isSome_iff_exists.mp hinitial
  -- the value with which the subscription started shows the query by then
  have hstart : value = .queryText v (queryOf v x.journal) false := by
    rw [hvalue value rfl, ← hx.query_eq]
    rfl
  obtain ⟨hquery, hrest, hsearched⟩ := hconsulted v
  have htold : Searches (taken b w.journal) (w.screen.query v) (submissions v later) := by
    rw [hsplit] at hquery hrest hsearched
    obtain ⟨n, hsearches, hcount⟩ := hsearched.searches rfl
    rw [hrest] at hcount
    rw [htaken, hstart, hquery, hcount]
    exact hsearches
  obtain ⟨heq, hsettled⟩ := hw.taken_eq hm (hw.sound_of_fresh.knows ho).1 hslot.2
  rw [heq] at htold
  refine ⟨later, x.here, key, value, x.journal, hsplit, htold.foretold.left_of_append, htold,
    fun hd => ?_⟩
  rwa [← hsettled hd, heq]

namespace Code

variable {code : Code m τ} {depth : Nat} {own : τ} {program : Program m τ True True α}

/-- **Submissions follow queries**: at every moment of every run, a subscriber to a search view that
    started with its query and still has its slot has heard of no submission but of the query that
    it was shown last, and hears of every submission once, if observers do not panic. When the run
    is over, it has heard of all of them, and was shown the query of the view last. -/
theorem submissions_follow_queries (hm : m.observersPanic = false) (hev : m.everywhere = false) :
    (∀ w ∈ code.moments depth own program, ∀ h b v judge,
      Occurred (.subscribing h b (.widget .queryEvents v judge)) w.journal →
      warmed h w.journal = true → w.HasSlot b .queryEvents v judge →
        w.FollowsQueries h b v judge) ∧
    ∀ a u, code.outcome depth own program = .ok a u → ∀ h b v judge,
      Occurred (.subscribing h b (.widget .queryEvents v judge)) u.journal →
      warmed h u.journal = true → u.HasSlot b .queryEvents v judge →
        u.erased.FollowsQueries h b v judge ∧ u.delivering b = none := by
  obtain ⟨hmoments, hend⟩ := kept (C := Concern.searching) (fun _ => trivial)
    (fun hc _ k => Client.searching_place hc k) code depth own program
    fun _ => ⟨rfl, rfl, guarded_nil _⟩
  refine ⟨fun w hw h b v judge ho hwarm hslot => ?_, fun a u hr h b v judge ho hwarm hslot => ?_⟩
  · obtain ⟨_, -, hconsulted⟩ := hmoments w hw
    exact (reachable hw).followsQueries hm hev hconsulted ho hwarm hslot
  · have hconsulted : u.erased.Consulted := (hend a u hr).1
    obtain ⟨hsteps, hidle⟩ := idle hr
    exact ⟨hsteps.followsQueries hm hev hconsulted ho hwarm hslot, hidle b⟩

/-- Its observer corrects a query, and submits that itself, in the midst of hearing of a change. -/
def correcting : Code ⟨false, false, true, false⟩ Unit :=
  { quiet _ with
    observe := fun _ signal =>
      match signal with
      | .next (.queryText v "lena" false) =>
        .call (.setQuery v "lean" true) (fun _ => rfl) (fun h => h.elim id id) fun _ => .done ()
      | _ => .done () }

/-- Subscribe to a search view, then change its query and submit it. -/
def searching : Program m Unit True True Unit :=
  .making (.newView .main) fun v =>
    .making (.subscribe ⟨.widget .queryEvents v .always, true⟩ (.client 0)) fun _ =>
      .making (.setQuery v "lena" true) fun _ => .done ()

/-- In the midst of hearing of the query it waits to hear of the correction and of its submission.
    When the run is over, it has heard of two submissions, both of the correction. -/
theorem submissions_follow_queries_inside :
    (∃ w ∈ correcting.moments 3 () searching, w.FollowsQueries 1 1 1 .always ∧
      values 1 w.journal = [.queryText 1 "" false, .queryText 1 "lena" false] ∧
      w.queue 1 = [.next (.queryText 1 "lean" false), .next (.queryText 1 "lean" true)]) ∧
    ∃ u, correcting.outcome 3 () searching = .ok () u ∧ u.erased.FollowsQueries 1 1 1 .always ∧
      values 1 u.journal = [.queryText 1 "" false, .queryText 1 "lena" false,
        .queryText 1 "lean" false, .queryText 1 "lean" true, .queryText 1 "lean" true] := by
  have hw := List.get_mem (correcting.moments 3 () searching) ⟨4, by decide +kernel⟩
  refine ⟨⟨_, hw, (submissions_follow_queries rfl rfl).1 _ hw 1 1 1 .always ?_ ?_ ?_, ?_, ?_⟩, ?_⟩
  · exact ⟨⟨.main, .subscribing 1 1 (.widget .queryEvents 1 .always)⟩, by decide +kernel, rfl⟩
  · decide +kernel
  · exact ⟨by decide +kernel, by decide +kernel⟩
  · decide +kernel
  · decide +kernel
  obtain ⟨⟨⟩, u, hr, hsub, hwarm, hcontent, hclosed, hvalues⟩ :=
    exists_of_test (r := correcting.outcome 3 () searching)
      (P := fun u => ⟨.main, .subscribing 1 1 (.widget .queryEvents 1 .always)⟩ ∈ u.journal ∧
        warmed 1 u.journal = true ∧ (u.screen.slot ⟨.query, 1⟩).content =
          some (.forward .queryEvents 1 .always) ∧ u.closed 1 = false ∧
        values 1 u.journal = [.queryText 1 "" false, .queryText 1 "lena" false,
          .queryText 1 "lean" false, .queryText 1 "lean" true, .queryText 1 "lean" true])
      (by decide +kernel)
  refine ⟨u, hr, ?_, hvalues⟩
  exact ((submissions_follow_queries rfl rfl).2 () u hr 1 1 1 .always ⟨_, hsub, rfl⟩ hwarm
    ⟨hcontent, hclosed⟩).1

end Code

end WidgetStreams
