import WidgetStreams.Proofs.Telling
import WidgetStreams.Toolkit.Menu
import WidgetStreams.Toolkit.Scrolling
import WidgetStreams.Toolkit.Sink

/-!
# Widgets take steps

This file proves that whatever is done with a widget lands within its frame: a
widget changes its own state, and tells the listeners at its points. A state
that mirrors show is told of in the very step that changes it.

## Main results

- `Turn.focus`, `Turn.select`, `Turn.query` — how the states change that mirrors show
- `Client.Behaves.requestFocus`, … — one for each operation of a widget
-/

namespace WidgetStreams

open History UI

variable {σ : Type} {m : Manners} {K : σ → Prop} {s p : Prop} {w : Toolkit σ} {c : Client σ}

-- ════════════════════════════════════════════════════════════════════════
-- States that mirrors show
-- ════════════════════════════════════════════════════════════════════════

/-- At a site there is one mirror at most. -/
theorem Binding.eq_of_isMirror {binding other : Binding} (h : binding.isMirror = true)
    (h' : other.isMirror = true) (hs : binding.site = other.site) : binding = other := by
  cases binding <;> cases h <;> cases other <;>
    first | rfl | exact absurd h' (by decide) | exact absurd hs (by decide)

namespace Screen

variable {t : Screen} {v : ViewId}

theorem flags_setFlags (t : Screen) (v n : ViewId) (f : Flags) :
    (t.setFlags v f).flags n = if v = n then f else t.flags n := by
  by_cases e : v = n <;> simp [setFlags, flags, view, e]

theorem rowsOf_insert (t : Screen) (v n : ViewId) (r : Rows) :
    ({ t with rows := t.rows.insert v r } : Screen).rowsOf n = if v = n then r else t.rowsOf n := by
  by_cases e : v = n <;> simp [rowsOf, e]

theorem query_insert (t : Screen) (v n : ViewId) (q : String) :
    ({ t with queries := t.queries.insert v q } : Screen).query n =
      if v = n then q else t.query n := by
  by_cases e : v = n <;> simp [query, e]

theorem text_insert (t : Screen) (v n : ViewId) (text : String) :
    ({ t with texts := t.texts.insert v text } : Screen).text n =
      if v = n then text else t.text n := by
  by_cases e : v = n <;> simp [Screen.text, e]

theorem pagesOf_insert (t : Screen) (v n : ViewId) (p : Pages) :
    ({ t with pages := t.pages.insert v p } : Screen).pagesOf n =
      if v = n then p else t.pagesOf n := by
  by_cases e : v = n <;> simp [pagesOf, e]

/-- Flags that leave the focus alone are none of what mirrors show. -/
theorem ShowsAlike.setFlags {f : Flags} (hf : f.focused = (t.flags v).focused) :
    t.ShowsAlike (t.setFlags v f) := by
  refine .of_shown (fun n => ?_) (fun _ => rfl) (fun _ => rfl) (fun _ => rfl) fun _ => rfl
  rw [flags_setFlags]
  split
  · next e => rw [hf, e]
  · rfl

/-- Rows that leave the selection alone are none of what mirrors show. -/
theorem ShowsAlike.insertRows {r : Rows} (hr : r.selected = (t.rowsOf v).selected) :
    t.ShowsAlike { t with rows := t.rows.insert v r } := by
  refine .of_shown (fun _ => rfl) (fun n => ?_) (fun _ => rfl) (fun _ => rfl) fun _ => rfl
  rw [rowsOf_insert]
  split
  · next e => rw [hr, e]
  · rfl

/-- Pages that leave the current one alone are none of what feeds show. -/
theorem ShowsAlike.insertPages {p : Pages} (hp : p.current = (t.pagesOf v).current) :
    t.ShowsAlike { t with pages := t.pages.insert v p } := by
  refine .of_shown (fun _ => rfl) (fun _ => rfl) (fun _ => rfl) (fun _ => rfl) fun n => ?_
  rw [pagesOf_insert]
  split
  · next e => rw [hp, e]
  · rfl

/-- A new view does not have the focus, and neither does one that is not there. -/
theorem ShowsAlike.addView {state : ViewState} (hf : state.flags.focused = false) :
    t.ShowsAlike { t with views := (t.views.add state).2 } := by
  refine .of_shown (fun n => ?_) (fun _ => rfl) (fun _ => rfl) (fun _ => rfl) fun _ => rfl
  have hfind : (t.views.add state).2.find? n =
      (t.views.find? n).or (if t.views.next = n then some state else none) :=
    Dict.lookup_append n t.views.entries.pairs [(t.views.next, state)]
  simp only [flags, view, Registry.get, hfind]
  cases t.views.find? n with
  | some => rfl
  | none =>
    by_cases e : t.views.next = n
    · rw [if_pos e]
      exact hf
    · rw [if_neg e]
      rfl

end Screen

namespace Turn

variable {t u : Screen} {point : Point} {e : NativeEvent} {v : ViewId}

/-- **A turn of the mirror** at a point: nothing else of what mirrors show changes. -/
theorem of_mirror (binding : Binding) (hm : binding.isMirror = true)
    (hsite : binding.site = point.site) (slots : u.slots = t.slots)
    (rosters : u.rosters = t.rosters)
    (others : ∀ other n, other.isMirror = true → other.point n ≠ point →
      u.current other n = t.current other n)
    (told : binding.payload? e = some (u.current binding point.owner))
    (new : binding ≠ .queries → t.current binding point.owner ≠ u.current binding point.owner)
    (feeds : ∀ other n, other.isFeed = true → u.current other n = t.current other n) :
    Turn t u point e where
  slots := slots
  rosters := rosters
  feeds := feeds
  elsewhere other n hother hn := by
    refine others other n hother fun hp => ?_
    have hsites : other.site = binding.site := (congrArg Point.site hp).trans hsite.symm
    obtain rfl := Binding.eq_of_isMirror hother hm hsites
    obtain hn | hn := hn
    · exact hn hp
    · rw [hn] at told
      cases told
  told other value hother hs hv := by
    obtain rfl := Binding.eq_of_isMirror hother hm (hs.trans hsite.symm)
    obtain rfl : u.current other point.owner = value := Option.some.inj (told.symm.trans hv)
    exact ⟨rfl, new⟩

/-- **The focus comes or goes.** -/
theorem focus {on : Bool} (h : (t.flags v).focused = !on) :
    Turn t (t.setFlags v ((t.flags v).assign { focused := true } on)) ⟨.focus, v⟩
      (.focusChanged v on) := by
  have hnew :
      ((t.setFlags v ((t.flags v).assign { focused := true } on)).flags v).focused = on := by
    rw [Screen.flags_setFlags, if_pos rfl]
    rfl
  refine of_mirror .focusChanges rfl rfl rfl rfl (fun other n hm hn => ?_) ?_ (fun _ => ?_)
    fun other n hf => ?_
  · cases other with
    | focusChanges =>
      have hne : v ≠ n := fun e => hn (by rw [e]; rfl)
      change Payload.flag _ = _
      rw [Screen.flags_setFlags, if_neg hne]
      rfl
    | itemSelections | queries => rfl
    | _ => cases hm
  · simp only [Binding.payload?, Screen.current, hnew]
  · simp only [Screen.current, hnew, h]
    cases on <;> simp
  · cases other <;> first | rfl | cases hf

/-- **Another row is selected**, or none. -/
theorem select {r : Rows} (hr : r.selected ≠ (t.rowsOf v).selected)
    (he : Binding.payload? .itemSelections e = some (.number r.selected)) :
    Turn t { t with rows := t.rows.insert v r } ⟨.itemSelected, v⟩ e := by
  have hnew : ({ t with rows := t.rows.insert v r } : Screen).rowsOf v = r := by
    rw [Screen.rowsOf_insert, if_pos rfl]
  refine of_mirror .itemSelections rfl rfl rfl rfl (fun other n hm hn => ?_) ?_ (fun _ => ?_)
    fun other n hf => ?_
  · cases other with
    | itemSelections =>
      have hne : v ≠ n := fun e => hn (by rw [e]; rfl)
      change Payload.number _ = _
      rw [Screen.rowsOf_insert, if_neg hne]
      rfl
    | focusChanges | queries => rfl
    | _ => cases hm
  · rw [he]
    simp only [Screen.current, hnew]
  · simp only [Screen.current, hnew]
    intro h
    exact hr (Payload.number.inj h).symm
  · cases other <;> first | rfl | cases hf

/-- **The query is set.** -/
theorem query (t : Screen) (v : ViewId) (q : String) :
    Turn t { t with queries := t.queries.insert v q } ⟨.query, v⟩ (.queryChanged v q) := by
  refine of_mirror .queries rfl rfl rfl rfl (fun other n hm hn => ?_) ?_ (absurd rfl)
    fun other n hf => ?_
  · cases other with
    | queries =>
      have hne : v ≠ n := fun e => hn (by rw [e]; rfl)
      change Payload.text _ = _
      rw [Screen.query_insert, if_neg hne]
      rfl
    | focusChanges | itemSelections => rfl
    | _ => cases hm
  · simp only [Binding.payload?, Screen.current]
    rw [Screen.query_insert, if_pos rfl]
  · cases other <;> first | rfl | cases hf

end Turn

namespace Alteration

/-- **A text is replaced.** -/
theorem text (t : Screen) (v : ViewId) (text : String) :
    Alteration t { t with texts := t.texts.insert v text } ⟨.watcher, v⟩ (.text text) where
  slots := rfl
  rosters := rfl
  mirrors binding n hm := by cases binding <;> first | rfl | cases hm
  elsewhere binding n hf hn := by
    cases binding with
    | texts =>
      have hne : v ≠ n := fun e => hn (by rw [e]; rfl)
      simp only [Screen.current, Screen.text_insert, if_neg hne]
    | pageSelections => rfl
    | _ => cases hf
  shown binding n hf hn := by
    cases binding with
    | texts =>
      obtain rfl : n = v := congrArg Point.owner hn
      simp only [Screen.current, Screen.text_insert, if_pos]
    | pageSelections => cases hn
    | _ => cases hf

/-- **Another page is shown.** -/
theorem page (t : Screen) (v : ViewId) (p : Pages) :
    Alteration t { t with pages := t.pages.insert v p } ⟨.page, v⟩ (.page p.current) where
  slots := rfl
  rosters := rfl
  mirrors binding n hm := by cases binding <;> first | rfl | cases hm
  elsewhere binding n hf hn := by
    cases binding with
    | pageSelections =>
      have hne : v ≠ n := fun e => hn (by rw [e]; rfl)
      simp only [Screen.current, Screen.pagesOf_insert, if_neg hne]
    | texts => rfl
    | _ => cases hf
  shown binding n hf hn := by
    cases binding with
    | pageSelections =>
      obtain rfl : n = v := congrArg Point.owner hn
      simp only [Screen.current, Screen.pagesOf_insert, if_pos]
    | texts => cases hn
    | _ => cases hf

end Alteration

/-- Whether a mirror listens at a site. -/
def Site.hasMirror : Site → Bool
  | .focus | .itemSelected | .query => true
  | _ => false

/-- Nothing is mirrored where no mirror listens. -/
theorem Point.Unmirrored.of_site {point : Point} {e : NativeEvent}
    (h : point.site.hasMirror = false) : point.Unmirrored e := by
  intro binding hm hs
  rw [← hs] at h
  cases binding <;> first | exact absurd hm (by decide) | exact absurd h (by decide)

-- ════════════════════════════════════════════════════════════════════════
-- Operations that tell nobody
-- ════════════════════════════════════════════════════════════════════════

section Run

variable {α : Type}

theorem run_text_bind (v : ViewId) (f : String → UI σ α) :
    (text v >>= f) w = f (w.screen.text v) w := rfl

theorem run_flags_bind (v : ViewId) (f : Flags → UI σ α) :
    (flags v >>= f) w = f (w.screen.flags v) w := rfl

theorem run_rows_bind (v : ViewId) (f : Rows → UI σ α) :
    (rows v >>= f) w = f (w.screen.rowsOf v) w := rfl

theorem run_pages_bind (v : ViewId) (f : Pages → UI σ α) :
    (pages v >>= f) w = f (w.screen.pagesOf v) w := rfl

theorem run_putRows_bind (v : ViewId) (r : Rows) (f : Unit → UI σ α) :
    (putRows v r >>= f) w =
      f () (w.showing { w.screen with rows := w.screen.rows.insert v r }) := rfl

theorem run_putText_bind (v : ViewId) (text : String) (f : Unit → UI σ α) :
    (putText v text >>= f) w =
      f () (w.showing { w.screen with texts := w.screen.texts.insert v text }) := rfl

theorem run_putPages_bind (v : ViewId) (p : Pages) (f : Unit → UI σ α) :
    (putPages v p >>= f) w =
      f () (w.showing { w.screen with pages := w.screen.pages.insert v p }) := rfl

theorem run_putQuery_bind (v : ViewId) (q : String) (f : Unit → UI σ α) :
    (putQuery v q >>= f) w =
      f () (w.showing { w.screen with queries := w.screen.queries.insert v q }) := rfl

theorem run_assignFlags_bind (v : ViewId) (chosen : Flags) (on : Bool) (f : Unit → UI σ α) :
    ((discard (assignFlags v chosen on) : UI σ Unit) >>= f) w =
      f () (w.showing (w.screen.setFlags v ((w.screen.flags v).assign chosen on))) := rfl

end Run

/-- An alteration is in the frame. -/
theorem Reached.altering (hw : Reached m K w) {t : Screen} {point : Point} {value : Payload}
    (h : Alteration w.screen t point value) :
    Reached m K ((w.showing t).noted (.altered point value)) ∧
      Frame m w ((w.showing t).noted (.altered point value)) := by
  have hf : Frame m w ((w.showing t).noted (.altered point value)) :=
    .of_step (.alter h) rfl (fun _ => rfl) (fun _ => by rw [marks_noted]; exact List.append_nil _)
      fun _ => by rw [milestones_noted]; exact List.append_nil _
  exact ⟨hw.steps hf.steps rfl, hf⟩

namespace Keeps

theorem newView (thread : Thread) : Keeps m K s p (UI.newView thread : UI σ ViewId) := by
  intro w hw _
  obtain ⟨hu, hwu⟩ := hw.showing (t := { w.screen with
    views := (w.screen.views.add { thread := thread }).2 }) rfl rfl (.addView rfl)
  exact ⟨hu, hwu, trivial⟩

theorem flags (v : ViewId) : Keeps m K s p (UI.flags v : UI σ Flags) := read fun _ => ⟨_, rfl⟩

theorem setVisibility (v : ViewId) (visibility : Visibility) :
    Keeps m K s p (UI.setVisibility v visibility : UI σ Unit) := by
  refine changeScreen (fun _ => rfl) (fun _ => rfl) fun t => ?_
  refine .of_shown (fun n => ?_) (fun _ => rfl) (fun _ => rfl) (fun _ => rfl) fun _ => rfl
  by_cases e : v = n <;> simp [Screen.setVisibility, Screen.flags, Screen.view, e]

theorem newSwipe (v : ViewId) : Keeps m K s p (UI.newSwipe v : UI σ Nat) :=
  .bind (read fun _ => ⟨_, rfl⟩) fun _ =>
    .bind (changeScreen (fun _ => rfl) (fun _ => rfl) fun _ => .of_eq rfl rfl rfl rfl rfl)
      fun _ => .pure _

theorem rows (v : ViewId) : Keeps m K s p (UI.rows v : UI σ Rows) := read fun _ => ⟨_, rfl⟩

theorem newAdapterView (thread : Thread) (ids : List Int64) :
    Keeps m K s p (UI.newAdapterView thread ids : UI σ ViewId) := by
  refine (newView thread).bind fun v => ?_
  intro w hw _
  rw [run_rows_bind, run_putRows_bind]
  obtain ⟨hu, hwu⟩ := hw.showing (t := { w.screen with
    rows := w.screen.rows.insert v { w.screen.rowsOf v with ids := ids } }) rfl rfl
      (.insertRows rfl)
  exact ⟨hu, hwu, trivial⟩

theorem putBarQuery (v : ViewId) (query : String) :
    Keeps m K s p (UI.putBarQuery v query : UI σ Unit) :=
  changeScreen (fun _ => rfl) (fun _ => rfl) fun _ => .of_eq rfl rfl rfl rfl rfl

theorem menu (n : Nat) : Keeps m K s p (UI.menu n : UI σ Menu) := read fun _ => ⟨_, rfl⟩

theorem putShowing (n : Nat) (showing : Bool) :
    Keeps m K s p (UI.putShowing n showing : UI σ Unit) :=
  changeScreen (fun _ => rfl) (fun _ => rfl) fun _ => .of_eq rfl rfl rfl rfl rfl

theorem newMenu (anchor : ViewId) (items : List MenuItem) :
    Keeps m K s p (UI.newMenu anchor items : UI σ Nat) :=
  .bind (read fun _ => ⟨_, rfl⟩) fun _ =>
    .bind (changeScreen (fun _ => rfl) (fun _ => rfl) fun _ => .of_eq rfl rfl rfl rfl rfl)
      fun _ => .pure _

theorem offset (v : ViewId) : Keeps m K s p (UI.offset v : UI σ ScrollOffset) :=
  read fun _ => ⟨_, rfl⟩

theorem putOffset (v : ViewId) (o : ScrollOffset) : Keeps m K s p (UI.putOffset v o : UI σ Unit) :=
  changeScreen (fun _ => rfl) (fun _ => rfl) fun _ => .of_eq rfl rfl rfl rfl rfl

theorem pages (v : ViewId) : Keeps m K s p (UI.pages v : UI σ Pages) := read fun _ => ⟨_, rfl⟩

/-- The pages of a pager may be changed but for the current one. -/
theorem changePages (v : ViewId) {f : Pages → Pages} (hf : ∀ p, (f p).current = p.current) :
    Keeps m K s p (UI.pages v >>= fun pages => putPages v (f pages) : UI σ Unit) := by
  intro w hw _
  obtain ⟨hu, hwu⟩ := hw.showing (t := { w.screen with
    pages := w.screen.pages.insert v (f (w.screen.pagesOf v)) }) rfl rfl (.insertPages (hf _))
  exact ⟨hu, hwu, trivial⟩

theorem newPager (thread : Thread) (count : Nat) :
    Keeps m K s p (UI.newPager thread count : UI σ ViewId) := by
  refine (newView thread).bind fun v => ?_
  have hpages : Keeps m K s p (UI.pages v >>= fun pages =>
      putPages v { pages with count := count } : UI σ Unit) := changePages v fun _ => rfl
  have hdone : Keeps m K s p (Pure.pure v : UI σ ViewId) := .pure v
  rw [← bind_assoc]
  exact hpages.bind fun _ => hdone

theorem setPageWidth (v : ViewId) (width : Int32) :
    Keeps m K s p (UI.setPageWidth v width : UI σ Unit) :=
  changePages v fun _ => rfl

theorem takeStep (v : ViewId) (step : PageStep) :
    Keeps m K s p (UI.takeStep v step : UI σ Unit) := by
  cases step with
  | motion => exact changePages v fun _ => rfl
  | scrolled | selected => exact .pure ()

end Keeps

-- ════════════════════════════════════════════════════════════════════════
-- Operations that tell listeners
-- ════════════════════════════════════════════════════════════════════════

namespace Client.Behaves

/-- What is told is thrown away. -/
theorem tell_discard (hc : c.Behaves m K) {point : Point} {e : NativeEvent}
    (he : point.Unmirrored e) :
    Keeps m K True m.mayPanic (Functor.discard (c.notify point e) : UI σ Unit) :=
  (hc.notify he).discard

theorem discard_turning (hc : c.Behaves m K) (hw : Reached m K w) (hf : Free m w) {t : Screen}
    {point : Point} {e : NativeEvent} (turn : Turn w.screen t point e) :
    Lands m K m.mayPanic (Frame m w) (fun _ _ => True)
      ((Functor.discard (c.notify point e) : UI σ Unit) (w.showing t)) :=
  (hc.notify_turning hw hf turn).discard fun _ _ h => h

/-- Who listens for the focus is told when it comes or goes. -/
theorem tellFocus (hc : c.Behaves m K) (hw : Reached m K w) (hf : Free m w) {v : ViewId} {on : Bool}
    (h : (w.screen.flags v).focused = !on) :
    Lands m K m.mayPanic (Frame m w) (fun _ _ => True) (c.tellFocus v on
      (w.showing (w.screen.setFlags v ((w.screen.flags v).assign { focused := true } on)))) := by
  have hnoted : Frame m w (w.noted (.focusChanged v on)) := .note w rfl
  exact Lands.after hnoted
    (hc.discard_turning (hw.steps hnoted.steps rfl) (hf.frame hnoted) (.focus h))

theorem requestFocus (hc : c.Behaves m K) (v : ViewId) :
    Keeps m K True m.mayPanic (c.requestFocus v) := by
  intro w hw hf
  simp only [Client.requestFocus, run_flags_bind, run_ite]
  split
  · exact ⟨hw, .refl w, trivial⟩
  split
  · exact ⟨hw, .refl w, trivial⟩
  · next hfocused =>
    have hnew : (w.screen.flags v).focused = !true := by simpa using hfocused
    rw [run_assignFlags_bind]
    refine (hc.tellFocus hw (hf trivial) hnew).bind (fun _ h => h) fun _ u hu hwu _ => ?_
    exact ⟨hu, hwu, trivial⟩

theorem clearFocus (hc : c.Behaves m K) (v : ViewId) :
    Keeps m K True m.mayPanic (c.clearFocus v) := by
  intro w hw hf
  simp only [Client.clearFocus, run_flags_bind, run_assignFlags_bind, run_ite]
  split
  · next hfocused =>
    have hnew : (w.screen.flags v).focused = !false := by simpa using hfocused
    exact hc.tellFocus hw (hf trivial) hnew
  · next hfocused =>
    have hsame : ((w.screen.flags v).assign { focused := true } false).focused =
        (w.screen.flags v).focused := (Bool.eq_false_iff.mpr hfocused).symm
    obtain ⟨hu, hwu⟩ := hw.showing (t := w.screen.setFlags v _) rfl rfl (.setFlags hsame)
    exact ⟨hu, hwu, trivial⟩

theorem setFocusable (hc : c.Behaves m K) (v : ViewId) (focusable : Bool) :
    Keeps m K True m.mayPanic (c.setFocusable v focusable) :=
  (Keeps.setFlags v _ focusable).discard.bind fun _ => .ite (hc.clearFocus v) (.pure ())

theorem click (hc : c.Behaves m K) (v : ViewId) : Keeps m K True m.mayPanic (c.click v) :=
  (Keeps.note rfl).bind fun _ => (hc.notify (.of_site rfl)).bind fun _ => .pure _

theorem longClick (hc : c.Behaves m K) (v : ViewId) : Keeps m K True m.mayPanic (c.longClick v) :=
  (Keeps.note rfl).bind fun _ => hc.ask (.of_site rfl)

theorem touch (hc : c.Behaves m K) (v : ViewId) (motion : Motion) :
    Keeps m K True m.mayPanic (c.touch v motion) :=
  (Keeps.flags v).bind fun _ => .ite (hc.ask (.of_site rfl)) (.pure false)

theorem hover (hc : c.Behaves m K) (v : ViewId) (motion : Motion) :
    Keeps m K True m.mayPanic (c.hover v motion) :=
  (Keeps.flags v).bind fun _ => .ite (hc.ask (.of_site rfl)) (.pure false)

theorem swipeAway (hc : c.Behaves m K) (swipe : Nat) :
    Keeps m K True m.mayPanic (c.swipeAway swipe) :=
  (Keeps.read fun _ => ⟨_, rfl⟩).bind fun _ =>
    (Keeps.setVisibility _ .gone).bind fun _ => hc.tell_discard (.of_site rfl)

theorem select (hc : c.Behaves m K) (v : ViewId) (position : Int32) :
    Keeps m K True m.mayPanic (c.select v position) := by
  intro w hw hf
  simp only [Client.select, run_rows_bind]
  cases (w.screen.rowsOf v).idAt? position with
  | none => exact ⟨hw, .refl w, trivial⟩
  | some id =>
    simp only [run_ite]
    split
    · next hne =>
      rw [run_putRows_bind]
      refine (hc.discard_turning hw (hf trivial) (.select (Ne.symm hne) rfl)).bind (fun _ h => h) ?_
      exact fun _ u hu hwu _ => ⟨hu, hwu, trivial⟩
    · exact ⟨hw, .refl w, trivial⟩

theorem clearSelection (hc : c.Behaves m K) (v : ViewId) :
    Keeps m K True m.mayPanic (c.clearSelection v) := by
  intro w hw hf
  simp only [Client.clearSelection, run_rows_bind, run_putRows_bind, run_ite]
  split
  · next hne => exact hc.discard_turning hw (hf trivial) (.select (Ne.symm hne) rfl)
  · next heq =>
    let r : Rows := { w.screen.rowsOf v with selected := invalidPosition }
    obtain ⟨hu, hwu⟩ := hw.showing (t := { w.screen with rows := w.screen.rows.insert v r })
      rfl rfl (.insertRows (not_not.mp heq).symm)
    exact ⟨hu, hwu, trivial⟩

/-- A selection that is lost was there. -/
theorem selected_ne_of_selectionLost {r : Rows} (h : r.selectionLost = true) :
    invalidPosition ≠ r.selected := by
  have hinvalid : ¬ 0 ≤ invalidPosition.toInt := by decide
  rintro he
  rw [Rows.selectionLost, decide_eq_true_eq, ← he] at h
  exact hinvalid h.1

theorem setRows (hc : c.Behaves m K) (v : ViewId) (ids : List Int64) :
    Keeps m K True m.mayPanic (c.setRows v ids) := by
  intro w hw hf
  simp only [Client.setRows, run_rows_bind, run_ite]
  split
  · next hlost =>
    have hne := selected_ne_of_selectionLost hlost
    rw [run_putRows_bind]
    exact hc.discard_turning hw (hf trivial) (.select hne rfl)
  · obtain ⟨hu, hwu⟩ := hw.showing (t := { w.screen with
      rows := w.screen.rows.insert v { w.screen.rowsOf v with ids := ids } }) rfl rfl
        (.insertRows rfl)
    exact ⟨hu, hwu, trivial⟩

theorem clickRow (hc : c.Behaves m K) (v : ViewId) (position : Int32) :
    Keeps m K True m.mayPanic (c.clickRow v position) :=
  (Keeps.rows v).bind fun _ => (hc.notify (.of_site rfl)).bind fun _ => .pure _

theorem longClickRow (hc : c.Behaves m K) (v : ViewId) (position : Int32) :
    Keeps m K True m.mayPanic (c.longClickRow v position) :=
  (Keeps.rows v).bind fun _ => hc.ask (.of_site rfl)

/-- No mirror delivers what is submitted. -/
theorem submitQuery (hc : c.Behaves m K) (v : ViewId) :
    Keeps m K True m.mayPanic (c.submitQuery v) := by
  refine (Keeps.read fun _ => ⟨_, rfl⟩).bind fun q => (Keeps.note rfl).bind fun _ => hc.ask ?_
  intro binding hm _
  cases binding <;> first | rfl | exact absurd hm (by decide)

theorem setQuery (hc : c.Behaves m K) (v : ViewId) (query : String) (submit : Bool) :
    Keeps m K True m.mayPanic (c.setQuery v query submit) := by
  intro w hw hf
  simp only [Client.setQuery, run_putQuery_bind]
  refine (hc.discard_turning hw (hf trivial) (.query w.screen v query)).bind (fun _ h => h)
    fun _ u hu hwu _ => Lands.after hwu ?_
  have hsubmit : Keeps m K True m.mayPanic
      (if submit then discard (c.submitQuery v) else pure () : UI σ Unit) :=
    .ite (hc.submitQuery v).discard (.pure ())
  exact hsubmit u hu fun _ => (hf trivial).frame hwu

theorem setBarQuery (hc : c.Behaves m K) (v : ViewId) (query : String) :
    Keeps m K True m.mayPanic (c.setBarQuery v query) :=
  (Keeps.putBarQuery v query).bind fun _ => hc.tell_discard (.of_site rfl)

theorem submitBarQuery (hc : c.Behaves m K) (v : ViewId) :
    Keeps m K True m.mayPanic (c.submitBarQuery v) :=
  (Keeps.read fun _ => ⟨_, rfl⟩).bind fun _ => hc.tell_discard (.of_site rfl)

theorem dismissKeyboard (hc : c.Behaves m K) (v : ViewId) :
    Keeps m K True m.mayPanic (c.dismissKeyboard v) :=
  (Keeps.read fun _ => ⟨_, rfl⟩).bind fun _ => hc.tell_discard (.of_site rfl)

theorem dismissMenu (hc : c.Behaves m K) (n : Nat) :
    Keeps m K True m.mayPanic (c.dismissMenu n) :=
  (Keeps.menu n).bind fun _ => (Keeps.putShowing n false).bind fun _ =>
    .ite (hc.tell_discard (.of_site rfl)) (.pure ())

theorem chooseItem (hc : c.Behaves m K) (n : Nat) (id : Int32) :
    Keeps m K True m.mayPanic (c.chooseItem n id) := by
  refine (Keeps.menu n).bind fun _ => ?_
  split
  · exact .pure false
  · exact (hc.ask (.of_site rfl)).bind fun _ => (hc.dismissMenu n).bind fun _ => .pure _

theorem actInEditor (hc : c.Behaves m K) (v : ViewId) (action : Int32) :
    Keeps m K True m.mayPanic (c.actInEditor v action) := hc.ask (.of_site rfl)

theorem scrollTo (hc : c.Behaves m K) (v : ViewId) (new : ScrollOffset) :
    Keeps m K True m.mayPanic (c.scrollTo v new) :=
  (Keeps.offset v).bind fun _ => (Keeps.putOffset v new).bind fun _ =>
    .ite (hc.tell_discard (.of_site rfl)) (.pure ())

theorem scrollBy (hc : c.Behaves m K) (v : ViewId) (dx dy : Int32) :
    Keeps m K True m.mayPanic (c.scrollBy v dx dy) :=
  (Keeps.offset v).bind fun _ => hc.scrollTo v _

/-- **Editing a text** lands. Those who are told were registered when the edit began. -/
theorem edit (hc : c.Behaves m K) (v : ViewId) (start before count : Nat)
    (apply : String → String) :
    Keeps m K True m.mayPanic (c.edit v start before count apply) := by
  refine .operate rfl fun watchers w hw hf hwatchers => ?_
  have hf := hf trivial
  rw [run_text_bind]
  -- the first round of calls, the change of the text, and the other two rounds
  refine (hc.notifyAll hw hf _ _ hwatchers).next fun _ u hu hwu _ => ?_
  rw [run_text_bind, run_putText_bind, run_note_bind]
  obtain ⟨hx, hux⟩ := hu.altering (.text u.screen v (apply (u.screen.text v)))
  refine Lands.after hux ((Keeps.note (s := False) rfl _ hx False.elim).next fun _ y hy hxy _ => ?_)
  have hwy := (hwu.trans hux).trans hxy
  have hy' := fun l hl => (hwatchers l hl).mono hwy.grows
  refine (hc.notifyAll hy (hf.frame hwy) _ _ hy').next fun _ z hz hyz _ => ?_
  exact hc.notifyAll hz ((hf.frame hwy).frame hyz) _ _ fun l hl => (hy' l hl).mono hyz.grows

theorem setText (hc : c.Behaves m K) (v : ViewId) (text : String) :
    Keeps m K True m.mayPanic (c.setText v text) :=
  (Keeps.read fun _ => ⟨_, rfl⟩).bind fun _ => hc.edit v _ _ _ _

theorem append (hc : c.Behaves m K) (v : ViewId) (text : String) :
    Keeps m K True m.mayPanic (c.append v text) :=
  (Keeps.read fun _ => ⟨_, rfl⟩).bind fun _ => hc.edit v _ _ _ _

/-- **An itinerary is told**, stop by stop. -/
theorem tellSteps (hc : c.Behaves m K) (v : ViewId) (listeners : List Listener)
    (steps : List PageStep) (hw : Reached m K w) (hf : Free m w)
    (hl : ∀ l ∈ listeners, w.IsShared l) :
    Lands m K m.mayPanic (Frame m w) (fun _ _ => True) (c.tellSteps v listeners steps w) := by
  induction steps generalizing w with
  | nil => exact ⟨hw, .refl w, trivial⟩
  | cons step rest ih =>
    refine (Keeps.takeStep (s := False) v step w hw False.elim).next fun _ u hu hwu _ => ?_
    have hlu := fun l hl' => (hl l hl').mono hwu.grows
    refine (hc.notifyAll hu (hf.frame hwu) _ _ hlu).next fun _ x hx hux _ => ?_
    exact ih hx ((hf.frame hwu).frame hux) fun l hl' => (hlu l hl').mono hux.grows

theorem setPage (hc : c.Behaves m K) (v : ViewId) (page : Nat) (smooth : Bool) :
    Keeps m K True m.mayPanic (c.setPage v page smooth) := by
  refine (Keeps.pages v).bind fun p => .ite (.pure _) (.ite ?_ (.pure _))
  refine (Keeps.operate rfl fun listeners w hw hf hl => ?_).bind fun _ => .pure _
  have hpage := Alteration.page w.screen v { p with current := page }
  rw [run_putPages_bind, run_note_bind]
  obtain ⟨hu, hwu⟩ := hw.altering hpage
  exact Lands.after hwu
    (hc.tellSteps v _ _ hu ((hf trivial).frame hwu) fun l hl' => (hl l hl').mono hwu.grows)

theorem swipeTo (hc : c.Behaves m K) (v : ViewId) (page : Nat) :
    Keeps m K True m.mayPanic (c.swipeTo v page) := by
  refine (Keeps.pages v).bind fun p => .ite (.pure _) ?_
  refine (Keeps.operate rfl fun listeners w hw hf hl => ?_).bind fun _ => .pure _
  rw [run_ite]
  split
  · have hpage := Alteration.page w.screen v { p with current := page }
    rw [run_putPages_bind, run_note_bind]
    obtain ⟨hu, hwu⟩ := hw.altering hpage
    exact Lands.after hwu
      (hc.tellSteps v _ _ hu ((hf trivial).frame hwu) fun l hl' => (hl l hl').mono hwu.grows)
  · exact hc.tellSteps v _ _ hw (hf trivial) hl

theorem put (hc : c.Behaves m K) (v : ViewId) (binding : SinkBinding) (value : Payload) :
    Keeps m K True m.mayPanic (c.put v binding value) := by
  have hflag : ∀ chosen on, Keeps m K True m.mayPanic
      (do return Except.ok (ε := WidgetError) (← discard (UI.setFlags v chosen on)) : UI σ _) :=
    fun chosen on => (Keeps.setFlags v chosen on).discard.bind fun _ => .pure _
  cases binding <;> cases value
  case activated.flag on => exact hflag _ on
  case clickable.flag on => exact hflag _ on
  case enabled.flag on => exact hflag _ on
  case pressed.flag on => exact hflag _ on
  case selected.flag on => exact hflag _ on
  case visibility.flag => exact (Keeps.setVisibility v _).bind fun _ => .pure _
  case text.text => exact (hc.setText v _).bind fun _ => .pure _
  case query.text => exact (hc.setQuery v _ _).bind fun _ => .pure _
  case barQuery.text => exact (hc.setBarQuery v _).bind fun _ => .pure _
  case selection.number => exact hc.select v _
  case currentPage.page => exact hc.setPage v _ _
  all_goals exact .pure _

/-- **Putting a value into a sink** lands, behind any number of adapters. -/
theorem accept (hc : c.Behaves m K) (sink : Sink) (value : Payload) :
    Keeps m K True m.mayPanic (c.accept sink value) := by
  induction sink generalizing value with
  | widget binding v => exact (hc.put v binding value).bind fun _ => .pure _
  | client callback =>
    exact ((hc.absorb callback value).mono False.elim .inr).bind fun _ => .pure _
  | adapted adapter sink ih => exact ih (adapter.apply value)

end Client.Behaves

end WidgetStreams
