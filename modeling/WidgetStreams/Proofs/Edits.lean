import WidgetStreams.Proofs.Upholding

/-!
# What watchers are told of edits

This file proves what the watchers of a text are told of its edits: each edit
tells them of the text that it found when it began, and of the text that it has
made. The place and the lengths that they are told of are those of the text that
was found; they fit the text that the edit was made in as long as no watcher has
changed its length before.

## Main definitions

- `Spliced` — a part of a text is replaced
- `History.textOf`, `History.drafts` — the text of a view and the edits of it that are running
- `History.Reports` — an event is in its place among the edits of a text
- `Toolkit.Written` — texts are what the journal says, and all events of edits are in their places

## Main results

- `Client.Editing.edit` — an edit keeps all events in their places
- `Code.written` — so do all runs
- `Code.edits_reported` — what watchers are told of an edit

## Design notes

An edit may be nested in another one, and may be interrupted by a panic of a
watcher. It is nested only while a watcher is being told of what it heeds; so a
text stays as it is as long as those who are told do not heed it.
-/

namespace WidgetStreams

open History UI

variable {σ τ α β : Type} {m : Manners} {v : ViewId}

/-- **A part of a text is replaced**: of the first text, `before` characters at `start` become
    `count` others. -/
def Spliced (old : String) (start before count : Nat) (new : String) : Prop :=
  ∃ head cut put tail, old.toList = head ++ cut ++ tail ∧ new.toList = head ++ put ++ tail ∧
    head.length = start ∧ cut.length = before ∧ put.length = count

namespace Spliced

variable {old new : String} {start before count : Nat}

theorem whole (old new : String) : Spliced old 0 old.length new.length new :=
  ⟨[], old.toList, new.toList, [], by simp, by simp, rfl, String.length_toList,
    String.length_toList⟩

theorem append (old added : String) : Spliced old old.length 0 added.length (old ++ added) :=
  ⟨old.toList, [], added.toList, [], by simp, by simp, String.length_toList, rfl,
    String.length_toList⟩

/-- **The second text is made of the first one** and of what replaces a part of it. -/
theorem iff_toList : Spliced old start before count new ↔
    start + before ≤ old.length ∧ start + count ≤ new.length ∧
      new.toList = old.toList.take start ++ (new.toList.drop start).take count ++
        old.toList.drop (start + before) := by
  rw [← String.length_toList, ← String.length_toList]
  constructor
  · rintro ⟨head, cut, put, tail, hold, hnew, rfl, rfl, rfl⟩
    rw [hold, hnew]
    simp only [List.length_append]
    refine ⟨by omega, by omega, ?_⟩
    simp
  · rintro ⟨hbefore, hcount, hnew⟩
    refine ⟨_, (old.toList.drop start).take before, _, _, ?_, hnew, ?_, ?_, ?_⟩
    · rw [List.append_assoc, ← List.drop_drop, List.take_append_drop, List.take_append_drop]
    · exact List.length_take_of_le (by omega)
    · exact List.length_take_of_le (by rw [List.length_drop]; omega)
    · exact List.length_take_of_le (by rw [List.length_drop]; omega)

end Spliced

-- ════════════════════════════════════════════════════════════════════════
-- Edits in the journal
-- ════════════════════════════════════════════════════════════════════════

/-- Whether anything comes of it that a listener is told of an event. -/
def Listener.heeds : Listener → NativeEvent → Bool
  | .client _, _ => true
  | .silent, _ => false
  | .forward binding _ _, e => (binding.payload? e).isSome

/-- **A draft**: an edit that is running, with the listeners that it is to tell, the text that it
    found, the calls that it has made, latest first, and the text that it was made in with the one
    that it has made of it. -/
structure Draft where
  listeners : List Listener
  found : String
  calls : List (Listener × NativeEvent) := []
  change : Option (String × String) := none
  deriving Repr, DecidableEq

namespace Draft

variable {d : Draft} {l : Listener} {e : NativeEvent} {ls : List Listener}

/-- A listener that was told that the text has changed. -/
def toldOf : Listener × NativeEvent → Option Listener
  | (l, .textChanged _ _ _ _ _) => some l
  | _ => none

/-- The listeners that were told that the text has changed, in order. -/
def told (d : Draft) : List Listener := (d.calls.filterMap toldOf).reverse

/-- The edit with more calls, of the listeners in order. -/
def after (d : Draft) (ls : List Listener) (e : NativeEvent) : Draft :=
  { d with calls := (ls.map fun l => (l, e)).reverse ++ d.calls }

/-- The edit when it has changed the text. -/
def alter (d : Draft) (old new : String) : Draft := { d with change := some (old, new) }

/-- A listener is being told of what it heeds. -/
def Inside (d : Draft) : Prop := ∃ l e rest, d.calls = (l, e) :: rest ∧ l.heeds e = true

/-- **Whoever is to be told** of the change has begun to be told of it. -/
def Settled (d : Draft) : Prop := d.change ≠ none → d.listeners = [] ∨ d.told ≠ []

/-- What a listener may be told: before the change, of the text that was found; and then of the text
    that was made, after it was told of the other one and when it is its turn. -/
def Says (v : ViewId) (d : Draft) (l : Listener) : NativeEvent → Prop
  | .textChanging _ text start before _ =>
    d.change = none ∧ text = d.found ∧ start + before ≤ d.found.length
  | .textChanged _ text start before count => ∃ old, d.change = some (old, text) ∧
    (l, .textChanging v d.found start before count) ∈ d.calls ∧
    start + before ≤ d.found.length ∧
    (old.length = d.found.length → Spliced old start before count text) ∧
    d.told ++ [l] <+: d.listeners
  | .textSettled _ text => ∃ old, d.change = some (old, text)
  | _ => True

/-- **A call is in its place**: it is of one of the listeners, who is told what it may be told. -/
def Admits (v : ViewId) (d : Draft) (l : Listener) (e : NativeEvent) : Prop :=
  l ∈ d.listeners ∧ d.Says v l e

theorem after_cons (d : Draft) (l : Listener) (ls : List Listener) (e : NativeEvent) :
    d.after (l :: ls) e = (d.after [l] e).after ls e := by
  simp [after]

theorem told_after (d : Draft) (ls : List Listener) (e : NativeEvent) :
    (d.after ls e).told = d.told ++ ls.filterMap fun l => toldOf (l, e) := by
  simp [told, after, List.filterMap_map]

@[simp] theorem told_alter (d : Draft) (old new : String) : (d.alter old new).told = d.told := rfl

theorem mem_calls_after (h : l ∈ ls) : (l, e) ∈ (d.after ls e).calls :=
  List.mem_append_left _ (List.mem_reverse.mpr (List.mem_map_of_mem h))

theorem told_after_changed (d : Draft) (ls : List Listener) (text : String)
    (start before count : Nat) :
    (d.after ls (.textChanged v text start before count)).told = d.told ++ ls := by
  rw [told_after]
  simp [toldOf]

theorem settled_of_unchanged (h : d.change = none) : d.Settled := fun hne => absurd h hne

theorem Settled.after (h : d.Settled) : (d.after ls e).Settled := by
  intro hne
  refine (h hne).imp id fun htold => ?_
  rw [told_after]
  simp [htold]

end Draft

namespace History

/-- **The text of a view**: what the latest edit made of it. -/
def textOf (v : ViewId) : List Entry → String
  | [] => ""
  | x :: earlier =>
    match x.event with
    | .altered q (.text new) => if q = ⟨.watcher, v⟩ then new else textOf v earlier
    | _ => textOf v earlier

/-- **The edits that are running** of the text of a view, the innermost first. -/
def drafts (v : ViewId) : List Entry → List Draft
  | [] => []
  | x :: earlier =>
    match x.event with
    | .operating q listeners =>
      if q = ⟨.watcher, v⟩ then
        { listeners := listeners, found := textOf v earlier } :: drafts v earlier
      else drafts v earlier
    | .heard l e =>
      if e.edited? = some v then (drafts v earlier).modifyHead fun d => d.after [l] e
      else drafts v earlier
    | .altered q (.text new) =>
      if q = ⟨.watcher, v⟩ then
        (drafts v earlier).modifyHead fun d => d.alter (textOf v earlier) new
      else drafts v earlier
    | .operated q => if q = ⟨.watcher, v⟩ then (drafts v earlier).tail else drafts v earlier
    | _ => drafts v earlier

/-- **An event is in its place** among the edits of a text: one edit begins within another one only
    while a listener is being told of what it heeds; an edit changes the text once; its calls are in
    their places; and it is over when whoever is to be told of the change has begun to be told. -/
def Reports (v : ViewId) (earlier : List Entry) : Event → Prop
  | .operating q _ => q = ⟨.watcher, v⟩ → ∀ d ∈ (drafts v earlier).head?, d.Inside
  | .heard l e => e.edited? = some v → ∃ d ds, drafts v earlier = d :: ds ∧ d.Admits v l e
  | .altered q value => q = ⟨.watcher, v⟩ →
    ∃ d ds new, drafts v earlier = d :: ds ∧ d.change = none ∧ value = .text new
  | .operated q => q = ⟨.watcher, v⟩ → ∃ d ds, drafts v earlier = d :: ds ∧ d.Settled
  | _ => True

end History

/-- An event is one of the edits of a view. -/
def Event.Concerns (v : ViewId) : Event → Prop
  | .operating q _ | .altered q _ | .operated q => q = ⟨.watcher, v⟩
  | .heard _ e => e.edited? = some v
  | _ => False

/-- Whether an event is none of an edit. -/
def Event.isUnwritten : Event → Bool
  | .operating q _ | .altered q _ | .operated q => q.site ≠ .watcher
  | .heard _ e => e.edited?.isNone
  | _ => true

theorem Event.isUnwritten_of_isMild {e : Event} (he : e.isMild = true) : e.isUnwritten = true := by
  cases e <;> first | rfl | cases he

theorem Event.not_concerns_of_isUnwritten {e : Event} (he : e.isUnwritten = true) :
    ¬ e.Concerns v := by
  cases e with
  | operating q | altered q | operated q =>
    rintro rfl
    simp [Event.isUnwritten] at he
  | heard l e =>
    intro h
    rw [Event.Concerns, Option.isNone_iff_eq_none.mp he] at h
    cases h
  | _ => exact not_false

/-- **What is none of the edits of a view** leaves them as they are. -/
theorem History.unconcerned {x : Entry} {j : List Entry} (hx : ¬ x.event.Concerns v) :
    textOf v (x :: j) = textOf v j ∧ drafts v (x :: j) = drafts v j ∧ Reports v j x.event := by
  obtain ⟨t, e⟩ := x
  cases e with
  | operating | operated => exact ⟨rfl, if_neg hx, fun h => absurd h hx⟩
  | altered q value =>
    refine ⟨?_, ?_, fun h => absurd h hx⟩ <;> cases value <;> first | rfl | exact if_neg hx
  | heard => exact ⟨rfl, if_neg hx, fun h => absurd h hx⟩
  | _ => exact ⟨rfl, rfl, trivial⟩

namespace History

variable {t : Thread} {j : List Entry} {ls : List Listener}

theorem drafts_operating : drafts v (⟨t, .operating ⟨.watcher, v⟩ ls⟩ :: j) =
    { listeners := ls, found := textOf v j } :: drafts v j := if_pos rfl

theorem drafts_heard {l : Listener} {e : NativeEvent} (he : e.edited? = some v) :
    drafts v (⟨t, .heard l e⟩ :: j) = (drafts v j).modifyHead fun d => d.after [l] e := if_pos he

theorem drafts_altered {new : String} : drafts v (⟨t, .altered ⟨.watcher, v⟩ (.text new)⟩ :: j) =
    (drafts v j).modifyHead fun d => d.alter (textOf v j) new := if_pos rfl

theorem drafts_operated :
    drafts v (⟨t, .operated ⟨.watcher, v⟩⟩ :: j) = (drafts v j).tail := if_pos rfl

theorem textOf_altered {new : String} :
    textOf v (⟨t, .altered ⟨.watcher, v⟩ (.text new)⟩ :: j) = new := if_pos rfl

end History

/-- **Texts are what the journal says**, all events of edits are in their places, and another edit
    may begin. -/
structure Toolkit.Written (w : Toolkit σ) : Prop where
  text : ∀ v, w.screen.text v = textOf v w.journal
  reported : ∀ v, Guarded (Reports v) w.journal
  inside : ∀ v, ∀ d ∈ (drafts v w.journal).head?, d.Inside

-- ════════════════════════════════════════════════════════════════════════
-- In the course of an edit
-- ════════════════════════════════════════════════════════════════════════

/-- The same edits are running. -/
def Toolkit.DraftsAlike (w u : Toolkit σ) : Prop := ∀ n, drafts n u.journal = drafts n w.journal

/-- What is none of an edit keeps texts written. -/
theorem Toolkit.Written.noted {w : Toolkit σ} (hw : w.Written) {e : Event}
    (he : e.isUnwritten = true) : (w.noted e).Written ∧ w.DraftsAlike (w.noted e) := by
  have hx := fun n => unconcerned (v := n) (x := ⟨w.here, e⟩) (j := w.journal)
    (Event.not_concerns_of_isUnwritten he)
  refine ⟨⟨fun n => (hw.text n).trans (hx n).1.symm,
    fun n => guarded_cons.mpr ⟨(hx n).2.2, hw.reported n⟩, fun n d hd => ?_⟩, fun n => (hx n).2.1⟩
  exact hw.inside n d ((hx n).2.1 ▸ hd)

/-- **The matter of edits**: texts are written now, and were at the moments on the desk. -/
def Toolkit.editing : Matter (Desk τ) where
  holds w := w.Written ∧ ∀ u ∈ w.client.moments, u.Written
  same := DraftsAlike
  refl _ _ := rfl
  trans h h' n := (h' n).trans (h n)
  mild {v w} hv hw := by
    have htext : ∀ n, w.screen.text n = v.screen.text n := fun n => by
      rw [Screen.text, hw.texts, Screen.text]
    refine ⟨⟨⟨fun n => ?_, ?_, ?_⟩, hw.client ▸ hv.2⟩, fun n => by rw [hw.journal]⟩
    · rw [htext, hw.journal]
      exact hv.1.text n
    · rw [hw.journal]
      exact hv.1.reported
    · rw [hw.journal]
      exact hv.1.inside
  note {w e} hw he := by
    obtain ⟨hnoted, halike⟩ := hw.1.noted (Event.isUnwritten_of_isMild he)
    exact ⟨⟨hnoted, hw.2⟩, halike⟩

/-- Client code upholds the matter of edits. -/
abbrev Client.Editing (c : Client (Desk τ)) : Prop := c.Has fun _ _ x => Upholds Toolkit.editing x

/-- **An edit is running** that is not in another one: texts are written so far, and apart from it
    the same edits are running as before. -/
structure Toolkit.Drafting (w : Toolkit (Desk τ)) (v : ViewId) (d : Draft) (u : Toolkit (Desk τ)) :
    Prop where
  text : ∀ n, u.screen.text n = textOf n u.journal
  reported : ∀ n, Guarded (Reports n) u.journal
  here : drafts v u.journal = d :: drafts v w.journal
  elsewhere : ∀ n, n ≠ v → drafts n u.journal = drafts n w.journal
  record : ∀ x ∈ u.client.moments, x.Written

section Course

variable {u w : Toolkit (Desk τ)} {c : Client (Desk τ)} {d : Draft} {l : Listener}
  {e : NativeEvent} {ls : List Listener}

namespace Toolkit.Drafting

/-- **An edit begins.** -/
theorem begin (hw : editing.holds w) (v : ViewId) (ls : List Listener) :
    w.Drafting v { listeners := ls, found := w.screen.text v }
      (w.noted (.operating ⟨.watcher, v⟩ ls)) where
  text := hw.1.text
  reported n := guarded_cons.mpr ⟨fun h => by cases h; exact hw.1.inside v, hw.1.reported n⟩
  here := by
    rw [hw.1.text v]
    exact drafts_operating
  elsewhere n hn := if_neg fun h => hn (by cases h; rfl)
  record := hw.2

/-- An entry that is none of an edit. -/
theorem note (hu : w.Drafting v d u) {e : Event} (he : e.isUnwritten = true) :
    w.Drafting v d (u.noted e) := by
  have hx := fun n => unconcerned (v := n) (x := ⟨u.here, e⟩) (j := u.journal)
    (Event.not_concerns_of_isUnwritten he)
  exact {
    text := fun n => (hu.text n).trans (hx n).1.symm
    reported := fun n => guarded_cons.mpr ⟨(hx n).2.2, hu.reported n⟩
    here := (hx v).2.1.trans hu.here
    elsewhere := fun n hn => (hx n).2.1.trans (hu.elsewhere n hn)
    record := hu.record }

/-- **It tells a listener.** -/
theorem call (hu : w.Drafting v d u) (he : e.edited? = some v) (hl : d.Admits v l e) :
    w.Drafting v (d.after [l] e) (u.noted (.heard l e)) where
  text := hu.text
  reported n := by
    refine guarded_cons.mpr ⟨fun h => ?_, hu.reported n⟩
    obtain rfl := Option.some.inj (he.symm.trans h)
    exact ⟨d, _, hu.here, hl⟩
  here := by
    refine (drafts_heard he).trans ?_
    rw [hu.here]
    rfl
  elsewhere n hn :=
    (if_neg fun h => hn (Option.some.inj (h.symm.trans he))).trans (hu.elsewhere n hn)
  record := hu.record

/-- **It changes the text.** -/
theorem alter (hu : w.Drafting v d u) (hd : d.change = none) (new : String) :
    w.Drafting v (d.alter (u.screen.text v) new)
      ((u.showing { u.screen with texts := u.screen.texts.insert v new }).noted
        (.altered ⟨.watcher, v⟩ (.text new))) where
  text n := by
    change ((u.screen.texts.insert v new).find? n).getD "" =
      if (⟨.watcher, v⟩ : Point) = ⟨.watcher, n⟩ then new else textOf n u.journal
    by_cases hn : v = n
    · simp [hn]
    · rw [Dict.find?_insert, if_neg hn, if_neg (by simp [hn])]
      exact hu.text n
  reported n := by
    refine guarded_cons.mpr ⟨fun h => ?_, hu.reported n⟩
    obtain rfl : v = n := by
      cases h
      rfl
    exact ⟨d, _, new, hu.here, hd, rfl⟩
  here := by
    refine drafts_altered.trans ?_
    change (drafts v u.journal).modifyHead _ = _
    rw [hu.here, hu.text v]
    rfl
  elsewhere n hn := (if_neg fun h => hn (by cases h; rfl)).trans (hu.elsewhere n hn)
  record := hu.record

/-- While a listener is told of what it heeds, another edit may begin. -/
theorem holds (hw : editing.holds w) (hu : w.Drafting v d u) (hd : d.Inside) :
    editing.holds u := by
  refine ⟨⟨hu.text, hu.reported, fun n => ?_⟩, hu.record⟩
  by_cases hn : n = v
  · subst hn
    rw [hu.here]
    rintro d' ⟨⟩
    exact hd
  · rw [hu.elsewhere n hn]
    exact hw.1.inside n

/-- What is done meanwhile leaves the edit as it is. -/
theorem same (hu : w.Drafting v d u) {x : Toolkit (Desk τ)} (hx : editing.holds x)
    (hux : u.DraftsAlike x) : w.Drafting v d x :=
  ⟨hx.1.text, hx.1.reported, (hux v).trans hu.here,
    fun n hn => (hux n).trans (hu.elsewhere n hn), hx.2⟩

/-- **It is over.** -/
theorem finish (hw : editing.holds w) (hu : w.Drafting v d u) (hd : d.Settled) :
    editing.holds (u.noted (.operated ⟨.watcher, v⟩)) ∧
      w.DraftsAlike (u.noted (.operated ⟨.watcher, v⟩)) := by
  have halike : w.DraftsAlike (u.noted (.operated ⟨.watcher, v⟩)) := by
    intro n
    by_cases hn : n = v
    · subst hn
      refine drafts_operated.trans ?_
      rw [hu.here]
      rfl
    · exact (if_neg fun h => hn (by cases h; rfl)).trans (hu.elsewhere n hn)
  refine ⟨⟨⟨hu.text, fun n => guarded_cons.mpr ⟨fun h => ?_, hu.reported n⟩, fun n => ?_⟩,
    hu.record⟩, halike⟩
  · cases h
    exact ⟨d, _, hu.here, hd⟩
  · rw [halike n]
    exact hw.1.inside n

end Toolkit.Drafting

/-- An entry that is none of an edit. -/
theorem UI.editing_note {e : Event} (he : e.isUnwritten = true) :
    Upholds (Toolkit.editing (τ := τ)) (UI.note e) := fun _ hw =>
  ⟨⟨(hw.1.noted he).1, hw.2⟩, (hw.1.noted he).2⟩

variable (hc : c.Editing)
include hc

/-- **A listener is told** of an edit, and may do anything meanwhile if it heeds it. -/
theorem Client.Editing.hearAs (hw : Toolkit.editing.holds w) (hu : w.Drafting v d u)
    (he : e.edited? = some v) (hl : d.Admits v l e) :
    Leaves (w.Drafting v (d.after [l] e)) (w.Drafting v (d.after [l] e)) (c.hearAs l e u) := by
  have hcall := hu.call he hl
  by_cases hheeds : l.heeds e = true
  · obtain ⟨x, hx, hr⟩ := Toolkit.editing.habit.answering hc l e
    obtain ⟨hy, huy⟩ := hx _ (hcall.holds hw ⟨l, e, d.calls, rfl, hheeds⟩)
    rw [hr]
    exact .of_left (hcall.same hy huy)
  · have hquiet : c.hearAs l e u = .ok false (u.noted (.heard l e)) := by
      cases l with
      | client callback => exact absurd rfl hheeds
      | silent => rfl
      | forward binding b judge =>
        have hnone : binding.payload? e = none := by simpa [Listener.heeds] using hheeds
        simp only [Client.hearAs, hnone]
        rfl
    rw [hquiet]
    exact hcall

/-- **A round of calls.** The induction is on the listeners that are still to be told. -/
theorem Client.Editing.notifyAll (hw : Toolkit.editing.holds w) (hu : w.Drafting v d u)
    (he : e.edited? = some v) (ls : List Listener)
    (hls : ∀ done l rest, ls = done ++ l :: rest → (d.after done e).Admits v l e) :
    Leaves (fun u => ∃ done, done ≠ [] ∧ w.Drafting v (d.after done e) u)
      (w.Drafting v (d.after ls e)) (c.notifyAll e ls u) := by
  induction ls generalizing d u with
  | nil => exact hu
  | cons l rest ih =>
    have hfirst := hc.hearAs hw hu he (hls [] l rest rfl)
    have hfirst' : Leaves (fun u => ∃ done, done ≠ [] ∧ w.Drafting v (d.after done e) u)
        (w.Drafting v (d.after [l] e)) ((discard (c.hearAs l e) : UI (Desk τ) Unit) u) :=
      (hfirst.mono (fun _ hu => ⟨[l], nofun, hu⟩) fun _ hu => hu).bind fun _ _ hu => hu
    refine hfirst'.bind fun _ u hu => ?_
    rw [Draft.after_cons]
    refine (ih hu fun done l' rest' h => ?_).mono ?_ fun _ hu => hu
    · rw [← Draft.after_cons]
      exact hls (l :: done) l' rest' (by rw [h]; rfl)
    · rintro u ⟨done, -, hu⟩
      exact ⟨l :: done, nofun, by rwa [Draft.after_cons]⟩

/-- **An edit keeps all events in their places** if its place lies in the text that it finds, and
    what it does to a text of that length is what it tells. -/
theorem Client.Editing.edit (hw : Toolkit.editing.holds w) {start before count : Nat}
    {apply : String → String} (hfits : start + before ≤ (w.screen.text v).length)
    (happly : ∀ old : String, old.length = (w.screen.text v).length →
      Spliced old start before count (apply old)) :
    Toolkit.editing.holds (left (c.edit v start before count apply w)) ∧
      w.DraftsAlike (left (c.edit v start before count apply w)) := by
  refine UI.Leaves.operate (E := fun u => ∃ d : Draft, w.Drafting v d u ∧ d.Settled)
    (T := fun u => Toolkit.editing.holds u ∧ w.DraftsAlike u) (fun ls => ?_)
    fun u ⟨d, hu, hd⟩ => hu.finish hw hd
  let changing : NativeEvent := .textChanging v (w.screen.text v) start before count
  let begun : Draft := { listeners := ls, found := w.screen.text v }
  -- everybody is told of the text that was found
  rw [run_text_bind]
  have hmem : ∀ {done l rest}, ls = done ++ l :: rest → l ∈ ls := fun h => by
    rw [h]
    exact List.mem_append_right _ (.head _)
  have hfirst := hc.notifyAll (e := changing) hw (.begin hw v ls) rfl ls
    fun _ _ _ hls => ⟨hmem hls, rfl, rfl, hfits⟩
  refine (hfirst.mono (fun u ⟨done, _, hu⟩ => ⟨_, hu, Draft.settled_of_unchanged rfl⟩)
    fun _ hu => hu).bind fun _ x hx => ?_
  -- the text is changed
  rw [run_text_bind, run_putText_bind]
  let old := x.screen.text v
  let changed : NativeEvent := .textChanged v (apply old) start before count
  let altered : Draft := (begun.after ls changing).alter old (apply old)
  have haltered := (hx.alter rfl (apply old)).note (e := .edited v start before count) rfl
  have htold : ∀ done, (altered.after done changed).told = done := fun done => by
    rw [Draft.told_after_changed, Draft.told_alter, Draft.told_after]
    simp [begun, Draft.told, changing, Draft.toldOf]
  -- everybody is told of the text that was made
  have hadmits : ∀ done l rest, ls = done ++ l :: rest →
      (altered.after done changed).Admits v l changed := by
    intro done l rest hls
    refine ⟨hmem hls, old, rfl, List.mem_append_right _ (Draft.mem_calls_after (hmem hls)), hfits,
      happly old, ?_⟩
    rw [htold]
    exact ⟨rest, by rw [List.append_assoc]; exact hls.symm⟩
  have hsecond := hc.notifyAll (e := changed) hw haltered rfl ls hadmits
  refine (hsecond.mono (fun u ⟨done, hne, hu⟩ => ⟨_, hu, fun _ => .inr ((htold done).symm ▸ hne)⟩)
    fun _ hu => hu).bind fun _ y hy => ?_
  -- and once more when all of them know
  have hsettled : (altered.after ls changed).Settled := fun _ => by
    rw [htold]
    exact Classical.em (ls = [])
  have hthird := hc.notifyAll (e := .textSettled v (apply old)) hw hy rfl ls
    fun _ _ _ hls => ⟨hmem hls, old, rfl⟩
  exact hthird.mono (fun u ⟨done, _, hu⟩ => ⟨_, hu, hsettled.after⟩)
    fun u hu => ⟨_, hu, hsettled.after⟩

/-- **Edits and moves** keep all events in their places. -/
theorem Client.Editing.loud : c.Loud fun _ _ x => Upholds Toolkit.editing x := by
  have hmove := fun v => Toolkit.editing.habit.move hc v (fun _ => editing_note rfl)
    (.over (editing_note rfl)) (Toolkit.editing.habit.putPages v) (fun _ => editing_note rfl)
    fun l step => editing_note (by cases step <;> rfl)
  exact {
    setText := fun v s w hw =>
      hc.edit hw (Nat.zero_add _ ▸ Nat.le_refl _) fun old h => h ▸ Spliced.whole old s
    append := fun v s w hw => hc.edit hw (Nat.le_refl _) fun old h => h ▸ Spliced.append old s
    setPage := fun v => (hmove v).1
    swipeTo := fun v => (hmove v).2 }

/-- **A call** keeps all events in their places, if client code does. -/
theorem Client.Editing.make (k : Call α) : Upholds Toolkit.editing (k.make m c) := by
  refine Toolkit.editing.habit.ofCall hc (fun l e he => editing_note ?_) hc.loud k
  exact Option.isNone_iff_eq_none.mpr (NativeEvent.edited?_of_isMild he)

end Course

-- ════════════════════════════════════════════════════════════════════════
-- All runs
-- ════════════════════════════════════════════════════════════════════════

theorem UI.editing_observeMoment : Upholds (Toolkit.editing (τ := τ)) UI.observeMoment :=
  fun _ hw => ⟨⟨⟨hw.1.text, hw.1.reported, hw.1.inside⟩, List.forall_mem_cons.mpr
    ⟨⟨hw.1.text, hw.1.reported, hw.1.inside⟩, hw.2⟩⟩, fun _ => rfl⟩

theorem UI.editing_putOwn (own : τ) : Upholds Toolkit.editing (UI.putOwn own) :=
  fun _ hw => ⟨⟨⟨hw.1.text, hw.1.reported, hw.1.inside⟩, hw.2⟩, fun _ => rfl⟩

/-- **Texts are written** at every moment of every run and at its end, when all edits are over. -/
theorem Code.written (code : Code m τ) (depth : Nat) (own : τ) (program : Program m τ True True α) :
    (∀ w ∈ code.moments depth own program, w.Written) ∧
      (left (code.outcome depth own program)).Written ∧
      ∀ v, drafts v (left (code.outcome depth own program)).journal = [] := by
  have hstart : Toolkit.editing.holds ({ client := { own := own } } : Toolkit (Desk τ)) :=
    ⟨⟨fun _ => rfl, fun _ => guarded_nil _, nofun⟩, nofun⟩
  have hend := upheld editing_observeMoment editing_putOwn (fun hc _ k =>
    Toolkit.editing.habit.place editing_observeMoment (Client.Editing.make hc k))
    code depth own program hstart
  rw [moments_eq_left]
  exact ⟨hend.1.2, hend.1.1, hend.2⟩

namespace Code

/-- **What watchers are told of an edit**, at every moment of every run, whatever the watchers do
    meanwhile. A watcher that is told that the text has changed is told of the text that was made;
    before that it was told of the text that the edit found, with the same place and lengths, which
    fit that text. If the text that the edit was then made in is of the same length, what the
    watcher is told is what was done to it. -/
theorem edits_reported {code : Code m τ} {depth : Nat} {own : τ} {program : Program m τ True True α}
    {w : Toolkit Unit} (hw : w ∈ code.moments depth own program) (v : ViewId) :
    w.screen.text v = textOf v w.journal ∧
    ∀ later x earlier l text start before count, w.journal = later ++ x :: earlier →
      x.event = .heard l (.textChanged v text start before count) →
      ∃ d ds old, drafts v earlier = d :: ds ∧ d.change = some (old, text) ∧
        (l, .textChanging v d.found start before count) ∈ d.calls ∧
        start + before ≤ d.found.length ∧
        (old.length = d.found.length → Spliced old start before count text) := by
  have hwritten := (code.written depth own program).1 w hw
  refine ⟨hwritten.text v, fun later x earlier l text start before count hj hx => ?_⟩
  have hreports := hwritten.reported v later x earlier hj
  rw [hx] at hreports
  obtain ⟨d, ds, hd, -, old, hchange, hcall, hfits, hspliced, -⟩ := hreports rfl
  exact ⟨d, ds, old, hd, hchange, hcall, hfits, hspliced⟩

/-- A watcher of a text, which is then set. -/
def spelling : Program m Unit True True Unit :=
  .making (.newView .main) fun v =>
    .making (.listen ⟨.watcher, v⟩ (some 0)) fun _ =>
      .making (.setText v "x") fun _ => .done ()

/-- Its watcher sets the text to another one when it has changed. -/
def respelling : Code ⟨false, false, true, false⟩ Unit :=
  { quiet _ with
    hear := fun _ e =>
      match e with
      | .textChanged v "x" _ _ _ =>
        .call (.setText v "hé") (fun _ => rfl) (fun h => h.elim id id) fun _ => .done true
      | _ => .done true }

/-- The watcher is told of the edit that it makes in the midst of another one. -/
theorem edits_reported_respelling :
    ∃ w ∈ respelling.moments 5 () spelling, ∃ later x earlier d ds old,
      w.journal = later ++ x :: earlier ∧
      x.event = .heard (.client 0) (.textChanged 1 "hé" 0 1 2) ∧ drafts 1 earlier = d :: ds ∧
      d.change = some (old, "hé") ∧ (.client 0, .textChanging 1 "x" 0 1 2) ∈ d.calls ∧
      Spliced old 0 1 2 "hé" ∧ w.screen.text 1 = "hé" := by
  let w := (respelling.moments 5 () spelling).head (by decide +kernel)
  have hw : w ∈ respelling.moments 5 () spelling := List.head_mem _
  have hj : w.journal =
      w.journal.take 4 ++ w.journal.get ⟨4, by decide +kernel⟩ :: w.journal.drop 5 := by
    rw [List.get_eq_getElem, ← List.drop_eq_getElem_cons, List.take_append_drop]
  obtain ⟨htext, hreported⟩ := edits_reported hw 1
  obtain ⟨d, ds, old, hd, hchange, hcall, -, hspliced⟩ := hreported _ _ _ (.client 0) "hé" 0 1 2 hj
    (by decide +kernel)
  have hfound : (drafts 1 (w.journal.drop 5)).head?.map (fun d => (d.found, d.change)) =
      some ("x", some ("x", "hé")) := by decide +kernel
  have htextOf : textOf 1 w.journal = "hé" := by decide +kernel
  rw [hd, List.head?_cons, Option.map_some, Option.some.injEq, Prod.mk.injEq, hchange] at hfound
  obtain ⟨hx, hold⟩ := hfound
  rw [hx] at hcall hspliced
  obtain rfl : old = "x" := by simpa using hold
  exact ⟨w, hw, _, _, _, d, ds, "x", hj, by decide +kernel, hd, hchange, hcall, hspliced rfl,
    htext.trans htextOf⟩

/-- Its watcher sets the text to another one when it is about to change. -/
def overtaking : Code ⟨false, false, true, false⟩ Unit :=
  { quiet _ with
    hear := fun _ e =>
      match e with
      | .textChanging v _ _ _ 1 =>
        .call (.setText v "abcd") (fun _ => rfl) (fun h => h.elim id id) fun _ => .done true
      | _ => .done true }

/-- **What a watcher is told may be wrong** if the text was edited again when it was about to
    change: it was made in another text than the one that was found, and the lengths do not fit. -/
theorem report_of_overtaken_edit :
    ∃ w ∈ overtaking.moments 5 () spelling, ∃ later x earlier d,
      w.journal = later ++ x :: earlier ∧
      x.event = .heard (.client 0) (.textChanged 1 "x" 0 0 1) ∧ drafts 1 earlier = [d] ∧
      d.change = some ("abcd", "x") ∧ d.calls = [(.client 0, .textChanging 1 "" 0 0 1)] ∧
      ¬ Spliced "abcd" 0 0 1 "x" := by
  let w := (overtaking.moments 5 () spelling).head (by decide +kernel)
  have hj : w.journal =
      w.journal.take 2 ++ w.journal.get ⟨2, by decide +kernel⟩ :: w.journal.drop 3 := by
    rw [List.get_eq_getElem, ← List.drop_eq_getElem_cons, List.take_append_drop]
  refine ⟨w, List.head_mem _, _, _, _, ⟨[.client 0], "", [(.client 0, .textChanging 1 "" 0 0 1)],
    some ("abcd", "x")⟩, hj, by decide +kernel, by decide +kernel, rfl, rfl, fun h => ?_⟩
  exact absurd (Spliced.iff_toList.mp h).2.2 (by decide)

end Code

end WidgetStreams
