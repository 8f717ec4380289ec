import WidgetStreams.Proofs.Mirrors
import WidgetStreams.Proofs.Operations
import WidgetStreams.Proofs.Rosters

/-!
# Feeds converge

This file proves that the subscribers to a text or to the page of a pager end up
with what the widget shows, however many there are and however deep edits and
moves are nested: unless the state is changed while a subscriber is still to be
told of an earlier change, what it took last is the state, as soon as it knows
of the latest one.

## Main definitions

- `History.Unhurried` — no change cuts in on a subscription
- `Converging` — what a feed took and is still to be told, read off the journal

## Main results

- `Step.fed` — every step keeps the feeds converging
- `Code.feeds_converge` — when no operation of a widget is running, its subscribers have what it
  shows

## Design notes

A subscriber may know of a change from a nested operation, and be told of it
again by the one around it. So nothing is said of how often it is told, only
that whatever it is still to be told of is the state that is shown.
-/

namespace WidgetStreams

open History

variable {σ τ α : Type} {m : Manners} {v w : Toolkit σ} {p q : Point} {h k : HandleId}
  {b : BridgeId} {l other : Listener} {e : NativeEvent} {value shown : Payload}
  {i j : List Entry} {t u : Thread}

/-- The site of a feed is for any number of listeners. -/
theorem Binding.isShared_of_isFeed {binding : Binding} (h : binding.isFeed = true) :
    binding.site.isShared = true := by
  cases binding <;> first | rfl | cases h

theorem Binding.site_of_isFeed {binding : Binding} (h : binding.isFeed = true) :
    binding.site = .watcher ∨ binding.site = .page := by
  cases binding <;> first | exact .inl rfl | exact .inr rfl | cases h

theorem Event.isPlain_of_isForeign {e : Event} (he : e.isForeign h b = true) :
    e.isPlain = true := by
  cases e <;> first | rfl | cases he

/-- **A feed delivers changes** at its site, and nothing else. -/
theorem Binding.payload?_eq_some_of_isFeed {binding : Binding} (h : binding.isFeed = true) :
    binding.payload? e = some value ↔ ∃ q, q.site = binding.site ∧ e.change? = some (q, value) := by
  cases binding with
  | texts => cases e <;> simp [Binding.payload?, NativeEvent.change?, Binding.site]
  | pageSelections => cases e <;> simp [Binding.payload?, NativeEvent.change?, Binding.site]
  | _ => cases h

-- ════════════════════════════════════════════════════════════════════════
-- Who is to be told
-- ════════════════════════════════════════════════════════════════════════

namespace History

/-- What an event says that the state of the widget at a point is changed to. -/
def alteration? (p : Point) : Event → Option Payload
  | .altered q value => if q = p then some value else none
  | _ => none

/-- Whether an event is that a certain subscription is registered and starts with a value. -/
def warms (h : HandleId) : Event → Bool
  | .attached handle _ true => handle == h
  | _ => false

/-- **An event does not cut in** on the subscription with handle `h` and listener `l`: it does not
    change the state to something else while the listener is to be told of an earlier change, nor
    start the subscription in the midst of an edit that has not changed the text yet. -/
def Unhurried (p : Point) (h : HandleId) (l : Listener) (earlier : List Entry) (e : Event) : Prop :=
  (∀ value ∈ alteration? p e, ∀ o ∈ errands p earlier, l ∈ o.rest → o.change = some value) ∧
    (warms h e = true → p.site = .watcher → ∀ o ∈ errands p earlier, o.change ≠ none)

instance (p : Point) (h : HandleId) (l : Listener) (j : List Entry) (e : Event) :
    Decidable (Unhurried p h l j e) := inferInstanceAs (Decidable (_ ∧ _))

instance Guarded.decidable (P : List Entry → Event → Prop) [∀ j e, Decidable (P j e)] :
    ∀ j, Decidable (Guarded P j)
  | [] => isTrue (guarded_nil P)
  | x :: j =>
    have := Guarded.decidable P j
    decidable_of_iff (P j x.event ∧ Guarded P j) guarded_cons.symm

/-- An operation that is running is one that was running, as it was or after its next stage, or it
    has just begun. -/
theorem mem_errands_cons {x : Entry} {o : Errand} (ho : o ∈ errands p (x :: j)) :
    (∃ ls, x.event = .operating p ls ∧ o = { audience := ls }) ∨
      ∃ o' ∈ errands p j, o = o' ∨ (∃ value, x.event = .altered p value ∧
        o = { o' with change := some value, rest := o'.audience }) ∨
          o = { o' with rest := o'.rest.tail } := by
  have hhead : ∀ {os : List Errand} {f}, o ∈ os.modifyHead f → ∃ o' ∈ os, o = o' ∨ o = f o' := by
    rintro (_ | ⟨o', os⟩) f ho
    · cases ho
    · obtain rfl | ho := List.mem_cons.mp ho
      · exact ⟨o', .head _, .inr rfl⟩
      · exact ⟨o, .tail _ ho, .inl rfl⟩
  have hkept : o ∈ errands p j → ∃ o' ∈ errands p j, o = o' ∨ (∃ value, x.event = .altered p value ∧
        o = { o' with change := some value, rest := o'.audience }) ∨
          o = { o' with rest := o'.rest.tail } := fun h => ⟨o, h, .inl rfl⟩
  rw [errands] at ho
  split at ho
  · next q ls he =>
    split at ho
    · next hq =>
      subst hq
      obtain rfl | ho := List.mem_cons.mp ho
      · exact .inl ⟨ls, he, rfl⟩
      · exact .inr (hkept ho)
    · exact .inr (hkept ho)
  · next q value he =>
    split at ho
    · next hq =>
      subst hq
      obtain ⟨o', ho', h | h⟩ := hhead ho
      · exact .inr ⟨o', ho', .inl h⟩
      · exact .inr ⟨o', ho', .inr (.inl ⟨value, he, h⟩)⟩
    · exact .inr (hkept ho)
  · split at ho
    · obtain ⟨o', ho', h | h⟩ := hhead ho
      · exact .inr ⟨o', ho', .inl h⟩
      · exact .inr ⟨o', ho', .inr (.inr h)⟩
    · exact .inr (hkept ho)
  · split at ho
    · exact .inr (hkept (List.mem_of_mem_tail ho))
    · exact .inr (hkept ho)
  · exact .inr (hkept ho)

/-- Whoever an operation is to tell was there when some operation began. -/
theorem exists_operating {o : Errand} (ho : o ∈ errands p j) (hl : l ∈ o.audience ∨ l ∈ o.rest) :
    ∃ ls, l ∈ ls ∧ Occurred (.operating p ls) j := by
  induction j generalizing o with
  | nil => cases ho
  | cons x j ih =>
    have hbefore : ∀ {o'}, o' ∈ errands p j → l ∈ o'.audience ∨ l ∈ o'.rest →
        ∃ ls, l ∈ ls ∧ Occurred (.operating p ls) (x :: j) := by
      intro o' ho' hl'
      obtain ⟨ls, hls, hocc⟩ := ih ho' hl'
      exact ⟨ls, hls, occurred_cons.mpr (.inr hocc)⟩
    obtain ⟨ls, he, rfl⟩ | ⟨o', ho', rfl | ⟨value, -, rfl⟩ | rfl⟩ := mem_errands_cons ho
    · exact ⟨ls, hl.resolve_right (by simp), occurred_cons.mpr (.inl he)⟩
    · exact hbefore ho' hl
    · exact hbefore ho' (.inl (hl.elim id id))
    · exact hbefore ho' (hl.imp_right List.mem_of_mem_tail)

/-- **A feed converges**: the subscription with handle `h`, bridge `b` and listener `l`, on what is
    shown. What it took last is what is shown, or it is still to be told; and whatever it is to be
    told of is what is shown. -/
structure Converging (p : Point) (h : HandleId) (b : BridgeId) (l : Listener) (shown : Payload)
    (j : List Entry) : Prop where
  registered : member p h j = true
  told : (taken b j).getLast? = some shown ∨ ∃ o ∈ errands p j, l ∈ o.rest
  current : ∀ o ∈ errands p j, l ∈ o.rest → o.change = some shown
  /-- An edit that has not changed the text yet is to tell it. -/
  invited : p.site = .watcher → ∀ o ∈ errands p j, o.change = none → l ∈ o.audience
  /-- So is an operation that has just begun. -/
  called : ∀ {t ls i}, j = ⟨t, .operating p ls⟩ :: i → l ∈ ls

namespace Converging

/-- Operations that are to tell no more of the feed than before. -/
theorem of_fewer (hc : Converging p h b l shown j) (hm : member p h i = true)
    (hfewer : ∀ o ∈ errands p i, ∃ o' ∈ errands p j,
      o.change = o'.change ∧ o.audience = o'.audience ∧ o.rest ⊆ o'.rest)
    (htold : (taken b i).getLast? = some shown ∨ ∃ o ∈ errands p i, l ∈ o.rest)
    (hcalled : ∀ {t ls i'}, i = ⟨t, .operating p ls⟩ :: i' → l ∈ ls) :
    Converging p h b l shown i := by
  refine ⟨hm, htold, fun o ho hl => ?_, fun hp o ho hn => ?_, hcalled⟩
  · obtain ⟨o', ho', hchange, -, hrest⟩ := hfewer o ho
    rw [hchange]
    exact hc.current o' ho' (hrest hl)
  · obtain ⟨o', ho', hchange, haudience, -⟩ := hfewer o ho
    rw [haudience]
    exact hc.invited hp o' ho' (hchange ▸ hn)

section Entries

variable {x : Entry}

/-- What the journal tells of the subscription stays as it is. -/
theorem spared (hx : x.event.spares h b = true) :
    member p h (x :: j) = member p h j ∧ taken b (x :: j) = taken b j := by
  have hsame : reflection p h b .unit (x :: j) = reflection p h b .unit j :=
    reflection_cons_of_spares hx
  exact ⟨congrArg Reflection.registered hsame, congrArg Reflection.taken hsame⟩

theorem same (hc : Converging p h b l shown j) (hx : x.event.spares h b = true)
    (he : errands p (x :: j) = errands p j) (ho : ∀ ls, x.event ≠ .operating p ls) :
    Converging p h b l shown (x :: j) := by
  obtain ⟨hmember, htaken⟩ := spared (p := p) (j := j) hx
  refine hc.of_fewer (hmember.trans hc.registered) ?_ ?_ fun hj => ?_
  · rw [he]
    exact fun o ho => ⟨o, ho, rfl, rfl, List.Subset.refl _⟩
  · rw [htaken, he]
    exact hc.told
  · rw [(List.cons.inj hj).1] at ho
    exact absurd rfl (ho _)

/-- Other entries are none of it. -/
theorem plain (hc : Converging p h b l shown j) (hx : x.event.spares h b = true)
    (he : x.event.isPlain = true) : Converging p h b l shown (x :: j) :=
  hc.same hx (errands_cons_of_isPlain he) fun ls hls => by
    rw [hls] at he
    cases he

/-- **An operation begins**, and is to tell the feed if it is one of its widget. -/
theorem operating (hc : Converging p h b l shown j) {ls : List Listener} (hl : q = p → l ∈ ls) :
    Converging p h b l shown (⟨t, .operating q ls⟩ :: j) := by
  by_cases hq : q = p
  · subst hq
    have herrands : errands q (⟨t, .operating q ls⟩ :: j) = { audience := ls } :: errands q j :=
      if_pos rfl
    refine ⟨hc.registered, ?_, ?_, ?_, fun hj => ?_⟩
    · rw [herrands]
      exact hc.told.imp_right fun ⟨o, ho, hlo⟩ => ⟨o, .tail _ ho, hlo⟩
    · rw [herrands]
      exact List.forall_mem_cons.mpr ⟨nofun, hc.current⟩
    · rw [herrands]
      exact fun hp => List.forall_mem_cons.mpr ⟨fun _ => hl rfl, hc.invited hp⟩
    · cases hj
      exact hl rfl
  · refine hc.same rfl (if_neg hq) fun ls' he => ?_
    cases he
    exact hq rfl

/-- **An operation is over**, when it has nobody left to tell. -/
theorem operated (hc : Converging p h b l shown j) (ht : InTurn p j (.operated q)) :
    Converging p h b l shown (⟨t, .operated q⟩ :: j) := by
  by_cases hq : q = p
  · subst hq
    obtain ⟨o, os, hos, hrest⟩ := ht rfl
    have herrands : errands q (⟨t, .operated q⟩ :: j) = os := (if_pos rfl).trans (by rw [hos]; rfl)
    refine hc.of_fewer hc.registered ?_ ?_ nofun
    · rw [herrands, hos]
      exact fun o' ho => ⟨o', .tail _ ho, rfl, rfl, List.Subset.refl _⟩
    · rw [herrands]
      refine hc.told.imp_right ?_
      rintro ⟨o', ho', hl⟩
      rw [hos] at ho'
      obtain rfl | ho' := List.mem_cons.mp ho'
      · rw [hrest] at hl
        cases hl
      · exact ⟨o', ho', hl⟩
  · exact hc.same rfl (if_neg hq) nofun

/-- **The state changes**, and the operation is to tell the feed of that. -/
theorem altered (hc : Converging p h b l shown j) (ht : InTurn p j (.altered p value))
    (hsite : p.site = .watcher ∨ p.site = .page)
    (hunhurried : ∀ o ∈ errands p j, l ∈ o.rest → o.change = some value) :
    Converging p h b l value (⟨t, .altered p value⟩ :: j) := by
  obtain ⟨o, os, hos, hnone, hpage⟩ := ht rfl
  have herrands : errands p (⟨t, .altered p value⟩ :: j) =
      { o with change := some value, rest := o.audience } :: os :=
    (if_pos rfl).trans (by rw [hos]; rfl)
  have hl : l ∈ o.audience := by
    obtain hsite | hsite := hsite
    · exact hc.invited hsite o (by rw [hos]; exact .head _) hnone
    · obtain ⟨t', i, hj⟩ := hpage hsite
      exact hc.called hj
  refine ⟨hc.registered, .inr ?_, ?_, fun hp => ?_, nofun⟩
  · rw [herrands]
    exact ⟨_, .head _, hl⟩
  · rw [herrands]
    refine List.forall_mem_cons.mpr ⟨fun _ => rfl, fun o' ho' => hunhurried o' ?_⟩
    rw [hos]
    exact .tail _ ho'
  · rw [herrands]
    refine List.forall_mem_cons.mpr ⟨nofun, fun o' ho' => hc.invited hp o' ?_⟩
    rw [hos]
    exact .tail _ ho'

/-- A listener that has been told of a change has no more to be told of it by that operation. -/
theorem errands_cons_told {o : Errand} {os : List Errand} (he : e.change? = some (p, value))
    (hos : errands p j = o :: os) :
    errands p (⟨t, .heard other e⟩ :: j) = { o with rest := o.rest.tail } :: os :=
  (if_pos (by rw [he]; rfl)).trans (by rw [hos]; rfl)

theorem fewer_of_told {o : Errand} {os : List Errand} :
    ∀ o' ∈ { o with rest := o.rest.tail } :: os, ∃ o'' ∈ o :: os,
      o'.change = o''.change ∧ o'.audience = o''.audience ∧ o'.rest ⊆ o''.rest := by
  refine List.forall_mem_cons.mpr ⟨?_, fun o' ho' => ?_⟩
  · exact ⟨o, .head _, rfl, rfl, List.tail_subset _⟩
  · exact ⟨o', .tail _ ho', rfl, rfl, List.Subset.refl _⟩

/-- **Another listener is told**, or of something else. -/
theorem heard (hc : Converging p h b l shown j) (ht : InTurn p j (.heard other e))
    (hl : other = l → e.change?.map Prod.fst ≠ some p) :
    Converging p h b l shown (⟨t, .heard other e⟩ :: j) := by
  by_cases he : e.change?.map Prod.fst = some p
  · obtain ⟨⟨q, value⟩, hchange, rfl⟩ := Option.map_eq_some_iff.mp he
    obtain ⟨o, os, rest, hos, -, hrest⟩ := ht value hchange
    have herrands : errands q (⟨t, .heard other e⟩ :: j) = { o with rest := o.rest.tail } :: os :=
      errands_cons_told hchange hos
    refine hc.of_fewer hc.registered ?_ ?_ nofun
    · rw [herrands, hos]
      exact fewer_of_told
    · rw [herrands]
      refine hc.told.imp_right ?_
      rintro ⟨o', ho', hlo⟩
      rw [hos] at ho'
      obtain rfl | ho' := List.mem_cons.mp ho'
      · refine ⟨_, .head _, ?_⟩
        rw [hrest] at hlo ⊢
        exact (List.mem_cons.mp hlo).resolve_left fun hll => hl hll.symm he
      · exact ⟨o', .tail _ ho', hlo⟩
  · exact hc.same rfl (errands_cons_heard he) nofun

/-- **The feed is told**, and takes what is shown. -/
theorem tell (hc : Converging p h b l shown j) (ht : InTurn p j (.heard l e))
    (he : e.change? = some (p, value)) (queued : Bool) :
    Converging p h b l shown (⟨u, .accepted b (.next value) queued⟩ :: ⟨t, .heard l e⟩ :: j) := by
  obtain ⟨o, os, rest, hos, hchange, hrest⟩ := ht value he
  have herrands : errands p (⟨u, .accepted b (.next value) queued⟩ :: ⟨t, .heard l e⟩ :: j) =
      { o with rest := o.rest.tail } :: os :=
    (errands_cons_of_isPlain rfl).trans (errands_cons_told he hos)
  have hshown : value = shown := by
    have hcurrent := hc.current o (by rw [hos]; exact .head _) (by rw [hrest]; exact .head _)
    rw [hchange] at hcurrent
    exact Option.some.inj hcurrent
  refine hc.of_fewer hc.registered ?_ (.inl ?_) nofun
  · rw [herrands, hos]
    exact fewer_of_told
  · rw [taken_cons_accepted, hshown]
    exact List.getLast?_concat

end Entries

end Converging

end History

-- ════════════════════════════════════════════════════════════════════════
-- Whom operations are to tell
-- ════════════════════════════════════════════════════════════════════════

namespace Toolkit

/-- **Operations are to tell those who are registered** at their point. -/
def Addressed (w : Toolkit σ) : Prop :=
  Guarded (fun earlier e => ∀ q ls, e = .operating q ls → ∀ binding b judge,
    .forward binding b judge ∈ ls → binding.site = q.site ∧
      Enrolled b binding q.owner judge earlier) w.journal

/-- The operations that are to tell a subscription are those at its point, and it is registered. -/
theorem Addressed.point_eq (hw : w.Addressed) (hone : w.Single) (hs : w.Sound) {binding : Binding}
    {n : Nat} {judge : Judge} (ho : Occurred (.subscribing h b (.widget binding n judge)) w.journal)
    {o : Errand} (herrand : o ∈ errands q w.journal) (hl : .forward binding b judge ∈ o.rest) :
    q = binding.point n ∧
      ∃ key, Occurred (.registered h (.widget binding n judge) key) w.journal := by
  obtain ⟨ls, hls, hocc⟩ := exists_operating herrand (.inr hl)
  obtain ⟨i, hi, hplaced⟩ := Guarded.occurred hw hocc
  obtain ⟨hsite, k, key, ⟨x, hx, hxe⟩, y, hy, hye⟩ := hplaced q ls rfl binding b judge hls
  obtain ⟨rfl, hsource⟩ := hone.of_bridge hs ho ⟨x, hi.subset hx, hxe⟩
  obtain ⟨-, rfl, -⟩ := Source.widget.inj hsource
  exact ⟨Point.ext hsite.symm rfl, key, y, hi.subset hy, hye⟩

/-- **Nothing stands in the way** of a feed: listeners are removed by their own keys, operations
    tell in turn, and no change cuts in. -/
structure Clear (w : Toolkit σ) (p : Point) (h : HandleId) (l : Listener) : Prop where
  ownKeys : OwnKeys p w.journal
  inTurn : ∀ q, Guarded (InTurn q) w.journal
  unhurried : Guarded (Unhurried p h l) w.journal

theorem Clear.of_suffix (hw : w.Clear p h l) (hj : v.journal <:+ w.journal) : v.Clear p h l where
  ownKeys := Guarded.of_suffix hw.ownKeys hj
  inTurn q := (hw.inTurn q).of_suffix hj
  unhurried := hw.unhurried.of_suffix hj

/-- **Feeds converge** where nothing stands in the way, from when they start with the state of
    their widget until they are disposed. -/
def Fed (w : Toolkit σ) : Prop :=
  ∀ h b binding n judge, binding.isFeed = true →
    Occurred (.subscribing h b (.widget binding n judge)) w.journal → warmed h w.journal = true →
      w.closed b = false → w.Clear (binding.point n) h (.forward binding b judge) →
        Converging (binding.point n) h b (.forward binding b judge) (w.screen.current binding n)
          w.journal

end Toolkit

theorem Step.addressed (hs : v.Sound) (hv : v.Addressed) (h : Step m v w) : w.Addressed := by
  refine (h.explained hs).guarded hv fun i e _ _ he q ls hee binding b judge hl => ?_
  subst hee
  obtain ⟨rfl, rfl⟩ := he
  exact hs.placed (.inr hl)

-- ════════════════════════════════════════════════════════════════════════
-- Every step keeps feeds converging
-- ════════════════════════════════════════════════════════════════════════

theorem History.Converging.notes {es : List Event} (hc : Converging p h b l shown w.journal)
    (hes : ∀ e ∈ es, e.spares h b = true ∧ e.isPlain = true) :
    Converging p h b l shown (w.notedAll es).journal := by
  induction es generalizing w with
  | nil => exact hc
  | cons e es ih =>
    obtain ⟨⟨hspares, hplain⟩, hes⟩ := List.forall_mem_cons.mp hes
    rw [Toolkit.notedAll_cons]
    exact ih (w := w.noted e) (hc.plain (x := ⟨w.here, e⟩) hspares hplain) hes

/-- A subscription that keeps its place is told of operations that begin. -/
theorem Toolkit.Seated.listener (hw : w.Seated p) (hone : w.Single) {binding : Binding} {n : Nat}
    {judge : Judge} (ho : Occurred (.subscribing h b (.widget binding n judge)) w.journal)
    (hm : member p h w.journal = true) (hd : w.disposed h = false) :
    .forward binding b judge ∈ (w.screen.roster p).snapshot := by
  obtain ⟨key, hkey⟩ := exists_key_iff_member.mpr hm
  obtain ⟨l, hl, binding', b', judge', -, hforward, ho'⟩ := hw.seated hkey hd
  obtain ⟨rfl, hsource⟩ := hone _ _ _ _ _ ho ho'
  obtain ⟨rfl, -, rfl⟩ := Source.widget.inj hsource
  rw [← Option.some.inj hforward]
  exact List.mem_map_of_mem hl

/-- **A listener is told of what its bridge takes**: the feed itself of what is shown, or another
    one of anything. -/
theorem Toolkit.Addressed.hearing (ha : v.Addressed) (hone : v.Single) (hs : v.Sound)
    {binding binding' : Binding} {n : Nat} {judge judge' : Judge} {c : BridgeId}
    (hfeed : binding.isFeed = true)
    (ho : Occurred (.subscribing h b (.widget binding n judge)) v.journal)
    (hown : c = b → binding' = binding ∧ judge' = judge ∧ binding.payload? e = some value)
    (herrands : ∀ q, errands q j = errands q v.journal)
    (ht : ∀ q, InTurn q j (.heard (.forward binding' c judge') e))
    (hc : Converging (binding.point n) h b (.forward binding b judge) shown j) (queued : Bool) :
    Converging (binding.point n) h b (.forward binding b judge) shown
      (⟨u, .accepted c (.next value) queued⟩ ::
        ⟨t, .heard (.forward binding' c judge') e⟩ :: j) := by
  by_cases hcb : c = b
  · subst hcb
    obtain ⟨rfl, rfl, hv⟩ := hown rfl
    obtain ⟨q, -, hchange⟩ := (Binding.payload?_eq_some_of_isFeed hfeed).mp hv
    obtain ⟨o, os, rest, hos, -, hrest⟩ := ht q value hchange
    obtain ⟨rfl, -⟩ := ha.point_eq hone hs ho (q := q) (o := o)
      (by rw [← herrands, hos]; exact .head _) (by rw [hrest]; exact .head _)
    exact hc.tell (ht _) hchange queued
  · refine (hc.heard (ht _) fun hl => ?_).plain (by simp [Event.spares, hcb]) rfl
    cases hl
    exact absurd rfl hcb

/-- **What is told in turn keeps a feed converging**, whoever is told. -/
theorem Toolkit.Addressed.telling (ha : v.Addressed) (hone : v.Single) (hs : v.Sound)
    {binding binding' : Binding} {n : Nat} {judge judge' : Judge} {c : BridgeId} {queued : Bool}
    {notes : List Event} (hfeed : binding.isFeed = true)
    (ho : Occurred (.subscribing h b (.widget binding n judge)) v.journal)
    (hown : c = b → binding' = binding ∧ judge' = judge ∧ binding.payload? e = some value)
    (hnotes : ∀ e ∈ notes, e.spares h b = true ∧ e.isPlain = true)
    (hj : w.journal = (v.notedAll
      (notes ++ .heard (.forward binding' c judge') e :: takings c value queued)).journal)
    (hturn : ∀ q, Guarded (InTurn q) w.journal) (hwarmed : warmed h w.journal = true)
    (hc : warmed h v.journal = true →
      Converging (binding.point n) h b (.forward binding b judge) shown v.journal) :
    Converging (binding.point n) h b (.forward binding b judge) shown w.journal := by
  let u := (v.notedAll notes).notedAll
    [.heard (.forward binding' c judge') e, .accepted c (.next value) queued]
  let es : List Event := if queued then [] else [.began c (.next value)]
  have hes : ∀ e ∈ es, e.spares h b = true ∧ e.isPlain = true := by
    cases queued <;> simp [es, Event.spares, Event.isPlain]
  have hju : w.journal = (u.notedAll es).journal := by
    rw [hj, Toolkit.notedAll_append]
    simp only [u, es, takings, Toolkit.notedAll_cons, Toolkit.notedAll_nil]
  have hbegan : warmed h v.journal = true := by
    rw [hju, warmed_notedAll fun e he => (hes e he).1] at hwarmed
    exact (warmed_notedAll fun e he => (hnotes e he).1).symm.trans hwarmed
  have ht : ∀ q, InTurn q (v.notedAll notes).journal (.heard (.forward binding' c judge') e) := by
    intro q
    have hguarded : Guarded (InTurn q) u.journal :=
      (hturn q).of_suffix (hju ▸ (Grows.notedAll u es).journal)
    exact (guarded_cons.mp (guarded_cons.mp hguarded).2).1
  rw [hju]
  refine History.Converging.notes (w := u) ?_ hes
  exact ha.hearing hone hs hfeed ho hown (fun q => errands_notedAll fun e he => (hnotes e he).2) ht
    ((hc hbegan).notes hnotes) queued

/-- **A feed starts** with what is shown, when nobody is to tell it of anything yet. -/
theorem Toolkit.Addressed.starting (ha : v.Addressed) (hone : v.Single) (hs : v.Sound)
    {binding : Binding} {n : Nat} {judge : Judge} (hd : v.disposed h = false)
    (hm : milestones h v.journal = [.subscribing h b (.widget binding n judge),
      .attaching h (.widget binding n judge)])
    (hstart : binding.site = .watcher → ∀ o ∈ errands (binding.point n) v.journal,
      o.change ≠ none) :
    Converging (binding.point n) h b (.forward binding b judge) shown
      (((v.registering h b binding n judge).noted
        (.attached h (v.keyOf b binding n judge) true)).starting b (.next shown)).journal := by
  have ho := (hs.hasHandle_of_subscribing hm).2
  have herrands : errands (binding.point n) (((v.registering h b binding n judge).noted
      (.attached h (v.keyOf b binding n judge) true)).starting b (.next shown)).journal =
        errands (binding.point n) v.journal := by
    rw [Toolkit.journal_starting_registering hd, errands_notedAll (by simp [Event.isPlain])]
  refine ⟨?_, .inl ?_, ?_, ?_, nofun⟩
  · refine member_eq_true.mpr ⟨binding, n, judge, v.keyOf b binding n judge, ?_, rfl⟩
    rw [Toolkit.journal_starting_registering hd, Toolkit.occurred_notedAll]
    exact .inl List.mem_cons_self
  · rw [taken_starting, if_pos rfl]
    exact List.getLast?_concat
  · rw [herrands]
    intro o herrand hl
    obtain ⟨-, key, hr⟩ := ha.point_eq hone hs ho herrand hl
    exact absurd hr (not_registered_of_milestones hm)
  · rw [herrands]
    exact fun hp o herrand hnone => absurd hnone (hstart hp o herrand)

/-- **Every step keeps feeds converging**, if nobody else emits on the bridges of widgets. -/
theorem Step.fed (hev : m.everywhere = false) (hs : v.Sound) (hone : v.Single) (ha : v.Addressed)
    (hseated : ∀ p, p.site.isShared = true → OwnKeys p v.journal → v.Seated p) (hv : v.Fed)
    (h : Step m v w) : w.Fed := by
  intro k b binding n judge hfeed how hwarmed hopen hclear
  obtain ho | ⟨rfl, rfl, observer, rfl⟩ := h.occurred_subscribing hs how
  swap
  · -- the subscription is new, and has not started with a value
    have hnew := hs.reflection_subscribing (p := binding.point n) (.widget binding n judge) observer
      .unit
    exact absurd (hwarmed.symm.trans (congrArg Reflection.warmed hnew)) (by decide)
  obtain ⟨hb, hbk⟩ := hs.knows ho
  have hconverging : warmed k v.journal = true → Converging (binding.point n) k b
      (.forward binding b judge) (v.screen.current binding n) v.journal :=
    fun hwarmed' => hv k b binding n judge hfeed ho hwarmed' (h.grows.closed hb hopen)
      (hclear.of_suffix h.grows.journal)
  have hturn := hclear.inTurn
  have hsame : ∀ es, w.journal = (v.notedAll es).journal →
      (∀ e ∈ es, e.spares k b = true ∧ e.isPlain = true) →
      w.screen.current binding n = v.screen.current binding n →
        Converging (binding.point n) k b (.forward binding b judge) (w.screen.current binding n)
          w.journal := by
    intro es hj hes hcurrent
    rw [hj, warmed_notedAll fun e he => (hes e he).1] at hwarmed
    rw [hcurrent, hj]
    exact (hconverging hwarmed).notes hes
  have htold : ∀ notes {c binding' judge' e value queued},
      (∀ e ∈ notes, e.spares k b = true ∧ e.isPlain = true) →
      (c = b → binding' = binding ∧ judge' = judge ∧ binding.payload? e = some value) →
      w.journal = (v.notedAll
        (notes ++ .heard (.forward binding' c judge') e :: takings c value queued)).journal →
      w.screen.current binding n = v.screen.current binding n →
        Converging (binding.point n) k b (.forward binding b judge) (w.screen.current binding n)
          w.journal := by
    intro notes c binding' judge' e value queued hnotes hown hj hcurrent
    rw [hcurrent]
    exact ha.telling hone hs hfeed ho hown hnotes hj hturn hwarmed hconverging
  cases h.befalls hev hs hone ho with
  | quiet es hj hes hshows _ =>
    refine hsame es hj (fun e he => ?_) (hshows binding n (.inr hfeed))
    exact ⟨Event.spares_of_isForeign (hes e he), Event.isPlain_of_isForeign (hes e he)⟩
  | registered hm hd =>
    -- it has not started with a value
    have hnot : warmed k (v.registering k b binding n judge).journal = false :=
      (Toolkit.warmed_registering hd).trans (warmed_of_milestones hm)
    exact absurd (hwarmed.symm.trans hnot) (by decide)
  | started hm hd =>
    refine ha.starting hone hs hd hm fun hp => ?_
    have hguarded := hclear.unhurried.of_suffix
      (Grows.starting ((v.registering k b binding n judge).noted _) b _).journal
    have hstart := (guarded_cons.mp hguarded).1.2 (beq_self_eq_true k) hp
    rwa [Toolkit.journal_registering, errands_notedAll (by simp [hd, Event.isPlain])] at hstart
  | advanced => exact hsame [_] rfl (by simp [Event.spares, Event.isPlain]) rfl
  | told turn _ _ _ hvalue _ hj =>
    exact htold [_] (by simp [Event.spares, Event.isPlain]) (fun _ => ⟨rfl, rfl, hvalue⟩) hj
      (turn.feeds binding n hfeed)
  | notified _ hscreen _ _ hvalue hj =>
    exact htold [] (by simp) (fun _ => ⟨rfl, rfl, hvalue⟩) hj (by rw [hscreen])
  | toldOther hcb turn _ hj =>
    exact htold [_] (by simp [Event.spares, Event.isPlain]) (fun h => absurd h hcb) hj
      (turn.feeds binding n hfeed)
  | notifiedOther hcb hscreen hj =>
    exact htold [] (by simp) (fun h => absurd h hcb) hj (by rw [hscreen])
  | passed turn =>
    exact hsame [_] rfl (by simp [Event.spares, Event.isPlain]) (turn.feeds binding n hfeed)
  | ignored hnone =>
    refine (hconverging hwarmed).heard (guarded_cons.mp (hturn _)).1 fun _ hchange => ?_
    obtain hnone | hclosed := hnone
    · obtain ⟨⟨q, value⟩, hchange, rfl⟩ := Option.map_eq_some_iff.mp hchange
      have hsome := (Binding.payload?_eq_some_of_isFeed hfeed).mpr ⟨_, rfl, hchange⟩
      rw [hnone] at hsome
      cases hsome
    · exact absurd (hclosed.symm.trans hopen) (by decide)
  | heardOther hother =>
    exact (hconverging hwarmed).heard (guarded_cons.mp (hturn _)).1 fun hl =>
      absurd hl (hother binding judge)
  | @operating q =>
    have hc := hconverging hwarmed
    refine hc.operating ?_
    rintro rfl
    have hshared : (binding.point n).site.isShared = true := Binding.isShared_of_isFeed hfeed
    refine (hseated _ hshared (guarded_cons.mp hclear.ownKeys).2).listener hone ho hc.registered ?_
    rw [← hbk]
    exact hopen
  | @altered s q value halteration =>
    have hc := hconverging hwarmed
    by_cases hq : q = binding.point n
    · subst hq
      have hshown : s.current binding n = value := halteration.shown binding n hfeed rfl
      change Converging _ _ _ _ (s.current binding n) _
      rw [hshown]
      exact hc.altered (guarded_cons.mp (hturn _)).1 (Binding.site_of_isFeed hfeed)
        ((guarded_cons.mp hclear.unhurried).1.1 value (if_pos rfl))
    · have hshown : s.current binding n = v.screen.current binding n :=
        halteration.elsewhere binding n hfeed (Ne.symm hq)
      change Converging _ _ _ _ (s.current binding n) _
      rw [hshown]
      exact hc.same rfl (if_neg hq) (by simp)
  | operated => exact (hconverging hwarmed).operated (guarded_cons.mp (hturn _)).1
  | @flagged view chosen on =>
    refine hsame [_] rfl (by simp [Event.spares, Event.isPlain]) ?_
    cases binding with
    | texts | pageSelections => rfl
    | _ => cases hfeed

theorem Steps.addressed {w : Toolkit Unit} (h : Steps m Toolkit.fresh w) : w.Addressed :=
  h.invariant (guarded_nil _) fun hv ih h => h.addressed hv.sound_of_fresh ih

/-- Feeds converge wherever steps lead. -/
theorem Steps.fed {w : Toolkit Unit} (hev : m.everywhere = false) (h : Steps m Toolkit.fresh w) :
    w.Fed :=
  h.invariant (fun _ _ _ _ _ _ ho => absurd ho (not_occurred_nil _)) fun hv ih h =>
    h.fed hev hv.sound_of_fresh hv.subscriptions_single hv.addressed
      (fun _ hp hk => hv.seated hp hk) ih

-- ════════════════════════════════════════════════════════════════════════
-- What subscribers to feeds receive
-- ════════════════════════════════════════════════════════════════════════

/-- **The subscriber to a feed has caught up**: the one of the bridge `b`, with the state of its
    widget. -/
structure Toolkit.CaughtUp (w : Toolkit σ) (b : BridgeId) (binding : Binding) (owner : Nat) :
    Prop where
  /-- What it receives last, by the time everything that waits is handed over, is what the widget
      shows. -/
  upcoming : (values b w.journal ++ (w.queue b).filterMap Signal.value?).getLast? =
    some (w.screen.current binding owner)
  /-- Outside its own callbacks it has received that. -/
  settled : w.delivering b = none →
    (values b w.journal).getLast? = some (w.screen.current binding owner)

/-- A subscriber has caught up when no operation of its widget is running. -/
theorem Steps.caughtUp {w : Toolkit Unit} (hm : m.observersPanic = false)
    (hev : m.everywhere = false) (hw : Steps m Toolkit.fresh w) {binding : Binding} {n : Nat}
    {judge : Judge} (hfeed : binding.isFeed = true)
    (ho : Occurred (.subscribing h b (.widget binding n judge)) w.journal)
    (hwarm : warmed h w.journal = true) (hopen : w.closed b = false)
    (hclear : w.Clear (binding.point n) h (.forward binding b judge))
    (hover : errands (binding.point n) w.journal = []) : w.CaughtUp b binding n := by
  have hconverging := hw.fed hev h b binding n judge hfeed ho hwarm hopen hclear
  obtain ⟨htaken, hsettled⟩ := hw.taken_eq hm (hw.sound_of_fresh.knows ho).1 hopen
  have hlast : (taken b w.journal).getLast? = some (w.screen.current binding n) := by
    refine hconverging.told.resolve_right ?_
    rw [hover]
    rintro ⟨o, ho, -⟩
    cases ho
  exact ⟨htaken ▸ hlast, fun hd => hsettled hd ▸ hlast⟩

namespace Code

variable {code : Code m τ} {depth : Nat} {own : τ} {program : Program m τ True True α}

/-- **Feeds converge**: at every moment of every run, and when it is over, each subscriber to a text
    or to the page of a pager that started with its state and is not disposed has caught up when no
    operation of that widget is running, if no change ever cut in on it, callbacks do not panic, and
    listeners are removed by their own keys. -/
theorem feeds_converge (hm : ¬ m.mayPanic) (hev : m.everywhere = false) :
    (∀ w ∈ code.moments depth own program, ∀ h b binding n judge, binding.isFeed = true →
      Occurred (.subscribing h b (.widget binding n judge)) w.journal →
      warmed h w.journal = true → w.closed b = false → OwnKeys (binding.point n) w.journal →
      Guarded (Unhurried (binding.point n) h (.forward binding b judge)) w.journal →
      errands (binding.point n) w.journal = [] → w.CaughtUp b binding n) ∧
    ∀ a u, code.outcome depth own program = .ok a u → ∀ h b binding n judge,
      binding.isFeed = true → Occurred (.subscribing h b (.widget binding n judge)) u.journal →
      warmed h u.journal = true → u.closed b = false → OwnKeys (binding.point n) u.journal →
      Guarded (Unhurried (binding.point n) h (.forward binding b judge)) u.journal →
        (values b u.journal).getLast? = some (u.screen.current binding n) := by
  have hpanic : m.observersPanic = false := Bool.eq_false_iff.mpr fun h => hm (.inl h)
  obtain ⟨hmoments, hend⟩ := conducted code depth own program hm
  constructor
  · intro w hw h b binding n judge hfeed ho hwarm hopen hkeys hunhurried hover
    exact (reachable hw).caughtUp hpanic hev hfeed ho hwarm hopen
      ⟨hkeys, hmoments w hw, hunhurried⟩ hover
  · intro a u hr h b binding n judge hfeed ho hwarm hopen hkeys hunhurried
    obtain ⟨hsteps, hidle⟩ := idle hr
    have hturn := hend a u hr
    exact (hsteps.caughtUp hpanic hev hfeed ho hwarm hopen ⟨hkeys, fun q => (hturn q).1, hunhurried⟩
      (hturn _).2).settled (hidle b)

/-- Code whose observer of a number makes a call in the midst of receiving a value. -/
def reacting {β : Type} (callback : Nat) (value : Payload) (k : Call β) :
    Code ⟨false, false, true, false⟩ Unit :=
  { quiet _ with
    observe := fun n signal =>
      if n = callback ∧ signal.value? = some value then
        .call k (fun _ => rfl)
          (fun h => by cases hr : k.reach <;> simp [hr, Reach.mayPanic, Manners.mayPanic] at h)
          fun _ => .done ()
      else .done () }

/-- Two subscribers to a text, which is then set. -/
def writing : Program m Unit True True Unit :=
  .making (.newView .main) fun v =>
    .making (.subscribe (.ofBinding .texts v .always) (.client 0)) fun _ =>
      .making (.subscribe (.ofBinding .texts v .always) (.client 1)) fun _ =>
        .making (.setText v "x") fun _ => .done ()

/-- The last listener sets the text again when it is told of it: all of them receive both texts. -/
theorem feeds_converge_nested :
    (∃ w ∈ (reacting 1 (.text "x") (.setText 1 "y")).moments 5 () writing,
      w.CaughtUp 1 .texts 1 ∧ w.CaughtUp 2 .texts 1 ∧
      values 1 w.journal = [.text "", .text "x", .text "y"]) ∧
    ∃ a u, (reacting 1 (.text "x") (.setText 1 "y")).outcome 5 () writing = .ok a u ∧
      (values 2 u.journal).getLast? = some (u.screen.current .texts 1) ∧
      values 2 u.journal = [.text "", .text "x", .text "y"] := by
  let code := reacting 1 (.text "x") (.setText 1 "y")
  have hnever : ¬ Manners.mayPanic ⟨false, false, true, false⟩ := by simp [Manners.mayPanic]
  constructor
  · have hw := List.head_mem (l := code.moments 5 () writing) (by decide +kernel)
    have hkeys : OwnKeys ⟨.watcher, 1⟩
      ((code.moments 5 () writing).head (by decide +kernel)).journal :=
      ownKeys_of_all (by decide +kernel)
    have hcaughtUp := (feeds_converge hnever rfl).1 _ hw
    refine ⟨_, hw, ?_, ?_, by decide +kernel⟩
    · exact hcaughtUp 1 1 .texts 1 .always rfl (by decide +kernel) (by decide +kernel)
        (by decide +kernel) hkeys (by decide +kernel) (by decide +kernel)
    · exact hcaughtUp 2 2 .texts 1 .always rfl (by decide +kernel) (by decide +kernel)
        (by decide +kernel) hkeys (by decide +kernel) (by decide +kernel)
  · obtain ⟨a, u, hr, hsub, hwarm, hopen, hquiet, hunhurried, hvalues⟩ := exists_of_test
      (r := code.outcome 5 () writing) (P := fun u =>
        Occurred (.subscribing 2 2 (.widget .texts 1 .always)) u.journal ∧
          warmed 2 u.journal = true ∧ u.closed 2 = false ∧
          (u.journal.all fun x => !isRemoval x.event) = true ∧
          Guarded (Unhurried ⟨.watcher, 1⟩ 2 (.forward .texts 2 .always)) u.journal ∧
          values 2 u.journal = [.text "", .text "x", .text "y"]) (by decide +kernel)
    exact ⟨a, u, hr, (feeds_converge hnever rfl).2 a u hr 2 2 .texts 1 .always rfl hsub hwarm hopen
      (ownKeys_of_all hquiet) hunhurried, hvalues⟩

/-- Two subscribers to the page of a pager, which is then moved. -/
def paging : Program m Unit True True Unit :=
  .making (.newPager .main 3) fun v =>
    .making (.subscribe (.ofBinding .pageSelections v .always) (.client 0)) fun _ =>
      .making (.subscribe (.ofBinding .pageSelections v .always) (.client 1)) fun _ =>
        .making (.setPage v 1 false) fun _ => .done ()

/-- Its watcher subscribes to the text when it is told that the text is about to change. -/
def joining : Code ⟨false, false, true, false⟩ Unit :=
  { quiet _ with
    hear := fun _ e =>
      match e with
      | .textChanging v _ _ _ _ =>
        .call (.subscribe (.ofBinding .texts v .always) (.client 0)) (fun _ => rfl)
          (fun h => h.elim id id) fun _ => .done true
      | _ => .done true }

/-- Its watcher panics when it is told that the text has changed. -/
def balking : Code ⟨false, true, true, false⟩ Unit :=
  { quiet _ with
    hear := fun _ e =>
      match e with
      | .textChanged _ _ _ _ _ => .panic rfl "unwilling"
      | _ => .done true }

/-- A watcher of a text and a subscriber to it; the text is then set, come what may. -/
def watched (subscribed : Bool) : Program m Unit True True Unit :=
  .making (.newView .main) fun v =>
    .making (.listen ⟨.watcher, v⟩ (some 0)) fun _ =>
      let set : Program m Unit True True Unit :=
        .attempt (.making (.setText v "x") fun _ => .done ()) fun _ => .done ()
      if subscribed then
        .making (.subscribe (.ofBinding .texts v .always) (.client 0)) fun _ => set
      else set

/-- The open subscription of a bridge started with the state of its widget, no operation of the
    widget is running, and yet the bridge handed over something else last. -/
def Lags (binding : Binding) (b : BridgeId) (w : Toolkit τ) : Prop :=
  Occurred (.subscribing b b (.widget binding 1 .always)) w.journal ∧ warmed b w.journal = true ∧
    w.closed b = false ∧ errands (binding.point 1) w.journal = [] ∧
    (values b w.journal).getLast? ≠ some (w.screen.current binding 1)

instance (binding : Binding) (b : BridgeId) : DecidablePred (Lags (τ := τ) binding b) :=
  fun _ => inferInstanceAs (Decidable (_ ∧ _ ∧ _ ∧ _ ∧ _))

/-- **Subscribers to feeds may lag** when a listener before them sets the text, or moves the pager,
    in the midst of hearing of a change; when they subscribe before the text of an edit has changed;
    when a listener before them panics; and within their own callbacks. -/
theorem feeds_may_lag :
    (∃ a u, (reacting 0 (.text "x") (.setText 1 "y")).outcome 5 () writing = .ok a u ∧
      Lags .texts 2 u) ∧
    (∃ a u, (reacting 0 (.page 1) (.setPage 1 2 false)).outcome 5 () paging = .ok a u ∧
      Lags .pageSelections 2 u) ∧
    (∃ a u, joining.outcome 5 () (watched false) = .ok a u ∧ Lags .texts 1 u) ∧
    (∃ a u, balking.outcome 5 () (watched true) = .ok a u ∧ Lags .texts 1 u) ∧
    ∃ w ∈ (reacting 0 (.text "") (.setText 1 "x")).moments 5 () writing, Lags .texts 1 w :=
  ⟨exists_of_test (by decide +kernel), exists_of_test (by decide +kernel),
    exists_of_test (by decide +kernel), exists_of_test (by decide +kernel), by decide +kernel⟩

end Code

end WidgetStreams
