import Mathlib.Data.List.Forall2
import Mathlib.Data.List.Enum
import Mathlib.Data.List.Nodup
import WidgetStreams.Proofs.Enlisting

/-!
# Who is registered where any number may be

This file reads off the journal who was registered at a point for any number of
listeners, and proves that the registry at the point holds the listeners of
those who are left: the subscriptions that are not disposed, and the listeners
put there directly that were not removed.

## Main definitions

- `History.entrants` — who was registered at a point, and under which keys
- `Toolkit.present` — who of them is left
- `Toolkit.Listed` — the invariant of a registry

## Main results

- `Step.listed` — every step keeps the invariant

## Design notes

A registry gives out its keys in order, so the key of a registration is its
place among all of them.
-/

namespace WidgetStreams

open History

-- ════════════════════════════════════════════════════════════════════════
-- Who was registered
-- ════════════════════════════════════════════════════════════════════════

namespace History

/-- Who an event says is registered at a point. -/
def entrant? (p : Point) : Event → Option Owner
  | .registered h (.widget binding n _) _ =>
    if binding.point n = p then some (.subscriber h) else none
  | .installed q listener => if q = p then some (.raw listener) else none
  | _ => none

/-- **Who was registered** at a point, each with a key. The keys count the registrations. -/
def entrants (p : Point) (j : List Entry) : List (Owner × Nat) := (collect (entrant? p) j).zipIdx 1

/-- Whether an event is the removal of a listener by its key. -/
def isRemoval : Event → Bool
  | .removed _ _ => true
  | _ => false

/-- What is removed from a point directly was put there directly, and is removed by its own key. -/
def OwnKeys (p : Point) : List Entry → Prop :=
  Guarded fun earlier e => ∀ key, e = .removed p key →
    ∃ listener, (.raw listener, key) ∈ entrants p earlier

variable {p : Point} {h : HandleId} {key : Nat} {o o' : Owner} {i j : List Entry}

theorem entrants_cons (x : Entry) : entrants p (x :: j) =
    entrants p j ++ (entrant? p x.event).toList.map (·, (entrants p j).length + 1) := by
  rw [entrants, collect_cons, List.zipIdx_append]
  cases entrant? p x.event <;> simp [entrants, Nat.add_comm]

theorem entrants_subset (hij : i <:+ j) : entrants p i ⊆ entrants p j := by
  obtain ⟨later, rfl⟩ := hij
  induction later with
  | nil => exact List.Subset.refl _
  | cons x later ih =>
    rw [List.cons_append, entrants_cons]
    exact List.subset_append_of_subset_left _ ih

/-- No two are registered under one key. -/
theorem eq_of_mem_entrants (h : (o, key) ∈ entrants p j) (h' : (o', key) ∈ entrants p j) :
    o = o' := by
  obtain ⟨-, ho⟩ := List.mk_mem_zipIdx_iff_le_and_getElem?_sub.mp h
  obtain ⟨-, ho'⟩ := List.mk_mem_zipIdx_iff_le_and_getElem?_sub.mp h'
  exact Option.some.inj (ho.symm.trans ho')

/-- The keys that were given out are not past the number of registrations. -/
theorem le_length_of_mem_entrants (h : (o, key) ∈ entrants p j) :
    key ≤ (entrants p j).length := by
  obtain ⟨hle, ho⟩ := List.mk_mem_zipIdx_iff_le_and_getElem?_sub.mp h
  have hlt := (List.getElem?_eq_some_iff.mp ho).1
  rw [entrants, List.length_zipIdx]
  omega

/-- The subscriptions among those are the ones that were registered at the point. -/
theorem exists_key_iff_member :
    (∃ key, (.subscriber h, key) ∈ entrants p j) ↔ member p h j = true := by
  have hmem : (∃ key, (.subscriber h, key) ∈ entrants p j) ↔
      Owner.subscriber h ∈ (entrants p j).map Prod.fst := by simp
  rw [hmem, entrants, List.zipIdx_map_fst, mem_collect, member_eq_true]
  constructor
  · rintro ⟨e, ho, he⟩
    cases e with
    | registered k source key =>
      cases source with
      | client => cases he
      | widget binding n judge =>
        simp only [entrant?] at he
        split at he
        · next hp =>
          cases he
          exact ⟨binding, n, judge, key, ho, hp⟩
        · cases he
    | installed q listener =>
      simp only [entrant?] at he
      split at he <;> cases he
    | _ => cases he
  · rintro ⟨binding, n, judge, key, ho, hp⟩
    exact ⟨_, ho, if_pos hp⟩

/-- Nothing was removed that was not put there. -/
theorem ownKeys_of_all (hj : (j.all fun x => !isRemoval x.event) = true) : OwnKeys p j := by
  rintro later x earlier rfl key he
  have hx := List.all_eq_true.mp hj x (by simp)
  rw [he] at hx
  cases hx

/-- A key with which nobody was registered was not removed. -/
theorem OwnKeys.not_removed (hj : OwnKeys p j) (hk : (entrants p j).length < key) :
    ¬ Occurred (.removed p key) j := by
  intro ho
  obtain ⟨i, hi, hown⟩ := Guarded.occurred hj ho
  obtain ⟨listener, hl⟩ := hown key rfl
  have := le_length_of_mem_entrants (entrants_subset hi hl)
  omega

end History

variable {σ : Type} {m : Manners} {v w : Toolkit σ} {p : Point} {h k : HandleId} {o : Owner}
  {key : Nat} {listener : Listener}

theorem History.entrants_cons_of_not_enlists {x : Entry} {j : List Entry}
    (hx : x.event.enlists = false) : entrants p (x :: j) = entrants p j := by
  have hnone : entrant? p x.event = none := by
    generalize x.event = e at hx
    cases e with
    | registered k source =>
      cases source with
      | widget => cases hx
      | client => rfl
    | installed => cases hx
    | _ => rfl
  rw [entrants_cons, hnone]
  exact List.append_nil _

theorem History.entrants_notedAll {es : List Event} (hes : ∀ e ∈ es, e.enlists = false) :
    entrants p (w.notedAll es).journal = entrants p w.journal :=
  Toolkit.read_notedAll (fun e he _ _ hx => entrants_cons_of_not_enlists (hx ▸ hes e he)) w

-- ════════════════════════════════════════════════════════════════════════
-- Who is left
-- ════════════════════════════════════════════════════════════════════════

theorem History.removed_notedAll {es : List Event} (hes : ∀ e ∈ es, e.enlists = false) :
    Occurred (.removed p key) (w.notedAll es).journal ↔ Occurred (.removed p key) w.journal := by
  rw [Toolkit.occurred_notedAll]
  refine or_iff_right fun he => ?_
  have hnone := hes _ he
  cases hnone

namespace Toolkit

/-- Whether one who was registered at a point **is left** there: a subscription until it is
    disposed, a listener that was put there directly until it is removed. -/
def remains (w : Toolkit σ) (p : Point) : Owner × Nat → Bool
  | (.subscriber h, _) => !w.disposed h
  | (.raw _, key) => !decide (Occurred (.removed p key) w.journal)

/-- **Who is left** of those who were registered at a point. -/
def present (w : Toolkit σ) (p : Point) : List (Owner × Nat) :=
  (entrants p w.journal).filter (w.remains p)

/-- **The invariant of a registry**: it holds the listeners of those who are left, in the order in
    which they were registered, each under its key. -/
structure Listed (w : Toolkit σ) (p : Point) : Prop where
  next : (w.screen.roster p).next = (entrants p w.journal).length + 1
  stands : List.Forall₂
    (fun entry x => entry.1 = x.2 ∧ Stands p w.journal (some x.1) (some entry.2))
    (w.screen.roster p).entries.pairs (w.present p)
  /-- The key of a subscription is the one that was given out when it was registered. -/
  keyed : ∀ {h key}, (.subscriber h, key) ∈ entrants p w.journal → ∃ binding n judge,
    Occurred (.registered h (.widget binding n judge) (some key)) w.journal ∧ binding.point n = p

/-- Who is left is the same as long as nobody is removed and no subscription is disposed. -/
theorem remains_congr
    (removed : ∀ key, Occurred (.removed p key) w.journal ↔ Occurred (.removed p key) v.journal)
    (disposed : ∀ k, member p k v.journal = true → w.disposed k = v.disposed k) :
    ∀ x ∈ entrants p v.journal, w.remains p x = v.remains p x := by
  rintro ⟨o, key⟩ hx
  cases o with
  | raw => simp [remains, removed]
  | subscriber k => simp [remains, disposed k (exists_key_iff_member.mp ⟨key, hx⟩)]

section Registering

variable (b : BridgeId) (binding : Binding) (n : Nat) (judge : Judge)

/-- A newcomer is registered behind all others at its point. -/
theorem entrants_registering (hd : w.disposed h = false) (warm : Bool) :
    entrants p ((w.registering h b binding n judge).noted
      (.attached h (w.keyOf b binding n judge) warm)).journal =
        if binding.point n = p then
          entrants p w.journal ++ [(.subscriber h, (entrants p w.journal).length + 1)]
        else entrants p w.journal := by
  rw [journal_noted_registering hd]
  by_cases e : binding.point n = p <;> simp [entrants_cons, entrant?, e]

theorem roster_registering (hp : p.site.isShared = true) (hd : w.disposed h = false) :
    (w.registering h b binding n judge).screen.roster p =
      if binding.point n = p then ((w.screen.roster p).add (.forward binding b judge)).2
      else w.screen.roster p := by
  rw [screen_registering w hd, Screen.roster_install hp]

/-- At a site for any number of listeners the key that is given out is the next number. -/
theorem keyOf_eq {b : BridgeId} {binding : Binding} {n : Nat} {judge : Judge}
    (hp : binding.site.isShared = true) :
    w.keyOf b binding n judge = some (w.screen.roster (binding.point n)).next := by
  rw [keyOf, Screen.install, if_pos (show (binding.point n).site.isShared = true from hp)]
  rfl

end Registering

namespace Listed

/-- Nobody comes and nobody goes. -/
theorem of_same (hv : v.Listed p) (hg : v.journal <:+ w.journal)
    (roster : w.screen.roster p = v.screen.roster p)
    (entrants : entrants p w.journal = entrants p v.journal)
    (remains : ∀ x ∈ History.entrants p v.journal, w.remains p x = v.remains p x) :
    w.Listed p := by
  have hpresent : w.present p = v.present p := by
    rw [present, entrants]
    exact List.filter_congr remains
  constructor
  · rw [roster, entrants, hv.next]
  · rw [roster, hpresent]
    exact hv.stands.imp fun _ _ hx => ⟨hx.1, hx.2.mono hg⟩
  · intro h key hx
    rw [entrants] at hx
    obtain ⟨binding, n, judge, ho, hp⟩ := hv.keyed hx
    exact ⟨binding, n, judge, ho.mono hg, hp⟩

/-- Nothing is noted of a registration or a removal. -/
theorem of_notes (hv : v.Listed p) {es : List Event} (journal : w.journal = (v.notedAll es).journal)
    (hes : ∀ e ∈ es, e.enlists = false) (roster : w.screen.roster p = v.screen.roster p)
    (disposed : ∀ k, member p k v.journal = true → w.disposed k = v.disposed k) : w.Listed p := by
  refine hv.of_same (journal ▸ (Grows.notedAll v es).journal) roster ?_
    (remains_congr (fun key => ?_) disposed)
  · rw [journal, entrants_notedAll hes]
  · rw [journal, removed_notedAll hes]

/-- **One comes**, and is registered behind all others. -/
theorem add (hv : v.Listed p) (hg : v.journal <:+ w.journal)
    (roster : w.screen.roster p = ((v.screen.roster p).add listener).2)
    (entrants : entrants p w.journal =
      entrants p v.journal ++ [(o, (History.entrants p v.journal).length + 1)])
    (remains : ∀ x ∈ History.entrants p v.journal, w.remains p x = v.remains p x)
    (new : w.remains p (o, (History.entrants p v.journal).length + 1) = true)
    (stands : Stands p w.journal (some o) (some listener))
    (keyed : ∀ h, o = .subscriber h → ∃ binding n judge, Occurred (.registered h
      (.widget binding n judge) (some (v.screen.roster p).next)) w.journal ∧ binding.point n = p) :
    w.Listed p := by
  have hpresent : w.present p =
      v.present p ++ [(o, (History.entrants p v.journal).length + 1)] := by
    rw [present, entrants, List.filter_append, List.filter_congr remains,
      List.filter_cons_of_pos new]
    rfl
  constructor
  · rw [roster, entrants, Registry.next_add, List.length_append]
    exact congrArg (· + 1) hv.next
  · rw [roster, hpresent]
    refine List.rel_append (hv.stands.imp fun _ _ hx => ⟨hx.1, hx.2.mono hg⟩) ?_
    exact .cons ⟨hv.next, stands⟩ .nil
  · intro h key hx
    rw [entrants, List.mem_append, List.mem_singleton] at hx
    obtain hx | hx := hx
    · obtain ⟨binding, n, judge, ho, hp⟩ := hv.keyed hx
      exact ⟨binding, n, judge, ho.mono hg, hp⟩
    · obtain ⟨rfl, rfl⟩ := Prod.mk.inj hx
      rw [← hv.next]
      exact keyed h rfl

/-- **One goes**, whose key is taken out. -/
theorem remove (hv : v.Listed p) (key : Nat) (hg : v.journal <:+ w.journal)
    (roster : w.screen.roster p = ((v.screen.roster p).remove key).2)
    (entrants : entrants p w.journal = entrants p v.journal)
    (remains : ∀ x ∈ History.entrants p v.journal,
      w.remains p x = (v.remains p x && x.2 ≠ key)) :
    w.Listed p := by
  have hpresent : w.present p = (v.present p).filter fun x => x.2 ≠ key := by
    rw [present, entrants, present, List.filter_filter]
    refine List.filter_congr fun x hx => ?_
    rw [remains x hx, Bool.and_comm]
  constructor
  · rw [roster, entrants, Registry.next_remove, hv.next]
  · rw [roster, hpresent]
    have hpairs : ((v.screen.roster p).remove key).2.entries.pairs =
        (v.screen.roster p).entries.pairs.filter fun entry => entry.1 ≠ key :=
      Dict.unbind_eq_filter key _
    rw [hpairs]
    refine List.rel_filter ?_ (hv.stands.imp fun _ _ hx => ⟨hx.1, hx.2.mono hg⟩)
    intro entry x hx
    simp [hx.1]
  · intro h key hx
    rw [entrants] at hx
    obtain ⟨binding, n, judge, ho, hp⟩ := hv.keyed hx
    exact ⟨binding, n, judge, ho.mono hg, hp⟩

/-- **A disposal takes the subscription out**, if it is one that was registered there. -/
theorem disposing (hw : w.Listed p) (ht : w.Tidy) (hb : w.Backed) (hu : w.Undisturbed p)
    (hd : w.disposed h = false) : (w.disposing h).Listed p := by
  have hjournal := journal_disposing w h
  have hnotes : ∀ e ∈ (.disposed h :: (w.handles.get h).action.toList.map (.releasing h) :
      List Event), e.enlists = false := by
    cases (w.handles.get h).action <;> simp [Event.enlists]
  by_cases hm : member p h w.journal = true
  · obtain ⟨key, hkey⟩ := exists_key_iff_member.mpr hm
    obtain ⟨binding, n, judge, ho, rfl⟩ := hw.keyed hkey
    have haction := ht.action_of_registered hb ho (hu h hm) hd
    refine hw.remove key (Grows.disposing w h).journal ?_ ?_ ?_
    · rw [screen_disposing, haction]
      change (w.screen.removeListener (binding.point n) key).2.roster _ = _
      rw [Screen.roster_removeListener, if_pos rfl]
    · rw [hjournal, entrants_notedAll hnotes]
    · have hremoved : ∀ i, Occurred (.removed (binding.point n) i) (w.disposing h).journal ↔
          Occurred (.removed (binding.point n) i) w.journal := by
        intro i
        rw [hjournal, removed_notedAll hnotes]
      rintro ⟨o, i⟩ hx
      have hone : i = key → o = .subscriber h := fun e => eq_of_mem_entrants (e ▸ hx) hkey
      cases o with
      | raw listener =>
        have hne : i ≠ key := fun e => by cases hone e
        simp [remains, hremoved, hne]
      | subscriber k =>
        by_cases hk : k = h
        · -- the key with which the registration will be undone is the one that was given out
          subst hk
          obtain ⟨binding', n', judge', ho', -⟩ := hw.keyed hx
          have haction' := ht.action_of_registered hb ho' (hu k hm) hd
          rw [haction] at haction'
          obtain rfl : key = i := by cases haction'; rfl
          simp [remains, disposed_disposing]
        · have hne : i ≠ key := fun e => hk (Owner.subscriber.inj (hone e))
          simp [remains, disposed_disposing, hne, Ne.symm hk]
  · refine hw.of_notes hjournal hnotes ?_ fun k hk => ?_
    · rw [screen_disposing]
      cases ha : (w.handles.get h).action with
      | none => rfl
      | some action =>
        cases action with
        | client => rfl
        | detach source key =>
          cases source with
          | client => rfl
          | widget binding n judge =>
            have hne : binding.point n ≠ p := fun e =>
              hm (member_eq_true.mpr ⟨binding, n, judge, key, hb.action ha, e⟩)
            exact Screen.roster_uninstall_of_ne hne key
    · have hne : h ≠ k := by
        rintro rfl
        exact hm hk
      rw [disposed_disposing, if_neg hne]

/-- **A newcomer is registered behind all others.** -/
theorem registering (hw : w.Listed p) (hp : p.site.isShared = true) {b : BridgeId}
    {binding : Binding} {n : Nat} {judge : Judge} (warm : Bool)
    (ho : Occurred (.subscribing h b (.widget binding n judge)) w.journal)
    (hd : w.disposed h = false) :
    ((w.registering h b binding n judge).noted
      (.attached h (w.keyOf b binding n judge) warm)).Listed p := by
  have hgrows := (Grows.registering w h b binding n judge).trans
    (.noted _ (.attached h (w.keyOf b binding n judge) warm))
  have hroster := roster_registering b binding n judge hp hd
  have hentrants := entrants_registering (p := p) b binding n judge hd warm
  have hremains : ∀ x ∈ entrants p w.journal, ((w.registering h b binding n judge).noted
      (.attached h (w.keyOf b binding n judge) warm)).remains p x = w.remains p x := by
    refine remains_congr (fun key => ?_) fun k _ => w.disposed_registering h k b binding n judge
    rw [journal_noted_registering hd]
    simp
  by_cases e : binding.point n = p
  · rw [if_pos e] at hroster hentrants
    subst e
    refine hw.add (o := .subscriber h) hgrows.journal hroster hentrants hremains ?_ ?_ ?_
    · change (!(w.registering h b binding n judge).disposed h) = true
      rw [disposed_registering, hd]
      rfl
    · exact ⟨binding, b, judge, rfl, rfl, ho.mono hgrows.journal⟩
    · intro k hk
      cases hk
      refine ⟨binding, n, judge, ?_, rfl⟩
      rw [journal_noted_registering hd]
      simp [keyOf_eq hp]
  · rw [if_neg e] at hroster hentrants
    exact hw.of_same hgrows.journal hroster hentrants hremains

theorem starting (hw : w.Listed p) (b : BridgeId) (signal : Signal) :
    (w.starting b signal).Listed p :=
  hw.of_notes (journal_starting w b signal) (by simp [Event.enlists]) rfl fun _ _ => rfl

/-- **A listener that is put there directly** is registered behind all others. -/
theorem listening (hw : w.Listed p) (hp : p.site.isShared = true) (hk : OwnKeys p w.journal)
    {q : Point} (hl : listener.isRaw = true) :
    ((w.withScreen fun s => (s.install q listener).2).noted (.installed q listener)).Listed p := by
  have hgrows := (Grows.withScreen w fun s => (s.install q listener).2).trans
    (.noted _ (.installed q listener))
  have hremains : ∀ x ∈ entrants p w.journal,
      ((w.withScreen fun s => (s.install q listener).2).noted (.installed q listener)).remains p x =
        w.remains p x := remains_congr (fun key => by simp) fun _ _ => rfl
  have hroster := Screen.roster_install (s := w.screen) (q := q) hp listener
  by_cases e : q = p
  · rw [if_pos e] at hroster
    subst e
    refine hw.add (o := .raw listener) hgrows.journal hroster ?_ hremains ?_ ⟨rfl, hl⟩ (by simp)
    · simp [entrants_cons, entrant?]
    · have hnot := hk.not_removed (Nat.lt_succ_self _)
      simpa [remains] using hnot
  · rw [if_neg e] at hroster
    refine hw.of_same hgrows.journal hroster ?_ hremains
    simp [entrants_cons, entrant?, e]

/-- **A listener that was put there directly is taken out** by its key. -/
theorem removing (hw : w.Listed p) {q : Point}
    (hk : q = p → ∃ listener, (.raw listener, key) ∈ entrants p w.journal) :
    ((w.withScreen fun s => (s.removeListener q key).2).noted (.removed q key)).Listed p := by
  have hgrows := (Grows.withScreen w fun s => (s.removeListener q key).2).trans
    (.noted _ (.removed q key))
  have hentrants : entrants p ((w.withScreen fun s => (s.removeListener q key).2).noted
      (.removed q key)).journal = entrants p w.journal := by
    simp [entrants_cons, entrant?]
  have hroster := Screen.roster_removeListener w.screen q p key
  by_cases e : q = p
  · rw [if_pos e] at hroster
    subst e
    refine hw.remove key hgrows.journal hroster hentrants ?_
    obtain ⟨listener, hkey⟩ := hk rfl
    rintro ⟨o, i⟩ hx
    cases o with
    | raw =>
      have hremoved : Occurred (.removed q i) ((w.withScreen fun s =>
          (s.removeListener q key).2).noted (.removed q key)).journal ↔
            i = key ∨ Occurred (.removed q i) w.journal := by
        simp [eq_comm]
      simp only [remains, hremoved, Bool.decide_or, Bool.not_or, ne_eq, decide_not, Bool.and_comm]
    | subscriber k =>
      have hne : i ≠ key := fun e => by cases eq_of_mem_entrants (e ▸ hx) hkey
      change (!w.disposed k) = (!w.disposed k && decide (i ≠ key))
      simp [hne]
  · rw [if_neg e] at hroster
    refine hw.of_same hgrows.journal hroster hentrants (remains_congr (fun i => ?_) fun _ _ => rfl)
    simp [e]

end Listed

end Toolkit

/-- **Every step keeps the invariant of a registry**, as long as the handles of its subscriptions
    are given no action of the client's and listeners are removed by their own keys. -/
theorem Step.listed (hs : v.Sound) (ht : v.Tidy) (hb : v.Backed) (hp : p.site.isShared = true)
    (hu : v.Undisturbed p) (hk : OwnKeys p w.journal) (hv : v.Listed p) (h : Step m v w) :
    w.Listed p := by
  cases h.enlists with
  | quiet _ hj hes hrosters hdisposed =>
    refine hv.of_notes hj hes (Screen.roster_congr hrosters p) fun k hm => hdisposed k ?_
    obtain ⟨binding, n, judge, key, ho, -⟩ := member_eq_true.mp hm
    exact hs.knows ho
  | disposed hd => exact hv.disposing ht hb hu hd
  | registered warm ho hd => exact hv.registering hp warm ho hd
  | started ho hd => exact (hv.registering hp true ho hd).starting _ _
  | listened hl => exact hv.listening hp (guarded_cons.mp hk).2 hl
  | @removed q key => exact hv.removing fun e => (guarded_cons.mp hk).1 key (e ▸ rfl)

/-- A registry holds the listeners of those who are left wherever steps lead. -/
theorem Steps.listed {w : Toolkit Unit} (hp : p.site.isShared = true)
    (h : Steps m Toolkit.fresh w) : w.Undisturbed p → OwnKeys p w.journal → w.Listed p := by
  refine h.invariant (I := fun w => w.Undisturbed p → OwnKeys p w.journal → w.Listed p)
    (fun _ _ => ?_) fun hv ih h hu hk => ?_
  · exact ⟨rfl, .nil, fun hx => by cases hx⟩
  · have hu' := hu.of_grows h.grows
    have hk' := Guarded.of_suffix hk h.grows.journal
    exact h.listed hv.sound_of_fresh hv.tidy hv.backed hp hu' hk (ih hu' hk')

-- ════════════════════════════════════════════════════════════════════════
-- How many are left
-- ════════════════════════════════════════════════════════════════════════

/-- The handle of an owner that is a subscription. -/
def Owner.handle? : Owner → Option HandleId
  | .subscriber h => some h
  | .raw _ => none

namespace Toolkit

/-- The subscriptions that are left at a point. -/
def subscriptionsLeft (w : Toolkit σ) (p : Point) : List HandleId :=
  (w.present p).filterMap fun x => x.1.handle?

/-- The keys of the listeners that are left of those put at a point directly. -/
def rawsLeft (w : Toolkit σ) (p : Point) : List Nat :=
  (w.present p).filterMap fun x => if x.1.handle?.isNone then some x.2 else none

theorem mem_present {x : Owner × Nat} :
    x ∈ w.present p ↔ x ∈ entrants p w.journal ∧ w.remains p x = true := List.mem_filter

/-- **The subscriptions that are left** are those that were registered and are not disposed. -/
theorem mem_subscriptionsLeft :
    h ∈ w.subscriptionsLeft p ↔ member p h w.journal = true ∧ w.disposed h = false := by
  rw [subscriptionsLeft, List.mem_filterMap, ← exists_key_iff_member]
  constructor
  · rintro ⟨⟨o, key⟩, hx, ho⟩
    cases o with
    | raw => cases ho
    | subscriber k =>
      cases ho
      obtain ⟨hx, hremains⟩ := mem_present.mp hx
      exact ⟨⟨key, hx⟩, by simpa [remains] using hremains⟩
  · rintro ⟨⟨key, hx⟩, hd⟩
    exact ⟨_, mem_present.mpr ⟨hx, by simpa [remains] using hd⟩, rfl⟩

theorem length_present :
    (w.present p).length = (w.subscriptionsLeft p).length + (w.rawsLeft p).length := by
  rw [subscriptionsLeft, rawsLeft]
  induction w.present p with
  | nil => rfl
  | cons x l ih =>
    obtain ⟨o, key⟩ := x
    cases o <;> simp [Owner.handle?, ih] <;> omega

/-- **The size of a registry** is the number of subscriptions that are left and of the other
    listeners that are left. -/
theorem Listed.size (hw : w.Listed p) : (w.screen.roster p).size =
    (w.subscriptionsLeft p).length + (w.rawsLeft p).length := by
  rw [← length_present]
  exact hw.stands.length_eq

/-- No two are registered under one key. -/
theorem nodup_keys_present (w : Toolkit σ) (p : Point) : ((w.present p).map Prod.snd).Nodup := by
  refine List.Nodup.sublist (List.Sublist.map Prod.snd List.filter_sublist) ?_
  rw [entrants, List.zipIdx_map_snd]
  exact List.nodup_range'

/-- A listener that is left is counted once. -/
theorem nodup_rawsLeft (w : Toolkit σ) (p : Point) : (w.rawsLeft p).Nodup := by
  have hsublist : (w.rawsLeft p).Sublist ((w.present p).map Prod.snd) := by
    rw [rawsLeft]
    induction w.present p with
    | nil => exact .slnil
    | cons x l ih =>
      obtain ⟨o, key⟩ := x
      cases o with
      | subscriber h => exact ih.cons key
      | raw listener => exact ih.cons_cons key
  exact (w.nodup_keys_present p).sublist hsublist

/-- A subscription that is left is counted once. -/
theorem Listed.nodup_subscriptionsLeft (hw : w.Listed p) (ht : w.Tidy) (hb : w.Backed)
    (hu : w.Undisturbed p) : (w.subscriptionsLeft p).Nodup := by
  rw [subscriptionsLeft, List.Nodup, List.pairwise_filterMap]
  refine (w.nodup_keys_present p).of_map.imp_of_mem fun {x y} hx hy hne k hk k' hk' hkk => hne ?_
  subst hkk
  -- the key of each is the one with which its registration will be undone
  have hkey : ∀ {z}, z ∈ w.present p → z.1.handle? = some k →
      z.1 = .subscriber k ∧ ∃ binding n judge, (w.handles.get k).action =
        some (.detach (.widget binding n judge) (some z.2)) := by
    rintro ⟨o, key⟩ hz hk
    cases o with
    | raw => cases hk
    | subscriber l =>
      cases hk
      obtain ⟨hz, hremains⟩ := mem_present.mp hz
      obtain ⟨binding, n, judge, ho, hp⟩ := hw.keyed hz
      have hm := exists_key_iff_member.mp ⟨key, hz⟩
      exact ⟨rfl, binding, n, judge, ht.action_of_registered hb ho (hu k hm)
        (by simpa [remains] using hremains)⟩
  obtain ⟨hxo, _, _, _, hxa⟩ := hkey hx hk
  obtain ⟨hyo, _, _, _, hya⟩ := hkey hy hk'
  rw [hxa] at hya
  exact Prod.ext (hxo.trans hyo.symm) (Option.some.inj (Release.detach.inj (Option.some.inj hya)).2)

end Toolkit

-- ════════════════════════════════════════════════════════════════════════
-- Open subscriptions keep their places
-- ════════════════════════════════════════════════════════════════════════

namespace Toolkit

/-- **Open subscriptions have their places** in a registry, whatever actions client code gives to
    handles: the listener of a subscription stands under its key until it is disposed. -/
structure Seated (w : Toolkit σ) (p : Point) : Prop where
  next : (w.screen.roster p).next = (entrants p w.journal).length + 1
  keyed : ∀ {h binding n judge key},
    Occurred (.registered h (.widget binding n judge) (some key)) w.journal →
      binding.point n = p → (.subscriber h, key) ∈ entrants p w.journal
  seated : ∀ {h key}, (.subscriber h, key) ∈ entrants p w.journal → w.disposed h = false →
    ∃ l, (key, l) ∈ (w.screen.roster p).entries.pairs ∧
      Stands p w.journal (some (.subscriber h)) (some l)

namespace Seated

/-- Nobody comes. Who goes is disposed, or is no subscription. -/
theorem of_entrants (hv : v.Seated p) (hg : Grows v w)
    (entrants : entrants p w.journal = entrants p v.journal)
    (registered : ∀ {h binding n judge key},
      Occurred (.registered h (.widget binding n judge) (some key)) w.journal →
        binding.point n = p →
          Occurred (.registered h (.widget binding n judge) (some key)) v.journal)
    {r : Registry Listener} (roster : w.screen.roster p = r)
    (next : r.next = (v.screen.roster p).next)
    (pairs : ∀ {h key l}, (.subscriber h, key) ∈ History.entrants p v.journal →
      w.disposed h = false → (key, l) ∈ (v.screen.roster p).entries.pairs →
        (key, l) ∈ r.entries.pairs) : w.Seated p := by
  subst roster
  refine ⟨by rw [next, entrants, hv.next], fun ho hp => ?_, fun {h key} hx hd => ?_⟩
  · rw [entrants]
    exact hv.keyed (registered ho hp) hp
  · rw [entrants] at hx
    have hopen : v.disposed h = false := by
      rw [← Bool.not_eq_true] at hd ⊢
      exact mt hg.disposed hd
    obtain ⟨l, hl, hstands⟩ := hv.seated hx hopen
    exact ⟨l, pairs hx hd hl, hstands.mono hg.journal⟩

/-- Nobody comes and nobody goes. -/
theorem of_same (hv : v.Seated p) (hg : Grows v w)
    (entrants : entrants p w.journal = entrants p v.journal)
    (registered : ∀ {h binding n judge key},
      Occurred (.registered h (.widget binding n judge) (some key)) w.journal →
        binding.point n = p →
          Occurred (.registered h (.widget binding n judge) (some key)) v.journal)
    (roster : w.screen.roster p = v.screen.roster p) : w.Seated p :=
  hv.of_entrants hg entrants registered roster rfl fun _ _ hl => hl

/-- Nothing is noted of a registration or a removal. -/
theorem of_notes (hv : v.Seated p) (hg : Grows v w) {es : List Event}
    (journal : w.journal = (v.notedAll es).journal) (hes : ∀ e ∈ es, e.enlists = false)
    (roster : w.screen.roster p = v.screen.roster p) : w.Seated p := by
  refine hv.of_same hg ?_ (fun ho _ => ?_) roster
  · rw [journal, entrants_notedAll hes]
  · rw [journal, occurred_notedAll] at ho
    exact ho.resolve_left fun he => absurd (hes _ he) (by simp [Event.enlists])

/-- **One comes**, and takes the place behind all others. -/
theorem add (hv : v.Seated p) (hg : Grows v w)
    (roster : w.screen.roster p = ((v.screen.roster p).add listener).2)
    (entrants : entrants p w.journal =
      entrants p v.journal ++ [(o, (History.entrants p v.journal).length + 1)])
    (stands : Stands p w.journal (some o) (some listener))
    (registered : ∀ {h binding n judge key},
      Occurred (.registered h (.widget binding n judge) (some key)) w.journal →
        binding.point n = p →
          Occurred (.registered h (.widget binding n judge) (some key)) v.journal ∨
            o = .subscriber h ∧ key = (v.screen.roster p).next) : w.Seated p := by
  have hpairs : (w.screen.roster p).entries.pairs =
      (v.screen.roster p).entries.pairs ++ [((v.screen.roster p).next, listener)] := by
    rw [roster]
    rfl
  refine ⟨?_, fun ho hp => ?_, fun {h key} hx hd => ?_⟩
  · rw [roster, entrants, Registry.next_add, List.length_append]
    exact congrArg (· + 1) hv.next
  · rw [entrants, List.mem_append, List.mem_singleton]
    refine (registered ho hp).imp (fun ho => hv.keyed ho hp) ?_
    rintro ⟨rfl, rfl⟩
    rw [hv.next]
  · rw [entrants, List.mem_append, List.mem_singleton] at hx
    rw [hpairs]
    obtain hx | hx := hx
    · have hopen : v.disposed h = false := by
        rw [← Bool.not_eq_true] at hd ⊢
        exact mt hg.disposed hd
      obtain ⟨l, hl, hstands⟩ := hv.seated hx hopen
      exact ⟨l, List.mem_append_left _ hl, hstands.mono hg.journal⟩
    · obtain ⟨rfl, rfl⟩ := Prod.mk.inj hx
      exact ⟨listener, by rw [hv.next]; simp, stands⟩

theorem starting (hw : w.Seated p) (b : BridgeId) (signal : Signal) :
    (w.starting b signal).Seated p :=
  hw.of_notes (Grows.starting w b signal) (journal_starting w b signal) (by simp [Event.enlists])
    rfl

/-- **A disposal leaves all others in their places**: what it undoes is the registration of the
    subscription itself. -/
theorem disposing (hw : w.Seated p) (hb : w.Backed) : (w.disposing h).Seated p := by
  have hgrows := Grows.disposing w h
  have hjournal := journal_disposing w h
  have hnotes : ∀ e ∈ (.disposed h :: (w.handles.get h).action.toList.map (.releasing h) :
      List Event), e.enlists = false := by
    cases (w.handles.get h).action <;> simp [Event.enlists]
  by_cases haction : ∃ binding n judge key, binding.point n = p ∧
      (w.handles.get h).action = some (.detach (.widget binding n judge) (some key))
  · obtain ⟨binding, n, judge, key, rfl, haction⟩ := haction
    have hkey := hw.keyed (hb.action haction) rfl
    have hroster : (w.disposing h).screen.roster (binding.point n) =
        ((w.screen.roster (binding.point n)).remove key).2 := by
      rw [screen_disposing, haction]
      change (w.screen.removeListener (binding.point n) key).2.roster _ = _
      rw [Screen.roster_removeListener, if_pos rfl]
    refine hw.of_entrants hgrows (by rw [hjournal, entrants_notedAll hnotes])
      (fun ho _ => ?_) hroster
      rfl fun {k i l} hx hd hl => Registry.mem_pairs_remove hl ?_
    · rw [hjournal, occurred_notedAll] at ho
      exact ho.resolve_left fun he => absurd (hnotes _ he) (by simp [Event.enlists])
    · rintro rfl
      obtain rfl : k = h := Owner.subscriber.inj (eq_of_mem_entrants hx hkey)
      rw [disposed_disposing, if_pos rfl] at hd
      cases hd
  · refine hw.of_notes hgrows hjournal hnotes ?_
    rw [screen_disposing]
    cases ha : (w.handles.get h).action with
    | none => rfl
    | some action =>
      cases action with
      | client => rfl
      | detach source key =>
        cases source with
        | client => rfl
        | widget binding n judge =>
          cases key with
          | none => exact Screen.roster_congr (Screen.rosters_clearListener w.screen _) p
          | some key =>
            exact Screen.roster_uninstall_of_ne
              (fun e => haction ⟨binding, n, judge, key, e, ha⟩) (some key)

/-- **A newcomer takes the place behind all others.** -/
theorem registering (hw : w.Seated p) (hp : p.site.isShared = true) {b : BridgeId}
    {binding : Binding} {n : Nat} {judge : Judge} (warm : Bool)
    (ho : Occurred (.subscribing h b (.widget binding n judge)) w.journal)
    (hd : w.disposed h = false) :
    ((w.registering h b binding n judge).noted
      (.attached h (w.keyOf b binding n judge) warm)).Seated p := by
  have hgrows := (Grows.registering w h b binding n judge).trans
    (.noted _ (.attached h (w.keyOf b binding n judge) warm))
  have hroster := roster_registering b binding n judge hp hd
  have hentrants := entrants_registering (p := p) b binding n judge hd warm
  have hregistered : ∀ {k source key}, Occurred (.registered k source key)
      ((w.registering h b binding n judge).noted
        (.attached h (w.keyOf b binding n judge) warm)).journal →
      Occurred (.registered k source key) w.journal ∨ h = k ∧
        .widget binding n judge = source ∧ w.keyOf b binding n judge = key := by
    intro k source key hr
    rw [journal_noted_registering hd] at hr
    simpa [or_comm] using hr
  by_cases e : binding.point n = p
  · rw [if_pos e] at hroster hentrants
    subst e
    refine hw.add hgrows hroster hentrants ⟨binding, b, judge, rfl, rfl, ho.mono hgrows.journal⟩
      fun hr hp' => (hregistered hr).imp_right ?_
    rintro ⟨rfl, hsource, hkey⟩
    rw [keyOf_eq hp] at hkey
    exact ⟨rfl, (Option.some.inj hkey).symm⟩
  · rw [if_neg e] at hroster hentrants
    refine hw.of_same hgrows hentrants (fun hr hp' => (hregistered hr).resolve_right ?_) hroster
    rintro ⟨-, hsource, -⟩
    obtain ⟨rfl, rfl, -⟩ := Source.widget.inj hsource
    exact e hp'

/-- **A listener that is put there directly** takes the place behind all others. -/
theorem listening (hw : w.Seated p) (hp : p.site.isShared = true) {q : Point}
    (hl : listener.isRaw = true) :
    ((w.withScreen fun s => (s.install q listener).2).noted (.installed q listener)).Seated p := by
  have hgrows := (Grows.withScreen w fun s => (s.install q listener).2).trans
    (.noted _ (.installed q listener))
  have hroster := Screen.roster_install (s := w.screen) (q := q) hp listener
  by_cases e : q = p
  · rw [if_pos e] at hroster
    subst e
    refine hw.add (o := .raw listener) hgrows hroster ?_ ⟨rfl, hl⟩ fun hr _ => .inl ?_
    · simp [entrants_cons, entrant?]
    · simpa using hr
  · rw [if_neg e] at hroster
    refine hw.of_same hgrows ?_ (fun hr _ => by simpa using hr) hroster
    simp [entrants_cons, entrant?, e]

/-- **A listener that was put there directly is taken out** by its key. -/
theorem removing (hw : w.Seated p) {q : Point}
    (hk : q = p → ∃ listener, (.raw listener, key) ∈ entrants p w.journal) :
    ((w.withScreen fun s => (s.removeListener q key).2).noted (.removed q key)).Seated p := by
  have hgrows := (Grows.withScreen w fun s => (s.removeListener q key).2).trans
    (.noted _ (.removed q key))
  have hentrants : entrants p ((w.withScreen fun s => (s.removeListener q key).2).noted
      (.removed q key)).journal = entrants p w.journal := by
    simp [entrants_cons, entrant?]
  have hroster := Screen.roster_removeListener w.screen q p key
  by_cases e : q = p
  · rw [if_pos e] at hroster
    subst e
    obtain ⟨listener, hkey⟩ := hk rfl
    refine hw.of_entrants hgrows hentrants (fun hr _ => by simpa using hr) hroster rfl
      fun {k i l} hx hd hl => Registry.mem_pairs_remove hl ?_
    rintro rfl
    cases eq_of_mem_entrants hx hkey
  · rw [if_neg e] at hroster
    exact hw.of_same hgrows hentrants (fun hr _ => by simpa using hr) hroster

end Seated

end Toolkit

/-- **Every step keeps open subscriptions in their places**, as long as listeners are removed by
    their own keys. -/
theorem Step.seated (hb : v.Backed) (hp : p.site.isShared = true) (hk : OwnKeys p w.journal)
    (hv : v.Seated p) (h : Step m v w) : w.Seated p := by
  cases h.enlists with
  | quiet _ hj hes hrosters => exact hv.of_notes h.grows hj hes (Screen.roster_congr hrosters p)
  | disposed => exact hv.disposing hb
  | registered warm ho hd => exact hv.registering hp warm ho hd
  | started ho hd => exact (hv.registering hp true ho hd).starting _ _
  | listened hl => exact hv.listening hp hl
  | @removed q key => exact hv.removing fun e => (guarded_cons.mp hk).1 key (e ▸ rfl)

/-- Open subscriptions keep their places wherever steps lead. -/
theorem Steps.seated {w : Toolkit Unit} (hp : p.site.isShared = true)
    (h : Steps m Toolkit.fresh w) : OwnKeys p w.journal → w.Seated p := by
  refine h.invariant (I := fun w => OwnKeys p w.journal → w.Seated p) (fun _ => ?_)
    fun hv ih h hk => ?_
  · exact ⟨rfl, fun ho => absurd ho (not_occurred_nil _), nofun⟩
  · exact h.seated hv.backed hp hk (ih (Guarded.of_suffix hk h.grows.journal))

end WidgetStreams
