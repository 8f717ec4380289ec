import Mathlib.Data.List.Infix
import WidgetStreams.Proofs.Resting
import WidgetStreams.Proofs.Windows

/-!
# Dismissals of menus are told

This file proves what the listener to the dismissals of a popup menu is told: once
whenever the menu was showing and is not any more, and nothing else, whatever the
listeners of the menu do meanwhile. It also proves what a choice from a menu comes
to: one call for the chosen item, and the dismissal after that.

## Main definitions

- `hidings`, `showings` — how often a menu was hidden, and how often it was shown
- `History.dismissals`, `History.dismissalCalls` — the dismissals of menus, and who was told
- `Toolkit.Dismisses` — so many dismissals are told from one toolkit to another
- `Client.Chooses` — what a choice from a menu comes to
- `Concern.dismissing` — menus are hidden as the journal tells, a concern

## Main results

- `Client.relies_dismissMenu` — a menu that is dismissed tells so
- `Client.chooses_of_ok` — a choice that comes back is as it should be
- `Code.dismissals_told` — menus tell of their dismissals, and of nothing else

## Design notes

Showing a menu leaves no entry in the journal, so what counts is what client code
can see of a menu, moment by moment. A menu is hidden once at most between two
moments, as a call that hides it goes on with the listener, or is over. What may not
happen is that it is shown and hidden in between: that is why calls must find it at
rest.
-/

namespace WidgetStreams

open History UI

variable {σ τ α : Type} {m : Manners}

-- ════════════════════════════════════════════════════════════════════════
-- How often menus come and go
-- ════════════════════════════════════════════════════════════════════════

/-- **How often a menu was hidden** that was or was not showing at certain times, latest first. -/
def hidings : List Bool → Nat
  | is :: was :: before => (was && !is).toNat + hidings (was :: before)
  | _ => 0

/-- **How often it was shown** while it was hidden. -/
def showings (shown : List Bool) : Nat := hidings (shown.map (!·))

theorem hidings_self (b : Bool) : hidings [b, b] = 0 := by cases b <;> rfl

/-- **A menu is hidden as often as it is shown**, up to where it begins and ends. -/
theorem hidings_add (is : Bool) (between : List Bool) (was : Bool) :
    hidings (is :: (between ++ [was])) + is.toNat =
      showings (is :: (between ++ [was])) + was.toNat := by
  induction between generalizing is with
  | nil => cases is <;> cases was <;> rfl
  | cons b between ih =>
    have hrest := ih b
    simp only [List.cons_append, showings, List.map_cons, hidings] at hrest ⊢
    have hlast : (b && !is).toNat + is.toNat = (!b && !!is).toNat + b.toNat := by
      cases is <;> cases b <;> rfl
    omega

-- ════════════════════════════════════════════════════════════════════════
-- What the journal tells of dismissals
-- ════════════════════════════════════════════════════════════════════════

namespace History

/-- The menu whose dismissal an event tells, and whom that reached. -/
def dismissal? : Event → Option (Nat × Option Listener)
  | .dispatched ⟨.menuDismiss, n⟩ .menuDismissed reached => some (n, reached)
  | _ => none

/-- **The dismissals of menus**, with the listeners whom they reached. -/
def dismissals (j : List Entry) : List (Nat × Option Listener) := collect dismissal? j

/-- Who is told of a dismissal. -/
def dismissalCall? : Event → Option Listener
  | .heard listener .menuDismissed => some listener
  | _ => none

/-- **The calls of listeners** to dismissals. -/
def dismissalCalls (j : List Entry) : List Listener := collect dismissalCall? j

theorem dismissal?_of_isApart {e : Event} (he : e.isApart .menuDismiss) :
    dismissal? e = none ∧ dismissalCall? e = none := by
  obtain he | ⟨s, hs, he⟩ := he
  · cases e <;> first | exact ⟨rfl, rfl⟩ | cases he
  · cases e with
    | dispatched p event reached =>
      refine ⟨?_, rfl⟩
      obtain ⟨site, n⟩ := p
      cases site <;> first | rfl | exact absurd he.1.symm hs
    | heard listener event =>
      cases event <;> first | exact ⟨rfl, rfl⟩ | exact absurd (List.mem_singleton.mp he) hs
    | _ => exact ⟨rfl, rfl⟩

theorem eq_dispatched_of_dismissal? {e : Event} {n : Nat} {reached : Option Listener}
    (h : dismissal? e = some (n, reached)) :
    e = .dispatched ⟨.menuDismiss, n⟩ .menuDismissed reached := by
  unfold dismissal? at h
  split at h
  · cases h
    rfl
  · cases h

end History

namespace Toolkit

/-- Whether a menu is showing. -/
def shows (w : Toolkit σ) (n : Nat) : Bool := (w.screen.menus.get n).showing

/-- The toolkit with a menu that is or is not showing. -/
def turned (w : Toolkit σ) (n : Nat) (showing : Bool) : Toolkit σ :=
  w.withScreen fun s =>
    { s with menus := s.menus.modify n fun menu => { menu with showing := showing } }

theorem shows_turned (w : Toolkit σ) (n : Nat) (showing : Bool) (i : Nat) :
    (w.turned n showing).shows i = if n = i then showing else w.shows i := by
  simp only [shows, turned, withScreen, Registry.get_modify]
  split <;> rfl

/-- **So many dismissals of each menu** are told from one toolkit to another: whomever they reached
    was called, and nobody else. -/
def Dismisses (v w : Toolkit σ) (times : Nat → Nat) : Prop :=
  ∃ later, w.journal = later ++ v.journal ∧
    dismissalCalls later = (dismissals later).filterMap Prod.snd ∧
    ∀ n, (dismissals later).countP (·.1 = n) = times n

/-- **Menus are hidden as the journal tells** from one toolkit to another, once at most each. -/
def HidesAsTold (v w : Toolkit σ) : Prop := v.Dismisses w fun n => hidings [w.shows n, v.shows n]

variable {v w u : Toolkit σ} {times times' : Nat → Nat}

namespace Dismisses

theorem trans (h : v.Dismisses w times) (h' : w.Dismisses u times') :
    v.Dismisses u fun n => times' n + times n := by
  obtain ⟨first, hj, hcalls, htimes⟩ := h
  obtain ⟨second, hj', hcalls', htimes'⟩ := h'
  have hsplit : dismissals (second ++ first) = dismissals first ++ dismissals second :=
    collect_append _ _ _
  refine ⟨second ++ first, by rw [hj', hj, List.append_assoc], ?_, fun n => ?_⟩
  · rw [hsplit, List.filterMap_append, ← hcalls, ← hcalls']
    exact collect_append _ _ _
  · rw [hsplit, List.countP_append, htimes, htimes', Nat.add_comm]

/-- What is noted tells how many dismissals there are. -/
theorem of_notedAll {es : List Event} (hj : w.journal = (v.notedAll es).journal)
    (hcalls : es.filterMap dismissalCall? = (es.filterMap dismissal?).filterMap Prod.snd) :
    v.Dismisses w fun n => (es.filterMap dismissal?).countP (·.1 = n) := by
  refine ⟨(es.map fun e => (⟨v.here, e⟩ : Entry)).reverse, hj, ?_, fun n => ?_⟩
  · rw [dismissalCalls, dismissals, collect_entries, collect_entries, hcalls]
  · rw [dismissals, collect_entries]

/-- Events that tell of no dismissal. -/
theorem silent (es : List Event) (hj : w.journal = (v.notedAll es).journal)
    (hes : ∀ e ∈ es, dismissal? e = none ∧ dismissalCall? e = none) : v.Dismisses w fun _ => 0 := by
  have hnone : es.filterMap dismissal? = [] :=
    List.filterMap_eq_nil_iff.mpr fun e he => (hes e he).1
  have hcalls : es.filterMap dismissalCall? = [] :=
    List.filterMap_eq_nil_iff.mpr fun e he => (hes e he).2
  have h := of_notedAll hj (by rw [hcalls, hnone]; rfl)
  rwa [hnone] at h

/-- **A dismissal** is told to whom it reaches. -/
theorem told (n : Nat) (content : Option Listener)
    (hj : w.journal = (v.notedAll (telling ⟨.menuDismiss, n⟩ .menuDismissed content)).journal) :
    v.Dismisses w fun i => if n = i then 1 else 0 := by
  have hpick : (telling ⟨.menuDismiss, n⟩ .menuDismissed content).filterMap dismissal? =
      [(n, content)] := by
    cases content <;> rfl
  have hcalls : (telling ⟨.menuDismiss, n⟩ .menuDismissed content).filterMap dismissalCall? =
      content.toList := by
    cases content <;> rfl
  have h := of_notedAll hj (by rw [hpick, hcalls]; cases content <;> rfl)
  rw [hpick] at h
  simpa [List.countP_singleton] using h

end Dismisses

namespace HidesAsTold

/-- What is the same as far as menus go follows as well. -/
theorem of_eq (h : v.HidesAsTold w) (hj : u.journal = w.journal)
    (hshows : ∀ n, u.shows n = w.shows n) : v.HidesAsTold u := by
  obtain ⟨later, hw, hcalls, htimes⟩ := h
  refine ⟨later, hj.trans hw, hcalls, fun n => ?_⟩
  simp only [hshows]
  exact htimes n

theorem refl (w : Toolkit σ) : w.HidesAsTold w := by
  have h : w.Dismisses w fun _ => 0 := .silent [] rfl (by simp)
  simpa only [HidesAsTold, hidings_self] using h

/-- What tells of no dismissal may go on with menus as they are. -/
theorem noted (h : v.HidesAsTold w) {e : Event}
    (he : dismissal? e = none ∧ dismissalCall? e = none) : v.HidesAsTold (w.noted e) := by
  have hsilent : w.Dismisses (w.noted e) fun _ => 0 := .silent [e] rfl (by simpa using he)
  have hall := h.trans hsilent
  simp only [Nat.zero_add] at hall
  exact hall

/-- **From where menus are as they were** they may be hidden once more. -/
theorem trans_of_same (h : v.HidesAsTold w) (hshows : ∀ n, w.shows n = v.shows n)
    (h' : w.HidesAsTold u) : v.HidesAsTold u := by
  have hall := Dismisses.trans h h'
  simp only [hshows, hidings_self, Nat.add_zero] at hall
  exact hall

/-- A menu is shown, and nobody is told. -/
theorem shown (w : Toolkit σ) (n : Nat) : w.HidesAsTold (w.turned n true) := by
  have h : w.Dismisses (w.turned n true) fun _ => 0 := .silent [] rfl (by simp)
  have hnone : ∀ i, hidings [(w.turned n true).shows i, w.shows i] = 0 := by
    intro i
    rw [shows_turned]
    split
    · cases w.shows i <;> rfl
    · exact hidings_self _
  simpa only [HidesAsTold, hnone] using h

/-- **A menu is hidden**, and it is told to whom that reaches. -/
theorem hidden (w : Toolkit σ) {n : Nat} (hshows : w.shows n = true) (content : Option Listener) :
    w.HidesAsTold
      ((w.turned n false).notedAll (telling ⟨.menuDismiss, n⟩ .menuDismissed content)) := by
  have h : w.Dismisses _ fun i => if n = i then 1 else 0 := .told n content
    (w := (w.turned n false).notedAll (telling ⟨.menuDismiss, n⟩ .menuDismissed content)) rfl
  have hone : ∀ i, hidings [(w.turned n false).shows i, w.shows i] = if n = i then 1 else 0 := by
    intro i
    rw [shows_turned]
    split
    · next hi =>
      subst hi
      rw [hshows]
      rfl
    · exact hidings_self _
  have hsame : ∀ i, Toolkit.shows ((w.turned n false).notedAll
      (telling ⟨.menuDismiss, n⟩ .menuDismissed content)) i = (w.turned n false).shows i :=
    fun _ => rfl
  simpa only [HidesAsTold, hsame, hone] using h

end HidesAsTold

end Toolkit

-- ════════════════════════════════════════════════════════════════════════
-- Menus are hidden as the journal tells
-- ════════════════════════════════════════════════════════════════════════

/-- **Which menus are hidden**, a concern. -/
def Concern.dismissing : Concern .menuDismiss where
  panics := True
  holds us w := (us.headD Toolkit.fresh).HidesAsTold w
  same _ _ := True
  refl _ := trivial
  trans _ _ := trivial
  spared hv hj hs := ⟨hv.of_eq hj fun n => by rw [Toolkit.shows, hs, Toolkit.shows], trivial⟩
  note hw he := ⟨hw.noted (dismissal?_of_isApart he), trivial⟩
  moment _ := .refl _

/-- **Menus at rest** are as they were at the latest moment. -/
def Concern.dismissing.rest : Concern.dismissing.Rest where
  rests us w := ∀ n, w.shows n = (us.headD Toolkit.fresh).shows n
  spared hv _ hs n := by
    rw [← hv n, Toolkit.shows, hs, Toolkit.shows]
  note hw _ := hw
  moment _ _ := rfl

namespace Client

variable {w : Toolkit (Desk τ)} {c : Client (Desk τ)}

theorem run_menu_bind (n : Nat) (f : Menu → UI σ α) (w : Toolkit σ) :
    (UI.menu n >>= f) w = f (w.screen.menus.get n) w := rfl

theorem run_dismissMenu (c : Client σ) (w : Toolkit σ) (n : Nat) :
    c.dismissMenu n w = if w.shows n = true then
      discard (c.notify ⟨.menuDismiss, n⟩ .menuDismissed) (w.turned n false)
      else .ok () (w.turned n false) := by
  change (if w.shows n = true then _ else _ : UI σ Unit) (w.turned n false) = _
  rw [run_ite]
  rfl

/-- **From rest** a menu may be hidden as the journal tells. -/
theorem dismissing_kept (hw : Concern.dismissing.Kept w) (hrest : Concern.dismissing.rest.At w)
    {u : Toolkit (Desk τ)} (h : w.erased.HidesAsTold u.erased) (hc : u.client = w.client) :
    Concern.dismissing.Kept u := by
  refine ⟨?_, hc ▸ hw.record⟩
  change (u.client.moments.headD Toolkit.fresh).HidesAsTold u.erased
  rw [hc]
  exact Toolkit.HidesAsTold.trans_of_same hw.now hrest h

variable (hc : c.Has (Settles Concern.dismissing.rest))
include hc

/-- **A menu that is dismissed** tells so, if it was showing. -/
theorem relies_dismissMenu (n : Nat) : Relies Concern.dismissing.rest Unit (c.dismissMenu n) := by
  intro w hw hrest
  rw [run_dismissMenu]
  split
  · next hshows =>
    have htold := dismissing_kept hw hrest (Toolkit.HidesAsTold.hidden w.erased hshows
      (w.screen.slot ⟨.menuDismiss, n⟩).content)
      (u := (w.turned n false).notedAll (telling ⟨.menuDismiss, n⟩ .menuDismissed
        (w.screen.slot ⟨.menuDismiss, n⟩).content)) rfl
    refine (Concern.dismissing.rest.notify hc (w := w.turned n false) htold).bind False.elim
      fun _ u hu _ => ⟨hu, trivial⟩
  · next hshows =>
    refine ⟨dismissing_kept hw hrest ((Toolkit.HidesAsTold.refl _).of_eq rfl fun i => ?_) rfl,
      trivial⟩
    refine (Toolkit.shows_turned w n false i).trans ?_
    split
    · next hi =>
      subst hi
      exact (Bool.eq_false_iff.mpr hshows).symm
    · rfl

/-- **A choice from a menu** finds the menu as its click listener leaves it. -/
theorem relies_chooseItem (n : Nat) (id : Int32) :
    Relies Concern.dismissing.rest Bool (c.chooseItem n id) := by
  have htrait := Concern.dismissing.rest.trait (τ := τ)
  have hclick : Admits (Settles Concern.dismissing.rest (τ := τ)) .menuClick :=
    Concern.dismissing.rest.admits (by decide)
  refine Concern.Rest.relies_bind (htrait.read fun _ => ⟨_, rfl⟩) fun menu => ?_
  split
  · exact (htrait.pure false).relies
  · refine Concern.Rest.relies_bind (htrait.ask hc hclick n (.head _)) fun answer w hw hrest => ?_
    exact (relies_dismissMenu hc n w hw hrest).bind False.elim fun _ u hu _ => ⟨hu, trivial⟩

omit hc in
/-- A menu that is made is not showing. -/
theorem relies_newMenu (anchor : ViewId) (items : List MenuItem) :
    Relies Concern.dismissing.rest (τ := τ) Nat (UI.newMenu anchor items) := by
  intro w hw hrest
  refine ⟨dismissing_kept hw hrest ((Toolkit.HidesAsTold.refl _).of_eq rfl fun n => ?_) rfl,
    trivial⟩
  change ((w.screen.menus.add { anchor := anchor, items := items }).2.get n).showing =
    (w.screen.menus.get n).showing
  rw [Registry.get, Registry.get, Registry.find?_add_eq]
  cases w.screen.menus.find? n with
  | some menu => rfl
  | none => split <;> rfl

/-- **Calls for menus** find these at rest. -/
theorem relies_perform (k : Call α) (hk : .menuDismiss ∈ k.sites) :
    Relies Concern.dismissing.rest α (k.perform c) := by
  cases k with
  | newMenu anchor items => exact relies_newMenu anchor items
  | showMenu n =>
    exact fun w hw hrest => ⟨dismissing_kept hw hrest (.shown w.erased n) rfl, trivial⟩
  | dismissMenu n => exact relies_dismissMenu hc n
  | chooseItem n id => exact relies_chooseItem hc n id
  | _ => simp [Call.sites] at hk

end Client

-- ════════════════════════════════════════════════════════════════════════
-- Choices
-- ════════════════════════════════════════════════════════════════════════

/-- The first item of an id in a menu. -/
def Toolkit.itemOf (w : Toolkit σ) (n : Nat) (id : Int32) : Option MenuItem :=
  (w.screen.menus.get n).items.find? fun item => item.id = id

/-- **What a choice from a menu comes to**, by way of the toolkit `y` as it is when the listener to
    clicks has answered. -/
structure Client.Chooses (c : Client σ) (n : Nat) (item : MenuItem) (w y : Toolkit σ)
    (answer : Bool) (u : Toolkit σ) : Prop where
  /-- The listener is called for the item, and gives the answer. -/
  asked : ∀ listener, (w.screen.slot ⟨.menuClick, n⟩).content = some listener →
    c.hearAs listener (.menuItemClicked item)
      (w.noted (.dispatched ⟨.menuClick, n⟩ (.menuItemClicked item) (some listener))) = .ok answer y
  /-- If there is none, nothing happens to the menu, and the answer is no. -/
  unasked : (w.screen.slot ⟨.menuClick, n⟩).content = none → answer = false ∧
    y = w.noted (.dispatched ⟨.menuClick, n⟩ (.menuItemClicked item) none)
  /-- Then the menu is dismissed. -/
  dismissed : c.dismissMenu n y = .ok () u
  /-- It is hidden, unless the listener to its dismissal has shown it again. -/
  shown : u.shows n = true → y.shows n = true ∧ ∃ listener consumed hidden,
    (y.screen.slot ⟨.menuDismiss, n⟩).content = some listener ∧ hidden.shows n = false ∧
      c.hearAs listener .menuDismissed hidden = .ok consumed u

namespace Client

variable {c : Client σ} {w u : Toolkit σ} {n : Nat} {id : Int32} {item : MenuItem}

theorem run_chooseItem_of_none (h : w.itemOf n id = none) : c.chooseItem n id w = .ok false w := by
  rw [Toolkit.itemOf] at h
  simp only [chooseItem, run_menu_bind, h]
  rfl

theorem run_chooseItem_of_some (h : w.itemOf n id = some item) : c.chooseItem n id w =
    (c.notify ⟨.menuClick, n⟩ (.menuItemClicked item) >>= fun answer =>
      c.dismissMenu n >>= fun _ => pure (answer.getD false)) w := by
  rw [Toolkit.itemOf] at h
  simp only [chooseItem, run_menu_bind, h, ask, bind_assoc, pure_bind]

/-- **A menu that shows after it was dismissed** was shown again by who was told. -/
theorem shown_of_dismissMenu (h : c.dismissMenu n w = .ok () u) (hu : u.shows n = true) :
    w.shows n = true ∧ ∃ listener consumed hidden,
      (w.screen.slot ⟨.menuDismiss, n⟩).content = some listener ∧ hidden.shows n = false ∧
        c.hearAs listener .menuDismissed hidden = .ok consumed u := by
  have hhidden : (w.turned n false).shows n = false :=
    (w.shows_turned n false n).trans (if_pos rfl)
  rw [run_dismissMenu] at h
  split at h
  · next hshows =>
    obtain ⟨_, _, hr, hend⟩ := of_bind_ok h
    cases hend
    obtain ⟨-, -, rfl⟩ | ⟨listener, consumed, hcontent, -, hheard⟩ := ok_of_notify hr
    · exact absurd (hu.symm.trans hhidden) (by decide)
    · refine ⟨hshows, listener, consumed, _, hcontent, ?_, hheard⟩
      exact hhidden
  · cases h
    exact absurd (hu.symm.trans hhidden) (by decide)

/-- **A choice that comes back** is one as it should be. -/
theorem chooses_of_ok (hitem : w.itemOf n id = some item) {answer : Bool}
    (h : c.chooseItem n id w = .ok answer u) : ∃ y, c.Chooses n item w y answer u := by
  rw [run_chooseItem_of_some hitem] at h
  obtain ⟨asked, y, hasked, h⟩ := of_bind_ok h
  obtain ⟨_, _, hdismissed, h⟩ := of_bind_ok h
  cases h
  refine ⟨y, fun listener hl => ?_, fun hnone => ?_, hdismissed, shown_of_dismissMenu hdismissed⟩
  · obtain ⟨hnone, -, -⟩ | ⟨listener', consumed, hl', rfl, hheard⟩ := ok_of_notify hasked
    · rw [hnone] at hl
      cases hl
    · rw [hl'] at hl
      cases hl
      exact hheard
  · obtain ⟨-, rfl, rfl⟩ | ⟨listener', consumed, hl', -⟩ := ok_of_notify hasked
    · exact ⟨rfl, rfl⟩
    · rw [hl'] at hnone
      cases hnone

/-- **A choice comes back** unless one of the listeners comes to no end. -/
theorem error_of_chooseItem (hitem : w.itemOf n id = some item) {e : Interrupt}
    (h : c.chooseItem n id w = .error e u) :
    (∃ listener x, (w.screen.slot ⟨.menuClick, n⟩).content = some listener ∧
      c.hearAs listener (.menuItemClicked item) x = .error e u) ∨
    ∃ (y : Toolkit σ) (listener : Listener) (x : Toolkit σ), y.shows n = true ∧
      (y.screen.slot ⟨.menuDismiss, n⟩).content = some listener ∧
        c.hearAs listener .menuDismissed x = .error e u := by
  rw [run_chooseItem_of_some hitem] at h
  obtain h | ⟨_, y, -, h⟩ := of_bind_error h
  · exact .inl (error_of_notify h)
  obtain h | ⟨_, _, -, h⟩ := of_bind_error h
  · rw [run_dismissMenu] at h
    split at h
    · next hshows =>
      obtain ⟨listener, x, hcontent, hx⟩ := error_of_notify (of_discard_error h)
      exact .inr ⟨y, listener, x, hshows, hcontent, hx⟩
    · cases h
  · cases h

end Client

-- ════════════════════════════════════════════════════════════════════════
-- What listeners to dismissals are told
-- ════════════════════════════════════════════════════════════════════════

/-- **What menus did between two moments** on record is told, whatever happened in between. The
    induction is on the moments between. -/
theorem Concern.Recorded.dismisses {us : List (Toolkit Unit)} (h : Concern.dismissing.Recorded us)
    {w u : Toolkit Unit} {between earlier : List (Toolkit Unit)}
    (hus : w :: (between ++ u :: earlier) <:+ us) :
    u.Dismisses w fun n => hidings ((w :: (between ++ [u])).map (·.shows n)) := by
  induction between generalizing w with
  | nil => exact h w _ hus
  | cons x between ih =>
    have hlater := ih ((List.suffix_cons w _).trans hus)
    exact hlater.trans (h w _ hus)

namespace Code

/-- Menus are hidden as the journal tells at every moment of a run, and are at rest when it is
    over. -/
theorem menus_rested (code : Code m τ) (depth : Nat) (own : τ) (program : Program m τ True True α) :
    Concern.dismissing.Recorded (code.moments depth own program) ∧
    ∀ a u, code.outcome depth own program = .ok a u →
      ((code.moments depth own program).headD Toolkit.fresh).HidesAsTold u.erased ∧
        ∀ n, u.shows n = ((code.moments depth own program).headD Toolkit.fresh).shows n := by
  have hconnect : ∀ {c : Client (Desk τ)}, c.Has (Settles Concern.dismissing.rest) →
      ∀ stream b h, Settles Concern.dismissing.rest False Unit (c.connect stream b h) := by
    intro c hc stream b h
    refine Concern.dismissing.rest.trait.connect hc (fun h key w hw => ?_) stream b h
    exact ⟨⟨hw.now.noted ⟨rfl, rfl⟩, hw.record⟩, id⟩
  exact rested hconnect (fun hc _ k hs => Client.relies_perform hc k hs) code depth own program
    (.refl _)

variable {code : Code m τ} {depth : Nat} {own : τ} {program : Program m τ True True α}

/-- **Dismissals are told**, in every run. Between any two moments as many dismissals of a menu are
    told as the menu was hidden, which is as often as it was shown, up to how it began and ended;
    they reach whoever has the slot throughout; and whomever dismissals reach is called, in order,
    and nobody else. Nothing is left to be told when the run is over. A choice of an unknown id
    changes nothing and tells nobody; a choice of an item comes to one call for the first item of
    the id, and the dismissal after that, unless a listener comes to no end. -/
theorem dismissals_told :
    (∀ later w between u earlier,
      code.moments depth own program = later ++ w :: (between ++ u :: earlier) →
      ∃ added, w.journal = added ++ u.journal ∧
        dismissalCalls added = (dismissals added).filterMap Prod.snd ∧
        ∀ n shown, shown = (w :: (between ++ [u])).map (·.shows n) →
          (dismissals added).countP (·.1 = n) = hidings shown ∧
          hidings shown + (w.shows n).toNat = showings shown + (u.shows n).toNat ∧
          ∀ o, (∀ i, u.journal <:+ i → i <:+ w.journal → owner ⟨.menuDismiss, n⟩ i = some o) →
            ∀ reached, (n, reached) ∈ dismissals added →
              Stands ⟨.menuDismiss, n⟩ w.journal (some o) reached) ∧
    (∀ a u, code.outcome depth own program = .ok a u → ∃ last,
      last = (code.moments depth own program).headD Toolkit.fresh ∧ last.HidesAsTold u.erased ∧
        ∀ n, u.shows n = last.shows n) ∧
    ∀ (w : Toolkit (Desk τ)) n id,
      (w.itemOf n id = none → (code.client depth).chooseItem n id w = .ok false w) ∧
      ∀ item, w.itemOf n id = some item →
        (∀ answer u, (code.client depth).chooseItem n id w = .ok answer u →
          ∃ y, (code.client depth).Chooses n item w y answer u) ∧
        ∀ e u, (code.client depth).chooseItem n id w = .error e u →
          (∃ listener x, (w.screen.slot ⟨.menuClick, n⟩).content = some listener ∧
            (code.client depth).hearAs listener (.menuItemClicked item) x = .error e u) ∨
          ∃ (y : Toolkit (Desk τ)) (listener : Listener) (x : Toolkit (Desk τ)), y.shows n = true ∧
            (y.screen.slot ⟨.menuDismiss, n⟩).content = some listener ∧
            (code.client depth).hearAs listener .menuDismissed x = .error e u := by
  obtain ⟨hrecorded, hend⟩ := menus_rested code depth own program
  refine ⟨fun later w between u earlier hus => ?_, fun a u hr => ?_, fun w n id => ?_⟩
  · have hin : w ∈ code.moments depth own program := by
      rw [hus]
      exact List.mem_append_right _ (.head _)
    have hsuffix : w :: (between ++ u :: earlier) <:+ code.moments depth own program := by
      rw [hus]
      exact List.suffix_append _ _
    obtain ⟨added, hj, hcalls, htimes⟩ := hrecorded.dismisses hsuffix
    refine ⟨added, hj, hcalls, fun n shown hshown => ⟨?_, ?_, fun o ho reached hd => ?_⟩⟩
    · rw [hshown]
      exact htimes n
    · rw [hshown, List.map_cons, List.map_append]
      exact hidings_add _ _ _
    · obtain ⟨e, hd, he⟩ := mem_collect.mp hd
      rw [eq_dispatched_of_dismissal? he] at hd
      exact (Steps.reachesHolders rfl (reachable hin)).stands hj ho hd
  · obtain ⟨hlast, hsame⟩ := hend a u hr
    exact ⟨_, rfl, hlast, hsame⟩
  · exact ⟨Client.run_chooseItem_of_none, fun item hitem =>
      ⟨fun _ _ => Client.chooses_of_ok hitem, fun _ _ => Client.error_of_chooseItem hitem⟩⟩

/-- Its listener to clicks dismisses the menu and shows it again, and its listener to dismissals
    shows it again the first time. -/
def relenting : Code ⟨false, false, true, false⟩ Unit :=
  { quiet _ with
    hear := fun _ e =>
      match e with
      | .menuItemClicked _ =>
        .call (.dismissMenu 1) (fun _ => rfl) (fun h => h.elim id id) fun _ =>
          .call (.showMenu 1) (fun _ => rfl) False.elim fun _ => .done true
      | .menuDismissed =>
        .look fun w _ =>
          if (dismissals w.journal).length = 1 then
            .call (.showMenu 1) (fun _ => rfl) False.elim fun _ => .done true
          else .done true
      | _ => .done true }

/-- Make a menu with two items of one id, listen to it, show it, and go on. -/
def offering (next : Nat → Program m τ True True α) : Program m τ True True α :=
  .making (.newView .main) fun v =>
    .making (.newMenu v [⟨7, "a"⟩, ⟨7, "b"⟩]) fun n =>
      .making (.listen ⟨.menuClick, n⟩ (some 0)) fun _ =>
        .making (.listen ⟨.menuDismiss, n⟩ (some 1)) fun _ =>
          .making (.showMenu n) fun _ => next n

/-- The moments of a choice from such a menu. -/
def relented : List (Toolkit Unit) :=
  relenting.moments 6 () (offering fun n => .making (.chooseItem n 7) .done)

/-- The menu is dismissed twice in the course of a choice, once by the listener to clicks and once
    for the choice, and that is told twice. Then it is hidden, and the first of the two items was
    chosen. -/
theorem dismissals_told_relenting :
    (∃ w u between earlier, relented = w :: (between ++ u :: earlier) ∧ u.shows 1 = false ∧
      w.shows 1 = false ∧ ∃ added, w.journal = added ++ u.journal ∧
        (dismissals added).countP (·.1 = 1) = 2 ∧
        (∀ reached, (1, reached) ∈ dismissals added → reached = some (.client 1)) ∧
        dismissalCalls added = (dismissals added).filterMap Prod.snd) ∧
    ∃ w y u, relenting.outcome 6 () (offering .done) = .ok 1 w ∧
      (relenting.client 6).chooseItem 1 8 w = .ok false w ∧
      (relenting.client 6).Chooses 1 ⟨7, "a"⟩ w y true u ∧ u.shows 1 = false := by
  constructor
  · have hfirst : 0 < relented.length := by decide +kernel
    have hlast : 10 < relented.length := by decide +kernel
    have hhidden : relented[10].shows 1 = false ∧ relented[0].shows 1 = false := by
      decide +kernel +revert
    have hshown : hidings ((relented[0] :: ((relented.drop 1).take 9 ++ [relented[10]])).map
        (·.shows 1)) = 2 := by decide +kernel +revert
    have howner : ∀ i ∈ relented[0].journal.tails, relented[10].journal.length ≤ i.length →
        owner ⟨.menuDismiss, 1⟩ i = some (.raw (.client 1)) := by decide +kernel +revert
    have hsplit : relented = relented[0] ::
        ((relented.drop 1).take 9 ++ relented[10] :: relented.drop 11) := by
      rw [← List.drop_eq_getElem_cons hlast, ← List.drop_drop (i := 9) (j := 1),
        List.take_append_drop, ← List.drop_eq_getElem_cons hfirst, List.drop_zero]
    obtain ⟨added, hj, hcalls, hmenus⟩ := dismissals_told.1 [] _ _ _ _ hsplit
    obtain ⟨hcount, -, hreached⟩ := hmenus 1 _ rfl
    refine ⟨_, _, _, _, hsplit, hhidden.1, hhidden.2, added, hj, hcount.trans hshown,
      fun reached hd => ?_, hcalls⟩
    exact (hreached _ (fun i hu hw => howner i ((List.mem_tails _ _).mpr hw) hu.length_le)
      reached hd).1
  · obtain ⟨w, hw, htest⟩ : ∃ w, relenting.outcome 6 () (offering .done) = .ok 1 w ∧
        (w.itemOf 1 8 = none && w.itemOf 1 7 = some ⟨7, "a"⟩ &&
          answers ((relenting.client 6).chooseItem 1 7 w) true fun u => !u.shows 1) = true :=
      exists_of_answers (by decide +kernel)
    obtain ⟨hitems, hchosen⟩ := Bool.and_eq_true_iff.mp htest
    obtain ⟨hunknown, hknown⟩ := Bool.and_eq_true_iff.mp hitems
    obtain ⟨u, hr, hhidden⟩ := exists_of_answers hchosen
    obtain ⟨-, -, hchoices⟩ := @dismissals_told _ _ _ relenting 6 () (offering .done)
    obtain ⟨y, hy⟩ := ((hchoices w 1 7).2 _ (of_decide_eq_true hknown)).1 true u hr
    exact ⟨w, y, u, hw, (hchoices w 1 8).1 (of_decide_eq_true hunknown), hy, by simpa using hhidden⟩

end Code

end WidgetStreams
