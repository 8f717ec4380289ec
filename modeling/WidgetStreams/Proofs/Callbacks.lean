import WidgetStreams.Proofs.Panicking
import WidgetStreams.Proofs.Rosters
import WidgetStreams.Proofs.Windows

/-!
# What subscriptions receive where any number may be

This file proves that a subscription receives what its binding makes of the
events of which its listener is told, in order, after the value with which it
started, until it is disposed; then it receives nothing more, though its
listener may still be told of what was begun before.

## Main definitions

- `History.callbacks` — the events of which the listener of an open subscription was told
- `Toolkit.Received` — what subscriptions received fits what their listeners were told

## Main results

- `Step.received` — every step keeps that

## Design notes

Nothing is said of a subscription whose bridge ever let a signal wait. None does
if callbacks make no bridge take a signal.
-/

namespace WidgetStreams

open History

/-- Whether an event is none of what is noted when the listener of a certain subscription is told of
    something, when its bridge hands over a value, or when it starts with one. -/
def Event.passesBy (h : HandleId) (b : BridgeId) : Event → Bool
  | .began bridge signal => bridge != b || signal.value?.isNone
  | .heard (.forward _ bridge _) _ => bridge != b
  | .attached handle _ warm => handle != h || !warm
  | _ => true

theorem Event.passesBy_of_isForeign {h : HandleId} {b : BridgeId} {e : Event}
    (he : e.isForeign h b = true) : e.passesBy h b = true := by
  cases e with
  | heard => cases he
  | began c signal =>
    cases signal with
    | next value => exact (Bool.or_false _).trans he
    | _ => exact Bool.or_true _
  | attached => exact he
  | _ => rfl

namespace History

/-- **The callbacks of a subscription**: the native events of which its listener was told before it
    was disposed. -/
def callbacks (h : HandleId) (b : BridgeId) : List Entry → List NativeEvent
  | [] => []
  | x :: earlier =>
    match x.event with
    | .heard (.forward _ bridge _) e =>
      if bridge = b ∧ ¬ Occurred (.disposed h) earlier then callbacks h b earlier ++ [e]
      else callbacks h b earlier
    | _ => callbacks h b earlier

/-- What the journal tells of a subscription where any number may be: the native events are those of
    which its listener was told. -/
def account (h : HandleId) (b : BridgeId) (j : List Entry) : View :=
  ⟨values b j, callbacks h b j, warmed h j⟩

variable {h : HandleId} {b : BridgeId} {j : List Entry} {t : Thread} {e : NativeEvent}

theorem account_cons_of_passesBy {x : Entry} (hx : x.event.passesBy h b = true) :
    account h b (x :: j) = account h b j := by
  obtain ⟨t, e⟩ := x
  cases e with
  | began c signal =>
    have hnone : (if c = b then signal.value?.toList else []) = [] := by
      by_cases e : c = b
      · simpa [Event.passesBy, e] using hx
      · exact if_neg e
    simp only [account, values_cons_began, hnone, List.append_nil]
    rfl
  | ended c =>
    simp only [account, values_cons_ended]
    rfl
  | attached k key warm =>
    have hwarmed : warmed h (⟨t, .attached k key warm⟩ :: j) = warmed h j := by
      cases warm with
      | false => rfl
      | true =>
        have hne : k ≠ h := by simpa [Event.passesBy] using hx
        simp [warmed, hne]
    simp only [account, hwarmed]
    rfl
  | heard listener event =>
    cases listener with
    | forward binding c judge =>
      have hne : ¬ (c = b ∧ ¬ Occurred (.disposed h) j) := by
        rintro ⟨rfl, -⟩
        simp [Event.passesBy] at hx
      simp only [account, callbacks, if_neg hne]
      rfl
    | _ => rfl
  | _ => rfl

theorem account_cons_began {value : Payload} : account h b (⟨t, .began b (.next value)⟩ :: j) =
    { account h b j with values := (account h b j).values ++ [value] } := by
  simp only [account, values_cons_began, if_pos]
  rfl

theorem account_cons_attached {key : Option Nat} :
    account h b (⟨t, .attached h key true⟩ :: j) = { account h b j with warmed := true } := by
  have hwarmed : warmed h (⟨t, .attached h key true⟩ :: j) = true := by simp [warmed]
  simp only [account, hwarmed]
  rfl

theorem account_cons_heard {binding : Binding} {judge : Judge} :
    account h b (⟨t, .heard (.forward binding b judge) e⟩ :: j) =
      if Occurred (.disposed h) j then account h b j
      else { account h b j with window := (account h b j).window ++ [e] } := by
  by_cases hd : Occurred (.disposed h) j
  · simp only [account, callbacks, hd, not_true, and_false, if_false, if_true]
    rfl
  · simp only [account, callbacks, hd, not_false_iff, and_true, if_false, if_true]
    rfl

/-- A subscription whose listener was never told has no callbacks. -/
theorem callbacks_eq_nil
    (hj : ∀ binding judge e, ¬ Occurred (.heard (.forward binding b judge) e) j) :
    callbacks h b j = [] := by
  induction j with
  | nil => rfl
  | cons x j ih =>
    have hrest : callbacks h b j = [] := ih fun binding judge e ho =>
      hj binding judge e (occurred_cons.mpr (.inr ho))
    rw [callbacks]
    split
    · next binding c judge e he =>
      rw [if_neg, hrest]
      rintro ⟨rfl, -⟩
      exact hj binding judge e (occurred_cons.mpr (.inl he))
    · exact hrest

end History

variable {σ : Type} {m : Manners} {v w : Toolkit σ} {h k : HandleId} {b : BridgeId}

theorem History.account_notedAll {es : List Event} (hes : ∀ e ∈ es, e.passesBy h b = true) :
    account h b (w.notedAll es).journal = account h b w.journal :=
  Toolkit.read_notedAll (fun e he _ _ hx => account_cons_of_passesBy (hx ▸ hes e he)) w

/-- What had to wait by some time had to wait by any time after it. -/
theorem History.waited_eq_nil_of_suffix {i j : List Entry} (hij : i <:+ j)
    (hj : waited b j = []) : waited b i = [] := by
  refine List.eq_nil_iff_forall_not_mem.mpr fun signal hs => ?_
  obtain ⟨e, ⟨x, hx, hxe⟩, he⟩ := mem_collect.mp hs
  have hmem : signal ∈ waited b j := mem_collect.mpr ⟨e, ⟨x, hij.subset hx, hxe⟩, he⟩
  rw [hj] at hmem
  cases hmem

namespace Toolkit

/-- **Listeners are told after they are registered.** -/
def HearsEnrolled (w : Toolkit σ) : Prop :=
  Guarded (fun earlier e => ∀ binding b judge event, e = .heard (.forward binding b judge) event →
    ∃ owner, Enrolled b binding owner judge earlier) w.journal

/-- **Subscriptions received what their listeners were told**, where any number may be. -/
def Received (w : Toolkit σ) : Prop :=
  ∀ h b binding n judge, binding.site.isShared = true →
    Occurred (.subscribing h b (.widget binding n judge)) w.journal → waited b w.journal = [] →
      (account h b w.journal).Fits binding

/-- The journal tells nothing of the callbacks of a subscription that is not registered yet. -/
theorem HearsEnrolled.callbacks_eq_nil (hw : w.HearsEnrolled) (hone : w.Single) (hs : w.Sound)
    {source : Source} (ho : Occurred (.subscribing h b source) w.journal)
    (hm : ∀ source key, ¬ Occurred (.registered h source key) w.journal) :
    callbacks h b w.journal = [] := by
  refine History.callbacks_eq_nil fun binding judge e he => ?_
  obtain ⟨i, hi, hown⟩ := Guarded.occurred hw he
  obtain ⟨owner, k, key, ⟨x, hx, hxe⟩, ⟨y, hy, hye⟩⟩ := hown binding b judge e rfl
  obtain ⟨rfl, -⟩ := hone.of_bridge hs ho ⟨x, hi.subset hx, hxe⟩
  exact hm _ _ ⟨y, hi.subset hy, hye⟩

/-- The journal tells nothing of a subscription that is not there. -/
theorem Sound.account_eq (hs : w.Sound) (he : w.HearsEnrolled) (hh : ¬ w.HasHandle h)
    (hb : ¬ w.HasBridge b) : account h b w.journal = ⟨[], [], false⟩ := by
  have hview := hs.view_eq (p := ⟨.page, 0⟩) hh hb
  have hcallbacks : callbacks h b w.journal = [] := by
    refine History.callbacks_eq_nil fun binding judge e ho => ?_
    obtain ⟨i, hi, hown⟩ := Guarded.occurred he ho
    obtain ⟨owner, k, key, ⟨x, hx, hxe⟩, -⟩ := hown binding b judge e rfl
    exact hb (hs.knows ⟨x, hi.subset hx, hxe⟩).1
  rw [account, hcallbacks, show values b w.journal = [] from congrArg View.values hview,
    show warmed h w.journal = false from congrArg View.warmed hview]

end Toolkit

theorem Step.hearsEnrolled (hs : v.Sound) (hv : v.HearsEnrolled) (h : Step m v w) :
    w.HearsEnrolled := by
  refine (h.explained hs).guarded hv fun i e _ _ he binding b judge event hee => ?_
  subst hee
  exact he

-- ════════════════════════════════════════════════════════════════════════
-- Every step keeps what subscriptions received
-- ════════════════════════════════════════════════════════════════════════

/-- What the listener of an open subscription is told, and its bridge takes, is handed over. -/
theorem History.account_hearing (hd : ¬ Occurred (.disposed h) w.journal) {binding : Binding}
    {judge : Judge} {e : NativeEvent} {value : Payload} :
    account h b (w.notedAll [.heard (.forward binding b judge) e, .accepted b (.next value) false,
      .began b (.next value)]).journal =
        { account h b w.journal with
          values := (account h b w.journal).values ++ [value]
          window := (account h b w.journal).window ++ [e] } := by
  simp only [Toolkit.notedAll_cons, Toolkit.notedAll_nil, Toolkit.journal_noted, account_cons_began]
  rw [account_cons_of_passesBy (x := ⟨_, .accepted b (.next value) false⟩) rfl, account_cons_heard,
    if_neg hd]

/-- **Every step keeps what subscriptions received** where any number may be, as long as nothing had
    to wait and nobody else emits on the bridges of widgets. -/
theorem Step.received (hev : m.everywhere = false) (hs : v.Sound) (hone : v.Single) (ht : v.Told)
    (he : v.HearsEnrolled) (hq : ∀ b, waited b v.journal = [] → v.queue b = []) (hv : v.Received)
    (h : Step m v w) : w.Received := by
  intro k b binding n judge hsite how hwaited
  obtain ho | ⟨rfl, rfl, observer, rfl⟩ := h.occurred_subscribing hs how
  swap
  · -- the subscription is new
    have haccount : account v.handles.next v.bridges.next
        (v.subscribing (.widget binding n judge) observer).journal = ⟨[], [], false⟩ := by
      rw [Toolkit.subscribing, Toolkit.journal_starting, account_notedAll
        (by simp [Event.passesBy, Signal.value?])]
      exact (account_cons_of_passesBy rfl).trans
        (hs.account_eq he hs.not_hasHandle_next hs.not_hasBridge_next)
    change (account v.handles.next v.bridges.next
      (v.subscribing (.widget binding n judge) observer).journal).Fits binding
    rw [haccount]
    exact ⟨none, rfl, rfl⟩
  have hwaited' := waited_eq_nil_of_suffix h.grows.journal hwaited
  have hfits := hv k b binding n judge hsite ho hwaited'
  obtain ⟨hb, hbk⟩ := hs.knows ho
  have hopen : v.closed b = false → ¬ Occurred (.disposed k) v.journal := by
    intro hc hd
    rw [Toolkit.closed, hbk, ht.disposed hd] at hc
    cases hc
  have hsame : ∀ es, w.journal = (v.notedAll es).journal → (∀ e ∈ es, e.passesBy k b = true) →
      (account k b w.journal).Fits binding := by
    intro es hj hes
    rw [hj, account_notedAll hes]
    exact hfits
  have hnow : ∀ notes {value queued}, w.journal =
      (v.notedAll (notes ++ takings b value queued)).journal → queued = false := by
    intro notes value queued hj
    cases queued with
    | false => rfl
    | true =>
      rw [hj, waited_notedAll] at hwaited
      simp [takings, taken?] at hwaited
  cases h.befalls hev hs hone ho with
  | quiet _ hj hes => exact hsame _ hj fun e he => Event.passesBy_of_isForeign (hes e he)
  | registered hm hd =>
    exact hsame _ (Toolkit.journal_noted_registering hd _) (by simp [Event.passesBy])
  | started hm hd =>
    have hcallbacks : callbacks k b v.journal = [] :=
      he.callbacks_eq_nil hone hs ho fun source key => not_registered_of_milestones hm
    rw [Toolkit.journal_starting_registering hd]
    simp only [Toolkit.notedAll_cons, Toolkit.notedAll_nil, Toolkit.journal_noted,
      account_cons_began]
    rw [account_cons_of_passesBy (x := ⟨_, .accepted b _ false⟩) rfl, account_cons_attached,
      account_cons_of_passesBy (x := ⟨_, .armed k _⟩) rfl,
      account_cons_of_passesBy (x := ⟨_, .registered k _ _⟩) rfl]
    exact hfits.warm hcallbacks (warmed_of_milestones hm) _
  | advanced hqueue =>
    rw [hq b hwaited'] at hqueue
    cases hqueue
  | @told w e value queued turn hcontent halive hmember hvalue hsignals hj =>
    obtain rfl := hnow [_, _] hj
    have hdispatched : account k b (v.noted (.dispatched (binding.point n) e
        (some (.forward binding b judge)))).journal = account k b v.journal :=
      account_cons_of_passesBy rfl
    rw [hj, List.cons_append, Toolkit.notedAll_cons, takings, if_neg Bool.false_ne_true,
      List.singleton_append, account_hearing, hdispatched]
    · exact hfits.deliver hvalue
    · simpa using hopen halive
  | @notified w e value queued hshared hscreen halive hmember hvalue hj =>
    obtain rfl := hnow [_] hj
    rw [hj, takings, if_neg Bool.false_ne_true, List.singleton_append,
      account_hearing (hopen halive)]
    exact hfits.deliver hvalue
  | @toldOther w q e c binding' judge' value queued hcb turn hcontent hj =>
    refine hsame _ hj ?_
    cases queued <;> simp [takings, Event.passesBy, hcb]
  | @notifiedOther w e c binding' judge' value queued hcb hscreen hj =>
    refine hsame _ hj ?_
    cases queued <;> simp [takings, Event.passesBy, hcb]
  | ignored hnone =>
    rw [Toolkit.journal_noted, account_cons_heard]
    split
    · exact hfits
    · next hd =>
      obtain hnone | hclosed := hnone
      · exact hfits.pass hnone
      · exact absurd (hbk ▸ ht.closed hb hclosed) hd
  | @heardOther l e hother =>
    refine hsame [_] rfl (List.forall_mem_singleton.mpr ?_)
    cases l with
    | forward binding' c judge' => simpa [Event.passesBy] using hother binding' judge'
    | _ => rfl
  | passed | operating | altered | operated | flagged =>
    exact hsame [_] rfl (by simp [Event.passesBy])

theorem Steps.hearsEnrolled {w : Toolkit Unit} (h : Steps m Toolkit.fresh w) :
    w.HearsEnrolled :=
  h.invariant (guarded_nil _) fun hv ih h => h.hearsEnrolled hv.sound_of_fresh ih

/-- What never had to wait does not wait. -/
theorem Steps.queue_eq_nil {w : Toolkit Unit} (h : Steps m Toolkit.fresh w)
    (hw : waited b w.journal = []) : w.queue b = [] := by
  by_cases hb : w.HasBridge b
  · have hretained : (w.ledger b).Retained := h.retained hb
    obtain hq | ⟨hq, -⟩ := hretained.queue
    · have howed : (w.ledger b).owed <:+ [] := hw ▸ hretained.ordered
      exact hq.trans (List.suffix_nil.mp howed)
    · exact hq
  · have hfind : w.bridges.find? b = none := Option.not_isSome_iff_eq_none.mp hb
    rw [Toolkit.queue, Registry.get, hfind]
    rfl

/-- **Subscriptions received what their listeners were told** wherever steps lead. -/
theorem Steps.received {w : Toolkit Unit} (hev : m.everywhere = false)
    (h : Steps m Toolkit.fresh w) : w.Received :=
  h.invariant (fun _ _ _ _ _ _ ho => absurd ho (not_occurred_nil _)) fun hv ih h =>
    h.received hev hv.sound_of_fresh hv.subscriptions_single hv.told hv.hearsEnrolled
      (fun _ => hv.queue_eq_nil) ih

end WidgetStreams
