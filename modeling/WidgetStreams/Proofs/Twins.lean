import WidgetStreams.Proofs.Windows

/-!
# Twin toolkits

This file defines when two toolkits are alike but for one subscription that each
of them has, to sources that are told of the same native events: the values that
the one hands over are made of those that its twin hands over. Whatever else
there is, on the screen or in the library, is the same in both.

The same notion serves a subscription that has come to its end, whose twin was
never made. What the one leaves behind is left out of account: the flag of its
view, the slot that it has emptied, and one key of a registry.

## Main definitions

- `Pairing` — the two subscriptions, and how the values of the one are made of those of its twin
- `Pairing.Hides`, `Pairing.veil`, `Pairing.rekey` — what a subscription has left behind
- `Pairing.SameScreen` — two screens with the same widgets, and the same listeners but for one
- `Pairing.Twins` — toolkits that are alike but for the two subscriptions
- `Pairing.Resting` — twins whose bridge is at rest
- `Pairing.Recorded` — what the observer of the subscription may do to a toolkit

## Main results

- `Pairing.SameScreen.install`, `Pairing.SameScreen.uninstall` — listeners come and go in both
- `Pairing.Resting.noted`, `Pairing.Resting.showing`, … — twins stay twins through every change
- `Pairing.Resting.recorded` — twins stay twins when values are handed over

## Design notes

The two subscriptions have the same bridge, the same handle and the same
observer. Nothing is said of what that observer keeps, on its tape or in the
client's own state: the parameter `K` relates the states of two clients but for
what is kept there.
-/

namespace WidgetStreams

open History

variable {σ : Type} {K : σ → σ → Prop} {v w u x y : Toolkit σ} {s t : Screen} {p q : Point}
  {listener : Listener} {P : Pairing} {xs ys : List Payload} {f g : Flags} {n : ViewId}

-- ════════════════════════════════════════════════════════════════════════
-- Pairings
-- ════════════════════════════════════════════════════════════════════════

/-- Whether the callback of a number is one of an observer's. -/
def Observer.Calls : Observer → Nat → Prop
  | .client callback, n => callback = n
  | .functions onNext onFault, n => onNext = n ∨ onFault = some n
  | .tape _, _ => False

/-- **A pairing** of two subscriptions with the same bridge and the same observer. -/
structure Pairing where
  bridge : BridgeId
  observer : Observer
  /-- The source of the one. -/
  source : Source
  /-- The source of its twin. -/
  twin : Source
  /-- What the one has handed over in advance. -/
  first : List Payload
  /-- What the one hands over for a value of its twin, if anything. -/
  project : Payload → Option Payload
  /-- What is known of every value that the twin hands over. -/
  proper : Payload → Prop
  /-- Where the one has been registered and is no more while its twin never was, and its key. -/
  gone : Option (Point × Option Nat) := none

/-- The flag of a view that is set when a listener is put at a site. -/
def Site.flag : Site → Flags
  | .click => { clickable := true }
  | .longClick => { longClickable := true }
  | _ => {}

namespace Pairing

/-- The slot at a point is left out of account: the one has emptied it. -/
def Hides (P : Pairing) (p : Point) : Prop := P.gone = some (p, none)

/-- The flag of a view that is left out of account. -/
def hidden (P : Pairing) (n : ViewId) : Flags :=
  match P.gone with
  | some (p, none) => if p.owner = n then p.site.flag else {}
  | _ => {}

/-- The flags of a view, with the one set that is left out of account. -/
def veil (P : Pairing) (n : ViewId) (f : Flags) : Flags := f.assign (P.hidden n) true

/-- What a view shows, but for the flag that is left out of account. -/
def veiled (P : Pairing) (n : ViewId) (x : ViewState) : ViewState :=
  { x with flags := P.veil n x.flags }

/-- The key for that of the twin: the one has used up a key, so later ones are ahead. -/
def rekey (P : Pairing) (p : Point) (key : Nat) : Nat :=
  match P.gone with
  | some (q, some own) => if q = p ∧ own ≤ key then key + 1 else key
  | _ => key

/-- The key under which a source has registered for that of the twin. -/
def rekeyOf (P : Pairing) (source : Source) (key : Option Nat) : Option Nat :=
  match source with
  | .widget binding n _ => key.map (P.rekey (binding.point n))
  | .client _ _ => key

/-- The listener of the one for that of its twin; every other listener stands for itself. -/
def relabel (P : Pairing) (listener : Listener) : Listener :=
  match P.twin, P.source with
  | .widget binding _ judge, .widget binding' _ judge' =>
    if listener = .forward binding P.bridge judge then .forward binding' P.bridge judge'
    else listener
  | _, _ => listener

/-- The listener of the twin is in its place, if it is the one at hand. -/
def Fits (P : Pairing) (p : Point) (listener : Listener) : Prop :=
  ∀ binding judge, listener = .forward binding P.bridge judge →
    ∃ n, P.twin = .widget binding n judge ∧ binding.point n = p

/-- Two actions are the same, or each undoes the registration of its own subscription. -/
inductive SameRelease (P : Pairing) : Release → Release → Prop
  | client (n : Nat) : P.SameRelease (.client n) (.client n)
  | detach (source : Source) (key : Option Nat) :
      P.SameRelease (.detach source (P.rekeyOf source key)) (.detach source key)
  | own (key : Option Nat) :
      P.SameRelease (.detach P.source (P.rekeyOf P.twin key)) (.detach P.twin key)

/-- Two handles are in the same state. -/
structure SameHandle (P : Pairing) (x y : Handle) : Prop where
  disposed : x.disposed = y.disposed
  action : Option.Rel P.SameRelease x.action y.action

end Pairing

/-- Whether an event is that a listener hears of something, or that a bridge calls its observer, or
    is done with that; but not for the bridge `b`. -/
def Event.isCall (b : BridgeId) : Event → Bool
  | .began c _ | .ended c | .heard (.forward _ c _) _ => c != b
  | .heard _ _ => true
  | _ => false

/-- The calls on listeners and observers, but those that concern the bridge `b`. -/
def History.calls (b : BridgeId) (j : List Entry) : List Event :=
  collect (fun e => if e.isCall b then some e else none) j

/-- The screen without its views and without any listeners. -/
def Screen.bare (s : Screen) : Screen := { s with views := {}, slots := {}, rosters := {} }

/-- **Two screens are the same** but for the listeners of the two subscriptions. -/
structure Pairing.SameScreen (P : Pairing) (s t : Screen) : Prop where
  bare : s.bare = t.bare
  viewsNext : s.views.next = t.views.next
  views : ∀ n, (s.views.find? n).map (P.veiled n) = (t.views.find? n).map (P.veiled n)
  slot : ∀ p, ¬ P.Hides p → (s.slot p).content = (t.slot p).content.map P.relabel
  roster : ∀ p, s.roster p = (t.roster p).map (P.rekey p) P.relabel
  placed : ∀ p listener, t.Holds p listener → P.Fits p listener
  /-- The key that is used up has been the next one. -/
  gone : ∀ p own, P.gone = some (p, some own) → own ≤ (t.roster p).next

/-- **Two toolkits are twins** for a pairing: all is the same in both but the two subscriptions, and
    the values of the one are what is made of those of its twin. -/
structure Pairing.Twins (P : Pairing) (K : σ → σ → Prop) (v w : Toolkit σ) : Prop where
  here : v.here = w.here
  started : v.started = w.started
  threadCheck : v.threadCheck = w.threadCheck
  screen : P.SameScreen v.screen w.screen
  next : v.handles.next = w.handles.next
  handles : ∀ k, Option.Rel P.SameHandle (v.handles.find? k) (w.handles.find? k)
  bridges : v.bridges = w.bridges
  tapes : v.tapes.next = w.tapes.next ∧
    ∀ t, P.observer ≠ .tape t → v.tapes.find? t = w.tapes.find? t
  scopes : v.scopes = w.scopes
  overrides : v.overrides = w.overrides
  /-- The same bridges belong to subscriptions to widgets. -/
  serves : ∀ b, v.servesWidget b = w.servesWidget b
  values : values P.bridge v.journal = P.first ++ (values P.bridge w.journal).filterMap P.project
  proper : ∀ a ∈ History.values P.bridge w.journal, P.proper a
  /-- Everybody else is called alike. -/
  calls : History.calls P.bridge v.journal = History.calls P.bridge w.journal
  /-- The bridge is there, and numbers of bridges that come are others. -/
  found : w.HasBridge P.bridge
  past : P.bridge < w.bridges.next
  observer : (w.bridges.get P.bridge).observer = P.observer
  /-- The bridge belongs to a widget if the source is one. -/
  widget : ∀ binding n judge, P.twin = .widget binding n judge → w.servesWidget P.bridge = true
  client : K v.client w.client

/-- **Twins at rest**: unless the subscription is disposed, its bridge does not deliver, and nothing
    waits there. -/
structure Pairing.Resting (P : Pairing) (K : σ → σ → Prop) (v w : Toolkit σ) : Prop
    extends P.Twins K v w where
  idle : w.closed P.bridge = false → w.delivering P.bridge = none ∧ w.queue P.bridge = []

/-- **What an observer that only records does** to a toolkit, when it is handed values: there is
    more on its tape, in the journal, and in the client's own state. -/
structure Pairing.Recorded (P : Pairing) (K : σ → σ → Prop) (xs : List Payload) (w u : Toolkit σ) :
    Prop where
  rest : ∃ tapes journal client,
    u = { w with tapes := tapes, journal := journal, client := client }
  tapes : u.tapes.next = w.tapes.next ∧
    ∀ t, P.observer ≠ .tape t → u.tapes.find? t = w.tapes.find? t
  serves : ∀ b, u.servesWidget b = w.servesWidget b
  values : values P.bridge u.journal = History.values P.bridge w.journal ++ xs
  calls : calls P.bridge u.journal = History.calls P.bridge w.journal
  client : K w.client u.client

/-- Whether an event is none with which a value is handed over by a bridge, none of a call on
    anybody but its observer, and none with which a subscription begins. -/
def Event.isDull (b : BridgeId) : Event → Bool
  | .began c signal => c == b && signal.value?.isNone
  | .ended c | .heard (.forward _ c _) _ => c == b
  | .heard _ _ | .subscribing _ _ _ => false
  | _ => true

-- ════════════════════════════════════════════════════════════════════════
-- Screens
-- ════════════════════════════════════════════════════════════════════════

/-- Flags that are the same but for some stay so when flags are assigned. -/
theorem Flags.assign_congr {hidden : Flags} (h : f.assign hidden true = g.assign hidden true)
    (chosen : Flags) (on : Bool) :
    (f.assign chosen on).assign hidden true = (g.assign chosen on).assign hidden true := by
  have heach : ∀ {chosen hidden a b : Bool},
      (if hidden then true else a) = (if hidden then true else b) →
      (if hidden then true else if chosen then on else a) =
        if hidden then true else if chosen then on else b := by
    intro chosen hidden a b h
    cases hidden <;> cases chosen <;> simp_all
  simp only [assign, mk.injEq] at h ⊢
  exact ⟨heach h.1, heach h.2.1, heach h.2.2.1, heach h.2.2.2.1, heach h.2.2.2.2.1,
    heach h.2.2.2.2.2.1, heach h.2.2.2.2.2.2.1, heach h.2.2.2.2.2.2.2⟩

namespace Screen

/-- The screen with flags of a view assigned. -/
def assigning (s : Screen) (n : ViewId) (chosen : Flags) (on : Bool) : Screen :=
  s.setFlags n ((s.flags n).assign chosen on)

/-- The screen with a listener in a slot, and nothing else changed. -/
def filling (s : Screen) (p : Point) (listener : Listener) : Screen :=
  { s with slots := s.slots.insert p ⟨some listener⟩ }

/-- **A listener fills a slot**, and sets the flag of its site where there is one. -/
theorem setListener_eq (s : Screen) (p : Point) (listener : Listener) :
    s.setListener p listener =
      (if p.site = .click ∨ p.site = .longClick then s.assigning p.owner p.site.flag true
        else s).filling p listener := by
  obtain ⟨site, owner⟩ := p
  cases site <;> rfl

theorem slot_filling (s : Screen) (p q : Point) (listener : Listener) :
    (s.filling p listener).slot q = if p = q then ⟨some listener⟩ else s.slot q := by
  rw [slot, filling, Dict.find?_insert]
  split <;> rfl

theorem bare_setListener (s : Screen) (p : Point) (listener : Listener) :
    (s.setListener p listener).bare = s.bare := by
  simp only [setListener]
  split <;> rfl

end Screen

namespace Pairing

theorem relabel_of_ne (h : ∀ binding judge, listener ≠ .forward binding P.bridge judge) :
    P.relabel listener = listener := by
  rw [relabel]
  split
  · exact if_neg (h _ _)
  · rfl

/-- The listener of the twin stands for that of the one. -/
theorem relabel_own {binding binding' : Binding} {n n' : Nat} {judge judge' : Judge}
    (ht : P.twin = .widget binding n judge) (hs : P.source = .widget binding' n' judge') :
    P.relabel (.forward binding P.bridge judge) = .forward binding' P.bridge judge' := by
  rw [relabel, ht, hs]
  exact if_pos rfl

/-- A listener that belongs to another bridge, or to none, is in its place anywhere. -/
theorem fits_of_ne (h : ∀ binding judge, listener ≠ .forward binding P.bridge judge) (p : Point) :
    P.Fits p listener := fun binding judge he => absurd he (h binding judge)

theorem SameHandle.of_client (disposed : Bool) (action : Option Nat) :
    P.SameHandle { disposed := disposed, action := action.map .client }
      { disposed := disposed, action := action.map .client } := by
  refine ⟨rfl, ?_⟩
  cases action with
  | none => exact .none
  | some n => exact .some (.client n)

-- ════════════════════════════════════════════════════════════════════════
-- What is left out of account
-- ════════════════════════════════════════════════════════════════════════

theorem rekey_injective (P : Pairing) (p : Point) : Function.Injective (P.rekey p) := by
  intro i j hij
  simp only [rekey] at hij
  split at hij
  · grind
  · exact hij

/-- Once a key is used up, the next keys are one ahead. -/
theorem rekey_succ {key : Nat} (h : ∀ own, P.gone = some (p, some own) → own ≤ key) :
    P.rekey p (key + 1) = P.rekey p key + 1 := by
  simp only [rekey]
  split
  · grind
  · rfl

/-- The flag that is left out of account is that of a slot that is. -/
theorem hidden_or (P : Pairing) (n : ViewId) :
    P.hidden n = {} ∨ ∃ site : Site, P.Hides ⟨site, n⟩ ∧ P.hidden n = site.flag := by
  simp only [hidden]
  split
  · next p hp =>
    split
    · next ho =>
      subst ho
      exact .inr ⟨p.site, hp, rfl⟩
    · exact .inl rfl
  · exact .inl rfl

theorem hides_of_clickable (h : (P.hidden n).clickable = true) : P.Hides ⟨.click, n⟩ := by
  obtain he | ⟨site, hs, he⟩ := P.hidden_or n <;> rw [he] at h
  · cases h
  · cases site with
    | click => exact hs
    | _ => cases h

theorem hides_of_longClickable (h : (P.hidden n).longClickable = true) :
    P.Hides ⟨.longClick, n⟩ := by
  obtain he | ⟨site, hs, he⟩ := P.hidden_or n <;> rw [he] at h
  · cases h
  · cases site with
    | longClick => exact hs
    | _ => cases h

/-- No flags but those of clicks are left out of account. -/
theorem hidden_eq (P : Pairing) (n : ViewId) : P.hidden n =
    { clickable := (P.hidden n).clickable, longClickable := (P.hidden n).longClickable } := by
  obtain he | ⟨site, -, he⟩ := P.hidden_or n <;> rw [he]
  cases site <;> rfl

/-- A choice of flags leaves that alone which is left out of account. -/
def Spares (P : Pairing) (n : ViewId) (chosen : Flags) : Prop :=
  ((P.hidden n).clickable = true → chosen.clickable = false) ∧
    ((P.hidden n).longClickable = true → chosen.longClickable = false)

section Veil

variable (h : P.veil n f = P.veil n g)
include h

theorem veil_assign (chosen : Flags) (on : Bool) :
    P.veil n (f.assign chosen on) = P.veil n (g.assign chosen on) :=
  Flags.assign_congr h chosen on

/-- Assigning flags changes something in both, or in neither. -/
theorem assign_eq_iff {chosen : Flags} (hc : P.Spares n chosen) (on : Bool) :
    f = f.assign chosen on ↔ g = g.assign chosen on := by
  rw [veil, veil, hidden_eq] at h
  obtain ⟨hc, hl⟩ := hc
  obtain ⟨⟩ := f
  obtain ⟨⟩ := g
  obtain ⟨⟩ := chosen
  simp only [Flags.assign, Flags.mk.injEq, Bool.false_eq_true, if_false] at h hc hl ⊢
  grind

theorem enabled_eq : f.enabled = g.enabled := by
  have := congrArg Flags.enabled h
  rwa [veil, veil, hidden_eq] at this

theorem focusable_eq : f.focusable = g.focusable := by
  have := congrArg Flags.focusable h
  rwa [veil, veil, hidden_eq] at this

theorem focused_eq : f.focused = g.focused := by
  have := congrArg Flags.focused h
  rwa [veil, veil, hidden_eq] at this

end Veil

namespace SameScreen

/-- A change that leaves views and listeners alone, and does not look at them. -/
theorem change (h : P.SameScreen s t) {f : Screen → Screen}
    (hf : ∀ s, f s = { f s.bare with views := s.views, slots := s.slots, rosters := s.rosters }) :
    P.SameScreen (f s) (f t) where
  bare := by
    rw [hf s, hf t, h.bare]
    rfl
  viewsNext := by
    rw [hf s, hf t]
    exact h.viewsNext
  views n := by
    rw [hf s, hf t]
    exact h.views n
  slot p hp := by
    rw [hf s, hf t]
    exact h.slot p hp
  roster p := by
    rw [hf s, hf t]
    exact h.roster p
  placed p listener hl := by
    rw [hf t] at hl
    exact h.placed p listener hl
  gone p own hp := by
    rw [hf t]
    exact h.gone p own hp

/-- What looks neither at views nor at listeners reads the same from both. -/
theorem read {α : Type} (h : P.SameScreen s t) {f : Screen → α} (hf : ∀ s, f s = f s.bare) :
    f s = f t := by
  rw [hf s, h.bare, ← hf t]

theorem view (h : P.SameScreen s t) (n : ViewId) :
    P.veiled n (s.view n) = P.veiled n (t.view n) := by
  have hget : ∀ x : Option ViewState,
      P.veiled n (x.getD default) = (x.map (P.veiled n)).getD (P.veiled n default) := by
    rintro (_ | x) <;> rfl
  rw [Screen.view, Screen.view, Registry.get, Registry.get, hget, hget, h.views n]

theorem flags (h : P.SameScreen s t) (n : ViewId) :
    P.veil n (s.flags n) = P.veil n (t.flags n) :=
  congrArg ViewState.flags (h.view n)

theorem thread (h : P.SameScreen s t) (p : Point) : s.thread p = t.thread p := by
  have hview : ∀ n, (s.view n).thread = (t.view n).thread :=
    fun n => (congrArg ViewState.thread (h.view n) :)
  simp only [Screen.thread, h.read (f := Screen.menus) fun _ => rfl,
    h.read (f := Screen.swipes) fun _ => rfl, hview]

theorem current (h : P.SameScreen s t) (binding : Binding) (n : Nat) :
    s.current binding n = t.current binding n := by
  have hfocused := focused_eq (h.flags n)
  have hrest : s.bare.current binding n = t.bare.current binding n := by rw [h.bare]
  cases binding with
  | focusChanges => exact congrArg Payload.flag hfocused
  | focusChangeEvents => exact congrArg (Payload.focusChange n) hfocused
  | _ => exact hrest

theorem changeView (h : P.SameScreen s t) (n : ViewId) {x y : ViewState}
    (hxy : P.veiled n x = P.veiled n y) :
    P.SameScreen { s with views := s.views.put n x } { t with views := t.views.put n y } :=
  { h with
    views := fun k => by
      rw [Registry.find?_put, Registry.find?_put]
      split
      · next e => exact e ▸ congrArg some hxy
      · exact h.views k }

theorem setFlags (h : P.SameScreen s t) (hfg : P.veil n f = P.veil n g) :
    P.SameScreen (s.setFlags n f) (t.setFlags n g) := by
  refine h.changeView n ?_
  have hview := h.view n
  simp only [veiled, ViewState.mk.injEq] at hview ⊢
  exact ⟨hview.1, hfg, hview.2.2⟩

theorem setVisibility (h : P.SameScreen s t) (n : ViewId) (visibility : Visibility) :
    P.SameScreen (s.setVisibility n visibility) (t.setVisibility n visibility) := by
  refine h.changeView n ?_
  have hview := h.view n
  simp only [veiled, ViewState.mk.injEq] at hview ⊢
  exact ⟨hview.1, hview.2.1, trivial⟩

theorem addView (h : P.SameScreen s t) (x : ViewState) :
    P.SameScreen { s with views := (s.views.add x).2 } { t with views := (t.views.add x).2 } :=
  { h with
    viewsNext := congrArg (· + 1) h.viewsNext
    views := fun k => by
      have hk := h.views k
      rw [Registry.find?_add_eq, Registry.find?_add_eq, h.viewsNext]
      revert hk
      cases s.views.find? k <;> cases t.views.find? k <;> intro hk
      · rfl
      · cases hk
      · cases hk
      · exact hk }

theorem filling (h : P.SameScreen s t) (hl : P.Fits p listener) :
    P.SameScreen (s.filling p (P.relabel listener)) (t.filling p listener) :=
  { h with
    slot := fun q hq => by
      rw [Screen.slot_filling, Screen.slot_filling]
      split
      · rfl
      · exact h.slot q hq
    placed := fun q other ho => by
      obtain ho | ho := ho
      · rw [Screen.slot_filling] at ho
        split at ho
        · next hpq => exact Option.some.inj ho ▸ hpq ▸ hl
        · exact h.placed q other (.inl ho)
      · exact h.placed q other (.inr ho) }

theorem setListener (h : P.SameScreen s t) (hl : P.Fits p listener) :
    P.SameScreen (s.setListener p (P.relabel listener)) (t.setListener p listener) := by
  rw [Screen.setListener_eq, Screen.setListener_eq]
  refine filling ?_ hl
  split
  · exact h.setFlags (veil_assign (h.flags p.owner) p.site.flag true)
  · exact h

theorem addListener (h : P.SameScreen s t) (p : Point) (listener : Listener) :
    (s.roster p).add (P.relabel listener) =
      (P.rekey p ((t.roster p).add listener).1,
        ((t.roster p).add listener).2.map (P.rekey p) P.relabel) := by
  rw [h.roster p, Registry.add_map]
  exact rekey_succ fun own hp => h.gone p own hp

/-- A listener is put into a registry in both; its keys stand for each other. -/
theorem install_shared (h : P.SameScreen s t) (hl : P.Fits p listener) :
    (s.addListener p (P.relabel listener)).1 = P.rekey p (t.addListener p listener).1 ∧
      P.SameScreen (s.addListener p (P.relabel listener)).2 (t.addListener p listener).2 := by
  have hadd := h.addListener p listener
  have hroster : ∀ q, (s.addListener p (P.relabel listener)).2.roster q =
      ((t.addListener p listener).2.roster q).map (P.rekey q) P.relabel := by
    intro q
    rw [Screen.roster_addListener, Screen.roster_addListener, hadd]
    split
    · next hpq => rw [hpq]
    · exact h.roster q
  refine ⟨congrArg Prod.fst hadd, { h with roster := hroster, placed := ?_, gone := ?_ }⟩
  · rintro q other (ho | ho)
    · exact h.placed q other (.inl ho)
    · rw [Screen.roster_addListener] at ho
      split at ho
      · next hpq =>
        rw [Registry.snapshot_add, List.mem_append, List.mem_singleton] at ho
        obtain ho | rfl := ho
        · exact h.placed q other (.inr (hpq ▸ ho))
        · exact hpq ▸ hl
      · exact h.placed q other (.inr ho)
  · intro q own hq
    have hle := h.gone q own hq
    rw [Screen.roster_addListener]
    split
    · next hpq =>
      subst hpq
      exact Nat.le_succ_of_le hle
    · exact hle

/-- **A listener is registered** in both, and keys stand for each other. -/
theorem install (h : P.SameScreen s t) (hl : P.Fits p listener) :
    (s.install p (P.relabel listener)).1 = (t.install p listener).1.map (P.rekey p) ∧
      P.SameScreen (s.install p (P.relabel listener)).2 (t.install p listener).2 := by
  simp only [Screen.install]
  split
  · obtain ⟨hkey, hscreen⟩ := h.install_shared hl
    exact ⟨congrArg some hkey, hscreen⟩
  · exact ⟨rfl, h.setListener hl⟩

theorem clearListener (h : P.SameScreen s t) (p : Point) :
    P.SameScreen (s.clearListener p) (t.clearListener p) :=
  { h with
    slot := fun q hq => by
      rw [Screen.slot_clearListener, Screen.slot_clearListener]
      split
      · rfl
      · exact h.slot q hq
    placed := fun q other ho => h.placed q other ho.of_clearListener }

/-- A listener is taken out of the registry in both, if there is one under the key. -/
theorem removeListener (h : P.SameScreen s t) (p : Point) (key : Nat) :
    (s.removeListener p (P.rekey p key)).1 = (t.removeListener p key).1 ∧
      P.SameScreen (s.removeListener p (P.rekey p key)).2 (t.removeListener p key).2 := by
  have hremove : (s.roster p).remove (P.rekey p key) =
      (((t.roster p).remove key).1.map P.relabel,
        ((t.roster p).remove key).2.map (P.rekey p) P.relabel) := by
    rw [h.roster p, Registry.remove_map _ (P.rekey_injective p)]
  refine ⟨by simp [Screen.removeListener, hremove], { h with
    roster := fun q => ?_
    placed := fun q other ho => h.placed q other ho.of_removeListener
    gone := fun q own hq => ?_ }⟩
  · rw [Screen.roster_removeListener, Screen.roster_removeListener, hremove]
    split
    · next hpq => rw [hpq]
    · exact h.roster q
  · rw [Screen.roster_removeListener]
    split
    · next hpq => exact h.gone p own (hpq ▸ hq)
    · exact h.gone q own hq

/-- **A registration is undone** in both. -/
theorem uninstall (h : P.SameScreen s t) (p : Point) (key : Option Nat) :
    P.SameScreen (s.uninstall p (key.map (P.rekey p))) (t.uninstall p key) := by
  cases key with
  | none => exact h.clearListener p
  | some key => exact (h.removeListener p key).2

end SameScreen

end Pairing

-- ════════════════════════════════════════════════════════════════════════
-- The journal
-- ════════════════════════════════════════════════════════════════════════

namespace History

variable {b : BridgeId} {e : Event}

theorem values_noted (he : e.isDull b = true ∨ e.isCall b = true) (w : Toolkit σ) :
    values b (w.noted e).journal = values b w.journal := by
  rw [Toolkit.journal_noted]
  cases e with
  | began c signal =>
    rw [values_cons_began]
    split
    · next hc =>
      have hnone : signal.value? = none := by simpa [Event.isDull, Event.isCall, hc] using he
      rw [hnone]
      exact List.append_nil _
    · exact List.append_nil _
  | ended c => exact values_cons_ended
  | _ => exact values_cons rfl

theorem calls_noted (w : Toolkit σ) :
    calls b (w.noted e).journal = calls b w.journal ++ if e.isCall b then [e] else [] := by
  rw [calls, Toolkit.journal_noted, collect_cons]
  split <;> rfl

theorem calls_noted_of_isDull (he : e.isDull b = true) (w : Toolkit σ) :
    calls b (w.noted e).journal = calls b w.journal := by
  have hcall : e.isCall b = false := by
    cases e with
    | heard listener => cases listener <;> simp_all [Event.isDull, Event.isCall]
    | began | ended => simp_all [Event.isDull, Event.isCall]
    | _ => rfl
  rw [calls_noted, hcall]
  exact List.append_nil _

end History

theorem Toolkit.servesWidget_noted {b : BridgeId} {e : Event}
    (he : e.isDull b = true ∨ e.isCall b = true) (w : Toolkit σ) (c : BridgeId) :
    (w.noted e).servesWidget c = w.servesWidget c := by
  cases e with
  | subscribing => simp [Event.isDull, Event.isCall] at he
  | _ => rfl

namespace Pairing

-- ════════════════════════════════════════════════════════════════════════
-- Twins
-- ════════════════════════════════════════════════════════════════════════

namespace Twins

theorem handle (h : P.Twins K v w) (k : HandleId) :
    P.SameHandle (v.handles.get k) (w.handles.get k) := by
  have hk := h.handles k
  rw [Registry.get, Registry.get]
  revert hk
  generalize v.handles.find? k = x
  generalize w.handles.find? k = y
  rintro (hxy | _)
  · exact hxy
  · exact .of_client false none

theorem disposed (h : P.Twins K v w) (k : HandleId) : v.disposed k = w.disposed k :=
  (h.handle k).disposed

theorem closed (h : P.Twins K v w) (b : BridgeId) : v.closed b = w.closed b := by
  rw [Toolkit.closed, h.disposed, h.bridges, Toolkit.closed]

/-- What is noted in both and hands over no value. -/
theorem noted (h : P.Twins K v w) {e f : Event} (he : e.isDull P.bridge = true)
    (hf : f.isDull P.bridge = true) : P.Twins K (v.noted e) (w.noted f) :=
  { h with
    values := by rw [values_noted (.inl he), values_noted (.inl hf), h.values]
    proper := by rw [values_noted (.inl hf)]; exact h.proper
    calls := by rw [calls_noted_of_isDull he, calls_noted_of_isDull hf, h.calls]
    serves := fun b => by
      rw [Toolkit.servesWidget_noted (.inl he), Toolkit.servesWidget_noted (.inl hf), h.serves]
    widget := fun _ _ _ ht => by
      rw [Toolkit.servesWidget_noted (.inl hf)]
      exact h.widget _ _ _ ht }

/-- Somebody else is called in both. -/
theorem calling (h : P.Twins K v w) {e : Event} (he : e.isCall P.bridge = true) :
    P.Twins K (v.noted e) (w.noted e) :=
  { h with
    values := by rw [values_noted (.inr he), values_noted (.inr he), h.values]
    proper := by rw [values_noted (.inr he)]; exact h.proper
    calls := by rw [calls_noted, calls_noted, h.calls]
    serves := fun b => by
      rw [Toolkit.servesWidget_noted (.inr he), Toolkit.servesWidget_noted (.inr he), h.serves]
    widget := fun _ _ _ ht => by
      rw [Toolkit.servesWidget_noted (.inr he)]
      exact h.widget _ _ _ ht }

theorem subscribing (h : P.Twins K v w) (k : HandleId) (b : BridgeId) (source : Source) :
    P.Twins K (v.noted (.subscribing k b source)) (w.noted (.subscribing k b source)) :=
  { h with
    serves := fun c => by
      rw [Toolkit.servesWidget, Toolkit.servesWidget]
      simp only [Toolkit.journal_noted, List.any_cons]
      exact congrArg _ (h.serves c)
    widget := fun _ _ _ ht => by
      rw [Toolkit.servesWidget, Toolkit.journal_noted, List.any_cons, Bool.or_eq_true]
      exact .inr (h.widget _ _ _ ht) }

theorem showing (h : P.Twins K v w) (hs : P.SameScreen s t) :
    P.Twins K (v.showing s) (w.showing t) := { h with screen := hs }

theorem withHandle (h : P.Twins K v w) (k : HandleId) {f g : Handle → Handle}
    (hf : ∀ x y, P.SameHandle x y → P.SameHandle (f x) (g y)) :
    P.Twins K (v.withHandle k f) (w.withHandle k g) :=
  { h with
    handles := fun j => by
      simp only [Toolkit.withHandle, Registry.find?_modify]
      split
      · exact .some (hf _ _ (h.handle k))
      · exact h.handles j }

theorem withBridge (h : P.Twins K v w) (b : BridgeId) {f : Bridge → Bridge}
    (hf : ∀ x, (f x).observer = x.observer) :
    P.Twins K (v.withBridge b f) (w.withBridge b f) :=
  { h with
    bridges := by rw [Toolkit.withBridge, h.bridges, Toolkit.withBridge]
    found := by
      rw [Toolkit.HasBridge, Toolkit.withBridge, Registry.find?_modify]
      split
      · rfl
      · exact h.found
    observer := by
      rw [Toolkit.get_withBridge]
      split
      · exact (hf _).trans h.observer
      · exact h.observer }

theorem addingHandle (h : P.Twins K v w) {x : Handle} (hx : P.SameHandle x x) :
    P.Twins K (v.addingHandle x) (w.addingHandle x) :=
  { h with
    next := congrArg (· + 1) h.next
    handles := fun k => by
      simp only [Toolkit.addingHandle, Registry.find?_add_eq, h.next]
      have hk := h.handles k
      revert hk
      generalize v.handles.find? k = y
      generalize w.handles.find? k = z
      rintro (hyz | _)
      · exact .some hyz
      · simp only [Option.none_or]
        split
        · exact .some hx
        · exact .none }

theorem opening (h : P.Twins K v w) (observer : Observer) :
    P.Twins K (v.opening observer) (w.opening observer) :=
  { h.addingHandle (.of_client false none) with
    bridges := by rw [Toolkit.opening, h.bridges, h.next, Toolkit.opening]
    found := by
      rw [Toolkit.HasBridge, Toolkit.opening, Registry.find?_add_of_isSome h.found]
      exact h.found
    past := Nat.lt_succ_of_lt h.past
    observer := by
      rw [Registry.get, Toolkit.opening, Registry.find?_add_of_isSome h.found]
      exact h.observer }

end Twins

-- ════════════════════════════════════════════════════════════════════════
-- Twins at rest
-- ════════════════════════════════════════════════════════════════════════

namespace Resting

/-- Twins are at rest as before if bridges are as they were and no handle is open that was
    disposed. -/
theorem of_twins (h : P.Resting K v w) (hxy : P.Twins K x y) (bridges : y.bridges = w.bridges)
    (disposed : ∀ k, w.disposed k = true → y.disposed k = true) : P.Resting K x y where
  toTwins := hxy
  idle hopen := by
    have hw : w.closed P.bridge = false := by
      rw [Toolkit.closed, bridges] at hopen
      exact Bool.eq_false_iff.mpr fun hd => Bool.eq_false_iff.mp hopen (disposed _ hd)
    rw [Toolkit.delivering, Toolkit.queue, bridges]
    exact h.idle hw

theorem noted (h : P.Resting K v w) {e f : Event} (he : e.isDull P.bridge = true)
    (hf : f.isDull P.bridge = true) : P.Resting K (v.noted e) (w.noted f) :=
  h.of_twins (h.toTwins.noted he hf) rfl fun _ => id

theorem calling (h : P.Resting K v w) {e : Event} (he : e.isCall P.bridge = true) :
    P.Resting K (v.noted e) (w.noted e) :=
  h.of_twins (h.toTwins.calling he) rfl fun _ => id

theorem subscribing (h : P.Resting K v w) (k : HandleId) (b : BridgeId) (source : Source) :
    P.Resting K (v.noted (.subscribing k b source)) (w.noted (.subscribing k b source)) :=
  h.of_twins (h.toTwins.subscribing k b source) rfl fun _ => id

theorem showing (h : P.Resting K v w) (hs : P.SameScreen s t) :
    P.Resting K (v.showing s) (w.showing t) :=
  h.of_twins (h.toTwins.showing hs) rfl fun _ => id

theorem withHandle (h : P.Resting K v w) (k : HandleId) {f g : Handle → Handle}
    (hf : ∀ x y, P.SameHandle x y → P.SameHandle (f x) (g y))
    (hg : ∀ x, x.disposed = true → (g x).disposed = true) :
    P.Resting K (v.withHandle k f) (w.withHandle k g) :=
  h.of_twins (h.toTwins.withHandle k hf) rfl fun _ hd => (Grows.withHandle w k hg).disposed hd

theorem withBridge (h : P.Resting K v w) {b : BridgeId} (hb : b ≠ P.bridge) {f : Bridge → Bridge}
    (hf : ∀ x, (f x).observer = x.observer) :
    P.Resting K (v.withBridge b f) (w.withBridge b f) where
  toTwins := h.toTwins.withBridge b hf
  idle hopen := by
    rw [Toolkit.closed, Toolkit.get_withBridge, if_neg hb] at hopen
    rw [Toolkit.delivering, Toolkit.queue, Toolkit.get_withBridge, if_neg hb]
    exact h.idle hopen

/-- The bridge of the two subscriptions comes to the end of a delivery. -/
theorem finishing (h : P.Resting K v w) (b : BridgeId) :
    P.Resting K (v.finishing b) (w.finishing b) where
  toTwins := h.toTwins.withBridge b fun _ => rfl
  idle hopen := by
    rw [Toolkit.finishing, Toolkit.closed, Toolkit.get_withBridge] at hopen
    rw [Toolkit.finishing, Toolkit.delivering, Toolkit.queue, Toolkit.get_withBridge]
    split at hopen
    · next hb =>
      rw [if_pos hb]
      exact ⟨rfl, (h.idle hopen).2⟩
    · next hb =>
      rw [if_neg hb]
      exact h.idle hopen

/-- What waits at the bridge is dropped, since the subscription is disposed. -/
theorem dropping (h : P.Resting K v w) (hcl : w.closed P.bridge = true) :
    P.Resting K (v.dropping P.bridge) (w.dropping P.bridge) where
  toTwins := h.toTwins.withBridge P.bridge fun _ => rfl
  idle hopen := by
    rw [Toolkit.dropping, Toolkit.closed, Toolkit.get_withBridge, if_pos rfl] at hopen
    have hclosed : w.disposed (w.bridges.get P.bridge).handle = false := hopen
    rw [Toolkit.closed, hclosed] at hcl
    cases hcl

theorem addingHandle (h : P.Resting K v w) {x : Handle} (hx : P.SameHandle x x) :
    P.Resting K (v.addingHandle x) (w.addingHandle x) :=
  h.of_twins (h.toTwins.addingHandle hx) rfl fun _ hd => (Grows.addingHandle w x).disposed hd

theorem opening (h : P.Resting K v w) (observer : Observer) :
    P.Resting K (v.opening observer) (w.opening observer) where
  toTwins := h.toTwins.opening observer
  idle hopen := by
    have hbridge : (w.opening observer).bridges.get P.bridge = w.bridges.get P.bridge := by
      rw [Registry.get, Toolkit.opening, Registry.find?_add_of_isSome h.found, Registry.get]
    rw [Toolkit.closed, hbridge] at hopen
    rw [Toolkit.delivering, Toolkit.queue, hbridge]
    refine h.idle (Bool.eq_false_iff.mpr fun hd => Bool.eq_false_iff.mp hopen ?_)
    exact (Grows.opening w observer).disposed hd

end Resting

-- ════════════════════════════════════════════════════════════════════════
-- What the observer records
-- ════════════════════════════════════════════════════════════════════════

namespace Recorded

section Rest

variable (h : P.Recorded K xs w u)
include h

theorem screen : u.screen = w.screen := by
  obtain ⟨_, _, _, rfl⟩ := h.rest
  rfl

theorem handles : u.handles = w.handles := by
  obtain ⟨_, _, _, rfl⟩ := h.rest
  rfl

theorem bridges : u.bridges = w.bridges := by
  obtain ⟨_, _, _, rfl⟩ := h.rest
  rfl

end Rest

theorem refl (hK : Equivalence K) (w : Toolkit σ) : P.Recorded K [] w w :=
  ⟨⟨_, _, _, rfl⟩, ⟨rfl, fun _ _ => rfl⟩, fun _ => rfl, (List.append_nil _).symm, rfl, hK.refl _⟩

theorem trans (hK : Equivalence K) (h : P.Recorded K xs v w) (h' : P.Recorded K ys w u) :
    P.Recorded K (xs ++ ys) v u where
  rest := by
    obtain ⟨_, _, _, rfl⟩ := h.rest
    obtain ⟨tapes, journal, client, rfl⟩ := h'.rest
    exact ⟨tapes, journal, client, rfl⟩
  tapes := ⟨h'.tapes.1.trans h.tapes.1, fun t ht => (h'.tapes.2 t ht).trans (h.tapes.2 t ht)⟩
  serves b := (h'.serves b).trans (h.serves b)
  values := by rw [h'.values, h.values, List.append_assoc]
  calls := h'.calls.trans h.calls
  client := hK.trans h.client h'.client

theorem noted (hK : Equivalence K) (w : Toolkit σ) {e : Event} (he : e.isDull P.bridge = true) :
    P.Recorded K [] w (w.noted e) where
  rest := ⟨_, _, _, rfl⟩
  tapes := ⟨rfl, fun _ _ => rfl⟩
  serves := Toolkit.servesWidget_noted (.inl he) w
  values := by rw [values_noted (.inl he), List.append_nil]
  calls := calls_noted_of_isDull he w
  client := hK.refl _

theorem began (hK : Equivalence K) (w : Toolkit σ) (a : Payload) :
    P.Recorded K [a] w (w.noted (.began P.bridge (.next a))) where
  rest := ⟨_, _, _, rfl⟩
  tapes := ⟨rfl, fun _ _ => rfl⟩
  serves _ := rfl
  values := by
    rw [Toolkit.journal_noted, values_cons_began, if_pos rfl]
    rfl
  calls := by
    rw [calls_noted, if_neg (by simp [Event.isCall])]
    exact List.append_nil _
  client := hK.refl _

end Recorded

/-- **Twins stay twins when values are handed over**, by the one what is made of those of its
    twin. -/
theorem Twins.recorded (hK : Equivalence K) (h : P.Twins K v w) (hv : P.Recorded K xs v x)
    (hw : P.Recorded K ys w y) (hxs : xs = ys.filterMap P.project) (hys : ∀ a ∈ ys, P.proper a) :
    P.Twins K x y := by
  have hvalues : History.values P.bridge x.journal =
      P.first ++ (History.values P.bridge y.journal).filterMap P.project := by
    rw [hv.values, hw.values, h.values, List.filterMap_append, hxs, List.append_assoc]
  have hproper : ∀ a ∈ History.values P.bridge y.journal, P.proper a := by
    rw [hw.values]
    exact List.forall_mem_append.mpr ⟨h.proper, hys⟩
  have hcalls : History.calls P.bridge x.journal = History.calls P.bridge y.journal := by
    rw [hv.calls, hw.calls, h.calls]
  have hserves : ∀ b, x.servesWidget b = y.servesWidget b := fun b => by
    rw [hv.serves, hw.serves, h.serves]
  have hwidget : ∀ binding n judge, P.twin = .widget binding n judge →
      y.servesWidget P.bridge = true := fun _ _ _ ht => by
    rw [hw.serves]
    exact h.widget _ _ _ ht
  have htapes : x.tapes.next = y.tapes.next ∧
      ∀ t, P.observer ≠ .tape t → x.tapes.find? t = y.tapes.find? t := by
    refine ⟨by rw [hv.tapes.1, hw.tapes.1, h.tapes.1], fun t ht => ?_⟩
    rw [hv.tapes.2 t ht, hw.tapes.2 t ht, h.tapes.2 t ht]
  have hclient : K x.client y.client :=
    hK.trans (hK.symm hv.client) (hK.trans h.client hw.client)
  obtain ⟨_, _, _, rfl⟩ := hv.rest
  obtain ⟨_, _, _, rfl⟩ := hw.rest
  exact { h with
    values := hvalues
    proper := hproper
    calls := hcalls
    serves := hserves
    widget := hwidget
    tapes := htapes
    client := hclient }

theorem Resting.recorded (hK : Equivalence K) (h : P.Resting K v w) (hv : P.Recorded K xs v x)
    (hw : P.Recorded K ys w y) (hxs : xs = ys.filterMap P.project) (hys : ∀ a ∈ ys, P.proper a) :
    P.Resting K x y := by
  have htwins := h.toTwins.recorded hK hv hw hxs hys
  obtain ⟨_, _, _, rfl⟩ := hw.rest
  exact h.of_twins htwins rfl fun _ => id

end Pairing

end WidgetStreams
