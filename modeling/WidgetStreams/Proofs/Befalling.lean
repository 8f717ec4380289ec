import WidgetStreams.Proofs.Owners

/-!
# What a step is to a subscription

This file tells what a step may be to one subscription with a widget, and to what
widgets show. Most steps are none of a subscription's business; of the others, some
are its own and some tell other subscriptions of native events. What is to hold of
every subscription at every moment is then a matter of these few cases.

## Main definitions

- `Toolkit.Redraws` — what may become of what mirrors and feeds show
- `Event.isForeign` — an event that is none of a certain subscription
- `takings` — what the journal says when a bridge takes a value
- `Toolkit.Befalls` — what may befall a subscription

## Main results

- `Step.redraws`, `Step.befalls` — every step is one of these to what is shown, and to every
  subscription

## Design notes

Nobody else emits on the bridges of widgets here. So a bridge of a subscription
takes what its listener is told, and the value with which it starts, and nothing
else.
-/

namespace WidgetStreams

open History

variable {σ : Type} {m : Manners} {v w : Toolkit σ} {p : Point} {h k : HandleId} {b c : BridgeId}
  {source : Source} {binding : Binding} {n : Nat} {judge : Judge}

-- ════════════════════════════════════════════════════════════════════════
-- Registrations on the screen
-- ════════════════════════════════════════════════════════════════════════

namespace Screen

variable {t : Screen} {q : Point} {l listener : Listener}

/-- A view that becomes clickable keeps the focus or goes on without it. -/
theorem ShowsAlike.install (t : Screen) (q : Point) (listener : Listener) :
    t.ShowsAlike (t.install q listener).2 := by
  simp only [Screen.install]
  split
  · exact .of_eq rfl rfl rfl rfl rfl
  · simp only [Screen.setListener]
    split
    · exact ShowsAlike.setFlags (t := t) rfl
    · exact ShowsAlike.setFlags (t := t) rfl
    · exact .of_eq rfl rfl rfl rfl rfl

theorem ShowsAlike.undone (t : Screen) (action : Release) :
    t.ShowsAlike (action.undone t) := by
  cases action with
  | client => exact .refl t
  | detach source key =>
    cases source with
    | client => exact .refl t
    | widget binding n judge => cases key <;> exact .of_eq rfl rfl rfl rfl rfl

/-- A slot that holds something after a registration elsewhere, or of something else, held it
    before. -/
theorem content_of_install {p : Point} (hp : p.site.isShared = false)
    (h : ((t.install q listener).2.slot p).content = some l) (hne : l ≠ listener) :
    (t.slot p).content = some l := by
  rw [slot_install hp] at h
  split at h
  · exact absurd (Option.some.inj h).symm hne
  · exact h

/-- A slot that holds something after it might have been emptied held it before. -/
theorem content_of_clearListener {p : Point} (h : ((t.clearListener q).slot p).content = some l) :
    (t.slot p).content = some l := by
  rw [slot_clearListener] at h
  split at h
  · cases h
  · exact h

theorem content_of_undone {p : Point} {action : Release}
    (h : ((action.undone t).slot p).content = some l) : (t.slot p).content = some l := by
  cases action with
  | client => exact h
  | detach source key =>
    cases source with
    | client => exact h
    | widget binding n judge =>
      cases key with
      | none => exact content_of_clearListener h
      | some key => exact h

end Screen

namespace Toolkit

section Registering

variable (hd : w.disposed h = false)
include hd

/-- The registration of another subscription may take the slot from one, and does not give it. -/
theorem content_registering (hp : p.site.isShared = false) (hne : c ≠ b) {binding' : Binding}
    {judge' : Judge}
    (hc : ((w.registering h c binding n judge).screen.slot p).content =
      some (.forward binding' b judge')) :
    (w.screen.slot p).content = some (.forward binding' b judge') := by
  rw [screen_registering w hd] at hc
  refine Screen.content_of_install hp hc fun he => ?_
  cases he
  exact hne rfl

theorem shows_registering : w.screen.ShowsAlike (w.registering h c binding n judge).screen := by
  rw [screen_registering w hd]
  exact Screen.ShowsAlike.install _ _ _

end Registering

end Toolkit

-- ════════════════════════════════════════════════════════════════════════
-- What may become of what is shown
-- ════════════════════════════════════════════════════════════════════════

/-- Whether an event is none with which what mirrors and feeds show may change. -/
def Event.isStill : Event → Bool
  | .dispatched _ _ _ | .altered _ _ | .flagged _ _ _ => false
  | _ => true

theorem Event.isStill_of_isAside {e : Event} (he : e.isAside = true) : e.isStill = true := by
  cases e <;> first | rfl | cases he

namespace Toolkit

/-- **What may become of what mirrors and feeds show** from one moment to the next. -/
inductive Redraws (v : Toolkit σ) : Toolkit σ → Prop
  /-- It stays as it is. -/
  | still {w : Toolkit σ} (es : List Event) (journal : w.journal = (v.notedAll es).journal)
      (events : ∀ e ∈ es, e.isStill = true) (shows : v.screen.ShowsAlike w.screen) : Redraws v w
  /-- A widget takes its turn, and tells of it. -/
  | turned {w : Toolkit σ} {q : Point} {e : NativeEvent} {content : Option Listener}
      (es : List Event) (turn : Turn v.screen w.screen q e)
      (journal : w.journal = (v.notedAll (.dispatched q e content :: es)).journal)
      (events : ∀ e ∈ es, e.isStill = true) : Redraws v w
  /-- An operation for any number of listeners changes the state of its widget. -/
  | altered {s : Screen} {q : Point} {value : Payload}
      (alteration : Alteration v.screen s q value) :
      Redraws v ((v.showing s).noted (.altered q value))
  /-- The flags of a view are set directly. -/
  | flagged {view : ViewId} {chosen : Flags} {on : Bool} :
      Redraws v ((v.withScreen fun s => s.setFlags view ((s.flags view).assign chosen on)).noted
        (.flagged view chosen on))

namespace Redraws

theorem of_screen (es : List Event) (hj : w.journal = (v.notedAll es).journal)
    (hes : ∀ e ∈ es, e.isStill = true) (hs : w.screen = v.screen) : v.Redraws w :=
  .still es hj hes (hs ▸ .refl _)

/-- A widget changes its state at most, before it tells a bridge of that. -/
theorem of_cause {s : Screen} {signal : Signal} {notes es : List Event}
    (cause : Cause m v c s signal notes) (hes : ∀ e ∈ es, e.isStill = true)
    (hj : w.journal = (v.notedAll (notes ++ es)).journal) (hs : w.screen = s) : v.Redraws w := by
  cases cause with
  | direct => exact .of_screen _ hj hes hs
  | failing | roster => exact .of_screen _ hj (List.forall_mem_cons.mpr ⟨rfl, hes⟩) hs
  | slot turn =>
    subst hs
    exact .turned _ turn hj (List.forall_mem_cons.mpr ⟨rfl, hes⟩)

end Redraws

end Toolkit

/-- **Every step is one of these to what is shown.** -/
theorem Step.redraws (h : Step m v w) : v.Redraws w := by
  cases h with
  | note he => exact .of_screen [_] rfl (by simpa using Event.isStill_of_isAside he) rfl
  | change h => exact .still [] h.journal (by simp) h.shows
  | newHandle | newBridge | drop | finish | unwind => exact .of_screen [] rfl (by simp) rfl
  | comeBack | withdraw | attach | conclude | hear | operate | advance | attached =>
    exact .of_screen [_] rfl (by simp [Event.isStill]) rfl
  | dispose =>
    refine .still _ (Toolkit.journal_disposing _ _) (by simp [Event.isStill]) ?_
    rw [Toolkit.screen_disposing]
    split
    · exact .refl _
    · exact Screen.ShowsAlike.undone _ _
  | arm =>
    refine .of_screen _ (Toolkit.journal_arming _ _ _) ?_ (Toolkit.screen_arming _ _ fun _ => rfl)
    split <;> simp [Event.isStill]
  | start hb hc hd cause =>
    exact .of_cause cause (by simp [Event.isStill]) (Toolkit.journal_notedAll_starting _ _ _ _) rfl
  | queue hm hb hc hd cause =>
    exact .of_cause cause (by simp [Event.isStill]) (Toolkit.journal_notedAll_queueing _ _ _ _) rfl
  | subscribe source observer =>
    exact .of_screen [_, _, _] rfl (by simp [Event.isStill]) rfl
  | registerWidget hm hd =>
    exact .still _ (Toolkit.journal_noted_registering hd _) (by simp [Event.isStill])
      (Toolkit.shows_registering hd)
  | registerWarm hm hd =>
    exact .still _ (Toolkit.journal_starting_registering hd _ _ _) (by simp [Event.isStill])
      (Toolkit.shows_registering hd)
  | @registerClient l c callback thread key =>
    refine .of_screen _ (Toolkit.journal_registeringClient v l callback thread key) ?_
      (Toolkit.screen_arming _ _ fun _ => rfl)
    split <;> simp [Event.isStill]
  | listen =>
    exact .still [_] rfl (by simp [Event.isStill]) (Screen.ShowsAlike.install _ _ _)
  | unlisten | removeListener =>
    exact .still [_] rfl (by simp [Event.isStill]) (.of_eq rfl rfl rfl rfl rfl)
  | pass turn => exact .turned [] turn rfl (by simp)
  | alter h => exact .altered h
  | flag => exact .flagged

namespace Toolkit

-- ════════════════════════════════════════════════════════════════════════
-- Bridges and their subscriptions
-- ════════════════════════════════════════════════════════════════════════

/-- The bridge of a subscription to a widget serves it. -/
theorem servesWidget_eq_true
    (ho : Occurred (.subscribing h b (.widget binding n judge)) w.journal) :
    w.servesWidget b = true := by
  obtain ⟨x, hx, he⟩ := ho
  refine List.any_eq_true.mpr ⟨x, hx, ?_⟩
  rw [he]
  exact beq_self_eq_true b

/-- A bridge has one subscription at most. -/
theorem Single.of_bridge (hw : w.Single) (hs : w.Sound) {source' : Source}
    (ho : Occurred (.subscribing h b source) w.journal)
    (ho' : Occurred (.subscribing k b source') w.journal) : h = k ∧ source = source' := by
  obtain rfl : h = k := (hs.knows ho).2.symm.trans (hs.knows ho').2
  exact ⟨rfl, (hw _ _ _ _ _ ho ho').2⟩

end Toolkit

/-- A listener that a bridge has at a widget is the one of its subscription. -/
theorem History.Enrolled.registered {binding' : Binding} {owner : Nat} {judge' : Judge}
    (he : Enrolled b binding' owner judge' v.journal) (hone : v.Single) (hs : v.Sound)
    (ho : Occurred (.subscribing h b (.widget binding n judge)) v.journal) :
    (binding' = binding ∧ owner = n ∧ judge' = judge) ∧
      ∃ key, Occurred (.registered h (.widget binding n judge) key) v.journal := by
  obtain ⟨k, key, ho', hreg⟩ := he
  obtain ⟨rfl, hsource⟩ := hone.of_bridge hs ho ho'
  obtain ⟨rfl, rfl, rfl⟩ := Source.widget.inj hsource
  exact ⟨⟨rfl, rfl, rfl⟩, key, hreg⟩

-- ════════════════════════════════════════════════════════════════════════
-- What may befall a subscription
-- ════════════════════════════════════════════════════════════════════════

/-- Whether an event is none that tells of a certain subscription: that it is registered, that it
    starts with a value, that its bridge takes one or hands it over; and none that tells of native
    events, of operations for any number of listeners, or of flags. -/
def Event.isForeign (h : HandleId) (b : BridgeId) : Event → Bool
  | .began bridge (.next _) => bridge != b
  | .accepted bridge (.next _) _ => bridge != b
  | .attached handle _ warm => handle != h || !warm
  | .registered handle (.widget _ _ _) _ => handle != h
  | .dispatched _ _ _ | .heard _ _ | .operating _ _ | .altered _ _ | .operated _ | .flagged _ _ _ =>
    false
  | _ => true

theorem Event.isForeign_of_isAside {e : Event} (he : e.isAside = true) (h : HandleId)
    (b : BridgeId) : e.isForeign h b = true ∨ ∃ q, e = .operated q := by
  cases e with
  | operated q => exact .inr ⟨q, rfl⟩
  | _ => first | exact .inl rfl | cases he

/-- What the journal says when a bridge takes a value, to hand it over at once or later. -/
def takings (b : BridgeId) (value : Payload) (queued : Bool) : List Event :=
  .accepted b (.next value) queued :: if queued then [] else [.began b (.next value)]

namespace Toolkit

/-- **What may befall a subscription** to a widget, with handle `h` and bridge `b`, from one moment
    to the next. -/
inductive Befalls (m : Manners) (v : Toolkit σ) (h : HandleId) (b : BridgeId) (binding : Binding)
    (n : Nat) (judge : Judge) : Toolkit σ → Prop
  /-- What happens is none of its business, or takes its slot from it. -/
  | quiet {w : Toolkit σ} (es : List Event) (journal : w.journal = (v.notedAll es).journal)
      (foreign : ∀ e ∈ es, e.isForeign h b = true) (shows : v.screen.ShowsAlike w.screen)
      (content : binding.site.isShared = false →
        (w.screen.slot (binding.point n)).content = some (.forward binding b judge) →
          (v.screen.slot (binding.point n)).content = some (.forward binding b judge)) :
      Befalls m v h b binding n judge w
  /-- It is registered, and starts with no value. -/
  | registered
      (stages : milestones h v.journal =
        [.subscribing h b (.widget binding n judge), .attaching h (.widget binding n judge)])
      (alive : v.disposed h = false) :
      Befalls m v h b binding n judge ((v.registering h b binding n judge).noted
        (.attached h (v.keyOf b binding n judge) false))
  /-- It is registered, and starts with what its widget shows. -/
  | started
      (stages : milestones h v.journal =
        [.subscribing h b (.widget binding n judge), .attaching h (.widget binding n judge)])
      (alive : v.disposed h = false) :
      Befalls m v h b binding n judge (((v.registering h b binding n judge).noted
        (.attached h (v.keyOf b binding n judge) true)).starting b
          (.next ((v.registering h b binding n judge).screen.current binding n)))
  /-- A value that waited is handed over. -/
  | advanced {value : Payload} {rest : List Signal} (queue : v.queue b = .next value :: rest) :
      Befalls m v h b binding n judge (v.advancing b (.next value) rest)
  /-- Its slot tells it of an event, of which its bridge takes the value. -/
  | told {w : Toolkit σ} {e : NativeEvent} {value : Payload} {queued : Bool}
      (turn : Turn v.screen w.screen (binding.point n) e)
      (content : (v.screen.slot (binding.point n)).content = some (.forward binding b judge))
      (alive : v.closed b = false) (member : member (binding.point n) h v.journal = true)
      (payload : binding.payload? e = some value) (signals : queued = true → m.signals = true)
      (journal : w.journal = (v.notedAll
        ([.dispatched (binding.point n) e (some (.forward binding b judge)),
          .heard (.forward binding b judge) e] ++ takings b value queued)).journal) :
      Befalls m v h b binding n judge w
  /-- An operation for any number of listeners tells it of an event, of which its bridge takes the
      value. -/
  | notified {w : Toolkit σ} {e : NativeEvent} {value : Payload} {queued : Bool}
      (shared : binding.site.isShared = true) (screen : w.screen = v.screen)
      (alive : v.closed b = false) (member : member (binding.point n) h v.journal = true)
      (payload : binding.payload? e = some value)
      (journal : w.journal = (v.notedAll
        ([.heard (.forward binding b judge) e] ++ takings b value queued)).journal) :
      Befalls m v h b binding n judge w
  /-- A slot tells another subscription. -/
  | toldOther {w : Toolkit σ} {q : Point} {e : NativeEvent} {c : BridgeId} {binding' : Binding}
      {judge' : Judge} {value : Payload} {queued : Bool} (other : c ≠ b)
      (turn : Turn v.screen w.screen q e)
      (content : (v.screen.slot q).content = some (.forward binding' c judge'))
      (journal : w.journal = (v.notedAll
        ([.dispatched q e (some (.forward binding' c judge')),
          .heard (.forward binding' c judge') e] ++ takings c value queued)).journal) :
      Befalls m v h b binding n judge w
  /-- An operation for any number of listeners tells another subscription. -/
  | notifiedOther {w : Toolkit σ} {e : NativeEvent} {c : BridgeId} {binding' : Binding}
      {judge' : Judge} {value : Payload} {queued : Bool} (other : c ≠ b)
      (screen : w.screen = v.screen)
      (journal : w.journal = (v.notedAll
        ([.heard (.forward binding' c judge') e] ++ takings c value queued)).journal) :
      Befalls m v h b binding n judge w
  /-- A slot tells whoever is there, and no bridge takes anything. -/
  | passed {s : Screen} {q : Point} {e : NativeEvent} (turn : Turn v.screen s q e)
      (pass : (v.screen.slot q).content = some (.forward binding b judge) →
        binding.payload? e = none ∨ v.closed b = true) :
      Befalls m v h b binding n judge
        ((v.showing s).noted (.dispatched q e (v.screen.slot q).content))
  /-- Its listener hears of an event, and its bridge takes nothing. -/
  | ignored {e : NativeEvent} (none : binding.payload? e = none ∨ v.closed b = true) :
      Befalls m v h b binding n judge (v.noted (.heard (.forward binding b judge) e))
  /-- Another listener hears of an event, and no bridge takes anything. -/
  | heardOther {l : Listener} {e : NativeEvent}
      (other : ∀ binding' judge', l ≠ .forward binding' b judge') :
      Befalls m v h b binding n judge (v.noted (.heard l e))
  /-- An operation for any number of listeners begins. -/
  | operating {q : Point} :
      Befalls m v h b binding n judge (v.noted (.operating q (v.screen.roster q).snapshot))
  /-- Such an operation changes the state of a widget. -/
  | altered {s : Screen} {q : Point} {value : Payload}
      (alteration : Alteration v.screen s q value) :
      Befalls m v h b binding n judge ((v.showing s).noted (.altered q value))
  /-- Such an operation is over. -/
  | operated {q : Point} : Befalls m v h b binding n judge (v.noted (.operated q))
  /-- The flags of a view are set directly. -/
  | flagged {view : ViewId} {chosen : Flags} {on : Bool} :
      Befalls m v h b binding n judge
        ((v.withScreen fun s => s.setFlags view ((s.flags view).assign chosen on)).noted
          (.flagged view chosen on))

namespace Befalls

/-- What leaves the screen as it is takes no slot from anybody. -/
theorem of_screen (es : List Event) (hj : w.journal = (v.notedAll es).journal)
    (hes : ∀ e ∈ es, e.isForeign h b = true) (hs : w.screen = v.screen) :
    v.Befalls m h b binding n judge w := by
  refine .quiet es hj hes ?_ fun _ => ?_
  · rw [hs]
    exact .refl _
  · rw [hs]
    exact id

theorem disposing (h' : HandleId) : v.Befalls m h b binding n judge (v.disposing h') := by
  refine .quiet _ (journal_disposing _ _) (by simp [Event.isForeign]) ?_ fun _ => ?_
  · rw [screen_disposing]
    split
    · exact .refl _
    · exact Screen.ShowsAlike.undone _ _
  · rw [screen_disposing]
    split
    · exact id
    · exact Screen.content_of_undone

/-- **The registration of another subscription** takes the slot at most. -/
theorem registering {h' : HandleId} {binding' : Binding} {n' : Nat} {judge' : Judge}
    (es : List Event) (hd : v.disposed h' = false) (hne : h' ≠ h) (hcb : c ≠ b)
    (hes : ∀ e ∈ es, e.isForeign h b = true)
    (hj : w.journal = ((v.registering h' c binding' n' judge').notedAll es).journal)
    (hs : w.screen = (v.registering h' c binding' n' judge').screen) :
    v.Befalls m h b binding n judge w := by
  refine .quiet _ (hj.trans (journal_notedAll_registering hd es)) ?_ ?_ fun hp => ?_
  · simpa [Event.isForeign, hne] using hes
  · exact hs ▸ shows_registering hd
  · exact hs ▸ content_registering hd hp hcb

/-- **A signal that a bridge takes** is what comes of what its listener is told, unless it tells of
    a failure or the bridge is none of a widget. -/
theorem of_cause {s : Screen} {signal : Signal} {notes : List Event} (queued : Bool)
    (cause : Cause m v c s signal notes) (hev : m.everywhere = false) (hs : v.Sound)
    (hone : v.Single) (ho : Occurred (.subscribing h b (.widget binding n judge)) v.journal)
    (hc : v.closed c = false) (hq : queued = true → m.signals = true)
    (hj : w.journal = (v.notedAll (notes ++ .accepted c signal queued ::
      if queued then [] else [.began c signal])).journal) (hscreen : w.screen = s) :
    v.Befalls m h b binding n judge w := by
  cases cause with
  | direct value hserves =>
    have hcb : c ≠ b := by
      rintro rfl
      rw [hev, servesWidget_eq_true ho] at hserves
      obtain h | h := hserves <;> cases h
    refine .of_screen _ hj ?_ hscreen
    cases queued <;> simp [Event.isForeign, hcb]
  | failing fault =>
    refine .of_screen _ hj ?_ hscreen
    cases queued <;> simp [Event.isForeign]
  | @slot s q e binding' judge' value turn hcontent hvalue =>
    subst hscreen
    by_cases hcb : c = b
    · subst hcb
      obtain ⟨hsite, henrolled⟩ := hs.placed (.inl hcontent)
      obtain ⟨⟨rfl, howner, rfl⟩, key, hreg⟩ := henrolled.registered hone hs ho
      obtain rfl : q = binding'.point n := Point.ext hsite.symm howner
      exact .told turn hcontent hc (member_eq_true.mpr ⟨_, _, _, key, hreg, rfl⟩) hvalue hq hj
    · exact .toldOther hcb turn hcontent hj
  | @roster e binding' judge' value hl hvalue =>
    by_cases hcb : c = b
    · subst hcb
      obtain ⟨hshared, owner, henrolled⟩ := hl
      obtain ⟨⟨rfl, -, rfl⟩, key, hreg⟩ := henrolled.registered hone hs ho
      exact .notified hshared hscreen hc (member_eq_true.mpr ⟨_, _, _, key, hreg, rfl⟩) hvalue hj
    · exact .notifiedOther hcb hscreen hj

end Befalls

end Toolkit

/-- **Every step is one of these to a subscription** to a widget, if nobody else emits on the
    bridges of widgets. -/
theorem Step.befalls (hev : m.everywhere = false) (hs : v.Sound) (hone : v.Single)
    (ho : Occurred (.subscribing h b (.widget binding n judge)) v.journal) (hstep : Step m v w) :
    v.Befalls m h b binding n judge w := by
  have hother : ∀ {l c source rest}, milestones l v.journal = .subscribing l c source :: rest →
      l ≠ h → c ≠ b := by
    rintro l c source rest hm hlh rfl
    exact hlh (hone.of_bridge hs (hs.hasHandle_of_subscribing hm).2 ho).1
  have hsource : ∀ {c source rest}, milestones h v.journal = .subscribing h c source :: rest →
      c = b ∧ source = .widget binding n judge := by
    intro c source rest hm
    exact hone _ _ _ _ _ (hs.hasHandle_of_subscribing hm).2 ho
  cases hstep with
  | @note e he =>
    obtain hforeign | ⟨q, rfl⟩ := Event.isForeign_of_isAside he h b
    · exact .of_screen [e] rfl (by simpa using hforeign) rfl
    · exact .operated
  | change h =>
    refine .quiet [] h.journal (by simp) h.shows fun _ => ?_
    rw [Screen.slot_congr h.slots]
    exact id
  | newHandle | newBridge | drop | finish | unwind => exact .of_screen [] rfl (by simp) rfl
  | comeBack | withdraw | attach | conclude =>
    exact .of_screen [_] rfl (by simp [Event.isForeign]) rfl
  | dispose => exact .disposing _
  | arm =>
    refine .of_screen _ (Toolkit.journal_arming _ _ _) ?_ (Toolkit.screen_arming _ _ fun _ => rfl)
    split <;> simp [Event.isForeign]
  | start hb hc hd cause =>
    exact .of_cause false cause hev hs hone ho hc (by simp)
      (Toolkit.journal_notedAll_starting _ _ _ _) rfl
  | queue hm hb hc hd cause =>
    exact .of_cause true cause hev hs hone ho hc (fun _ => hm)
      (Toolkit.journal_notedAll_queueing _ _ _ _) rfl
  | @advance c signal rest hr hd hc hf hq =>
    by_cases hown : c = b ∧ ∃ value, signal = .next value
    · obtain ⟨rfl, value, rfl⟩ := hown
      exact .advanced hq
    · refine .of_screen [_] rfl ?_ rfl
      cases signal with
      | next value => simpa [Event.isForeign] using hown
      | _ => simp [Event.isForeign]
  | subscribe source observer =>
    exact .of_screen [_, _, _] rfl (by simp [Event.isForeign]) rfl
  | @registerWidget l c binding' n' judge' hm hd =>
    by_cases hlh : l = h
    · subst hlh
      obtain ⟨rfl, heq⟩ := hsource hm
      obtain ⟨rfl, rfl, rfl⟩ := Source.widget.inj heq
      exact .registered hm hd
    · exact .registering [_] hd hlh (hother hm hlh) (by simp [Event.isForeign]) rfl rfl
  | @registerWarm l c binding' n' judge' hm hd hc hi =>
    by_cases hlh : l = h
    · subst hlh
      obtain ⟨rfl, heq⟩ := hsource hm
      obtain ⟨rfl, rfl, rfl⟩ := Source.widget.inj heq
      exact .started hm hd
    · refine .registering [_, _, _] hd hlh (hother hm hlh) ?_
        (Toolkit.journal_starting _ _ _) rfl
      simp [Event.isForeign, hlh, hother hm hlh]
  | @registerClient l c callback thread key =>
    refine .of_screen _ (Toolkit.journal_registeringClient v l callback thread key) ?_
      (Toolkit.screen_arming _ _ fun _ => rfl)
    split <;> simp [Event.isForeign]
  | @attached l c callback thread key warm hm =>
    have hlh : l ≠ h := by
      rintro rfl
      cases (hsource hm).2
    exact .of_screen [_] rfl (by simp [Event.isForeign, hlh]) rfl
  | @listen q listener hl =>
    refine .quiet [_] rfl (by simp [Event.isForeign])
      (Screen.ShowsAlike.install _ _ _) fun hp hc => Screen.content_of_install hp hc ?_
    rintro rfl
    cases hl
  | unlisten =>
    exact .quiet [_] rfl (by simp [Event.isForeign]) (.of_eq rfl rfl rfl rfl rfl)
      fun _ => Screen.content_of_clearListener
  | removeListener =>
    exact .quiet [_] rfl (by simp [Event.isForeign]) (.of_eq rfl rfl rfl rfl rfl)
      fun _ => id
  | pass turn hpass => exact .passed turn (hpass binding b judge)
  | @hear listener e hl =>
    by_cases hown : ∃ binding' judge', listener = .forward binding' b judge'
    · obtain ⟨binding', judge', rfl⟩ := hown
      obtain ⟨⟨owner, henrolled⟩, hnone⟩ := hl binding' b judge' rfl
      obtain ⟨⟨rfl, -, rfl⟩, -⟩ := henrolled.registered hone hs ho
      exact .ignored hnone
    · exact .heardOther fun binding' judge' hlistener => hown ⟨binding', judge', hlistener⟩
  | operate => exact .operating
  | alter h => exact .altered h
  | flag => exact .flagged

end WidgetStreams
