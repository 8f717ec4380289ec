import WidgetStreams.Proofs.Subscribing
import WidgetStreams.Toolkit.View

/-!
# Telling listeners takes steps

This file proves that a native event lands within the frame in which it comes,
whoever is registered for it: the listener in a slot, or those in a registry.

## Main results

- `Client.Behaves.notify` — the listener in a slot is told
- `Client.Behaves.notifyAll` — listeners of a shared site are told
- `Client.Behaves.notify_turning` — so is it by a widget that changes its state on the way
- `Keeps.listen`, `Keeps.unlisten`, `Keeps.removeListener` — listeners come and go
-/

namespace WidgetStreams

open History UI

variable {σ : Type} {m : Manners} {K : σ → Prop} {s p : Prop} {v w : Toolkit σ} {c : Client σ}
  {e : NativeEvent} {listener : Listener} {point : Point}

/-- What is noted when an event comes to a slot: that it comes there, and who is told. -/
def History.telling (p : Point) (e : NativeEvent) (content : Option Listener) : List Event :=
  .dispatched p e content :: content.toList.map fun listener => .heard listener e

/-- **Telling a slot** is over if it is empty, or when the listener there has answered. -/
theorem Client.ok_of_notify {answer : Option Bool} (h : c.notify point e v = .ok answer w) :
    ((v.screen.slot point).content = none ∧ answer = none ∧
      w = v.noted (.dispatched point e none)) ∨
    ∃ listener consumed, (v.screen.slot point).content = some listener ∧ answer = some consumed ∧
      c.hearAs listener e (v.noted (.dispatched point e (some listener))) = .ok consumed w := by
  simp only [notify, run_screen_bind, run_note_bind] at h
  generalize (v.screen.slot point).content = content at h
  cases content with
  | none =>
    cases h
    exact .inl ⟨rfl, rfl, rfl⟩
  | some listener =>
    obtain ⟨consumed, _, hr, h⟩ := of_bind_ok h
    cases h
    exact .inr ⟨listener, consumed, rfl, rfl, hr⟩

/-- **Telling a slot comes to an end** unless the listener there comes to none. -/
theorem Client.error_of_notify {i : Interrupt} (h : c.notify point e v = .error i w) :
    ∃ listener x, (v.screen.slot point).content = some listener ∧
      c.hearAs listener e x = .error i w := by
  simp only [notify, run_screen_bind, run_note_bind] at h
  generalize hcontent : (v.screen.slot point).content = content at h
  cases content with
  | none => cases h
  | some listener =>
    obtain h | ⟨_, _, -, h⟩ := of_bind_error h
    · exact ⟨listener, _, rfl, h⟩
    · cases h

/-- A listener that is registered for a subscription has a bridge. -/
theorem Toolkit.Sound.hasBridge_of_enrolled (hs : w.Sound) {binding : Binding} {b : BridgeId}
    {owner : Nat} {judge : Judge} (hl : Enrolled b binding owner judge w.journal) :
    w.HasBridge b := by
  obtain ⟨h, key, ho, -⟩ := hl
  exact (hs.knows ho).1

/-- What is registered at a shared site comes from there. -/
theorem Toolkit.Sound.isShared_of_mem (hs : w.Sound) (point : Point)
    (hp : point.site.isShared = true) (hl : listener ∈ (w.screen.roster point).snapshot) :
    w.IsShared listener := by
  have hplaced := hs.placed (.inr hl)
  cases listener with
  | forward binding b judge =>
    obtain ⟨hsite, henrolled⟩ := hplaced
    exact ⟨hsite ▸ hp, point.owner, henrolled⟩
  | _ => trivial

theorem Toolkit.IsShared.mono (hl : v.IsShared listener) (hg : Grows v w) :
    w.IsShared listener := by
  cases listener with
  | forward =>
    obtain ⟨hs, owner, ho⟩ := hl
    exact ⟨hs, owner, ho.mono hg.journal⟩
  | _ => trivial

/-- A slot that is told of what no mirror delivers turns nothing. -/
theorem Turn.still {s : Screen} (h : point.Unmirrored e) : Turn s s point e where
  slots := rfl
  rosters := rfl
  elsewhere _ _ _ _ := rfl
  told binding value hm hsite hv := by
    rw [h binding hm hsite] at hv
    cases hv
  feeds _ _ _ := rfl

/-- A native event that no bridge takes is in the frame. -/
theorem Frame.pass {screen : Screen} (turn : Turn w.screen screen point e)
    (hp : ∀ binding b judge, (w.screen.slot point).content = some (.forward binding b judge) →
        binding.payload? e = none ∨ w.closed b = true) :
    Frame m w ((w.showing screen).noted (.dispatched point e (w.screen.slot point).content)) :=
  .of_step (.pass turn hp) rfl (fun _ => rfl)
    (fun _ => by rw [marks_noted]; exact List.append_nil _)
    fun _ => by rw [milestones_noted]; exact List.append_nil _

/-- A listener that is told of an event for nothing is in the frame. -/
theorem Frame.hear (hl : ∀ binding b judge, listener = .forward binding b judge →
      (∃ owner, Enrolled b binding owner judge w.journal) ∧
        (binding.payload? e = none ∨ w.closed b = true)) :
    Frame m w (w.noted (.heard listener e)) :=
  .of_step (.hear hl) rfl (fun _ => rfl) (fun _ => by rw [marks_noted]; exact List.append_nil _)
    fun _ => by rw [milestones_noted]; exact List.append_nil _

namespace Client.Behaves

/-- **A listener is told** of an event, after what is noted of how the event came to it. If no
    bridge takes a value for it, that makes no difference; else it is the cause of the signal. -/
theorem hearAs {screen : Screen} (notes : List Event) (hc : c.Behaves m K) (hw : Reached m K w)
    (hf : Free m w)
    (hknown : ∀ binding b judge, listener = .forward binding b judge →
      ∃ owner, Enrolled b binding owner judge w.journal)
    (hpass : (∀ binding b judge, listener = .forward binding b judge →
        binding.payload? e = none ∨ w.closed b = true) →
      Frame m w ((w.showing screen).notedAll notes))
    (hcause : ∀ binding b judge value, listener = .forward binding b judge →
      binding.payload? e = some value →
        Cause m w b screen (.next value) (notes ++ [.heard listener e])) :
    Lands m K m.mayPanic (Frame m w) (fun _ _ => True)
      (c.hearAs listener e ((w.showing screen).notedAll notes)) := by
  have hquiet : (∀ binding b judge, listener = .forward binding b judge →
      binding.payload? e = none ∨ w.closed b = true) →
      Reached m K ((w.showing screen).notedAll (notes ++ [.heard listener e])) ∧
        Frame m w ((w.showing screen).notedAll (notes ++ [.heard listener e])) := by
    intro h
    have hpassed := hpass h
    have hheard : Frame m w ((w.showing screen).notedAll (notes ++ [.heard listener e])) := by
      rw [Toolkit.notedAll_concat]
      refine hpassed.trans (.hear fun binding b judge hl => ?_)
      obtain ⟨owner, ho⟩ := hknown binding b judge hl
      exact ⟨⟨owner, ho.mono hpassed.grows.journal⟩, h binding b judge hl⟩
    exact ⟨hw.steps hheard.steps rfl, hheard⟩
  simp only [Client.hearAs, run_note_bind, ← Toolkit.notedAll_concat]
  cases listener with
  | client callback =>
    obtain ⟨hu, hwu⟩ := hquiet (by simp)
    exact Lands.after hwu (((hc.hear callback e).mono id .inr) _ hu False.elim)
  | silent =>
    obtain ⟨hu, hwu⟩ := hquiet (by simp)
    exact ⟨hu, hwu, trivial⟩
  | forward binding b judge =>
    cases hv : binding.payload? e with
    | none =>
      obtain ⟨hu, hwu⟩ := hquiet fun _ _ _ h => by cases h; exact .inl hv
      simp only [hv]
      exact ⟨hu, hwu, trivial⟩
    | some value =>
      obtain ⟨owner, ho⟩ := hknown binding b judge rfl
      have hb := hw.sound.hasBridge_of_enrolled ho
      have cause := hcause binding b judge value rfl hv
      have hclosed := fun hcl : w.closed b = true => hquiet fun _ _ _ h => by
        cases h
        exact .inr hcl
      simp only [hv, run_ite]
      split
      · exact hc.emitJudged _ hw hf hb hclosed fun _ => cause
      · exact (hc.emit _ hw hf hb hclosed fun _ => cause).mono .inl

/-- **The listener in a slot is told** by a widget that turns. -/
theorem notify_turning {screen : Screen} (hc : c.Behaves m K) (hw : Reached m K w) (hf : Free m w)
    (turn : Turn w.screen screen point e) :
    Lands m K m.mayPanic (Frame m w) (fun _ _ => True) (c.notify point e (w.showing screen)) := by
  have hslot : ((w.showing screen).screen.slot point).content = (w.screen.slot point).content := by
    change (screen.slot point).content = _
    rw [Screen.slot, turn.slots]
    rfl
  simp only [Client.notify, run_screen_bind, run_note_bind]
  rw [hslot]
  cases hcontent : (w.screen.slot point).content with
  | none =>
    have hpass : Frame m w
        ((w.showing screen).noted (.dispatched point e (w.screen.slot point).content)) :=
      .pass turn fun _ _ _ h => by rw [hcontent] at h; cases h
    rw [hcontent] at hpass
    exact ⟨hw.steps hpass.steps rfl, hpass, trivial⟩
  | some listener =>
    have hpass : (∀ binding b judge, listener = .forward binding b judge →
        binding.payload? e = none ∨ w.closed b = true) →
        Frame m w ((w.showing screen).noted (.dispatched point e (some listener))) := by
      intro h
      rw [← hcontent]
      exact .pass turn fun binding b judge hl =>
        h binding b judge (Option.some.inj (hcontent.symm.trans hl))
    have hknown : ∀ binding b judge, listener = .forward binding b judge →
        ∃ owner, Enrolled b binding owner judge w.journal := by
      rintro binding b judge rfl
      exact ⟨point.owner, (hw.sound.placed (.inl hcontent)).2⟩
    have hcause : ∀ binding b judge value, listener = .forward binding b judge →
        binding.payload? e = some value → Cause m w b screen (.next value)
          ([.dispatched point e (some listener)] ++ [.heard listener e]) := by
      rintro binding b judge value rfl hv
      exact .slot turn hcontent hv
    have htold := hc.hearAs [.dispatched point e (some listener)] hw hf hknown hpass hcause
    exact htold.bind (fun _ hx => hx) fun _ u hu hwu _ => ⟨hu, hwu, trivial⟩

/-- **The listener in a slot is told** of what no mirror delivers. -/
theorem notify (hc : c.Behaves m K) {point : Point} {e : NativeEvent}
    (he : point.Unmirrored e) : Keeps m K True m.mayPanic (c.notify point e) :=
  fun _ hw hf => hc.notify_turning hw (hf trivial) (.still he)

theorem ask (hc : c.Behaves m K) {point : Point} {e : NativeEvent} (he : point.Unmirrored e) :
    Keeps m K True m.mayPanic (c.ask point e) :=
  (hc.notify he).bind fun _ => .pure _

/-- **Listeners of shared sites are told**, one after the other. -/
theorem notifyAll (hc : c.Behaves m K) (hw : Reached m K w) (hf : Free m w) (e : NativeEvent)
    (listeners : List Listener) (hl : ∀ l ∈ listeners, w.IsShared l) :
    Lands m K m.mayPanic (Frame m w) (fun _ _ => True) (c.notifyAll e listeners w) := by
  induction listeners generalizing w with
  | nil => exact ⟨hw, .refl w, trivial⟩
  | cons listener rest ih =>
    have hshared := hl listener List.mem_cons_self
    have hknown : ∀ binding b judge, listener = .forward binding b judge →
        ∃ owner, Enrolled b binding owner judge w.journal := by
      rintro binding b judge rfl
      exact hshared.2
    have hcause : ∀ binding b judge value, listener = .forward binding b judge →
        binding.payload? e = some value →
          Cause m w b w.screen (.next value) ([] ++ [.heard listener e]) := by
      rintro binding b judge value rfl hv
      exact .roster hshared hv
    have htold := hc.hearAs [] hw hf hknown (fun _ => .refl w) hcause
    refine (htold.discard (T := fun _ _ => True) fun _ _ h => h).next fun _ u hu hwu _ => ?_
    exact ih hu (hf.frame hwu) fun l hl' => (hl l (List.mem_cons_of_mem _ hl')).mono hwu.grows

end Client.Behaves

namespace Keeps

theorem listen (point : Point) {listener : Listener} (hl : listener.isRaw = true) :
    Keeps m K s p (UI.listen point listener : UI σ (Option Nat)) := by
  intro w hw _
  have hf : Frame m w ((w.withScreen fun s => (s.install point listener).2).noted
      (.installed point listener)) :=
    .of_step (.listen hl) rfl (fun _ => rfl) (fun _ => by rw [marks_noted]; exact List.append_nil _)
      fun _ => by rw [milestones_noted]; exact List.append_nil _
  exact ⟨hw.steps hf.steps rfl, hf, trivial⟩

/-- **An operation of a widget** keeps the frame if what is done in its course does, for listeners
    that are registered at the point. -/
theorem operate {point : Point} (hp : point.site.isShared = true) {x : List Listener → UI σ α}
    (hx : ∀ listeners v, Reached m K v → (s → Free m v) → (∀ l ∈ listeners, v.IsShared l) →
      Lands m K p (Frame m v) (fun _ _ => True) (x listeners v)) :
    Keeps m K s p (UI.operate point x) := by
  intro w hw hf
  let listeners := (w.screen.roster point).snapshot
  let begun := w.noted (.operating point listeners)
  have hbegun : Frame m w begun :=
    .of_step .operate rfl (fun _ => rfl) (fun _ => by rw [marks_noted]; exact List.append_nil _)
      fun _ => by rw [milestones_noted]; exact List.append_nil _
  have hover : ∀ u, Reached m K u → Frame m begun u →
      Reached m K (u.noted (.operated point)) ∧ Frame m w (u.noted (.operated point)) := by
    intro u hu hwu
    have hended : Frame m u (u.noted (.operated point)) := .note u rfl
    exact ⟨hu.steps hended.steps rfl, (hbegun.trans hwu).trans hended⟩
  have hrun := hx listeners _ (hw.steps hbegun.steps rfl) (fun hs => (hf hs).frame hbegun)
    fun l hl => (hw.sound.isShared_of_mem point hp hl).mono hbegun.grows
  change Lands m K p (Frame m w) _
    (ensuring (fun u => u.noted (.operated point)) (x listeners) begun)
  simp only [ensuring]
  cases hr : x listeners begun with
  | ok a u =>
    rw [hr] at hrun
    obtain ⟨hu, hwu⟩ := hover u hrun.1 hrun.2.1
    exact ⟨hu, hwu, trivial⟩
  | error e u =>
    rw [hr] at hrun
    cases e with
    | panic =>
      obtain ⟨hu, hwu⟩ := hover u hrun.2.1 hrun.2.2
      exact ⟨hrun.1, hu, hwu⟩
    | stalled => exact hrun

theorem unlisten (point : Point) : Keeps m K s p (UI.unlisten point : UI σ Unit) := by
  intro w hw _
  have hf : Frame m w ((w.withScreen fun s => s.clearListener point).noted (.cleared point)) :=
    .of_step .unlisten rfl (fun _ => rfl) (fun _ => by rw [marks_noted]; exact List.append_nil _)
      fun _ => by rw [milestones_noted]; exact List.append_nil _
  exact ⟨hw.steps hf.steps rfl, hf, trivial⟩

theorem removeListener (point : Point) (key : Nat) :
    Keeps m K s p (UI.removeListener point key : UI σ Bool) := by
  intro w hw _
  have hf : Frame m w ((w.withScreen fun s => (s.removeListener point key).2).noted
      (.removed point key)) :=
    .of_step .removeListener rfl (fun _ => rfl)
      (fun _ => by rw [marks_noted]; exact List.append_nil _)
      fun _ => by rw [milestones_noted]; exact List.append_nil _
  exact ⟨hw.steps hf.steps rfl, hf, trivial⟩

theorem setFlags (v : ViewId) (chosen : Flags) (on : Bool) :
    Keeps m K s p (UI.setFlags v chosen on : UI σ Bool) := by
  intro w hw _
  have hf : Frame m w ((w.withScreen fun s => s.setFlags v ((s.flags v).assign chosen on)).noted
      (.flagged v chosen on)) :=
    .of_step .flag rfl (fun _ => rfl) (fun _ => by rw [marks_noted]; exact List.append_nil _)
      fun _ => by rw [milestones_noted]; exact List.append_nil _
  exact ⟨hw.steps hf.steps rfl, hf, trivial⟩

end Keeps

end WidgetStreams
