import WidgetStreams.Proofs.Widgets
import WidgetStreams.Toolkit.Scope
import WidgetStreams.Toolkit.Setting
import WidgetStreams.Toolkit.Tape

/-!
# Calls of the library

This file defines the calls that client code can make, and proves that each of
them lands within its frame.

## Main definitions

- `Call` — a call, with the type of its answer
- `Call.perform` — what the library does for it
- `Call.possible` — client code has got hold of what a call is about
- `Call.reach` — which client code a call may reach in turn

## Main results

- `Call.keeps` — calls keep the frame in which they are made
-/

namespace WidgetStreams

open History UI

variable {σ α : Type} {m : Manners} {K : σ → Prop} {s p : Prop} {v w : Toolkit σ} {c : Client σ}

/-- **A call** of the library, with the type of its answer. -/
inductive Call : Type → Type
  -- handles and scopes
  | newHandle (disposed : Bool) (action : Option Nat) : Call HandleId
  | dispose (h : HandleId) : Call Unit
  | setAction (h : HandleId) (action : Nat) : Call Unit
  | newScope : Call ScopeId
  | hold (s : ScopeId) (h : HandleId) : Call Unit
  | clearScope (s : ScopeId) : Call Unit
  | subscribeIn (s : ScopeId) (stream : Stream) (observer : Observer) : Call Unit
  -- the setting
  | installCheck (check : ThreadCheck) : Call ThreadCheck
  | overrideCheck (check : ThreadCheck) : Call OverrideId
  | endOverride (o : OverrideId) : Call Unit
  -- bridges, streams and sinks
  | newTape : Call TapeId
  | newBridge (observer : Observer) : Call (BridgeId × HandleId)
  | emit (b : BridgeId) (value : Payload) : Call Bool
  | emitJudged (b : BridgeId) (value : Payload) (judge : Judge) : Call Bool
  | fail (b : BridgeId) (fault : Fault) : Call Unit
  | checkThread (owner : Thread) (observer : Observer) : Call Bool
  | subscribe (stream : Stream) (observer : Observer) : Call HandleId
  | currentValue (source : Source) : Call Payload
  | accept (sink : Sink) (value : Payload) : Call (Except SinkError Unit)
  -- listeners, of the number of a callback or without any
  | listen (point : Point) (callback : Option Nat) : Call (Option Nat)
  | unlisten (point : Point) : Call Unit
  | removeListener (point : Point) (key : Nat) : Call Bool
  -- views
  | newView (thread : Thread) : Call ViewId
  | setFlags (v : ViewId) (chosen : Flags) (on : Bool) : Call Bool
  | setVisibility (v : ViewId) (visibility : Visibility) : Call Unit
  | requestFocus (v : ViewId) : Call Bool
  | clearFocus (v : ViewId) : Call Unit
  | setFocusable (v : ViewId) (focusable : Bool) : Call Unit
  | click (v : ViewId) : Call Bool
  | longClick (v : ViewId) : Call Bool
  | touch (v : ViewId) (motion : Motion) : Call Bool
  | hover (v : ViewId) (motion : Motion) : Call Bool
  | newSwipe (v : ViewId) : Call Nat
  | swipeAway (swipe : Nat) : Call Unit
  -- text views
  | setText (v : ViewId) (text : String) : Call Unit
  | append (v : ViewId) (text : String) : Call Unit
  | actInEditor (v : ViewId) (action : Int32) : Call Bool
  -- adapter views
  | newAdapterView (thread : Thread) (ids : List Int64) : Call ViewId
  | select (v : ViewId) (position : Int32) : Call (Except WidgetError Unit)
  | clearSelection (v : ViewId) : Call Unit
  | setRows (v : ViewId) (ids : List Int64) : Call Unit
  | clickRow (v : ViewId) (position : Int32) : Call Bool
  | longClickRow (v : ViewId) (position : Int32) : Call Bool
  -- search views and search bars
  | setQuery (v : ViewId) (query : String) (submit : Bool) : Call Unit
  | submitQuery (v : ViewId) : Call Bool
  | setBarQuery (v : ViewId) (query : String) : Call Unit
  | submitBarQuery (v : ViewId) : Call Unit
  | dismissKeyboard (v : ViewId) : Call Unit
  -- pagers, menus and scroll views
  | newPager (thread : Thread) (count : Nat) : Call ViewId
  | setPageWidth (v : ViewId) (width : Int32) : Call Unit
  | setPage (v : ViewId) (page : Nat) (smooth : Bool) : Call (Except WidgetError Unit)
  | swipeTo (v : ViewId) (page : Nat) : Call (Except WidgetError Unit)
  | newMenu (anchor : ViewId) (items : List MenuItem) : Call Nat
  | showMenu (menu : Nat) : Call Unit
  | dismissMenu (menu : Nat) : Call Unit
  | chooseItem (menu : Nat) (id : Int32) : Call Bool
  | scrollTo (v : ViewId) (new : ScrollOffset) : Call Unit
  | scrollBy (v : ViewId) (dx dy : Int32) : Call Unit

/-- Which client code a call may reach in turn. -/
inductive Reach
  /-- Nothing but actions of handles, whose panics go no further. -/
  | actions
  /-- Observers as well. -/
  | observers
  /-- Every kind of callback. -/
  | all
  deriving Repr, DecidableEq

/-- Whether a call that reaches so far may panic. -/
def Reach.mayPanic (m : Manners) : Reach → Prop
  | .actions => False
  | .observers => m.observersPanic = true
  | .all => m.mayPanic

namespace Call

/-- What the library does for a call. -/
def perform (c : Client σ) : Call α → UI σ α
  | newHandle disposed action =>
    UI.newHandle { disposed := disposed, action := action.map .client }
  | dispose h => c.dispose h
  | setAction h action => c.setAction h (.client action)
  | newScope => UI.newScope
  | hold s h => UI.hold s h
  | clearScope s => c.clearScope s
  | subscribeIn s stream observer => c.subscribeIn s stream observer
  | installCheck check => UI.installCheck check
  | overrideCheck check => UI.overrideCheck check
  | endOverride o => UI.endOverride o
  | newTape => UI.newTape
  | newBridge observer => UI.newBridge observer
  | emit b value => c.emit b value
  | emitJudged b value judge => c.emitJudged b value judge
  | fail b fault => c.fail b fault
  | checkThread owner observer => c.checkThread owner observer
  | subscribe stream observer => c.subscribe stream observer
  | currentValue source => c.currentValue source
  | accept sink value => c.accept sink value
  | listen point (some callback) => UI.listen point (.client callback)
  | listen point none => UI.listen point .silent
  | unlisten point => UI.unlisten point
  | removeListener point key => UI.removeListener point key
  | newView thread => UI.newView thread
  | setFlags v chosen on => UI.setFlags v chosen on
  | setVisibility v visibility => UI.setVisibility v visibility
  | requestFocus v => c.requestFocus v
  | clearFocus v => c.clearFocus v
  | setFocusable v focusable => c.setFocusable v focusable
  | click v => c.click v
  | longClick v => c.longClick v
  | touch v motion => c.touch v motion
  | hover v motion => c.hover v motion
  | newSwipe v => UI.newSwipe v
  | swipeAway swipe => c.swipeAway swipe
  | setText v text => c.setText v text
  | append v text => c.append v text
  | actInEditor v action => c.actInEditor v action
  | newAdapterView thread ids => UI.newAdapterView thread ids
  | select v position => c.select v position
  | clearSelection v => c.clearSelection v
  | setRows v ids => c.setRows v ids
  | clickRow v position => c.clickRow v position
  | longClickRow v position => c.longClickRow v position
  | setQuery v query submit => c.setQuery v query submit
  | submitQuery v => c.submitQuery v
  | setBarQuery v query => c.setBarQuery v query
  | submitBarQuery v => c.submitBarQuery v
  | dismissKeyboard v => c.dismissKeyboard v
  | newPager thread count => UI.newPager thread count
  | setPageWidth v width => UI.setPageWidth v width
  | setPage v page smooth => c.setPage v page smooth
  | swipeTo v page => c.swipeTo v page
  | newMenu anchor items => UI.newMenu anchor items
  | showMenu menu => UI.putShowing menu true
  | dismissMenu menu => c.dismissMenu menu
  | chooseItem menu id => c.chooseItem menu id
  | scrollTo v new => c.scrollTo v new
  | scrollBy v dx dy => c.scrollBy v dx dy

/-- Whether client code can have got hold of what a call is about: numbers of handles and bridges
    are given out by the library, and the bridge of a subscription to a widget to nobody but the
    widget's listener, unless the manners say otherwise. -/
def possible (m : Manners) (w : Toolkit σ) : Call α → Bool
  | dispose h | setAction h _ | hold _ h => (w.handles.find? h).isSome
  | emit b _ | emitJudged b _ _ =>
    (w.bridges.find? b).isSome && (m.everywhere || !w.servesWidget b)
  | fail b _ => (w.bridges.find? b).isSome
  | _ => true

/-- A call is made, if it is possible. -/
def make (m : Manners) (c : Client σ) (k : Call α) : UI σ α := do
  if k.possible m (← get) then k.perform c else throw .stalled

/-- Which client code a call may reach in turn. -/
def reach : Call α → Reach
  | newHandle _ _ | dispose _ | setAction _ _ | newScope | hold _ _ | clearScope _
  | installCheck _ | overrideCheck _ | endOverride _ | newTape | newBridge _ | listen _ _
  | unlisten _ | removeListener _ _ | newView _ | setFlags _ _ _ | setVisibility _ _ | newSwipe _
  | newAdapterView _ _ | newPager _ _ | setPageWidth _ _ | newMenu _ _ | showMenu _ => .actions
  | emit _ _ | fail _ _ | checkThread _ _ => .observers
  | _ => .all

end Call

/-- What a scope holds is changed for handles. -/
theorem Reached.putHeld (hw : Reached m K w) {s : ScopeId} {held : List HandleId}
    (hh : ∀ h ∈ held, w.HasHandle h) :
    Lands m K p (Frame m w) (fun _ _ => True) ((putHeld s held : UI σ Unit) w) := by
  have ha : Aside w { w with scopes := w.scopes.put s held } := by
    refine ⟨rfl, rfl, rfl, rfl, rfl, .refl _, fun k h hk => ?_⟩
    rw [Registry.get_put] at hk
    split at hk
    · exact .inr (hh h hk)
    · exact .inl hk
  exact ⟨hw.steps (.single (.change ha)) rfl, .of_aside ha rfl, trivial⟩

/-- Holding a handle lands. -/
theorem Reached.hold (hw : Reached m K w) (s : ScopeId) {h : HandleId} (hh : w.HasHandle h) :
    Lands m K p (Frame m w) (fun _ _ => True) ((hold s h : UI σ Unit) w) := by
  simp only [UI.hold, run_get_bind]
  refine hw.putHeld fun k hk => ?_
  obtain hk | hk := List.mem_append.mp hk
  · exact hw.sound.held (List.mem_filter.mp hk).1
  · rw [List.mem_singleton.mp hk]
    exact hh

namespace Keeps

theorem newScope : Keeps m K s p (UI.newScope : UI σ ScopeId) := by
  intro w hw _
  have ha : Aside w { w with scopes := (w.scopes.add []).2 } := by
    refine ⟨rfl, rfl, rfl, rfl, rfl, .refl _, fun k h hk => ?_⟩
    obtain he | he := w.scopes.get_add_or [] k
    · exact .inl (he ▸ hk)
    · rw [he] at hk
      cases hk
  exact ⟨hw.steps (.single (.change ha)) rfl, .of_aside ha rfl, trivial⟩

theorem newTape : Keeps m K s p (UI.newTape : UI σ TapeId) := fun w hw _ =>
  have ha : Aside w { w with tapes := (w.tapes.add {}).2 } :=
    ⟨rfl, rfl, rfl, rfl, rfl, .refl _, fun _ _ h => .inl h⟩
  ⟨hw.steps (.single (.change ha)) rfl, .of_aside ha rfl, trivial⟩

theorem installCheck (check : ThreadCheck) :
    Keeps m K s p (UI.installCheck check : UI σ ThreadCheck) := fun w hw _ =>
  have ha : Aside w { w with threadCheck := check } :=
    ⟨rfl, rfl, rfl, rfl, rfl, .refl _, fun _ _ h => .inl h⟩
  ⟨hw.steps (.single (.change ha)) rfl, .of_aside ha rfl, trivial⟩

theorem overrideCheck (check : ThreadCheck) :
    Keeps m K s p (UI.overrideCheck check : UI σ OverrideId) := fun w hw _ =>
  have ha : Aside w
      { w with threadCheck := check, overrides := (w.overrides.add w.threadCheck).2 } :=
    ⟨rfl, rfl, rfl, rfl, rfl, .refl _, fun _ _ h => .inl h⟩
  ⟨hw.steps (.single (.change ha)) rfl, .of_aside ha rfl, trivial⟩

theorem endOverride (o : OverrideId) : Keeps m K s p (UI.endOverride o : UI σ Unit) := by
  intro w hw _
  simp only [UI.endOverride, run_get_bind]
  rcases w.overrides.remove o with ⟨_ | before, overrides⟩
  · exact ⟨hw, .refl w, trivial⟩
  · have ha : Aside w { w with threadCheck := before, overrides := overrides } :=
      ⟨rfl, rfl, rfl, rfl, rfl, .refl _, fun _ _ h => .inl h⟩
    exact ⟨hw.steps (.single (.change ha)) rfl, .of_aside ha rfl, trivial⟩

theorem newBridge (observer : Observer) :
    Keeps m K s p (UI.newBridge observer : UI σ (BridgeId × HandleId)) := by
  intro w hw _
  have hf : Frame m w (w.opening observer) := by
    refine .of_step (.newBridge observer) rfl (fun b => ?_) (fun _ => rfl) fun _ => rfl
    have hb := hw.sound.find?_opening observer b
    rw [Toolkit.delivering, Registry.get, hb]
    split
    · next e =>
      rw [Toolkit.delivering, Registry.get, hw.sound.freshBridges b (Nat.le_of_eq e)]
      rfl
    · rfl
  exact ⟨hw.steps hf.steps rfl, hf, trivial⟩

end Keeps

namespace Client.Behaves

/-- **Handles that a scope held are disposed**, one after the other. -/
theorem disposeHeld (hc : c.Behaves m K) (s : ScopeId) (held : List HandleId)
    (hw : Reached m K w) (hh : ∀ h ∈ held, w.HasHandle h) :
    Lands m K p (Frame m w) (fun _ _ => True) (c.disposeHeld s held w) := by
  induction held generalizing w with
  | nil => exact hw.putHeld (by simp)
  | cons h earlier ih =>
    have hrest := fun k hk => hh k (List.mem_cons_of_mem _ hk)
    refine (hw.putHeld fun k hk => hrest k (List.mem_reverse.mp hk)).next fun _ u hu hwu _ => ?_
    have hhu : u.HasHandle h := hwu.grows.hasHandle (hh h List.mem_cons_self)
    refine ((hc.dispose hu hhu).mono False.elim).next fun _ x hx hux _ => ?_
    exact ih hx fun k hk => (hwu.grows.trans hux.grows).hasHandle (hrest k hk)

theorem clearScope (hc : c.Behaves m K) (s : ScopeId) :
    Keeps m K False p (c.clearScope s) := by
  intro w hw _
  simp only [Client.clearScope, run_get_bind, run_note_bind]
  have hf := Frame.note (m := m) w (e := .clearing s (w.scopes.get s).length) rfl
  exact Lands.after hf (hc.disposeHeld s _ (hw.steps hf.steps rfl) fun h hh =>
    hw.sound.held (List.mem_reverse.mp hh))

theorem subscribeIn (hc : c.Behaves m K) (s : ScopeId) (stream : Stream) (observer : Observer) :
    Keeps m K True m.mayPanic (c.subscribeIn s stream observer) := fun _ hw hf =>
  (hc.subscribe hw (hf trivial) stream observer).next fun _ _ hu _ hh => hu.hold s hh

theorem currentValue (hc : c.Behaves m K) (source : Source) :
    Keeps m K False m.mayPanic (c.currentValue source) := by
  cases source with
  | widget binding owner judge => exact .read fun _ => ⟨_, rfl⟩
  | client callback thread => exact (hc.current callback).mono id .inr

/-- An action of client code is put in place. -/
theorem arm (hc : c.Behaves m K) (hw : Reached m K w) {h : HandleId} (hh : w.HasHandle h)
    (n : Nat) :
    Lands m K p (Frame m w) (fun _ _ => True) (c.setAction h (.client n) w) := by
  have hf : Frame m w (w.arming h (.client n)) := by
    refine .of_step (.arm hh) ?_ (fun b => ?_) (fun b => ?_) fun k => ?_
    · simp only [Toolkit.arming]
      split <;> rfl
    · simp only [Toolkit.arming]
      split <;> rfl
    · rw [Toolkit.journal_arming, marks_notedAll]
      split <;> simp [mark?]
    · rw [Toolkit.journal_arming, milestones_notedAll]
      split <;> simp [milestone?, subscription?]
  have hclient : (w.arming h (.client n)).client = w.client := by
    simp only [Toolkit.arming]
    split <;> rfl
  exact Lands.after hf ((hc.setAction (hw.steps hf.steps hclient)).mono False.elim)

end Client.Behaves

namespace Call

/-- **A call keeps the frame** in which it is made. -/
theorem keeps (hc : c.Behaves m K) (k : Call α) :
    Keeps m K (k.reach ≠ .actions) (k.reach.mayPanic m) (k.make m c) := by
  intro w hw hf
  simp only [make, run_get_bind, run_ite]
  split
  swap
  · exact hw.record
  next hk =>
  have hall : Keeps m K True m.mayPanic (k.perform c) → k.reach = .all →
      Lands m K (k.reach.mayPanic m) (Frame m w) (fun _ _ => True) (k.perform c w) := by
    intro h hr
    rw [hr] at hf ⊢
    exact h w hw fun _ => hf (by simp)
  have hquiet : Keeps m K False False (k.perform c) →
      Lands m K (k.reach.mayPanic m) (Frame m w) (fun _ _ => True) (k.perform c w) :=
    fun h => (h w hw False.elim).mono False.elim
  cases k with
  | newHandle disposed action =>
    exact (hw.newHandle disposed action).weaken fun _ _ _ _ _ => trivial
  | dispose h => exact (hc.dispose hw hk).weaken fun _ _ _ _ _ => trivial
  | setAction h action => exact hc.arm hw hk action
  | newScope => exact hquiet .newScope
  | hold s h => exact hw.hold s hk
  | clearScope s => exact hquiet (hc.clearScope s)
  | subscribeIn s stream observer => exact hall (hc.subscribeIn s stream observer) rfl
  | installCheck check => exact hquiet (.installCheck check)
  | overrideCheck check => exact hquiet (.overrideCheck check)
  | endOverride o => exact hquiet (.endOverride o)
  | newTape => exact hquiet .newTape
  | newBridge observer => exact hquiet (.newBridge observer)
  | emit b value =>
    obtain ⟨hb, hs⟩ : w.HasBridge b ∧ (m.everywhere = true ∨ w.servesWidget b = false) := by
      simpa [possible, Toolkit.HasBridge] using hk
    exact hc.emit [] hw (hf (by simp [reach])) hb (fun _ => ⟨hw, .refl w⟩) fun _ => .direct value hs
  | emitJudged b value judge =>
    obtain ⟨hb, hs⟩ : w.HasBridge b ∧ (m.everywhere = true ∨ w.servesWidget b = false) := by
      simpa [possible, Toolkit.HasBridge] using hk
    exact hc.emitJudged [] hw (hf (by simp [reach])) hb (fun _ => ⟨hw, .refl w⟩) fun _ =>
      .direct value hs
  | fail b fault => exact hc.fail hw (hf (by simp [reach])) hk
  | checkThread owner observer => exact hc.checkThread owner observer w hw False.elim
  | subscribe stream observer =>
    exact (hc.subscribe hw (hf (by simp [reach])) stream observer).weaken fun _ _ _ _ _ => trivial
  | currentValue source => exact hall ((hc.currentValue source).mono False.elim id) rfl
  | accept sink value => exact hall (hc.accept sink value) rfl
  | listen point callback =>
    cases callback with
    | none => exact hquiet (.listen point rfl)
    | some callback => exact hquiet (.listen point rfl)
  | unlisten point => exact hquiet (.unlisten point)
  | removeListener point key => exact hquiet (.removeListener point key)
  | newView thread => exact hquiet (.newView thread)
  | setFlags v chosen on => exact hquiet (.setFlags v chosen on)
  | setVisibility v visibility => exact hquiet (.setVisibility v visibility)
  | requestFocus v => exact hall (hc.requestFocus v) rfl
  | clearFocus v => exact hall (hc.clearFocus v) rfl
  | setFocusable v focusable => exact hall (hc.setFocusable v focusable) rfl
  | click v => exact hall (hc.click v) rfl
  | longClick v => exact hall (hc.longClick v) rfl
  | touch v motion => exact hall (hc.touch v motion) rfl
  | hover v motion => exact hall (hc.hover v motion) rfl
  | newSwipe v => exact hquiet (.newSwipe v)
  | swipeAway swipe => exact hall (hc.swipeAway swipe) rfl
  | setText v text => exact hall (hc.setText v text) rfl
  | append v text => exact hall (hc.append v text) rfl
  | actInEditor v action => exact hall (hc.actInEditor v action) rfl
  | newAdapterView thread ids => exact hquiet (.newAdapterView thread ids)
  | select v position => exact hall (hc.select v position) rfl
  | clearSelection v => exact hall (hc.clearSelection v) rfl
  | setRows v ids => exact hall (hc.setRows v ids) rfl
  | clickRow v position => exact hall (hc.clickRow v position) rfl
  | longClickRow v position => exact hall (hc.longClickRow v position) rfl
  | setQuery v query submit => exact hall (hc.setQuery v query submit) rfl
  | submitQuery v => exact hall (hc.submitQuery v) rfl
  | setBarQuery v query => exact hall (hc.setBarQuery v query) rfl
  | submitBarQuery v => exact hall (hc.submitBarQuery v) rfl
  | dismissKeyboard v => exact hall (hc.dismissKeyboard v) rfl
  | newPager thread count => exact hquiet (.newPager thread count)
  | setPageWidth v width => exact hquiet (.setPageWidth v width)
  | setPage v page smooth => exact hall (hc.setPage v page smooth) rfl
  | swipeTo v page => exact hall (hc.swipeTo v page) rfl
  | newMenu anchor items => exact hquiet (.newMenu anchor items)
  | showMenu menu => exact hquiet (.putShowing menu true)
  | dismissMenu menu => exact hall (hc.dismissMenu menu) rfl
  | chooseItem menu id => exact hall (hc.chooseItem menu id) rfl
  | scrollTo v new => exact hall (hc.scrollTo v new) rfl
  | scrollBy v dx dy => exact hall (hc.scrollBy v dx dy) rfl

end Call

end WidgetStreams
