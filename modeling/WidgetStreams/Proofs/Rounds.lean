import WidgetStreams.Proofs.Callbacks
import WidgetStreams.Proofs.Upholding

/-!
# Who is told of an edit, and who of a move

This file proves that an edit of a text and a move of a pager tell everybody who
was registered when it began of everything, one round of calls after the other,
and nobody else of anything. It is about callbacks that make no edits and no
moves; they may dispose whomever they want to in the meantime.

## Main definitions

- `History.hearings` — of what listeners were told
- `UI.Calm`, `Client.Calm` — what tells no listener of anything and changes no text, a habit
- `UI.Tells` — of what a computation tells listeners
- `Call.rounds` — what a widget tells of an edit or of a move

## Main results

- `Code.calm` — code is calm if its callbacks make no bridge take a signal
- `Call.tells_everybody` — an edit or a move tells everybody of every round
-/

namespace WidgetStreams

open History UI

variable {σ τ α β : Type} {m : Manners} {v w u : Toolkit σ} {c : Client σ}

namespace History

/-- Of what an event says that a listener was told. -/
def heard? : Event → Option (Listener × NativeEvent)
  | .heard listener e => some (listener, e)
  | _ => none

/-- **Of what listeners were told.** -/
def hearings (j : List Entry) : List (Listener × NativeEvent) := collect heard? j

end History

-- ════════════════════════════════════════════════════════════════════════
-- What tells no listener of anything
-- ════════════════════════════════════════════════════════════════════════

/-- No listener was told of anything meanwhile, and no text was changed. -/
structure Toolkit.Undisclosed (v w : Toolkit σ) : Prop where
  hearings : hearings w.journal = hearings v.journal
  texts : w.screen.texts = v.screen.texts

namespace Toolkit.Undisclosed

theorem refl (w : Toolkit σ) : w.Undisclosed w := ⟨rfl, rfl⟩

theorem trans (h : v.Undisclosed w) (h' : w.Undisclosed u) : v.Undisclosed u :=
  ⟨h'.hearings.trans h.hearings, h'.texts.trans h.texts⟩

/-- Other entries of the journal are none of what listeners were told. -/
theorem noted (w : Toolkit σ) {e : Event} (he : heard? e = none) : w.Undisclosed (w.noted e) := by
  refine ⟨?_, rfl⟩
  rw [History.hearings, Toolkit.journal_noted, collect_cons, he]
  exact List.append_nil _

end Toolkit.Undisclosed

/-- **A calm computation** tells no listener of anything and changes no text, however it ends. -/
def UI.Calm (x : UI σ α) : Prop := ∀ w : Toolkit σ, w.Undisclosed (left (x w))

namespace UI.Calm

/-- The matter of calm computations. -/
def matter : Matter σ where
  holds _ := True
  same := Toolkit.Undisclosed
  refl := .refl
  trans := .trans
  mild _ hw := ⟨trivial, by rw [History.hearings, hw.journal]; rfl, hw.texts⟩
  note _ he := ⟨trivial, .noted _ (by cases ‹Event› <;> first | rfl | cases he)⟩

/-- **Calm is a habit**, whether there are panics or not. -/
theorem habit : Habit fun (_ : Prop) (α : Type) (x : UI σ α) => x.Calm := by
  simpa only [Calm, Upholds, matter, true_imp_iff, true_and] using (matter (σ := σ)).habit

end UI.Calm

/-- **A calm client**: all its callbacks are. -/
abbrev Client.Calm (c : Client σ) : Prop := c.Has fun _ _ x => x.Calm

/-- **Code is calm**, to any depth, if its callbacks make no bridge take a signal. -/
theorem Code.calm (hm : m.signals = false) (code : Code m τ) (depth : Nat) :
    (code.client depth).Calm := by
  refine UI.Calm.habit.ofCode (fun _ => ⟨rfl, rfl⟩) (fun _ _ => ⟨rfl, rfl⟩) (fun _ _ _ hx => hx)
    (fun hc β k hk => UI.Calm.habit.place (fun _ => ⟨rfl, rfl⟩)
      (UI.Calm.habit.ofActions hc k ?_)) code depth
  by_contra hr
  exact absurd (hk hr) (by simp [hm])

-- ════════════════════════════════════════════════════════════════════════
-- What an edit and a move tell
-- ════════════════════════════════════════════════════════════════════════

/-- **What listeners were told meanwhile**, in order: all of `said` if the computation came back,
    and then `T` holds; a part of it, from the start, if it did not. -/
def UI.Tells (v : Toolkit σ) (said : List (Listener × NativeEvent)) (T : Toolkit σ → Prop) :
    EStateM.Result Interrupt (Toolkit σ) α → Prop
  | .ok _ u => hearings u.journal = hearings v.journal ++ said ∧ T u
  | .error _ u => ∃ told, told <+: said ∧ hearings u.journal = hearings v.journal ++ told

namespace UI.Tells

variable {said said' : List (Listener × NativeEvent)} {T T' : Toolkit σ → Prop}

theorem of_calm {x : UI σ α} (hx : Calm x) (w : Toolkit σ) :
    Tells w [] (fun u => u.screen.texts = w.screen.texts) (x w) := by
  have hxw : w.Undisclosed (left (x w)) := hx w
  have hnothing : hearings (left (x w)).journal = hearings w.journal ++ [] := by
    rw [hxw.hearings, List.append_nil]
  cases hr : x w with
  | ok a u =>
    rw [hr] at hxw hnothing
    exact ⟨hnothing, hxw.texts⟩
  | error e u =>
    rw [hr] at hnothing
    exact ⟨[], List.nil_prefix, hnothing⟩

/-- What is told by one computation after the other. -/
theorem bind {x : UI σ α} {f : α → UI σ β} (hx : Tells w said T (x w))
    (hf : ∀ a u, T u → Tells u said' T' (f a u)) :
    Tells w (said ++ said') T' ((x >>= f) w) := by
  cases hr : x w with
  | ok a u =>
    rw [hr] at hx
    rw [bind_ok hr]
    obtain ⟨hsaid, hT⟩ := hx
    have hfu := hf a u hT
    cases hr' : f a u with
    | ok b z =>
      rw [hr'] at hfu
      exact ⟨by rw [hfu.1, hsaid, List.append_assoc], hfu.2⟩
    | error e z =>
      rw [hr'] at hfu
      obtain ⟨told, htold, hz⟩ := hfu
      refine ⟨said ++ told, (List.prefix_append_right_inj said).mpr htold, ?_⟩
      rw [hz, hsaid, List.append_assoc]
  | error e u =>
    rw [hr] at hx
    rw [bind_error hr]
    obtain ⟨told, htold, hu⟩ := hx
    exact ⟨told, htold.trans (List.prefix_append _ _), hu⟩

theorem mono {r : EStateM.Result Interrupt (Toolkit σ) α} (hr : Tells w said T r)
    (hT : ∀ u, T u → T' u) : Tells w said T' r := by
  cases r with
  | ok a u => exact ⟨hr.1, hT u hr.2⟩
  | error => exact hr

/-- What comes after may tell nothing. -/
theorem bind_nothing {x : UI σ α} {f : α → UI σ β} (hx : Tells w said T (x w))
    (hf : ∀ a u, T u → Tells u [] T' (f a u)) : Tells w said T' ((x >>= f) w) := by
  have hboth := hx.bind hf
  rwa [List.append_nil] at hboth

/-- What is told after something that tells nothing. -/
theorem after {r : EStateM.Result Interrupt (Toolkit σ) α}
    (h : hearings v.journal = hearings w.journal) (hr : Tells v said T r) : Tells w said T r := by
  cases r with
  | ok a u => exact ⟨by rw [hr.1, h], hr.2⟩
  | error e u =>
    obtain ⟨told, htold, hu⟩ := hr
    exact ⟨told, htold, by rw [hu, h]⟩

/-- What is told after another entry in the journal. -/
theorem note_bind {e : Event} (he : heard? e = none) {f : Unit → UI σ α}
    (hf : Tells (w.noted e) said T (f () (w.noted e))) :
    Tells w said T ((UI.note e >>= f) w) :=
  hf.after (Toolkit.Undisclosed.noted w he).hearings

/-- **An operation** tells what is told in its course. -/
theorem operate {p : Point} {x : List Listener → UI σ α}
    (hx : ∀ u : Toolkit σ, u.screen = w.screen →
      Tells u said T (x (w.screen.roster p).snapshot u)) :
    Tells w said (fun _ => True) (UI.operate p x w) := by
  let listeners := (w.screen.roster p).snapshot
  let begun := w.noted (.operating p listeners)
  have hbegun : hearings begun.journal = hearings w.journal :=
    (Toolkit.Undisclosed.noted w (e := .operating p listeners) rfl).hearings
  have hended : ∀ u : Toolkit σ, hearings (u.noted (.operated p)).journal = hearings u.journal :=
    fun u => (Toolkit.Undisclosed.noted u (e := .operated p) rfl).hearings
  have hrun := hx begun rfl
  change Tells w said _ (ensuring (fun u => u.noted (.operated p)) (x listeners) begun)
  simp only [ensuring]
  cases hr : x listeners begun with
  | ok a u =>
    rw [hr] at hrun
    exact ⟨by rw [hended, hrun.1, hbegun], trivial⟩
  | error e u =>
    rw [hr] at hrun
    obtain ⟨told, htold, hu⟩ := hrun
    exact ⟨told, htold, by rw [hended, hu, hbegun]⟩

end UI.Tells

/-- What the watchers of a text are told of an edit that makes one text of another. -/
def editRounds (v : ViewId) (start before count : Nat) (old new : String) : List NativeEvent :=
  [.textChanging v old start before count, .textChanged v new start before count,
    .textSettled v new]

namespace Client.Calm

/-- **A listener that is told of an event** tells nobody else. -/
theorem hearAs (hc : c.Calm) (listener : Listener) (e : NativeEvent) (w : Toolkit σ) :
    Tells w [(listener, e)] (fun u => u.screen.texts = w.screen.texts)
      (c.hearAs listener e w) := by
  have hheard : Tells w [(listener, e)] (fun u => u.screen.texts = w.screen.texts)
      ((UI.note (.heard listener e) : UI σ Unit) w) :=
    ⟨collect_cons heard? _ w.journal, rfl⟩
  refine hheard.bind_nothing fun _ u hu => ?_
  rw [← hu]
  cases listener with
  | client callback => exact .of_calm (hc.hear callback e) u
  | silent => exact .of_calm (UI.Calm.habit.pure false) u
  | forward binding b judge =>
    cases hv : binding.payload? e with
    | none =>
      simp only [hv]
      exact .of_calm (UI.Calm.habit.pure false) u
    | some value =>
      simp only [hv]
      split
      · exact .of_calm (UI.Calm.habit.emitJudged hc b value judge) u
      · exact .of_calm (UI.Calm.habit.emit hc b value) u

/-- **A round of calls** tells all listeners of one event, one after the other. -/
theorem notifyAll (hc : c.Calm) (e : NativeEvent) (listeners : List Listener) (w : Toolkit σ) :
    Tells w (listeners.map (·, e)) (fun u => u.screen.texts = w.screen.texts)
      (c.notifyAll e listeners w) := by
  induction listeners generalizing w with
  | nil => exact ⟨(List.append_nil _).symm, rfl⟩
  | cons listener rest ih =>
    have hfirst : Tells w [(listener, e)] (fun u => u.screen.texts = w.screen.texts)
        ((discard (c.hearAs listener e) : UI σ Unit) w) :=
      (hc.hearAs listener e w).bind_nothing fun _ u hu => ⟨(List.append_nil _).symm, hu⟩
    refine hfirst.bind fun _ u hu => ?_
    rw [← hu]
    exact ih u

/-- **An edit** tells the watchers before the text changes, after it, and once more. -/
theorem edit (hc : c.Calm) (v : ViewId) (start before count : Nat) (apply : String → String)
    (w : Toolkit σ) :
    Tells w ((editRounds v start before count (w.screen.text v) (apply (w.screen.text v))).flatMap
      fun e => (w.screen.roster ⟨.watcher, v⟩).snapshot.map (·, e)) (fun _ => True)
      (c.edit v start before count apply w) := by
  simp only [editRounds, List.flatMap_cons, List.flatMap_nil, List.append_nil]
  refine .operate (T := fun _ => True) fun x hx => ?_
  simp only [run_text_bind, hx]
  refine (hc.notifyAll _ _ x).bind fun _ u hu => ?_
  -- the callbacks have left the text as it was
  have htext : u.screen.text v = w.screen.text v := by
    rw [Screen.text, hu, hx, ← Screen.text]
  simp only [run_text_bind, run_putText_bind, htext]
  refine UI.Tells.after (v := u.showing _) rfl (.note_bind rfl (.note_bind rfl ?_))
  refine (hc.notifyAll _ _ _).bind fun _ y _ => ?_
  exact (hc.notifyAll _ _ y).mono fun _ _ => trivial

/-- **An itinerary** is told stop by stop. -/
theorem tellSteps (hc : c.Calm) (v : ViewId) (listeners : List Listener) (steps : List PageStep)
    (w : Toolkit σ) :
    Tells w ((steps.map (·.event v)).flatMap fun e => listeners.map (·, e)) (fun _ => True)
      (c.tellSteps v listeners steps w) := by
  induction steps generalizing w with
  | nil => exact ⟨(List.append_nil _).symm, trivial⟩
  | cons step rest ih =>
    have htake : Tells w [] (fun _ => True) ((UI.takeStep v step : UI σ Unit) w) := by
      cases step <;> exact ⟨(List.append_nil _).symm, trivial⟩
    refine htake.bind fun _ u _ => (hc.notifyAll _ _ u).bind fun _ x _ => ih x

end Client.Calm

/-- The way on which a call sends a pager with certain pages; none if there is no such page. -/
def Pages.route (p : Pages) (page : Nat) (steps : List PageStep) : List PageStep :=
  if page ≥ p.count then [] else steps

/-- **What a call tells of an edit or of a move**: whose listeners, and of which events. There is
    one round of calls for each event. -/
def Call.rounds (s : Screen) : Call α → Option (Point × List NativeEvent)
  | .setText v text =>
    some (⟨.watcher, v⟩, editRounds v 0 (s.text v).length text.length (s.text v) text)
  | .append v text =>
    some (⟨.watcher, v⟩, editRounds v (s.text v).length 0 text.length (s.text v) (s.text v ++ text))
  | .setPage v page smooth =>
    let p := s.pagesOf v
    let steps := if smooth then p.glide page false else Pages.jump page
    some (⟨.page, v⟩, (p.route page (if page = p.current then [] else steps)).map (·.event v))
  | .swipeTo v page =>
    let p := s.pagesOf v
    some (⟨.page, v⟩, (p.route page (p.glide page true)).map (·.event v))
  | _ => none

/-- **An edit or a move tells everybody** who was registered when it began of everything, in order,
    and nobody else of anything, if callbacks are calm. -/
theorem Call.tells_everybody (hc : c.Calm) (k : Call α) {p : Point} {rounds : List NativeEvent}
    (hr : k.rounds w.screen = some (p, rounds)) :
    Tells w (rounds.flatMap fun e => (w.screen.roster p).snapshot.map (·, e)) (fun _ => True)
      (k.make m c w) := by
  have hnobody : ∀ {β : Type} (a : β), Tells w [] (fun _ => True) ((pure a : UI σ β) w) :=
    fun a => ⟨(List.append_nil _).symm, trivial⟩
  cases k with
  | setText v text =>
    cases hr
    exact hc.edit v 0 _ _ (fun _ => text) w
  | append v text =>
    cases hr
    exact hc.edit v _ 0 _ (fun old => old ++ text) w
  | setPage v page smooth =>
    cases hr
    change Tells w _ _ (c.setPage v page smooth w)
    simp only [Client.setPage, run_pages_bind, run_ite, Pages.route, ne_eq, ite_not]
    split
    · exact hnobody _
    · split
      · exact hnobody _
      · refine UI.Tells.bind_nothing (.operate (T := fun _ => True) fun u hu => ?_) fun _ x _ =>
          ⟨(List.append_nil _).symm, trivial⟩
        rw [run_putPages_bind]
        exact UI.Tells.after (v := u.showing _) rfl (.note_bind rfl (hc.tellSteps v _ _ _))
  | swipeTo v page =>
    cases hr
    change Tells w _ _ (c.swipeTo v page w)
    simp only [Client.swipeTo, run_pages_bind, run_ite, Pages.route]
    split
    · exact hnobody _
    · refine UI.Tells.bind_nothing (.operate (T := fun _ => True) fun u hu => ?_) fun _ x _ =>
        ⟨(List.append_nil _).symm, trivial⟩
      rw [run_ite]
      split
      · rw [run_putPages_bind]
        exact UI.Tells.after (v := u.showing _) rfl (.note_bind rfl (hc.tellSteps v _ _ _))
      · exact hc.tellSteps v _ _ u
  | _ => cases hr

end WidgetStreams
