import WidgetStreams.Proofs.AlikeWidgets
import WidgetStreams.Proofs.Program

/-!
# Programs treat twins alike

This file proves that calls of the library do the same in twin toolkits, and so
do programs whose doings do not depend on what differs there.

## Main definitions

- `Call.points` — the slots that a call may tell of events
- `Pairing.callFor`, `Pairing.Answers` — which calls and which answers stand for each other
- `Program.Alike` — two programs do the same in twins
- `Program.Records` — a program only changes the client's own state
- `Code.Impartial` — client code that treats twins alike

## Main results

- `Call.alike` — calls that stand for each other are alike
- `Program.Alike.run` — so are the runs of programs
- `Code.Impartial.client` — impartial code makes an impartial client
-/

namespace WidgetStreams

open History UI

variable {σ τ α β : Type} {m : Manners} {K : σ → σ → Prop} {v w u : Toolkit σ} {P : Pairing}
  {c : Client σ}

/-- **The slots that a call depends on**: those that it may tell of events, and those whose
    listeners set a flag that it sets. -/
def Call.points : Call α → List Point
  | accept sink _ => sink.points
  | setFlags v chosen _ =>
    (if chosen.clickable then [⟨.click, v⟩] else []) ++
      if chosen.longClickable then [⟨.longClick, v⟩] else []
  | requestFocus v | clearFocus v | setFocusable v _ => [⟨.focus, v⟩]
  | click v => [⟨.click, v⟩]
  | longClick v => [⟨.longClick, v⟩]
  | touch v _ => [⟨.touch, v⟩]
  | hover v _ => [⟨.hover, v⟩]
  | swipeAway n => [⟨.swipe, n⟩]
  | actInEditor v _ => [⟨.editorAction, v⟩]
  | select v _ | clearSelection v | setRows v _ => [⟨.itemSelected, v⟩]
  | clickRow v _ => [⟨.itemClick, v⟩]
  | longClickRow v _ => [⟨.itemLongClick, v⟩]
  | setQuery v _ _ | submitQuery v => [⟨.query, v⟩]
  | setBarQuery v _ | submitBarQuery v | dismissKeyboard v => [⟨.barQuery, v⟩]
  | dismissMenu n => [⟨.menuDismiss, n⟩]
  | chooseItem n _ => [⟨.menuClick, n⟩, ⟨.menuDismiss, n⟩]
  | scrollTo v _ | scrollBy v _ _ => [⟨.scroll, v⟩]
  | _ => []

namespace Pairing

/-- The call for that in the twin: a listener is removed by the key that stands for the other. -/
def callFor (P : Pairing) : {α : Type} → Call α → Call α
  | _, .removeListener p key => .removeListener p (P.rekey p key)
  | _, k => k

/-- **The answers** of a call in twins: they are the same, or keys that stand for each other.
    Whether a submitted query is consumed may depend on what is passed over. -/
def Answers (P : Pairing) : {α : Type} → Call α → α → α → Prop
  | _, .submitQuery _, a, b => P.Total → a = b
  | _, .listen p _, a, b => a = b.map (P.rekey p)
  | _, _, a, b => a = b

end Pairing

-- ════════════════════════════════════════════════════════════════════════
-- Calls
-- ════════════════════════════════════════════════════════════════════════

namespace Pairing.Alike

theorem newScope : P.Alike K Eq (UI.newScope : UI σ ScopeId) UI.newScope :=
  .change fun _ _ h => ⟨_, _, _, _, rfl, rfl, congrArg Registry.next h.scopes, h.of_twins
    { h.toTwins with scopes := congrArg (fun scopes => (scopes.add []).2) h.scopes } rfl
      fun _ => id⟩

theorem hold (s : ScopeId) (k : HandleId) :
    P.Alike K Eq (UI.hold s k : UI σ Unit) (UI.hold s k) := by
  refine .modify fun v w h => h.of_twins { h.toTwins with scopes := ?_ } rfl fun _ => id
  have hopen : ∀ k, (v.handles.get k).disposed = (w.handles.get k).disposed := h.disposed
  simp only [h.scopes, hopen]

theorem installCheck (check : ThreadCheck) :
    P.Alike K Eq (UI.installCheck check : UI σ ThreadCheck) (UI.installCheck check) :=
  .change fun _ _ h => ⟨_, _, _, _, rfl, rfl, h.threadCheck, h.of_twins
    { h.toTwins with threadCheck := rfl } rfl fun _ => id⟩

theorem overrideCheck (check : ThreadCheck) :
    P.Alike K Eq (UI.overrideCheck check : UI σ OverrideId) (UI.overrideCheck check) := by
  refine (installCheck check).next fun before => .change fun v w h => ?_
  exact ⟨_, _, _, _, rfl, rfl, congrArg Registry.next h.overrides, h.of_twins
    { h.toTwins with overrides := congrArg (fun overrides => (overrides.add before).2) h.overrides }
    rfl fun _ => id⟩

theorem endOverride (o : OverrideId) :
    P.Alike K Eq (UI.endOverride o : UI σ Unit) (UI.endOverride o) := by
  refine get.bind fun v w h => ?_
  rw [h.overrides]
  split
  · exact .pure rfl
  · exact .modify fun _ _ h => h.of_twins
      { h.toTwins with threadCheck := rfl, overrides := rfl } rfl fun _ => id

theorem newTape : P.Alike K Eq (UI.newTape : UI σ TapeId) UI.newTape := by
  refine .change fun v w h => ⟨_, _, _, _, rfl, rfl, h.tapes.1, h.of_twins
    { h.toTwins with tapes := ⟨congrArg (· + 1) h.tapes.1, fun t ht => ?_⟩ } rfl fun _ => id⟩
  change (v.tapes.add {}).2.find? t = (w.tapes.add {}).2.find? t
  rw [Registry.find?_add_eq, Registry.find?_add_eq, h.tapes.1, h.tapes.2 t ht]

/-- A listener that forwards to nobody is registered. -/
theorem listen (p : Point) {listener : Listener}
    (hl : ∀ binding b judge, listener ≠ .forward binding b judge) :
    P.Alike K (fun a b => a = b.map (P.rekey p)) (UI.listen p listener : UI σ (Option Nat))
      (UI.listen p listener) := by
  have hsame : P.relabel listener = listener := relabel_of_ne fun _ _ => hl _ _ _
  refine .change fun v w h => ?_
  obtain ⟨hkey, hscreen⟩ := h.screen.install (fits_of_ne (fun _ _ => hl _ _ _) p)
  rw [hsame] at hkey hscreen
  exact ⟨_, _, _, _, rfl, rfl, hkey, (h.showing hscreen).noted rfl rfl⟩

theorem unlisten (p : Point) : P.Alike K Eq (UI.unlisten p : UI σ Unit) (UI.unlisten p) :=
  (changeScreen fun _ _ h => h.clearListener p).next fun _ => note rfl rfl

theorem removeListener (p : Point) (key : Nat) :
    P.Alike K Eq (UI.removeListener p (P.rekey p key) : UI σ Bool) (UI.removeListener p key) := by
  refine .change fun v w h => ?_
  obtain ⟨hremoved, hscreen⟩ := h.screen.removeListener p key
  exact ⟨_, _, _, _, rfl, rfl, hremoved, (h.showing hscreen).noted rfl rfl⟩

theorem newView (thread : Thread) : P.Alike K Eq (UI.newView thread : UI σ ViewId)
    (UI.newView thread) := by
  refine .change fun v w h => ⟨_, _, _, _, rfl, rfl, h.screen.viewsNext, ?_⟩
  exact h.showing (h.screen.addView { thread := thread })

theorem newSwipe (v : ViewId) : P.Alike K Eq (UI.newSwipe v : UI σ Nat) (UI.newSwipe v) := by
  refine Client.Impartial.screen.bind fun s t h => ?_
  have hswipes : s.swipes = t.swipes := h.read fun _ => rfl
  rw [hswipes]
  exact .next (.changeBare fun _ => rfl) fun _ => .pure rfl

theorem newMenu (anchor : ViewId) (items : List MenuItem) :
    P.Alike K Eq (UI.newMenu anchor items : UI σ Nat) (UI.newMenu anchor items) := by
  refine Client.Impartial.screen.bind fun s t h => ?_
  have hmenus : s.menus = t.menus := h.read fun _ => rfl
  rw [hmenus]
  exact .next (.changeBare fun _ => rfl) fun _ => .pure rfl

theorem showMenu (n : Nat) :
    P.Alike K Eq (UI.putShowing n true : UI σ Unit) (UI.putShowing n true) :=
  .changeBare fun _ => rfl

end Pairing.Alike

/-- What is possible in one of two twins is possible in the other. -/
theorem Pairing.Twins.possible (h : P.Twins K v w) (k : Call α) :
    (P.callFor k).possible m v = k.possible m w := by
  have hhandle : ∀ k, (v.handles.find? k).isSome = (w.handles.find? k).isSome := by
    intro k
    have hk := h.handles k
    revert hk
    generalize v.handles.find? k = x
    generalize w.handles.find? k = y
    rintro (_ | _) <;> rfl
  have hbridge : ∀ b, (v.bridges.find? b).isSome = (w.bridges.find? b).isSome :=
    fun b => congrArg (fun bridges => (bridges.find? b).isSome) h.bridges
  cases k <;> simp only [Pairing.callFor, Call.possible, hhandle, hbridge, h.serves]

/-- Client code emits by the bridge of the two subscriptions only what is handed over as it is. -/
theorem Pairing.Lawful.emits (hP : P.Lawful m) (h : P.Twins K v w) {b : BridgeId}
    (hb : (m.everywhere || !w.servesWidget b) = true) (value : Payload) (hown : b = P.bridge) :
    P.project value = some value ∧ P.proper value := by
  refine hP.free ?_ value
  rw [Bool.or_eq_true] at hb
  refine hb.imp id fun hserves => ?_
  cases ht : P.twin with
  | client callback thread => exact ⟨callback, thread, rfl⟩
  | widget binding n judge =>
    rw [hown, h.widget binding n judge ht] at hserves
    cases hserves

/-- A call that depends on no slot that is left out of account sets no flag that is. -/
theorem Pairing.spares_of_points {v : ViewId} {chosen : Flags} {on : Bool}
    (h : ∀ p ∈ (Call.setFlags v chosen on).points, ¬ P.Hides p) : P.Spares v chosen := by
  refine ⟨fun hc => ?_, fun hc => ?_⟩ <;> rw [← Bool.not_eq_true] <;> intro hchosen
  · exact h _ (by simp [Call.points, hchosen]) (Pairing.hides_of_clickable hc)
  · exact h _ (by simp [Call.points, hchosen]) (Pairing.hides_of_longClickable hc)

/-- **Calls that stand for each other are alike**, if they depend on no slot that is left out of
    account. -/
theorem Call.alike (hc : c.Impartial P K) (hP : P.Lawful m) (k : Call α)
    (hk : ∀ p ∈ k.points, ¬ P.Hides p) :
    P.Alike K (P.Answers k) ((P.callFor k).make m c) (k.make m c) := by
  intro v w hvw
  simp only [Call.make, run_get_bind, hvw.toTwins.possible k]
  split
  swap
  · exact Pairing.Alike.stalled v w hvw
  next hposs =>
  refine (?_ : P.Alike K (P.Answers k) ((P.callFor k).perform c) (k.perform c)) v w hvw
  have hemits : ∀ b, (w.bridges.find? b).isSome && (m.everywhere || !w.servesWidget b) →
      ∀ value, b = P.bridge → P.project value = some value ∧ P.proper value := by
    intro b hb value
    exact hP.emits hvw.toTwins (Bool.and_eq_true_iff.mp hb).2 value
  cases k with
  | newHandle disposed action => exact Client.Impartial.newHandle disposed action
  | dispose k => exact hc.dispose hP k
  | setAction k action => exact hc.setAction hP k (.client action)
  | newScope => exact .newScope
  | hold s k => exact .hold s k
  | clearScope s => exact hc.clearScope hP s
  | subscribeIn s stream observer => exact (hc.subscribe hP stream observer).next fun k => .hold s k
  | installCheck check => exact .installCheck check
  | overrideCheck check => exact .overrideCheck check
  | endOverride o => exact .endOverride o
  | newTape => exact .newTape
  | newBridge observer => exact (Client.Impartial.newBridge observer).mono fun _ _ h => h.1
  | emit b value => exact hc.emit hP b value (hemits b hposs value)
  | emitJudged b value judge =>
    exact hc.judged hP (hc.emit hP b value (hemits b hposs value)) (hc.verdictSame judge value)
  | fail b fault => exact hc.fail hP b fault
  | checkThread owner observer => exact hc.checkThread owner observer
  | subscribe stream observer => exact hc.subscribe hP stream observer
  | currentValue source => exact hc.currentValue source
  | accept sink value => exact hc.accept hP hk value
  | listen point callback => cases callback <;> exact .listen point (by simp)
  | unlisten point => exact .unlisten point
  | removeListener point key => exact .removeListener point key
  | newView thread => exact .newView thread
  | setFlags v chosen on =>
    exact (Client.Impartial.setFlags v chosen on).mono fun _ _ h => h (Pairing.spares_of_points hk)
  | setVisibility v visibility => exact Client.Impartial.setVisibility v visibility
  | requestFocus v => exact hc.requestFocus hP (hk _ List.mem_cons_self)
  | clearFocus v => exact hc.clearFocus hP (hk _ List.mem_cons_self)
  | setFocusable v focusable => exact hc.setFocusable hP (hk _ List.mem_cons_self) focusable
  | click v => exact hc.click hP (hk _ List.mem_cons_self)
  | longClick v => exact hc.longClick hP (hk _ List.mem_cons_self)
  | touch v motion => exact hc.touch hP (hk _ List.mem_cons_self) motion
  | hover v motion => exact hc.hover hP (hk _ List.mem_cons_self) motion
  | newSwipe v => exact .newSwipe v
  | swipeAway n => exact hc.swipeAway hP (hk _ List.mem_cons_self)
  | setText v text => exact hc.setText hP v text
  | append v text => exact hc.append hP v text
  | actInEditor v action => exact hc.actInEditor hP (hk _ List.mem_cons_self) action
  | newAdapterView thread ids =>
    exact (Pairing.Alike.newView thread).next fun v =>
      (Client.Impartial.rows v).next fun _ => .next (.changeBare fun _ => rfl) fun _ => .pure rfl
  | select v position => exact hc.select hP (hk _ List.mem_cons_self) position
  | clearSelection v => exact hc.clearSelection hP (hk _ List.mem_cons_self)
  | setRows v ids => exact hc.setRows hP (hk _ List.mem_cons_self) ids
  | clickRow v position => exact hc.clickRow hP (hk _ List.mem_cons_self) position
  | longClickRow v position => exact hc.longClickRow hP (hk _ List.mem_cons_self) position
  | setQuery v query submit => exact hc.setQuery hP (hk _ List.mem_cons_self) query submit
  | submitQuery v => exact hc.submitQuery hP (hk _ List.mem_cons_self)
  | setBarQuery v query => exact hc.setBarQuery hP (hk _ List.mem_cons_self) query
  | submitBarQuery v => exact hc.submitBarQuery hP (hk _ List.mem_cons_self)
  | dismissKeyboard v => exact hc.dismissKeyboard hP (hk _ List.mem_cons_self)
  | newPager thread count =>
    exact (Pairing.Alike.newView thread).next fun v =>
      (Client.Impartial.pages v).next fun _ => .next (.changeBare fun _ => rfl) fun _ => .pure rfl
  | setPageWidth v width =>
    exact (Client.Impartial.pages v).next fun _ => .changeBare fun _ => rfl
  | setPage v page smooth => exact hc.setPage hP v page smooth
  | swipeTo v page => exact hc.swipeTo hP v page
  | newMenu anchor items => exact .newMenu anchor items
  | showMenu n => exact .showMenu n
  | dismissMenu n => exact hc.dismissMenu hP (hk _ List.mem_cons_self)
  | chooseItem n id =>
    exact hc.chooseItem hP (hk _ List.mem_cons_self)
      (hk _ (List.mem_cons_of_mem _ List.mem_cons_self)) id
  | scrollTo v new => exact hc.scrollTo hP (hk _ List.mem_cons_self) new
  | scrollBy v dx dy => exact hc.scrollBy hP (hk _ List.mem_cons_self) dx dy

-- ════════════════════════════════════════════════════════════════════════
-- Programs
-- ════════════════════════════════════════════════════════════════════════

/-- **Two programs are alike** if they do the same in twins, from states of their own that `S`
    relates: they may look at everything, but what they do must not depend on what differs. They do
    not call what depends on a slot that is left out of account. -/
inductive Program.Alike (P : Pairing) (S : τ → τ → Prop) {s : Prop} :
    {p : Prop} → {α : Type} → Program m τ s p α → Program m τ s p α → Prop
  | done {p : Prop} {α : Type} (a : α) : Alike P S (.done a : Program m τ s p α) (.done a)
  | panic {p : Prop} {α : Type} (h : p) (message : String) :
      Alike P S (.panic h message : Program m τ s p α) (.panic h message)
  | look {p : Prop} {α : Type} {next next' : Toolkit Unit → τ → Program m τ s p α}
      (h : ∀ v w own own', P.Twins (fun _ _ => True) v w → S own own' →
        Alike P S (next v own) (next' w own')) : Alike P S (.look next) (.look next')
  | keep {p : Prop} {α : Type} {own own' : τ} {next next' : Program m τ s p α} (hown : S own own')
      (h : Alike P S next next') : Alike P S (.keep own next) (.keep own' next')
  | call {p : Prop} {α β : Type} (k : Call β) {hs : (P.callFor k).reach ≠ .actions → s}
      {hs' : k.reach ≠ .actions → s} {hp : (P.callFor k).reach.mayPanic m → p}
      {hp' : k.reach.mayPanic m → p} {next next' : β → Program m τ s p α}
      (hk : ∀ p ∈ k.points, ¬ P.Hides p)
      (h : ∀ a b, P.Answers k a b → Alike P S (next a) (next' b)) :
      Alike P S (.call (P.callFor k) hs hp next) (.call k hs' hp' next')
  | attempt {p : Prop} {α β : Type} {body body' : Program m τ s True β}
      {next next' : Except String β → Program m τ s p α} (hbody : Alike P S body body')
      (h : ∀ result, Alike P S (next result) (next' result)) :
      Alike P S (.attempt body next) (.attempt body' next')
  | elsewhere {p : Prop} {α β : Type} {body body' : Program m τ s p β}
      {next next' : β → Program m τ s p α} (hbody : Alike P S body body')
      (h : ∀ result, Alike P S (next result) (next' result)) :
      Alike P S (.elsewhere body next) (.elsewhere body' next')

/-- **A program only records**: it looks and keeps, and in the end its own state is one that `S`
    relates to that at the beginning. -/
inductive Program.Records (S : τ → τ → Prop) {s p : Prop} (start : τ) :
    τ → Program m τ s p α → Prop
  | done {own : τ} (hown : S start own) (a : α) : Records S start own (.done a)
  | look {own : τ} {next : Toolkit Unit → τ → Program m τ s p α}
      (h : ∀ w, Records S start own (next w own)) : Records S start own (.look next)
  | keep {own own' : τ} {next : Program m τ s p α} (h : Records S start own' next) :
      Records S start own (.keep own' next)

/-- Two desks are the same to client code. -/
def Desk.Same (S : τ → τ → Prop) (x y : Desk τ) : Prop := S x.own y.own

theorem Desk.Same.equivalence {S : τ → τ → Prop} (hS : Equivalence S) :
    Equivalence (Desk.Same S) :=
  ⟨fun x => hS.refl x.own, hS.symm, hS.trans⟩

namespace Program

variable {S : τ → τ → Prop} {s p : Prop} {c : Client (Desk τ)}

/-- **A program that only records** comes to its end, and nothing but the desk is another. -/
theorem Records.run {start own : τ} {program : Program m τ s p α}
    (h : Records S start own program) {w : Toolkit (Desk τ)} (hw : w.client.own = own) :
    ∃ a d, program.run c w = .ok a { w with client := d } ∧ S start d.own := by
  induction h generalizing w with
  | done hown a => exact ⟨a, _, rfl, hw ▸ hown⟩
  | look h ih =>
    subst hw
    exact ih _ rfl
  | keep h ih => exact ih (w := { w with client := ⟨_, _⟩ }) rfl

end Program

namespace Pairing

variable {S : τ → τ → Prop}

/-- Twins are twins to client code, which does not see the state of anybody else. -/
theorem Twins.erased (h : P.Twins K v w) : P.Twins (fun _ _ => True) v.erased w.erased :=
  { h with client := trivial }

namespace Alike

theorem observeMoment :
    P.Alike (Desk.Same S) Eq (UI.observeMoment : UI (Desk τ) Unit) UI.observeMoment :=
  .modify fun _ _ h => h.of_twins { h.toTwins with client := h.client } rfl fun _ => id

theorem putOwn {own own' : τ} (hown : S own own') :
    P.Alike (Desk.Same S) Eq (UI.putOwn own : UI (Desk τ) Unit) (UI.putOwn own') :=
  .modify fun _ _ h => h.of_twins { h.toTwins with client := hown } rfl fun _ => id

end Alike

end Pairing

/-- **Programs that are alike** are gone through alike. The induction is on how they are alike, with
    one case for each thing that they may do first. -/
theorem Program.Alike.run {S : τ → τ → Prop} {s p : Prop} {c : Client (Desk τ)}
    (hc : c.Impartial P (Desk.Same S)) (hP : P.Lawful m) {program program' : Program m τ s p α}
    (h : program.Alike P S program') :
    P.Alike (Desk.Same S) Eq (program.run c) (program'.run c) := by
  induction h with
  | done a => exact Pairing.Alike.observeMoment.next fun _ => .pure rfl
  | panic h message => exact Pairing.Alike.observeMoment.next fun _ => .panic message
  | look h ih =>
    refine Pairing.Alike.observeMoment.next fun _ => Pairing.Alike.get.bind fun v w hvw => ?_
    exact ih _ _ _ _ hvw.toTwins.erased hvw.client
  | keep hown h ih =>
    exact Pairing.Alike.observeMoment.next fun _ => (Pairing.Alike.putOwn hown).next fun _ => ih
  | call k hk h ih =>
    exact Pairing.Alike.observeMoment.next fun _ =>
      (k.alike hc hP hk).bind fun a b hab => ih a b hab
  | attempt hbody h ihb ih =>
    exact Pairing.Alike.observeMoment.next fun _ => ihb.catching.next fun result => ih result
  | elsewhere hbody h ihb ih =>
    exact Pairing.Alike.observeMoment.next fun _ => ihb.onNewThread.next fun result => ih result

-- ════════════════════════════════════════════════════════════════════════
-- Code
-- ════════════════════════════════════════════════════════════════════════

namespace Code

/-- **The judges of the two sources** judge alike: the one judges what is made of the value that the
    other judges. -/
inductive SameJudge (code : Code m τ) (P : Pairing) (S : τ → τ → Prop) : Judge → Judge → Prop
  | always : SameJudge code P S .always .always
  | client {n n' : Nat} (h : ∀ a b, P.project b = some a →
      (code.judge n a).Alike P S (code.judge n' b)) : SameJudge code P S (.client n) (.client n')

/-- **Code treats twins alike**: so do the programs of all its callbacks, but those of the observer,
    which only record. -/
structure Impartial (code : Code m τ) (P : Pairing) (S : τ → τ → Prop) : Prop where
  equivalence : Equivalence S
  observe : ∀ n signal, ¬ P.observer.Calls n →
    (code.observe n signal).Alike P S (code.observe n signal)
  judge : ∀ n value, (code.judge n value).Alike P S (code.judge n value)
  hear : ∀ n e, (code.hear n e).Alike P S (code.hear n e)
  release : ∀ n, (code.release n).Alike P S (code.release n)
  attach : ∀ n b, (code.attach n b).Alike P S (code.attach n b)
  detach : ∀ n key, (code.detach n key).Alike P S (code.detach n key)
  current : ∀ n, (code.current n).Alike P S (code.current n)
  absorb : ∀ n value, (code.absorb n value).Alike P S (code.absorb n value)
  records : ∀ n signal, P.observer.Calls n → ∀ own, (code.observe n signal).Records S own own

/-- The judges of two widgets judge alike, if their bindings are judged at all. -/
def SameJudges (code : Code m τ) (P : Pairing) (S : τ → τ → Prop) : Prop :=
  ∀ event n judge plain n' judge', P.twin = .widget event n judge →
    P.source = .widget plain n' judge' → event.isJudged = true → code.SameJudge P S judge' judge

variable {code : Code m τ} {S : τ → τ → Prop}

/-- **Code that treats twins alike** makes a client that does, to any depth. -/
theorem Impartial.client (h : code.Impartial P S) (hj : code.SameJudges P S) (hP : P.Lawful m)
    (depth : Nat) : (code.client depth).Impartial P (Desk.Same S) := by
  have hK := Desk.Same.equivalence h.equivalence
  induction depth with
  | zero =>
    exact {
      equivalence := hK
      observe := fun _ _ _ => .stalled
      judge := fun _ _ => .stalled
      hear := fun _ _ => .stalled
      release := fun _ => .stalled
      attach := fun _ _ => .stalled
      detach := fun _ _ => .stalled
      current := fun _ => .stalled
      absorb := fun _ _ => .stalled
      verdict := fun event n judge plain n' judge' ht hs hjudged a b _ => by
        obtain _ | _ := hj event n judge plain n' judge' ht hs hjudged
        · exact .pure rfl
        · exact .stalled
      records := .inl rfl }
  | succ depth ih =>
    exact {
      equivalence := hK
      observe := fun n signal hn => (h.observe n signal hn).run ih hP
      judge := fun n value => (h.judge n value).run ih hP
      hear := fun n e => (h.hear n e).run ih hP
      release := fun n => (h.release n).run ih hP
      attach := fun n b => (h.attach n b).run ih hP
      detach := fun n key => (h.detach n key).run ih hP
      current := fun n => (h.current n).run ih hP
      absorb := fun n value => (h.absorb n value).run ih hP
      verdict := fun event n judge plain n' judge' ht hs hjudged a b hab => by
        obtain _ | hjudge := hj event n judge plain n' judge' ht hs hjudged
        · exact .pure rfl
        · exact (hjudge a b hab).run ih hP
      records := by
        refine .inr ⟨Nat.succ_pos depth, fun n signal w hn => ?_⟩
        obtain ⟨_, d, hd, hS⟩ := (h.records n signal hn w.client.own).run
          (c := code.client depth) (w := w) rfl
        exact ⟨d, hd, hS⟩ }

end Code

end WidgetStreams
