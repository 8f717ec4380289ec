import WidgetStreams.Proofs.Program

/-!
# Traits of computations

This file proves once, for any property of computations that is closed under the
ways in which computations are put together, that whatever client code does has
it. Every property leaves some leeway: changes of the toolkit and events that it
does not mind. What it minds of a widget is asked of it site by site.

## Main definitions

- `Toolkit.Tacit`, `Event.isTacit` — what concerns no state and no event of a widget
- `Leeway` — the changes and the events that a property does not mind
- `UI.Trait` — a property of computations that is closed under their combinators
- `UI.Admits` — a property does not mind what happens at a site
- `Client.Has` — all callbacks of a client have a property
- `UI.Resumes` — client code resumes into a property at each moment

## Main results

- `UI.Trait.perform` — calls have it, if it admits the sites that they are about
- `UI.Trait.performAbout` — calls have what is weaker, if those do that are about a certain site
- `UI.Trait.ofProgram`, `UI.Trait.ofCode` — programs have it, nested to any depth
- `UI.Trait.resumeProgram`, `UI.Trait.resumeCode` — programs resume into it, even if calls have it
  only up to the next moment

## Design notes

A trait is indexed by whether a computation may panic, as a panic of an action is
caught in the midst of what must not panic itself. How a subscription starts is
left to the property, as one that looks at initial values minds it.
-/

namespace WidgetStreams

open History UI

variable {σ τ α β : Type} {m : Manners} {v w u : Toolkit σ} {c : Client σ}

-- ════════════════════════════════════════════════════════════════════════
-- What happens at a site
-- ════════════════════════════════════════════════════════════════════════

/-- **The state at a site stays** from one screen to another. Numbers of views are given out, and
    never taken back. -/
def Screen.SameAt (t t' : Screen) : Site → Prop
  | .focus => ∀ v, (t'.flags v).focused = (t.flags v).focused
  | .watcher => t'.texts = t.texts
  | .itemSelected => t'.rows = t.rows
  | .query => t'.queries = t.queries
  | .barQuery => t'.barQueries = t.barQueries
  | .page => t'.pages = t.pages ∧ t.views.next ≤ t'.views.next
  | .scroll => t'.offsets = t.offsets
  | .menuDismiss => t'.menus = t.menus
  | _ => True

theorem Screen.SameAt.refl (t : Screen) (s : Site) : t.SameAt t s := by
  cases s with
  | focus => exact fun _ => rfl
  | page => exact ⟨rfl, Nat.le_refl _⟩
  | _ => trivial

/-- A change of anything but the states of widgets keeps these. -/
theorem Screen.SameAt.of_eq {t t' : Screen} (texts : t'.texts = t.texts) (rows : t'.rows = t.rows)
    (queries : t'.queries = t.queries) (barQueries : t'.barQueries = t.barQueries)
    (pages : t'.pages = t.pages) (offsets : t'.offsets = t.offsets) (menus : t'.menus = t.menus)
    (views : t'.views = t.views) (s : Site) : t.SameAt t' s := by
  have hnext : t.views.next ≤ t'.views.next := Nat.le_of_eq (congrArg Registry.next views.symm)
  have hfocused : ∀ v, (t'.flags v).focused = (t.flags v).focused := by
    intro v
    rw [Screen.flags, Screen.view, views]
    rfl
  cases s <;> trivial

/-- Where selections are as they were, so are the rows of every adapter view. -/
theorem Screen.SameAt.rowsOf_eq {t t' : Screen} (h : t.SameAt t' .itemSelected) (v : ViewId) :
    t'.rowsOf v = t.rowsOf v :=
  congrArg (fun rows => (rows.find? v).getD {}) h

/-- What mirrors show of a view is whether it has the focus. -/
theorem Screen.ShowsAlike.focused {t t' : Screen} (h : t.ShowsAlike t') (v : ViewId) :
    (t'.flags v).focused = (t.flags v).focused :=
  Payload.flag.inj (h .focusChanges v (.inl rfl))

/-- A change of views that gives no focus and takes none. -/
theorem Screen.SameAt.changeViews {t : Screen} {views : Registry ViewState}
    (shows : t.ShowsAlike { t with views := views }) (next : t.views.next ≤ views.next) (s : Site) :
    t.SameAt { t with views := views } s := by
  have hfocused := shows.focused
  cases s <;> trivial

theorem Screen.SameAt.setVisibility (t : Screen) (v : ViewId) (visibility : Visibility) (s : Site) :
    t.SameAt (t.setVisibility v visibility) s := by
  have hshows : t.ShowsAlike (t.setVisibility v visibility) := by
    refine .of_shown (fun n => ?_) (fun _ => rfl) (fun _ => rfl) (fun _ => rfl) fun _ => rfl
    by_cases h : v = n <;> simp [Screen.setVisibility, flags, view, h]
  exact changeViews hshows (Nat.le_refl _) s

/-- Registering a listener keeps the states of widgets. -/
theorem Screen.SameAt.install (t : Screen) (p : Point) (listener : Listener) (s : Site) :
    t.SameAt (t.install p listener).2 s := by
  have hflags : ∀ f : Flags, f.focused = (t.flags p.owner).focused →
      t.SameAt (t.setFlags p.owner f) s :=
    fun f hf => changeViews (.setFlags hf) (Nat.le_refl _) s
  simp only [Screen.install]
  split
  · exact .of_eq rfl rfl rfl rfl rfl rfl rfl rfl s
  · simp only [Screen.setListener]
    split
    · exact hflags { t.flags p.owner with clickable := true } rfl
    · exact hflags { t.flags p.owner with longClickable := true } rfl
    · exact .of_eq rfl rfl rfl rfl rfl rfl rfl rfl s

/-- The sites at which an event may come. -/
def NativeEvent.sites : NativeEvent → List Site
  | .clicked _ => [.click]
  | .longClicked _ => [.longClick]
  | .focusChanged _ _ => [.focus]
  | .moved _ _ => [.touch, .hover]
  | .textChanging _ _ _ _ _ | .textChanged _ _ _ _ _ | .textSettled _ _ => [.watcher]
  | .editorActed _ _ => [.editorAction]
  | .itemClicked _ _ _ => [.itemClick, .itemLongClick]
  | .itemSelected _ _ _ | .nothingSelected _ => [.itemSelected]
  | .queryChanged _ _ | .querySubmitted _ _ => [.query, .barQuery]
  | .keyboardDismissed _ _ => [.barQuery]
  | .pageScrolled _ _ _ _ | .pageSelected _ _ | .pageStateChanged _ _ => [.page]
  | .menuItemClicked _ => [.menuClick]
  | .menuDismissed => [.menuDismiss]
  | .swiped _ => [.swipe]
  | .scrolled _ _ _ => [.scroll]

/-- The text view of whose edit an event tells. -/
def NativeEvent.edited? : NativeEvent → Option ViewId
  | .textChanging view _ _ _ _ | .textChanged view _ _ _ _ | .textSettled view _ => some view
  | _ => none

theorem NativeEvent.watcher_mem_sites {e : NativeEvent} (he : e.edited?.isSome = true) :
    .watcher ∈ e.sites := by
  cases e <;> first | exact .head _ | cases he

/-- **What a widget does at a site**: it tells listeners there, or goes through an operation, or
    reports on its own account. -/
def Event.isAt (s : Site) : Event → Prop
  | .dispatched p e _ => p.site = s ∧ s ∈ e.sites
  | .heard _ e => s ∈ e.sites
  | .operating p _ | .altered p _ | .operated p => p.site = s ∧ s.isShared = true
  | .clicked _ => s = .click
  | .longClicked _ => s = .longClick
  | .focusChanged _ _ | .flagged _ _ _ => s = .focus
  | .edited _ _ _ _ => s = .watcher
  | .submitted _ => s = .query
  | _ => False

/-- Whether an event happens at no site, and starts no subscription with a value. -/
def Event.isTacit : Event → Bool
  | .dispatched _ _ _ | .heard _ _ | .operating _ _ | .altered _ _ | .operated _ | .clicked _
  | .longClicked _ | .focusChanged _ _ | .flagged _ _ _ | .edited _ _ _ _ | .submitted _
  | .attached _ _ true => false
  | _ => true

/-- Nothing is noted, and no state of a widget or of the client changes. -/
structure Toolkit.Tacit (v w : Toolkit σ) : Prop where
  journal : w.journal = v.journal
  client : w.client = v.client
  screen : ∀ s, v.screen.SameAt w.screen s

/-- A change of anything but the screen. -/
theorem Toolkit.Tacit.of_screen (hj : w.journal = v.journal) (hc : w.client = v.client)
    (hs : w.screen = v.screen) : v.Tacit w :=
  ⟨hj, hc, hs ▸ Screen.SameAt.refl _⟩

-- ════════════════════════════════════════════════════════════════════════
-- Traits
-- ════════════════════════════════════════════════════════════════════════

/-- **The leeway** of a property: what it does not mind. -/
structure Leeway (σ : Type) where
  spares : Toolkit σ → Toolkit σ → Prop
  quiet : Event → Prop
  spares_of_tacit : ∀ {v w : Toolkit σ}, v.Tacit w → spares v w
  quiet_of_isTacit : ∀ {e : Event}, e.isTacit = true → quiet e

/-- **A trait**: a property of computations, of those that may panic if the proposition holds. It is
    closed under putting computations together, and what is within its leeway has it. -/
structure UI.Trait (L : Leeway σ) (P : Prop → ∀ α : Type, UI σ α → Prop) : Prop where
  mono {α : Type} {p q : Prop} {x : UI σ α} : (p → q) → P p α x → P q α x
  panic {α : Type} {p : Prop} (message : String) : p → P p α (throw (.panic message))
  stalled {α : Type} : P False α (throw .stalled)
  spared {α : Type} {x : UI σ α} :
    (∀ w : Toolkit σ, ∃ a u, x w = .ok a u ∧ L.spares w u) → P False α x
  note {e : Event} : L.quiet e → P False Unit (note e)
  bind {α β : Type} {p : Prop} {x : UI σ α} {f : α → UI σ β} :
    P p α x → (∀ a, P p β (f a)) → P p β (x >>= f)
  catching {α : Type} {x : UI σ α} : P True α x → P False (Except String α) (catching x)
  ensuring {α : Type} {p : Prop} {after : Toolkit σ → Toolkit σ} {x : UI σ α} :
    (∀ w : Toolkit σ, L.spares w (after w)) → P p α x → P p α (ensuring after x)
  /-- It is enough that a computation does from each toolkit what some computation with the property
      does. -/
  pointwise {α : Type} {p : Prop} {x : UI σ α} : (∀ w, ∃ y, P p α y ∧ x w = y w) → P p α x

/-- **A property admits a site**: it does not mind what a widget does there. -/
structure UI.Admits (P : Prop → ∀ α : Type, UI σ α → Prop) (s : Site) : Prop where
  put {f : Screen → Screen} :
    (∀ (t : Screen) s', s' ≠ s → t.SameAt (f t) s') → P False Unit (changeScreen f)
  tell {e : Event} : e.isAt s → P False Unit (note e)
  operate {α : Type} {v : ViewId} {x : UI σ α} : s.isShared = true → P False α x →
    P False α (ensuring (fun w => w.noted (.operated ⟨s, v⟩)) x)

/-- **A client has** a property if its callbacks do; only the actions of handles, and what undoes a
    registration, may panic. -/
structure Client.Has (P : Prop → ∀ α : Type, UI σ α → Prop) (c : Client σ) : Prop where
  observe : ∀ n signal, P False Unit (c.observe n signal)
  judge : ∀ n value, P False (Except String Bool) (c.judge n value)
  hear : ∀ n e, P False Bool (c.hear n e)
  release : ∀ n, P True (Except String Unit) (c.release n)
  attach : ∀ n b, P False (Option Nat) (c.attach n b)
  detach : ∀ n key, P True Unit (c.detach n key)
  current : ∀ n, P False Payload (c.current n)
  absorb : ∀ n value, P False (Except Fault Unit) (c.absorb n value)

/-- **Client code resumes** into `P`: what has `Q` has `P`, and begins with a moment, after which it
    is enough that the rest has `P`. -/
structure UI.Resumes (P Q : Prop → ∀ α : Type, UI (Desk τ) α → Prop) : Prop where
  moment {α : Type} {p : Prop} {x : UI (Desk τ) α} :
    P p α x → Q p α (UI.observeMoment >>= fun _ => x)
  weaken {α : Type} {p : Prop} {x : UI (Desk τ) α} : Q p α x → P p α x
  mono {α : Type} {p q : Prop} {x : UI (Desk τ) α} : (p → q) → Q p α x → Q q α x
  stalled {α : Type} : Q False α (throw .stalled)

/-- A client has whatever follows from a property that it has. -/
theorem Client.Has.mono {P Q : Prop → ∀ α : Type, UI σ α → Prop} (hc : c.Has P)
    (h : ∀ {p : Prop} {α : Type} {x : UI σ α}, P p α x → Q p α x) : c.Has Q where
  observe n signal := h (hc.observe n signal)
  judge n value := h (hc.judge n value)
  hear n e := h (hc.hear n e)
  release n := h (hc.release n)
  attach n b := h (hc.attach n b)
  detach n key := h (hc.detach n key)
  current n := h (hc.current n)
  absorb n value := h (hc.absorb n value)

/-- **Edits and moves** have a property. -/
structure Client.Loud (P : Prop → ∀ α : Type, UI σ α → Prop) (c : Client σ) : Prop where
  setText : ∀ v text, P False Unit (c.setText v text)
  append : ∀ v text, P False Unit (c.append v text)
  setPage : ∀ v page smooth, P False (Except WidgetError Unit) (c.setPage v page smooth)
  swipeTo : ∀ v page, P False (Except WidgetError Unit) (c.swipeTo v page)

/-- **Changes of rows** and of what is selected among them have a property. -/
structure Client.Picky (P : Prop → ∀ α : Type, UI σ α → Prop) (c : Client σ) : Prop where
  select : ∀ v position, P False (Except WidgetError Unit) (c.select v position)
  clearSelection : ∀ v, P False Unit (c.clearSelection v)
  setRows : ∀ v ids, P False Unit (c.setRows v ids)

/-- The sites that a call is about; a sink stands for other calls. -/
def Call.sites : Call α → List Site
  | .setFlags _ _ _ | .requestFocus _ | .clearFocus _ | .setFocusable _ _ => [.focus]
  | .click _ => [.click]
  | .longClick _ => [.longClick]
  | .touch _ _ => [.touch]
  | .hover _ _ => [.hover]
  | .swipeAway _ => [.swipe]
  | .setText _ _ | .append _ _ => [.watcher]
  | .actInEditor _ _ => [.editorAction]
  | .newAdapterView _ _ | .select _ _ | .clearSelection _ | .setRows _ _ => [.itemSelected]
  | .clickRow _ _ => [.itemClick]
  | .longClickRow _ _ => [.itemLongClick]
  | .setQuery _ _ _ | .submitQuery _ => [.query]
  | .setBarQuery _ _ | .submitBarQuery _ | .dismissKeyboard _ => [.barQuery]
  | .newPager _ _ | .setPageWidth _ _ | .setPage _ _ _ | .swipeTo _ _ => [.page]
  | .newMenu _ _ | .showMenu _ | .dismissMenu _ => [.menuDismiss]
  | .chooseItem _ _ => [.menuClick, .menuDismiss]
  | .scrollTo _ _ | .scrollBy _ _ _ => [.scroll]
  | _ => []

/-- Whether a call is not that of a sink. -/
def Call.isDirect : Call α → Bool
  | .accept _ _ => false
  | _ => true

/-- Whether a sink may stand for a call. -/
def Call.isPut : Call α → Bool
  | .setFlags _ _ _ | .setVisibility _ _ | .setText _ _ | .setQuery _ _ _ | .setBarQuery _ _
  | .select _ _ | .setPage _ _ _ => true
  | _ => false

/-- A call as a program places it: first it writes down the moment. -/
def Call.place (m : Manners) (c : Client (Desk τ)) (k : Call α) : UI (Desk τ) α := do
  observeMoment
  k.make m c

namespace UI.Admits

variable {P : Prop → ∀ α : Type, UI σ α → Prop}

theorem putText (hs : Admits P .watcher) (v : ViewId) (text : String) :
    P False Unit (UI.putText v text) := by
  refine hs.put fun t s' h => ?_
  cases s' with
  | focus => exact fun _ => rfl
  | page => exact ⟨rfl, Nat.le_refl _⟩
  | _ => trivial

theorem putRows (hs : Admits P .itemSelected) (v : ViewId) (rows : Rows) :
    P False Unit (UI.putRows v rows) := by
  refine hs.put fun t s' h => ?_
  cases s' with
  | focus => exact fun _ => rfl
  | page => exact ⟨rfl, Nat.le_refl _⟩
  | _ => trivial

theorem putQuery (hs : Admits P .query) (v : ViewId) (query : String) :
    P False Unit (UI.putQuery v query) := by
  refine hs.put fun t s' h => ?_
  cases s' with
  | focus => exact fun _ => rfl
  | page => exact ⟨rfl, Nat.le_refl _⟩
  | _ => trivial

theorem putBarQuery (hs : Admits P .barQuery) (v : ViewId) (query : String) :
    P False Unit (UI.putBarQuery v query) := by
  refine hs.put fun t s' h => ?_
  cases s' with
  | focus => exact fun _ => rfl
  | page => exact ⟨rfl, Nat.le_refl _⟩
  | _ => trivial

theorem putPages (hs : Admits P .page) (v : ViewId) (p : Pages) :
    P False Unit (UI.putPages v p) := by
  refine hs.put fun t s' h => ?_
  cases s' with
  | focus => exact fun _ => rfl
  | _ => trivial

theorem putOffset (hs : Admits P .scroll) (v : ViewId) (o : ScrollOffset) :
    P False Unit (UI.putOffset v o) := by
  refine hs.put fun t s' h => ?_
  cases s' with
  | focus => exact fun _ => rfl
  | page => exact ⟨rfl, Nat.le_refl _⟩
  | _ => trivial

theorem putFlags (hs : Admits P .focus) (v : ViewId) (flags : Flags) :
    P False Unit (UI.changeScreen fun t => t.setFlags v flags) := by
  refine hs.put fun t s' h => ?_
  cases s' with
  | focus => exact absurd rfl h
  | page => exact ⟨rfl, Nat.le_refl _⟩
  | _ => trivial

theorem putShowing (hs : Admits P .menuDismiss) (n : Nat) (showing : Bool) :
    P False Unit (UI.putShowing n showing) := by
  refine hs.put fun t s' h => ?_
  cases s' with
  | focus => exact fun _ => rfl
  | page => exact ⟨rfl, Nat.le_refl _⟩
  | _ => trivial

end UI.Admits

namespace UI.Trait

variable {L : Leeway σ} {P : Prop → ∀ α : Type, UI σ α → Prop} {p : Prop} {s : Site}

section Combinators

variable (hP : Trait L P)
include hP

/-- An event at no site. -/
theorem quietly {e : Event} (he : e.isTacit = true) : P False Unit (UI.note e) :=
  hP.note (L.quiet_of_isTacit he)

/-- A change of nothing that any property minds. -/
theorem tacit {x : UI σ α} (h : ∀ w : Toolkit σ, ∃ a u, x w = .ok a u ∧ w.Tacit u) :
    P False α x := by
  refine hP.spared fun w => ?_
  obtain ⟨a, u, hr, hu⟩ := h w
  exact ⟨a, u, hr, L.spares_of_tacit hu⟩

/-- A change of anything but the screen. -/
theorem offScreen {x : UI σ α} (h : ∀ w : Toolkit σ, ∃ a u, x w = .ok a u ∧
    u.journal = w.journal ∧ u.client = w.client ∧ u.screen = w.screen) : P False α x := by
  refine hP.tacit fun w => ?_
  obtain ⟨a, u, hr, hj, hc, hs⟩ := h w
  exact ⟨a, u, hr, .of_screen hj hc hs⟩

theorem pure (a : α) : P False α (Pure.pure a) := hP.offScreen fun w => ⟨a, w, rfl, rfl, rfl, rfl⟩

theorem discard {x : UI σ α} (hx : P False α x) : P False Unit (Functor.discard x) :=
  hP.bind hx fun _ => hP.pure ()

omit hP in
theorem ite {q : Prop} [Decidable q] {x y : UI σ α} (hx : P False α x) (hy : P False α y) :
    P False α (if q then x else y) := by
  split
  · exact hx
  · exact hy

/-- Reading the toolkit changes nothing. -/
theorem read {x : UI σ α} (h : ∀ w, ∃ a, x w = .ok a w) : P False α x := by
  refine hP.offScreen fun w => ?_
  obtain ⟨a, ha⟩ := h w
  exact ⟨a, w, ha, rfl, rfl, rfl⟩

theorem get : P False (Toolkit σ) MonadState.get := hP.read fun w => ⟨w, rfl⟩

theorem change {f : Toolkit σ → Toolkit σ} (hf : ∀ w : Toolkit σ, w.Tacit (f w)) :
    P False Unit (modify f) := hP.tacit fun w => ⟨(), f w, rfl, hf w⟩

theorem changeScreen {f : Screen → Screen} (hf : ∀ t s, Screen.SameAt t (f t) s) :
    P False Unit (UI.changeScreen f) :=
  hP.change fun w => ⟨rfl, rfl, hf w.screen⟩

theorem changeBridge (b : BridgeId) (f : Bridge → Bridge) : P False Unit (UI.changeBridge b f) :=
  hP.change fun _ => .of_screen rfl rfl rfl

/-- What is done on a new thread has the property if it has it on the old one. -/
theorem onNewThread {x : UI σ α} (hx : P p α x) : P p α (UI.onNewThread x) := by
  refine hP.pointwise fun w => ?_
  let thread : Thread := .started (w.started + 1)
  let begin : UI σ Unit := modify fun u => { u with here := thread, started := w.started + 1 }
  have hbegin : P False Unit begin := hP.change fun _ => .of_screen rfl rfl rfl
  let back : Toolkit σ → Toolkit σ := fun u => { u with here := w.here }
  have hbody : P p α (UI.ensuring back x) :=
    hP.ensuring (fun _ => L.spares_of_tacit (.of_screen rfl rfl rfl)) hx
  have hend : ∀ a : α, P False α (UI.note (.joined thread) >>= fun _ => Pure.pure a) :=
    fun a => hP.bind (hP.quietly rfl) fun _ => hP.pure a
  exact ⟨_, hP.bind (hP.mono False.elim hbegin) fun _ =>
    hP.bind hbody fun a => hP.mono False.elim (hend a), rfl⟩

end Combinators

section Library

variable (hP : Trait L P) (hc : c.Has P)
include hP hc

-- ════════════════════════════════════════════════════════════════════════
-- Handles and bridges
-- ════════════════════════════════════════════════════════════════════════

theorem undo (source : Source) (key : Option Nat) : P True Unit (c.undo source key) := by
  have hnote : P True Unit (UI.note (.detached source key)) := hP.mono False.elim (hP.quietly rfl)
  cases source with
  | widget binding owner judge =>
    refine hP.bind (hP.mono False.elim (hP.changeScreen fun t => ?_)) fun _ => hnote
    cases key <;> exact .of_eq rfl rfl rfl rfl rfl rfl rfl rfl
  | client callback thread => exact hP.bind (hc.detach callback key) fun _ => hnote

theorem releaseFor (h : HandleId) (action : Release) : P False Unit (c.releaseFor h action) := by
  have hact : P True (Except String Unit) (c.act action) := by
    cases action with
    | client n => exact hc.release n
    | detach source key =>
      exact hP.bind (hP.undo hc source key) fun _ => hP.mono False.elim (hP.pure _)
  refine hP.bind (hP.quietly rfl) fun _ => hP.bind (hP.catching hact) fun result => ?_
  split
  · exact hP.pure ()
  · exact hP.quietly rfl
  · exact hP.quietly rfl

theorem dispose (h : HandleId) : P False Unit (c.dispose h) := by
  refine hP.bind hP.get fun w => ite (hP.pure ()) ?_
  refine hP.bind (hP.change fun _ => .of_screen rfl rfl rfl) fun _ =>
    hP.bind (hP.quietly rfl) fun _ => ?_
  split
  · exact hP.pure ()
  · exact hP.releaseFor hc h _

theorem setAction (h : HandleId) (action : Release) : P False Unit (c.setAction h action) := by
  refine hP.bind (hP.quietly rfl) fun _ => hP.bind (hP.read fun _ => ⟨_, rfl⟩) fun disposed => ?_
  exact ite (hP.releaseFor hc h action) (hP.change fun _ => .of_screen rfl rfl rfl)

theorem disposeHeld (s : ScopeId) (held : List HandleId) : P False Unit (c.disposeHeld s held) := by
  induction held with
  | nil => exact hP.change fun _ => .of_screen rfl rfl rfl
  | cons h earlier ih =>
    exact hP.bind (hP.change fun _ => .of_screen rfl rfl rfl) fun _ =>
      hP.bind (hP.dispose hc h) fun _ => ih

theorem clearScope (s : ScopeId) : P False Unit (c.clearScope s) :=
  hP.bind hP.get fun _ => hP.bind (hP.quietly rfl) fun _ => hP.disposeHeld hc s _

theorem tell (observer : Observer) (signal : Signal) : P False Unit (c.tell observer signal) := by
  cases observer with
  | client n => exact hc.observe n signal
  | tape t => cases signal <;> exact hP.change fun _ => .of_screen rfl rfl rfl
  | functions onNext onFault =>
    cases signal with
    | subscribed => exact hP.pure ()
    | next value => exact hc.observe onNext _
    | failed fault =>
      cases onFault with
      | none => exact hP.quietly rfl
      | some n => exact hc.observe n _

theorem handOver (b : BridgeId) (signal : Signal) : P False Unit (c.handOver b signal) := by
  refine hP.bind (hP.read fun _ => ⟨_, rfl⟩) fun bridge => hP.bind (hP.quietly rfl) fun _ =>
    hP.bind (hP.tell hc bridge.observer signal) fun _ => hP.bind (hP.quietly rfl) fun _ => ?_
  split
  · exact hP.dispose hc _
  · exact hP.pure ()

omit hc in
theorem takeQueued (b : BridgeId) : P False (Option Signal) (UI.takeQueued b) := by
  refine hP.bind (hP.read fun _ => ⟨_, rfl⟩) fun bridge =>
    hP.bind (hP.read fun _ => ⟨_, rfl⟩) fun closed => ite ?_ ?_
  · refine ite ?_ (hP.pure none)
    exact hP.bind (hP.quietly rfl) fun _ => hP.bind (hP.changeBridge b _) fun _ => hP.pure none
  · split
    · exact hP.pure none
    · exact hP.bind (hP.changeBridge b _) fun _ => hP.pure _

theorem drain (b : BridgeId) (patience : Nat) (signal : Signal) :
    P False Unit (c.drain b patience signal) := by
  induction patience generalizing signal with
  | zero => exact hP.stalled
  | succ patience ih =>
    refine hP.bind (hP.handOver hc b signal) fun _ => hP.bind (hP.takeQueued b) fun next => ?_
    cases next with
    | none => exact hP.pure ()
    | some signal => exact ih signal

theorem deliver (b : BridgeId) (signal : Signal) : P False Unit (c.deliver b signal) :=
  hP.bind hP.get fun _ => hP.bind (hP.quietly rfl) fun _ => hP.bind (hP.changeBridge b _) fun _ =>
    hP.ensuring (fun _ => L.spares_of_tacit (.of_screen rfl rfl rfl)) (hP.drain hc b _ signal)

theorem dispatch (b : BridgeId) (signal : Signal) : P False Bool (c.dispatch b signal) := by
  refine hP.bind hP.get fun w => hP.bind (hP.read fun _ => ⟨_, rfl⟩) fun bridge => ?_
  split
  · refine ite ?_ hP.stalled
    exact hP.bind (hP.quietly rfl) fun _ => hP.bind (hP.changeBridge b _) fun _ => hP.pure true
  · exact hP.bind (hP.read fun _ => ⟨_, rfl⟩) fun _ => ite (hP.pure false)
      (hP.bind (hP.deliver hc b signal) fun _ => hP.pure true)

theorem emit (b : BridgeId) (value : Payload) : P False Bool (c.emit b value) :=
  hP.bind (hP.read fun _ => ⟨_, rfl⟩) fun _ =>
    ite (hP.bind (hP.quietly rfl) fun _ => hP.pure false) (hP.dispatch hc b _)

/-- **What it comes to** when a value is emitted: it is too late, or the value is taken; and what
    comes after that has the property. -/
theorem emitting (b : BridgeId) (value : Payload) (w : Toolkit σ) :
    c.emit b value w = .error .stalled w ∨ ∃ e x, (e = .late b ∨
      ∃ queued, e = .accepted b (.next value) queued) ∧ P False Bool x ∧
        c.emit b value w = x (w.noted e) := by
  have hemit : c.emit b value w = if w.closed b = true then .ok false (w.noted (.late b)) else
      c.dispatch b (.next value) w := by
    simp only [Client.emit, run_isClosed_bind, run_ite]
    rfl
  have hbusy : ∀ thread, w.delivering b = some thread → c.dispatch b (.next value) w =
      if thread = w.here then (UI.changeBridge b (fun bridge =>
          { bridge with queue := bridge.queue ++ [.next value] }) >>= fun _ => Pure.pure true)
            (w.noted (.accepted b (.next value) true))
        else .error .stalled w := by
    intro thread hdelivering
    have hbridge : (w.bridges.get b).delivering = some thread := hdelivering
    simp only [Client.dispatch, run_get_bind, run_bridge_bind, hbridge, run_ite]
    rfl
  cases hclosed : w.closed b with
  | true =>
    rw [hemit, hclosed]
    exact .inr ⟨_, _, .inl rfl, hP.pure false, rfl⟩
  | false =>
    rw [hemit, hclosed, if_neg Bool.false_ne_true]
    cases hdelivering : w.delivering b with
    | some thread =>
      rw [hbusy thread hdelivering]
      by_cases hhere : thread = w.here
      · exact .inr ⟨_, _, .inr ⟨true, rfl⟩, hP.bind (hP.changeBridge b _) fun _ => hP.pure true,
          if_pos hhere⟩
      · exact .inl (if_neg hhere)
    | none =>
      rw [Client.dispatch_of_open hdelivering hclosed]
      let rest : UI σ Unit := do
        UI.changeBridge b fun bridge => { bridge with delivering := some w.here }
        UI.ensuring (fun u => { u with bridges := u.bridges.modify b fun bridge =>
          { bridge with delivering := none } }) (c.drain b c.patience (.next value))
      have hrest : P False Unit rest := hP.bind (hP.changeBridge b _) fun _ =>
        hP.ensuring (fun _ => L.spares_of_tacit (.of_screen rfl rfl rfl)) (hP.drain hc b _ _)
      exact .inr ⟨_, _, .inr ⟨false, rfl⟩, hP.bind hrest fun _ => hP.pure true, rfl⟩

theorem fail (b : BridgeId) (fault : Fault) : P False Unit (c.fail b fault) :=
  hP.bind (hP.read fun _ => ⟨_, rfl⟩) fun _ => ite (hP.pure ())
    (hP.bind (hP.quietly rfl) fun _ => hP.discard (hP.dispatch hc b _))

theorem emitJudged (b : BridgeId) (value : Payload) (judge : Judge) :
    P False Bool (c.emitJudged b value judge) := by
  have hverdict : P False (Except String Bool) (c.verdict judge value) := by
    cases judge with
    | always => exact hP.pure _
    | client n => exact hc.judge n value
  refine hP.bind (hP.read fun _ => ⟨_, rfl⟩) fun _ => ite (hP.pure false) ?_
  refine hP.bind (hP.discard (hP.emit hc b value)) fun _ => hP.bind hverdict fun result => ?_
  split
  · exact hP.pure _
  · exact hP.bind (hP.fail hc b _) fun _ => hP.pure false

-- ════════════════════════════════════════════════════════════════════════
-- Subscriptions
-- ════════════════════════════════════════════════════════════════════════

theorem checkThread (owner : Thread) (observer : Observer) :
    P False Bool (c.checkThread owner observer) := by
  refine hP.bind hP.get fun w => ite (hP.pure true) ?_
  exact hP.bind (hP.quietly rfl) fun _ =>
    hP.bind (hP.offScreen fun _ => ⟨_, _, rfl, rfl, rfl, rfl⟩) fun h =>
    hP.bind (hP.tell hc observer _) fun _ => hP.bind (hP.tell hc observer _) fun _ => hP.pure false

theorem currentValue (source : Source) : P False Payload (c.currentValue source) := by
  cases source with
  | widget binding owner judge => exact hP.read fun _ => ⟨_, rfl⟩
  | client callback thread => exact hc.current callback

theorem attachTo (source : Source) (b : BridgeId) :
    P False (Option Nat) (c.attachTo source b) := by
  cases source with
  | widget binding owner judge =>
    exact hP.tacit fun w => ⟨_, _, rfl, rfl, rfl, Screen.SameAt.install _ _ _⟩
  | client callback thread => exact hc.attach callback b

/-- A subscription starts, if the property does not mind that it may start with a value. -/
theorem connect (hwarm : ∀ h key, P False Unit (UI.note (.attached h key true)))
    (stream : Stream) (b : BridgeId) (h : HandleId) : P False Unit (c.connect stream b h) := by
  have hattached : ∀ key, P False Unit (UI.note (.attached h key stream.warm)) := by
    intro key
    cases stream.warm with
    | true => exact hwarm h key
    | false => exact hP.quietly rfl
  refine hP.bind (hP.quietly rfl) fun _ => hP.bind (hP.attachTo hc stream.source b) fun key =>
    hP.bind (hP.quietly rfl) fun _ => hP.bind (hP.setAction hc h _) fun _ =>
      hP.bind (hattached key) fun _ => ite ?_ (hP.pure ())
  exact hP.bind (hP.currentValue hc stream.source) fun value => hP.discard (hP.emit hc b value)

theorem subscribe (hconnect : ∀ stream b h, P False Unit (c.connect stream b h)) (stream : Stream)
    (observer : Observer) : P False HandleId (c.subscribe stream observer) := by
  refine hP.bind (hP.read fun _ => ⟨_, rfl⟩) fun s =>
    hP.bind (hP.checkThread hc _ observer) fun admitted => ite ?_ ?_
  · exact hP.offScreen fun _ => ⟨_, _, rfl, rfl, rfl, rfl⟩
  refine hP.bind (hP.offScreen fun _ => ⟨_, _, rfl, rfl, rfl, rfl⟩) fun fresh => ?_
  refine hP.bind (hP.quietly rfl) fun _ => hP.bind (hP.discard (hP.dispatch hc _ _)) fun _ =>
    hP.bind (hP.read fun _ => ⟨_, rfl⟩) fun disposed => ?_
  have hend : P False HandleId (UI.note (.concluded fresh.2) >>= fun _ => Pure.pure fresh.2) :=
    hP.bind (hP.quietly rfl) fun _ => hP.pure fresh.2
  exact ite (hP.bind (hP.quietly rfl) fun _ => hend)
    (hP.bind (hconnect stream fresh.1 fresh.2) fun _ => hend)

theorem subscribeIn (hconnect : ∀ stream b h, P False Unit (c.connect stream b h)) (s : ScopeId)
    (stream : Stream) (observer : Observer) : P False Unit (c.subscribeIn s stream observer) :=
  hP.bind (hP.subscribe hc hconnect stream observer) fun _ =>
    hP.offScreen fun _ => ⟨_, _, rfl, rfl, rfl, rfl⟩

end Library

-- ════════════════════════════════════════════════════════════════════════
-- Widgets
-- ════════════════════════════════════════════════════════════════════════

section Listeners

variable (hP : Trait L P) (hc : c.Has P)
include hP hc

/-- What comes after a listener has been told of an event has the property. -/
theorem answering (listener : Listener) (e : NativeEvent) : ∃ x, P False Bool x ∧
    c.hearAs listener e = (UI.note (.heard listener e) >>= fun _ => x) := by
  refine ⟨_, ?_, rfl⟩
  cases listener with
  | client callback => exact hc.hear callback e
  | silent => exact hP.pure false
  | forward binding b judge =>
    cases hv : binding.payload? e with
    | none =>
      simp only [hv]
      exact hP.pure false
    | some value =>
      simp only [hv]
      exact ite (hP.emitJudged hc b value judge) (hP.emit hc b value)

/-- A listener is told of an event. -/
theorem hearAs (listener : Listener) {e : NativeEvent}
    (he : P False Unit (UI.note (.heard listener e))) : P False Bool (c.hearAs listener e) := by
  obtain ⟨x, hx, hr⟩ := hP.answering hc listener e
  rw [hr]
  exact hP.bind he fun _ => hx

/-- The listener in a slot is told of an event. -/
theorem tellSlot (point : Point) {e : NativeEvent}
    (hd : ∀ content, P False Unit (UI.note (.dispatched point e content)))
    (he : ∀ listener, P False Unit (UI.note (.heard listener e))) :
    P False (Option Bool) (c.notify point e) := by
  refine hP.bind (hP.read fun _ => ⟨_, rfl⟩) fun s => hP.bind (hd _) fun _ => ?_
  split
  · exact hP.pure none
  · exact hP.bind (hP.hearAs hc _ (he _)) fun _ => hP.pure _

/-- **What comes after** an event has come to a slot, and is told there, has the property. -/
theorem notifying (point : Point) (e : NativeEvent) (w : Toolkit σ) : ∃ x,
    P False (Option Bool) x ∧
      c.notify point e w = x (w.notedAll (telling point e (w.screen.slot point).content)) := by
  simp only [Client.notify, run_screen_bind, run_note_bind]
  cases (w.screen.slot point).content with
  | none => exact ⟨Pure.pure none, hP.pure none, rfl⟩
  | some listener =>
    obtain ⟨x, hx, hr⟩ := hP.answering hc listener e
    refine ⟨_, hP.bind hx fun consumed => hP.pure (some consumed), ?_⟩
    simp only [hr, bind_assoc, run_note_bind]
    rfl

/-- A round of calls. -/
theorem notifyAll (listeners : List Listener) {e : NativeEvent}
    (he : ∀ listener, P False Unit (UI.note (.heard listener e))) :
    P False Unit (c.notifyAll e listeners) := by
  induction listeners with
  | nil => exact hP.pure ()
  | cons listener rest ih =>
    exact hP.bind (hP.discard (hP.hearAs hc listener (he listener))) fun _ => ih

end Listeners

section Operations

variable (hP : Trait L P) (hc : c.Has P)
include hP

theorem newView (thread : Thread) : P False ViewId (UI.newView thread) :=
  hP.tacit fun _ => ⟨_, _, rfl, rfl, rfl, .changeViews (.addView rfl) (Nat.le_succ _)⟩

/-- An operation has the property if the property does not mind its beginning and its end. -/
theorem operate {point : Point}
    (hbegin : ∀ listeners, P False Unit (UI.note (.operating point listeners)))
    (hend : ∀ {x : UI σ α}, P False α x →
      P False α (UI.ensuring (fun w => w.noted (.operated point)) x))
    {x : List Listener → UI σ α} (hx : ∀ listeners, P False α (x listeners)) :
    P False α (UI.operate point x) :=
  hP.bind (hP.read fun _ => ⟨_, rfl⟩) fun _ => hP.bind (hbegin _) fun _ => hend (hx _)

include hc

theorem edit (v : ViewId)
    (hbegin : ∀ listeners, P False Unit (UI.note (.operating ⟨.watcher, v⟩ listeners)))
    (hend : ∀ {x : UI σ Unit}, P False Unit x →
      P False Unit (UI.ensuring (fun w => w.noted (.operated ⟨.watcher, v⟩)) x))
    (hput : ∀ new, P False Unit (UI.putText v new))
    (haltered : ∀ new, P False Unit (UI.note (.altered ⟨.watcher, v⟩ (.text new))))
    (hedited : ∀ start before count, P False Unit (UI.note (.edited v start before count)))
    (hheard : ∀ listener (e : NativeEvent), e.edited?.isSome = true →
      P False Unit (UI.note (.heard listener e)))
    (start before count : Nat) (apply : String → String) :
    P False Unit (c.edit v start before count apply) := by
  have hround : ∀ listeners {e : NativeEvent}, e.edited?.isSome = true →
      P False Unit (c.notifyAll e listeners) :=
    fun listeners _ he => hP.notifyAll hc listeners fun l => hheard l _ he
  have htext : P False String (UI.text v) := hP.read fun _ => ⟨_, rfl⟩
  refine hP.operate hbegin hend fun listeners => ?_
  exact hP.bind htext fun _ => hP.bind (hround listeners rfl) fun _ => hP.bind htext fun _ =>
    hP.bind (hput _) fun _ => hP.bind (haltered _) fun _ => hP.bind (hedited _ _ _) fun _ =>
      hP.bind (hround listeners rfl) fun _ => hround listeners rfl

theorem tellSteps (v : ViewId) (hput : ∀ p, P False Unit (UI.putPages v p))
    (listeners : List Listener) (steps : List PageStep)
    (hheard : ∀ listener, ∀ step ∈ steps,
      P False Unit (UI.note (.heard listener (PageStep.event v step)))) :
    P False Unit (c.tellSteps v listeners steps) := by
  induction steps with
  | nil => exact hP.pure ()
  | cons step rest ih =>
    have htake : P False Unit (UI.takeStep v step : UI σ Unit) := by
      cases step with
      | motion => exact hP.bind (hP.read fun _ => ⟨_, rfl⟩) fun _ => hput _
      | scrolled | selected => exact hP.pure ()
    exact hP.bind htake fun _ =>
      hP.bind (hP.notifyAll hc listeners fun l => hheard l step (.head _)) fun _ =>
        ih fun l step' h => hheard l step' (.tail _ h)

theorem move (v : ViewId)
    (hbegin : ∀ listeners, P False Unit (UI.note (.operating ⟨.page, v⟩ listeners)))
    (hend : ∀ {x : UI σ Unit}, P False Unit x →
      P False Unit (UI.ensuring (fun w => w.noted (.operated ⟨.page, v⟩)) x))
    (hput : ∀ p, P False Unit (UI.putPages v p))
    (haltered : ∀ page, P False Unit (UI.note (.altered ⟨.page, v⟩ (.page page))))
    (hheard : ∀ listener (step : PageStep),
      P False Unit (UI.note (.heard listener (step.event v)))) :
    (∀ page smooth, P False (Except WidgetError Unit) (c.setPage v page smooth)) ∧
      ∀ page, P False (Except WidgetError Unit) (c.swipeTo v page) := by
  have hpages : P False Pages (UI.pages v) := hP.read fun _ => ⟨_, rfl⟩
  have htell : ∀ listeners steps, P False Unit (c.tellSteps v listeners steps) :=
    fun listeners steps => hP.tellSteps hc v hput listeners steps fun l step _ => hheard l step
  constructor
  · intro page smooth
    refine hP.bind hpages fun p => ite (hP.pure _) (ite ?_ (hP.pure _))
    refine hP.bind (hP.operate hbegin hend fun listeners => ?_) fun _ => hP.pure _
    exact hP.bind (hput _) fun _ => hP.bind (haltered page) fun _ => htell listeners _
  · intro page
    refine hP.bind hpages fun p => ite (hP.pure _) ?_
    refine hP.bind (hP.operate hbegin hend fun listeners => ?_) fun _ => hP.pure _
    refine ite ?_ (htell listeners _)
    exact hP.bind (hput _) fun _ => hP.bind (haltered page) fun _ => htell listeners _

omit hc in
theorem newAdapterView (hrows : ∀ v rows, P False Unit (UI.putRows v rows)) (thread : Thread)
    (ids : List Int64) : P False ViewId (UI.newAdapterView thread ids) :=
  hP.bind (hP.newView thread) fun _ =>
    hP.bind (hP.read fun _ => ⟨_, rfl⟩) fun _ => hP.bind (hrows _ _) fun _ => hP.pure _

end Operations

-- ════════════════════════════════════════════════════════════════════════
-- Widgets at sites that are admitted
-- ════════════════════════════════════════════════════════════════════════

end UI.Trait

/-- **What is put into a sink** goes to a callback or is a call for a widget, and its answer is made
    of the one to that. So it has a property that both have and that no answer matters to. -/
theorem Client.accept_of {Q : ∀ α : Type, UI σ α → Prop}
    (hpure : ∀ {α : Type} (a : α), Q α (pure a))
    (hanswer : ∀ {α β : Type} {x : UI σ α} (f : α → β), Q α x → Q β (x >>= fun a => pure (f a)))
    (habsorb : ∀ callback value, Q (Except Fault Unit) (c.absorb callback value))
    (hcall : ∀ {β : Type} (k : Call β), k.isPut = true → Q β (k.perform c))
    (sink : Sink) (value : Payload) : Q (Except SinkError Unit) (c.accept sink value) := by
  have hflag : ∀ v chosen on, Q (Except WidgetError Unit)
      (do return Except.ok (← discard (UI.setFlags v chosen on))) := fun v chosen on =>
    hanswer Except.ok (hanswer (fun _ => ()) (hcall (.setFlags v chosen on) rfl))
  have hput : ∀ binding v value, Q (Except WidgetError Unit) (c.put v binding value) := by
    intro binding v value
    cases binding <;> cases value
    case activated.flag on => exact hflag v _ on
    case clickable.flag on => exact hflag v _ on
    case enabled.flag on => exact hflag v _ on
    case pressed.flag on => exact hflag v _ on
    case selected.flag on => exact hflag v _ on
    case visibility.flag whenFalse on =>
      exact hanswer Except.ok (hcall (.setVisibility v (if on then .visible else whenFalse)) rfl)
    case text.text s => exact hanswer Except.ok (hcall (.setText v s) rfl)
    case query.text submit s => exact hanswer Except.ok (hcall (.setQuery v s submit) rfl)
    case barQuery.text s => exact hanswer Except.ok (hcall (.setBarQuery v s) rfl)
    case selection.number position => exact hcall (.select v position) rfl
    case currentPage.page page => exact hcall (.setPage v page false) rfl
    all_goals exact hpure _
  induction sink generalizing value with
  | widget binding v => exact hanswer _ (hput binding v value)
  | client callback => exact hanswer _ (habsorb callback value)
  | adapted adapter sink ih => exact ih (adapter.apply value)

namespace UI.Trait

variable {L : Leeway σ} {P : Prop → ∀ α : Type, UI σ α → Prop} {p : Prop} {s : Site}

section Widgets

variable (hP : Trait L P) (hc : c.Has P)
include hP

/-- A call that reaches nothing but actions, and is about no site. -/
theorem ofActions (k : Call α) (hr : k.reach = .actions)
    (hsites : k.sites ≠ [] → P False α (k.perform c)) (hc : c.Has P) : P False α (k.perform c) := by
  cases k with
  | newHandle | newScope | hold | installCheck | overrideCheck | newTape | newBridge | newSwipe =>
    exact hP.tacit fun _ => ⟨_, _, rfl, rfl, rfl, .of_eq rfl rfl rfl rfl rfl rfl rfl rfl⟩
  | setVisibility v visibility =>
    exact hP.changeScreen fun t => .setVisibility t v visibility
  | newView thread => exact hP.newView thread
  | dispose h => exact hP.dispose hc h
  | setAction h action => exact hP.setAction hc h _
  | clearScope s => exact hP.clearScope hc s
  | endOverride o =>
    refine hP.bind hP.get fun w => ?_
    split
    · exact hP.pure ()
    · exact hP.change fun _ => .of_screen rfl rfl rfl
  | listen point callback =>
    have hlisten : ∀ l, P False (Option Nat) (UI.listen point l) := by
      refine fun l => hP.pointwise fun w => ⟨UI.changeScreen (fun t => (t.install point l).2) >>=
        fun _ => UI.note (.installed point l) >>= fun _ =>
          Pure.pure (w.screen.install point l).1, ?_, rfl⟩
      exact hP.bind (hP.changeScreen fun t => Screen.SameAt.install t point l) fun _ =>
        hP.bind (hP.quietly rfl) fun _ => hP.pure _
    cases callback <;> exact hlisten _
  | unlisten point =>
    exact hP.bind (hP.changeScreen fun _ => .of_eq rfl rfl rfl rfl rfl rfl rfl rfl) fun _ =>
      hP.quietly rfl
  | removeListener point key =>
    refine hP.pointwise fun w => ⟨UI.changeScreen (fun t => (t.removeListener point key).2) >>=
      fun _ => UI.note (.removed point key) >>= fun _ =>
        Pure.pure (w.screen.removeListener point key).1, ?_, rfl⟩
    exact hP.bind (hP.changeScreen fun _ => .of_eq rfl rfl rfl rfl rfl rfl rfl rfl)
      fun _ => hP.bind (hP.quietly rfl) fun _ => hP.pure _
  | newAdapterView | newPager | setPageWidth | newMenu | showMenu | setFlags => exact hsites nofun
  | _ => cases hr

theorem assignFlags (hs : UI.Admits P .focus) (v : ViewId) (chosen : Flags) (on : Bool) :
    P False Bool (UI.assignFlags v chosen on) :=
  hP.bind (hP.read fun _ => ⟨_, rfl⟩) fun _ => hP.bind (hs.putFlags v _) fun _ => hP.pure _

theorem setFlags (hs : UI.Admits P .focus) (v : ViewId) (chosen : Flags) (on : Bool) :
    P False Bool (UI.setFlags v chosen on) :=
  hP.bind (hP.assignFlags hs v chosen on) fun changed => hP.bind (hs.tell rfl) fun _ =>
    hP.pure changed

include hc

/-- The listener in a slot is told of an event that may come there. -/
theorem notify (hs : UI.Admits P s) (owner : Nat) {e : NativeEvent} (he : s ∈ e.sites) :
    P False (Option Bool) (c.notify ⟨s, owner⟩ e) :=
  hP.tellSlot hc _ (fun _ => hs.tell ⟨rfl, he⟩) fun _ => hs.tell he

theorem ask (hs : UI.Admits P s) (owner : Nat) {e : NativeEvent} (he : s ∈ e.sites) :
    P False Bool (c.ask ⟨s, owner⟩ e) :=
  hP.bind (hP.notify hc hs owner he) fun _ => hP.pure _

theorem tellFocus (hs : UI.Admits P .focus) (v : ViewId) (on : Bool) :
    P False Unit (c.tellFocus v on) :=
  hP.bind (hs.tell rfl) fun _ => hP.discard (hP.notify hc hs _ (.head _))

theorem requestFocus (hs : UI.Admits P .focus) (v : ViewId) : P False Bool (c.requestFocus v) := by
  refine hP.bind (hP.read fun _ => ⟨_, rfl⟩) fun f => ite (hP.pure false) (ite (hP.pure true) ?_)
  exact hP.bind (hP.discard (hP.assignFlags hs v _ true)) fun _ =>
    hP.bind (hP.tellFocus hc hs v true) fun _ => hP.pure true

theorem clearFocus (hs : UI.Admits P .focus) (v : ViewId) : P False Unit (c.clearFocus v) :=
  hP.bind (hP.read fun _ => ⟨_, rfl⟩) fun _ =>
    hP.bind (hP.discard (hP.assignFlags hs v _ false)) fun _ =>
      ite (hP.tellFocus hc hs v false) (hP.pure ())

theorem setFocusable (hs : UI.Admits P .focus) (v : ViewId) (focusable : Bool) :
    P False Unit (c.setFocusable v focusable) :=
  hP.bind (hP.discard (hP.setFlags hs v _ focusable)) fun _ =>
    ite (hP.clearFocus hc hs v) (hP.pure ())

theorem submitQuery (hs : UI.Admits P .query) (v : ViewId) : P False Bool (c.submitQuery v) :=
  hP.bind (hP.read fun _ => ⟨_, rfl⟩) fun _ => hP.bind (hs.tell rfl) fun _ =>
    hP.ask hc hs v (.head _)

theorem setQuery (hs : UI.Admits P .query) (v : ViewId) (query : String) (submit : Bool) :
    P False Unit (c.setQuery v query submit) :=
  hP.bind (hs.putQuery v query) fun _ => hP.bind (hP.discard (hP.notify hc hs v (.head _))) fun _ =>
    ite (hP.discard (hP.submitQuery hc hs v)) (hP.pure ())

theorem setBarQuery (hs : UI.Admits P .barQuery) (v : ViewId) (query : String) :
    P False Unit (c.setBarQuery v query) :=
  hP.bind (hs.putBarQuery v query) fun _ => hP.discard (hP.notify hc hs v (.tail _ (.head _)))

theorem dismissMenu (hs : UI.Admits P .menuDismiss) (n : Nat) : P False Unit (c.dismissMenu n) :=
  hP.bind (hP.read fun _ => ⟨_, rfl⟩) fun _ => hP.bind (hs.putShowing n false) fun _ =>
    ite (hP.discard (hP.notify hc hs n (.head _))) (hP.pure ())

theorem chooseItem (hs : UI.Admits P .menuClick) (hs' : UI.Admits P .menuDismiss)
    (n : Nat) (id : Int32) :
    P False Bool (c.chooseItem n id) := by
  refine hP.bind (hP.read fun _ => ⟨_, rfl⟩) fun _ => ?_
  split
  · exact hP.pure false
  · exact hP.bind (hP.ask hc hs n (.head _)) fun _ => hP.bind (hP.dismissMenu hc hs' n) fun _ =>
      hP.pure _

theorem scrollTo (hs : UI.Admits P .scroll) (v : ViewId) (new : ScrollOffset) :
    P False Unit (c.scrollTo v new) :=
  hP.bind (hP.read fun _ => ⟨_, rfl⟩) fun _ => hP.bind (hs.putOffset v new) fun _ =>
    ite (hP.discard (hP.notify hc hs v (.head _))) (hP.pure ())

/-- Edits have the property if it admits watchers. -/
theorem editAt (hs : UI.Admits P .watcher) (v : ViewId) (start before count : Nat)
    (apply : String → String) : P False Unit (c.edit v start before count apply) :=
  hP.edit hc v (fun _ => hs.tell ⟨rfl, rfl⟩) (hs.operate rfl) (hs.putText v)
    (fun _ => hs.tell ⟨rfl, rfl⟩) (fun _ _ _ => hs.tell rfl)
    (fun _ _ he => hs.tell (NativeEvent.watcher_mem_sites he)) start before count apply

/-- Changes of rows have the property if it admits selections. -/
theorem pickyAt (hs : UI.Admits P .itemSelected) : c.Picky P := by
  have hread : ∀ v, P False Rows (UI.rows v) := fun v => hP.read fun _ => ⟨_, rfl⟩
  have htell : ∀ v {e : NativeEvent}, .itemSelected ∈ e.sites →
      P False Unit (Functor.discard (c.notify ⟨.itemSelected, v⟩ e)) :=
    fun v _ he => hP.discard (hP.notify hc hs v he)
  refine ⟨fun v position => ?_, fun v => ?_, fun v ids => ?_⟩
  · refine hP.bind (hread v) fun r => ?_
    split
    · exact hP.pure _
    · refine ite ?_ (hP.pure _)
      exact hP.bind (hs.putRows _ _) fun _ => hP.bind (htell v (.head _)) fun _ => hP.pure _
  · exact hP.bind (hread v) fun _ => hP.bind (hs.putRows _ _) fun _ =>
      ite (htell v (.head _)) (hP.pure ())
  · refine hP.bind (hread v) fun _ => ite ?_ (hs.putRows _ _)
    exact hP.bind (hs.putRows _ _) fun _ => htell v (.head _)

/-- Moves have the property if it admits pagers. -/
theorem moveAt (hs : UI.Admits P .page) (v : ViewId) :
    (∀ page smooth, P False (Except WidgetError Unit) (c.setPage v page smooth)) ∧
      ∀ page, P False (Except WidgetError Unit) (c.swipeTo v page) :=
  hP.move hc v (fun _ => hs.tell ⟨rfl, rfl⟩) (hs.operate rfl) (hs.putPages v)
    (fun _ => hs.tell ⟨rfl, rfl⟩) fun _ step => hs.tell (by cases step <;> exact .head _)

/-- **What a widget is asked to do** has the property if it admits the sites of that. -/
theorem perform (hconnect : ∀ stream b h, P False Unit (c.connect stream b h)) (k : Call α)
    (hs : ∀ s ∈ k.sites, UI.Admits P s) (hk : k.isDirect = true) : P False α (k.perform c) := by
  by_cases hr : k.reach = .actions
  · refine hP.ofActions k hr (fun hsites => ?_) hc
    cases k with
    | newAdapterView thread ids =>
      exact hP.newAdapterView (hs .itemSelected (.head _)).putRows thread ids
    | newPager thread count =>
      exact hP.bind (hP.newView thread) fun _ => hP.bind (hP.read fun _ => ⟨_, rfl⟩) fun _ =>
        hP.bind ((hs .page (.head _)).putPages _ _) fun _ => hP.pure _
    | setPageWidth v width =>
      exact hP.bind (hP.read fun _ => ⟨_, rfl⟩) fun _ => (hs .page (.head _)).putPages _ _
    | newMenu anchor items =>
      refine hP.pointwise fun w => ⟨UI.changeScreen (fun t => { t with menus := _ }) >>= fun _ =>
        Pure.pure (w.screen.menus.add { anchor := anchor, items := items }).1, ?_, rfl⟩
      refine hP.bind ((hs .menuDismiss (.head _)).put fun t s' h => ?_) fun _ => hP.pure _
      cases s' with
      | focus => exact fun _ => rfl
      | page => exact ⟨rfl, Nat.le_refl _⟩
      | _ => trivial
    | showMenu n => exact (hs .menuDismiss (.head _)).putShowing n true
    | setFlags v chosen on => exact hP.setFlags (hs _ (.head _)) v chosen on
    | _ => first | exact absurd rfl hsites | cases hr
  cases k with
  | subscribeIn s stream observer => exact hP.subscribeIn hc hconnect s stream observer
  | emit b value => exact hP.emit hc b value
  | emitJudged b value judge => exact hP.emitJudged hc b value judge
  | fail b fault => exact hP.fail hc b fault
  | checkThread owner observer => exact hP.checkThread hc owner observer
  | subscribe stream observer => exact hP.subscribe hc hconnect stream observer
  | currentValue source => exact hP.currentValue hc source
  | accept sink value => cases hk
  | requestFocus v => exact hP.requestFocus hc (hs _ (.head _)) v
  | clearFocus v => exact hP.clearFocus hc (hs _ (.head _)) v
  | setFocusable v focusable => exact hP.setFocusable hc (hs _ (.head _)) v focusable
  | click v =>
    have hclick := hs .click (.head _)
    exact hP.bind (hclick.tell rfl) fun _ => hP.bind (hP.notify hc hclick v (.head _)) fun _ =>
      hP.pure _
  | longClick v =>
    have hclick := hs .longClick (.head _)
    exact hP.bind (hclick.tell rfl) fun _ => hP.ask hc hclick v (.head _)
  | touch v motion =>
    exact hP.bind (hP.read fun _ => ⟨_, rfl⟩) fun _ =>
      ite (hP.ask hc (hs .touch (.head _)) v (.head _)) (hP.pure false)
  | hover v motion =>
    exact hP.bind (hP.read fun _ => ⟨_, rfl⟩) fun _ =>
      ite (hP.ask hc (hs .hover (.head _)) v (.tail _ (.head _))) (hP.pure false)
  | swipeAway swipe =>
    exact hP.bind (hP.read fun _ => ⟨_, rfl⟩) fun _ =>
      hP.bind (hP.changeScreen fun t => .setVisibility t _ .gone) fun _ =>
        hP.discard (hP.notify hc (hs .swipe (.head _)) swipe (.head _))
  | setText v text =>
    exact hP.bind (hP.read fun _ => ⟨_, rfl⟩) fun _ => hP.editAt hc (hs _ (.head _)) v _ _ _ _
  | append v text =>
    exact hP.bind (hP.read fun _ => ⟨_, rfl⟩) fun _ => hP.editAt hc (hs _ (.head _)) v _ _ _ _
  | actInEditor v action => exact hP.ask hc (hs .editorAction (.head _)) v (.head _)
  | select v position => exact (hP.pickyAt hc (hs _ (.head _))).select v position
  | clearSelection v => exact (hP.pickyAt hc (hs _ (.head _))).clearSelection v
  | setRows v ids => exact (hP.pickyAt hc (hs _ (.head _))).setRows v ids
  | clickRow v position =>
    exact hP.bind (hP.read fun _ => ⟨_, rfl⟩) fun _ =>
      hP.bind (hP.notify hc (hs .itemClick (.head _)) v (.head _)) fun _ => hP.pure _
  | longClickRow v position =>
    exact hP.bind (hP.read fun _ => ⟨_, rfl⟩) fun _ =>
      hP.ask hc (hs .itemLongClick (.head _)) v (.tail _ (.head _))
  | setQuery v query submit => exact hP.setQuery hc (hs _ (.head _)) v query submit
  | submitQuery v => exact hP.submitQuery hc (hs _ (.head _)) v
  | setBarQuery v query => exact hP.setBarQuery hc (hs _ (.head _)) v query
  | submitBarQuery v =>
    exact hP.bind (hP.read fun _ => ⟨_, rfl⟩) fun _ =>
      hP.discard (hP.notify hc (hs .barQuery (.head _)) v (.tail _ (.head _)))
  | dismissKeyboard v =>
    exact hP.bind (hP.read fun _ => ⟨_, rfl⟩) fun _ =>
      hP.discard (hP.notify hc (hs .barQuery (.head _)) v (.head _))
  | setPage v page smooth => exact (hP.moveAt hc (hs _ (.head _)) v).1 page smooth
  | swipeTo v page => exact (hP.moveAt hc (hs _ (.head _)) v).2 page
  | dismissMenu n => exact hP.dismissMenu hc (hs _ (.head _)) n
  | chooseItem n id =>
    exact hP.chooseItem hc (hs _ (.head _)) (hs _ (.tail _ (.head _))) n id
  | scrollTo v new => exact hP.scrollTo hc (hs _ (.head _)) v new
  | scrollBy v dx dy =>
    exact hP.bind (hP.read fun _ => ⟨_, rfl⟩) fun _ => hP.scrollTo hc (hs _ (.head _)) v _
  | _ => exact absurd rfl hr

/-- **What is put into a sink** has the property if the call has it that the sink stands for. -/
theorem accept (hcall : ∀ {β : Type} (k : Call β), k.isPut = true → P False β (k.perform c))
    (sink : Sink) (value : Payload) : P False (Except SinkError Unit) (c.accept sink value) :=
  Client.accept_of hP.pure (fun _ hx => hP.bind hx fun _ => hP.pure _) hc.absorb hcall sink value

/-- **A call** has a property `Q` that is weaker than one that admits all sites but one, if the
    calls have it that are about that site. A sink may stand for one of these. -/
theorem performAbout {Q : ∀ α : Type, UI σ α → Prop}
    (hweak : ∀ {α : Type} {x : UI σ α}, P False α x → Q α x)
    (hanswer : ∀ {α β : Type} {x : UI σ α} (f : α → β), Q α x →
      Q β (x >>= fun a => Pure.pure (f a)))
    (hadmits : ∀ s', s' ≠ s → UI.Admits P s')
    (hconnect : ∀ stream b h, P False Unit (c.connect stream b h))
    (hcall : ∀ {β : Type} (k : Call β), s ∈ k.sites → Q β (k.perform c)) (k : Call α) :
    Q α (k.perform c) := by
  have hdirect : ∀ {β : Type} (k : Call β), k.isDirect = true → Q β (k.perform c) := by
    intro β k hk
    by_cases hs : s ∈ k.sites
    · exact hcall k hs
    refine hweak (hP.perform hc hconnect k (fun s' hs' => hadmits s' ?_) hk)
    rintro rfl
    exact hs hs'
  cases k with
  | accept sink value =>
    refine Client.accept_of (fun a => hweak (hP.pure a)) hanswer
      (fun callback value => hweak (hc.absorb callback value)) (fun k hk => hdirect k ?_) sink value
    cases k <;> first | rfl | cases hk
  | _ => exact hdirect _ rfl

omit hc in
/-- A call that is made has a property if what the library does for it has. -/
theorem make {k : Call α} (hk : P False α (k.perform c)) : P False α (k.make m c) :=
  hP.bind hP.get fun _ => ite hk hP.stalled

end Widgets

-- ════════════════════════════════════════════════════════════════════════
-- Programs
-- ════════════════════════════════════════════════════════════════════════

section Programs

variable {L : Leeway (Desk τ)} {P Q : Prop → ∀ α : Type, UI (Desk τ) α → Prop} (hP : Trait L P)

section Resuming

variable (hQ : Resumes P Q) (hown : ∀ own, P False Unit (UI.putOwn own))
include hP hQ hown

/-- **A program** resumes into the property if whatever resumes does so behind a call that it may
    make. The induction is on the program. -/
theorem resumeProgram {s p : Prop} {c : Client (Desk τ)}
    (hcall : ∀ {β γ : Type} {q : Prop} (k : Call β), (k.reach ≠ .actions → s) →
      ∀ {f : β → UI (Desk τ) γ}, (∀ b, Q q γ (f b)) → Q q γ (k.place m c >>= f))
    (program : Program m τ s p α) : Q p α (program.run c) := by
  have hpure : ∀ {α : Type} {p : Prop} (a : α), P p α (Pure.pure a) :=
    fun a => hP.mono False.elim (hP.pure a)
  induction program with
  | done a => exact hQ.moment (hpure a)
  | panic h message => exact hQ.moment (hP.panic message h)
  | look next ih =>
    exact hQ.moment (hP.bind (hP.mono False.elim hP.get) fun w => hQ.weaken (ih _ _))
  | keep own next ih =>
    exact hQ.moment (hP.bind (hP.mono False.elim (hown own)) fun _ => hQ.weaken ih)
  | call k hs hp next ih => exact hcall k hs ih
  | attempt body next ihb ihn =>
    exact hQ.moment (hP.bind (hP.mono False.elim (hP.catching (hQ.weaken ihb))) fun result =>
      hQ.weaken (ihn result))
  | elsewhere body next ihb ihn =>
    exact hQ.moment (hP.bind (hP.onNewThread (hQ.weaken ihb)) fun result =>
      hQ.weaken (ihn result))

/-- **Code** resumes into the property, to any depth, unless its callbacks panic and the property
    minds. -/
theorem resumeCode
    (hpanics : m.mayPanic → ∀ {α : Type} {x : UI (Desk τ) α}, Q True α x → Q False α x)
    (hcall : ∀ {c : Client (Desk τ)}, c.Has Q → ∀ {β γ : Type} {q : Prop} (k : Call β),
      (k.reach ≠ .actions → m.signals = true) → ∀ {f : β → UI (Desk τ) γ},
        (∀ b, Q q γ (f b)) → Q q γ (k.place m c >>= f))
    (code : Code m τ) (depth : Nat) : (code.client depth).Has Q := by
  have hcalm : ∀ {p : Prop} {α : Type} {x : UI (Desk τ) α}, (p → m.mayPanic) → Q p α x →
      Q False α x := by
    intro p α x hp hx
    by_cases h : m.mayPanic
    · exact hpanics h (hQ.mono (fun _ => trivial) hx)
    · exact hQ.mono (fun h' => h (hp h')) hx
  have hstalled : ∀ {α : Type} {p : Prop}, Q p α (throw .stalled) :=
    hQ.mono False.elim hQ.stalled
  induction depth with
  | zero =>
    exact ⟨fun _ _ => hstalled, fun _ _ => hstalled, fun _ _ => hstalled, fun _ => hstalled,
      fun _ _ => hstalled, fun _ _ => hstalled, fun _ => hstalled, fun _ _ => hstalled⟩
  | succ depth ih =>
    have hrun : ∀ {p : Prop} {α : Type} (program : Program m τ (m.signals = true) p α),
        Q p α (program.run (code.client depth)) :=
      fun program => hP.resumeProgram hQ hown (hcall ih) program
    exact {
      observe := fun n signal => hcalm .inl (hrun (code.observe n signal))
      judge := fun n value => hcalm .inr (hrun (code.judge n value))
      hear := fun n event => hcalm .inr (hrun (code.hear n event))
      release := fun n => hrun (code.release n)
      attach := fun n b => hcalm .inr (hrun (code.attach n b))
      detach := fun n key => hrun (code.detach n key)
      current := fun n => hcalm .inr (hrun (code.current n))
      absorb := fun n value => hcalm .inr (hrun (code.absorb n value)) }

end Resuming

variable (hmoment : P False Unit UI.observeMoment) (hown : ∀ own, P False Unit (UI.putOwn own))
include hP hmoment

/-- A call that is placed has a property if it has it when it is made. -/
theorem place {c : Client (Desk τ)} {k : Call α} (hk : P False α (k.make m c)) :
    P False α (k.place m c) :=
  hP.bind hmoment fun _ => hk

/-- A property that does not mind moments is one into which client code resumes. -/
theorem resumes : Resumes P P where
  moment hx := hP.bind (hP.mono False.elim hmoment) fun _ => hx
  weaken := id
  mono := hP.mono
  stalled := hP.stalled

include hown

/-- **A program** has the property if the calls have it that it may make. -/
theorem ofProgram {s p : Prop} {c : Client (Desk τ)}
    (hcall : ∀ {β : Type} (k : Call β), (k.reach ≠ .actions → s) → P False β (k.place m c))
    (program : Program m τ s p α) : P p α (program.run c) :=
  hP.resumeProgram (hP.resumes hmoment) hown
    (fun k hs _ hf => hP.bind (hP.mono False.elim (hcall k hs)) hf) program

/-- **Code** has the property, to any depth, unless its callbacks panic and the property minds. -/
theorem ofCode
    (hpanics : m.mayPanic → ∀ {α : Type} {x : UI (Desk τ) α}, P True α x → P False α x)
    (hcall : ∀ {c : Client (Desk τ)}, c.Has P → ∀ {β : Type} (k : Call β),
      (k.reach ≠ .actions → m.signals = true) → P False β (k.place m c))
    (code : Code m τ) (depth : Nat) : (code.client depth).Has P :=
  hP.resumeCode (hP.resumes hmoment) hown hpanics
    (fun hc _ _ _ k hs _ hf => hP.bind (hP.mono False.elim (hcall hc k hs)) hf) code depth

end Programs

end UI.Trait

end WidgetStreams
