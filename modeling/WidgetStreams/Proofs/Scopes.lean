import WidgetStreams.Proofs.Releasing

/-!
# Scopes dispose what they hold

This file proves what becomes of the handles that a scope is given, whatever
their actions do, and whoever else disposes them: the scope holds those that are
not disposed, and when it is cleared they are disposed, the latest first.

## Main definitions

- `Custody` — the handles that a scope was given since it was cleared last, in any run
- `Toolkit.active` — the handles of a list that are not disposed
- `Client.Sparing` — no action disposes another handle when a scope is cleared
- `Toolkit.Spent` — a handle is disposed, and its actions were run once
- `Unloads` — handles are disposed one after the other, and their actions run

## Main results

- `Custody.kept` — a scope holds all active handles that it was given
- `Client.Behaves.cleared` — clearing a scope comes back, and disposes all handles that it holds
- `Client.Behaves.unloads` — it disposes them in order, the latest first
- `Custody.disposed_together` — what becomes of the handles that a scope was given

## Design notes

Nobody else has a hand on a scope as long as an operation on it is running. What
client code does in between is any number of steps that leave the scope alone.
-/

namespace WidgetStreams

open History UI

variable {σ τ : Type} {m : Manners} {K : σ → Prop} {c : Client σ} {s : ScopeId} {v w u : Toolkit σ}
  {h k : HandleId} {since held : List HandleId}

-- ════════════════════════════════════════════════════════════════════════
-- What a scope is given
-- ════════════════════════════════════════════════════════════════════════

/-- **A scope in the course of a run**: the handles that it was given since it was cleared last, in
    order and as often as it was given them, and the toolkit by then. -/
inductive Custody (m : Manners) (K : σ → Prop) (s : ScopeId) : List HandleId → Toolkit σ → Prop
  /-- The scope is new. -/
  | opened {w : Toolkit σ} (hw : Reached m K w) (hs : w.scopes.get s = []) : Custody m K s [] w
  /-- Something else is done, and the scope stays as it is. -/
  | meanwhile {since : List HandleId} {w u : Toolkit σ} (h : Custody m K s since w)
      (hu : Reached m K u) (hwu : Steps m w u) (hs : u.scopes.get s = w.scopes.get s) :
      Custody m K s since u
  /-- The scope is given a handle. -/
  | hold {since : List HandleId} {w u : Toolkit σ} {h : HandleId} (hw : Custody m K s since w)
      (hh : w.HasHandle h) (hr : hold s h w = .ok () u) : Custody m K s (since ++ [h]) u
  /-- The scope is given the handle of a subscription that is made for it. -/
  | subscribe {since : List HandleId} {w x u : Toolkit σ} {h : HandleId} {c : Client σ}
      {stream : Stream} {observer : Observer} (hw : Custody m K s since w) (hc : c.Behaves m K)
      (hfree : Free m w) (hx : c.subscribe stream observer w = .ok h x)
      (hs : x.scopes.get s = w.scopes.get s) (hr : c.subscribeIn s stream observer w = .ok () u) :
      Custody m K s (since ++ [h]) u
  /-- The scope is cleared, or it is let go, which is the same. -/
  | clear {since : List HandleId} {w u : Toolkit σ} {c : Client σ} (hw : Custody m K s since w)
      (hc : c.Behaves m K) (hr : c.clearScope s w = .ok () u) : Custody m K s [] u

namespace Toolkit

/-- **The active handles** of a list: those that are not disposed. -/
def active (w : Toolkit σ) (held : List HandleId) : List HandleId :=
  held.filter fun h => !w.disposed h

/-- The toolkit with other handles held by a scope. -/
def withHeld (w : Toolkit σ) (s : ScopeId) (held : List HandleId) : Toolkit σ :=
  { w with scopes := w.scopes.put s held }

/-- The journal says that a scope is cleared. -/
def clearing (w : Toolkit σ) (s : ScopeId) : Toolkit σ :=
  w.noted (.clearing s (w.scopes.get s).length)

theorem active_append (w : Toolkit σ) (held more : List HandleId) :
    w.active (held ++ more) = w.active held ++ w.active more := List.filter_append ..

/-- What is active later was active before. -/
theorem active_active (hg : Grows w u) (held : List HandleId) :
    u.active (w.active held) = u.active held := by
  rw [active, active, active, List.filter_filter]
  refine List.filter_congr fun h _ => ?_
  cases hd : w.disposed h with
  | false => simp
  | true => simp [hg.disposed hd]

/-- Lists with the same active handles have the same ones later. -/
theorem active_eq (hg : Grows w u) {held' : List HandleId} (he : w.active held = w.active held') :
    u.active held = u.active held' := by
  rw [← active_active hg, he, active_active hg]

end Toolkit

theorem UI.run_hold (s : ScopeId) (h : HandleId) (w : Toolkit σ) :
    hold s h w = .ok () (w.withHeld s (w.active (w.scopes.get s) ++ [h])) := rfl

/-- **A scope lets go of no active handle** when it is given another one. -/
theorem UI.active_of_hold (hr : hold s k w = .ok () u) :
    u.active (u.scopes.get s) = w.active (w.scopes.get s) ++ w.active [k] := by
  rw [run_hold] at hr
  cases hr
  have hheld : ((w.withHeld s (w.active (w.scopes.get s) ++ [k])).scopes.get s) =
      w.active (w.scopes.get s) ++ [k] := by simp [Toolkit.withHeld]
  rw [hheld]
  change w.active (w.active (w.scopes.get s) ++ [k]) = _
  rw [w.active_append, Toolkit.active_active (.refl w)]

/-- **What custody keeps**: the scope holds all active handles that it was given, in order and as
    often as it was given them. -/
structure Custody.Kept (m : Manners) (K : σ → Prop) (s : ScopeId) (since : List HandleId)
    (w : Toolkit σ) : Prop where
  reached : Reached m K w
  known : ∀ h ∈ since, w.HasHandle h
  active : w.active (w.scopes.get s) = w.active since

namespace Custody.Kept

/-- Whatever is done leaves what is held. -/
theorem meanwhile (h : Custody.Kept m K s since w) (hu : Reached m K u) (hwu : Steps m w u)
    (hs : u.scopes.get s = w.scopes.get s) : Custody.Kept m K s since u where
  reached := hu
  known h' hh := hwu.grows.hasHandle (h.known h' hh)
  active := hs ▸ Toolkit.active_eq hwu.grows h.active

/-- **Another handle is held**: of those before, the scope lets go of what is disposed, and of
    nothing else. -/
theorem hold (h : Custody.Kept m K s since w) (hk : w.HasHandle k)
    (hr : UI.hold s k w = .ok () u) : Custody.Kept m K s (since ++ [k]) u := by
  have hlands := h.reached.hold (p := False) s hk
  rw [hr] at hlands
  refine ⟨hlands.1, ?_, ?_⟩
  · have hgrows := hlands.2.1.grows
    simpa [or_imp, forall_and] using
      ⟨fun h' hh => hgrows.hasHandle (h.known h' hh), hgrows.hasHandle hk⟩
  · have hdisposed : u.active = w.active := by
      rw [run_hold] at hr
      cases hr
      rfl
    rw [active_of_hold hr, h.active, hdisposed, w.active_append]

end Custody.Kept

-- ════════════════════════════════════════════════════════════════════════
-- Clearing
-- ════════════════════════════════════════════════════════════════════════

theorem Reached.withHeld (hw : Reached m K w) (s : ScopeId) (held : List HandleId)
    (hh : ∀ h ∈ held, w.HasHandle h) :
    Reached m K (w.withHeld s held) ∧ Frame m w (w.withHeld s held) := by
  have hlands := hw.putHeld (s := s) (p := False) hh
  exact ⟨hlands.1, hlands.2.1⟩

/-- The run of an action of a handle in a list is given up when the handle is disposed, at a toolkit
    to which steps lead. -/
def Client.Balks (c : Client σ) (m : Manners) (held : List HandleId) (w : Toolkit σ) : Prop :=
  ∃ h ∈ w.active held, ∃ v action, Steps m w v ∧ (v.handles.get h).action = some action ∧
    c.Stuck h action (v.marking h)

theorem Client.Balks.mono {earlier : List HandleId} (h : c.Balks m earlier u) (hwu : Steps m w u)
    (hs : ∀ k ∈ earlier, k ∈ held) : c.Balks m held w := by
  obtain ⟨k, hk, v, action, huv, haction, hstuck⟩ := h
  obtain ⟨hmem, hopen⟩ := List.mem_filter.mp hk
  refine ⟨k, List.mem_filter.mpr ⟨hs k hmem, ?_⟩, v, action, hwu.trans huv, haction, hstuck⟩
  cases hd : w.disposed k with
  | false => rfl
  | true => simp [hwu.grows.disposed hd] at hopen

namespace Client

/-- The latest handle is taken out of the scope before it is disposed. -/
theorem run_disposeHeld_cons (earlier : List HandleId) (w : Toolkit σ) :
    c.disposeHeld s (h :: earlier) w =
      (c.dispose h >>= fun _ => c.disposeHeld s earlier) (w.withHeld s earlier.reverse) := rfl

theorem run_clearScope (s : ScopeId) (w : Toolkit σ) :
    c.clearScope s w = c.disposeHeld s (w.scopes.get s).reverse (w.clearing s) := rfl

namespace Behaves

/-- **Clearing disposes all handles** that the scope held, and leaves it empty. -/
theorem emptied (hc : c.Behaves m K) (s : ScopeId) (held : List HandleId) (hw : Reached m K w)
    (hh : ∀ h ∈ held, w.HasHandle h) :
    Lands m K False (Frame m w)
      (fun _ u => u.scopes.get s = [] ∧ ∀ h ∈ held, u.disposed h = true)
      (c.disposeHeld s held w) := by
  induction held generalizing w with
  | nil =>
    obtain ⟨hu, hwu⟩ := hw.withHeld s [] hh
    exact ⟨hu, hwu, by simp, nofun⟩
  | cons h earlier ih =>
    obtain ⟨hh, hrest⟩ := List.forall_mem_cons.mp hh
    obtain ⟨hv, hwv⟩ := hw.withHeld s earlier.reverse (by simpa using hrest)
    rw [run_disposeHeld_cons]
    refine .after hwv ((hc.dispose hv hh).next fun _ x hx hvx hd => ?_)
    refine (ih hx fun k hk => (hwv.grows.trans hvx.grows).hasHandle (hrest k hk)).weaken ?_
    rintro - u - hxu ⟨hempty, hdisposed⟩
    exact ⟨hempty, List.forall_mem_cons.mpr ⟨hxu.grows.disposed hd, hdisposed⟩⟩

/-- Clearing is given up only if an action is. -/
theorem balks_of_disposeHeld (hc : c.Behaves m K) (hw : Reached m K w)
    (hh : ∀ h ∈ held, w.HasHandle h) (hr : c.disposeHeld s held w = .error .stalled u) :
    c.Balks m held w := by
  induction held generalizing w with
  | nil => cases hr
  | cons h earlier ih =>
    obtain ⟨hh, hrest⟩ := List.forall_mem_cons.mp hh
    obtain ⟨hv, hwv⟩ := hw.withHeld s earlier.reverse (by simpa using hrest)
    rw [run_disposeHeld_cons] at hr
    have hlands := hc.dispose hv hh
    cases hd : c.dispose h (w.withHeld s earlier.reverse) with
    | ok a x =>
      -- an action of an earlier handle is given up
      rw [bind_ok hd] at hr
      rw [hd] at hlands
      have hsteps : Steps m w x := hwv.steps.trans hlands.2.1.steps
      exact (ih hlands.1 (fun k hk => hsteps.grows.hasHandle (hrest k hk)) hr).mono hsteps
        fun k hk => List.mem_cons_of_mem _ hk
    | error reason x =>
      rw [bind_error hd] at hr
      cases hr
      obtain ⟨hfirst, hagain⟩ := hc.disposes hv hh
      cases hdisposed : (w.withHeld s earlier.reverse).disposed h with
      | true =>
        rw [hagain hdisposed] at hd
        cases hd
      | false =>
        have hback := hfirst hdisposed
        rw [hd] at hback
        obtain ⟨action, haction, hstuck⟩ := hback
        have hopen : w.disposed h = false := hdisposed
        exact ⟨h, List.mem_filter.mpr ⟨.head _, by simp [hopen]⟩, _, action, hwv.steps, haction,
          hstuck⟩

/-- **Clearing a scope comes back** without a panic, whatever the actions do, and disposes all
    handles that the scope held. -/
theorem cleared (hc : c.Behaves m K) (s : ScopeId) (hw : Reached m K w) :
    ComesBack m w (c.Balks m (w.scopes.get s) w) (c.clearScope s w) ∧
      ∀ u, c.clearScope s w = .ok () u → Reached m K u ∧ u.scopes.get s = [] ∧
        ∀ h ∈ w.scopes.get s, u.disposed h = true := by
  rw [run_clearScope]
  have hnoted : Frame m w (w.clearing s) := .note w rfl
  have hv : Reached m K (w.clearing s) := hw.steps hnoted.steps rfl
  have hh : ∀ h ∈ (w.scopes.get s).reverse, (w.clearing s).HasHandle h := fun h hmem =>
    hw.sound.held (List.mem_reverse.mp hmem)
  have hlands := hc.emptied s _ hv hh
  constructor
  · cases hr : c.disposeHeld s (w.scopes.get s).reverse (w.clearing s) with
    | ok a u =>
      rw [hr] at hlands
      exact hnoted.steps.trans hlands.2.1.steps
    | error reason u =>
      rw [hr] at hlands
      cases reason with
      | panic => exact hlands.1
      | stalled =>
        exact (hc.balks_of_disposeHeld hv hh hr).mono hnoted.steps fun k hk =>
          List.mem_reverse.mp hk
  · intro u hr
    rw [hr] at hlands
    obtain ⟨hu, -, hempty, hdisposed⟩ := hlands
    exact ⟨hu, hempty, fun h hmem => hdisposed h (List.mem_reverse.mpr hmem)⟩

end Behaves

end Client

-- ════════════════════════════════════════════════════════════════════════
-- The order
-- ════════════════════════════════════════════════════════════════════════

/-- **No action disposes another handle** when the handles that a scope held are disposed, latest
    first. -/
def Client.Sparing (c : Client σ) (s : ScopeId) : List HandleId → Toolkit σ → Prop
  | [], _ => True
  | h :: earlier, w =>
    match c.dispose h (w.withHeld s earlier.reverse) with
    | .ok _ u => (∀ k < w.handles.next, k ≠ h → u.disposed k = w.disposed k) ∧ c.Sparing s earlier u
    | .error _ _ => True

theorem Toolkit.Sound.lt_next (hs : w.Sound) (hh : w.HasHandle h) : h < w.handles.next := by
  by_contra hn
  rw [HasHandle, hs.freshHandles h (Nat.le_of_not_lt hn)] at hh
  cases hh

instance Client.Sparing.decidable (c : Client σ) (s : ScopeId) :
    ∀ held w, Decidable (c.Sparing s held w)
  | [], _ => isTrue trivial
  | h :: earlier, w =>
    match hd : c.dispose h (w.withHeld s earlier.reverse) with
    | .ok _ u =>
      have := Client.Sparing.decidable c s earlier u
      decidable_of_iff ((∀ k < w.handles.next, k ≠ h → u.disposed k = w.disposed k) ∧
        c.Sparing s earlier u) (by rw [Client.Sparing, hd])
    | .error _ _ => isTrue (by rw [Client.Sparing, hd]; trivial)

/-- **A handle is spent**: it is disposed; and whenever it was open before, from then on its actions
    were run once. -/
structure Toolkit.Spent (m : Manners) (w : Toolkit σ) (k : HandleId) : Prop where
  disposed : w.disposed k = true
  once : ∀ v : Toolkit σ, v.Sound → Steps m v w → v.HasHandle k → v.disposed k = false →
    (v.lifeline k).Onward (w.lifeline k)

theorem Toolkit.Spent.of_disposed (hd : w.disposed k = true) : w.Spent m k :=
  ⟨hd, fun _ hs hvw hh hopen => hvw.onward hs hh hopen⟩

/-- **Handles are disposed one after the other**: each is not disposed until it is its turn, then it
    is marked, and the action that is in place begins to run at once. -/
inductive Unloads (m : Manners) : List HandleId → Toolkit σ → Toolkit σ → Prop
  | done {w u : Toolkit σ} (hwu : Steps m w u) : Unloads m [] w u
  | next {h : HandleId} {rest : List HandleId} {w v u : Toolkit σ} (hwv : Steps m w v)
      (hopen : v.disposed h = false) (hrest : Unloads m rest (v.disposing h) u) :
      Unloads m (h :: rest) w u

theorem Unloads.head (hwv : Steps m w v) (h : Unloads m held v u) : Unloads m held w u := by
  cases h with
  | done hvu => exact .done (hwv.trans hvu)
  | next hvx hopen hrest => exact .next (hwv.trans hvx) hopen hrest

theorem Client.Behaves.unloads (hc : c.Behaves m K) (s : ScopeId) (held : List HandleId)
    (hw : Reached m K w) (hh : ∀ h ∈ held, w.HasHandle h) (hs : c.Sparing s held w)
    (hr : c.disposeHeld s held w = .ok () u) : Unloads m (w.active held).eraseDups w u := by
  induction held generalizing w with
  | nil =>
    obtain ⟨-, hwu⟩ := hw.withHeld s [] hh
    cases hr
    exact .done hwu.steps
  | cons h earlier ih =>
    obtain ⟨hh, hrest⟩ := List.forall_mem_cons.mp hh
    obtain ⟨hv, hwv⟩ := hw.withHeld s earlier.reverse (by simpa using hrest)
    rw [Client.run_disposeHeld_cons] at hr
    have hlands := hc.dispose hv hh
    obtain ⟨hfirst, hagain⟩ := hc.disposes hv hh
    cases hd : c.dispose h (w.withHeld s earlier.reverse) with
    | error reason x =>
      rw [bind_error hd] at hr
      cases hr
    | ok a x =>
      rw [bind_ok hd] at hr
      rw [hd] at hlands hfirst hagain
      rw [Client.Sparing, hd] at hs
      obtain ⟨hothers, hs⟩ := hs
      have hsteps : Steps m w x := hwv.steps.trans hlands.2.1.steps
      have hunloads := ih hlands.1 (fun k hk => hsteps.grows.hasHandle (hrest k hk)) hs hr
      cases hopen : w.disposed h with
      | true =>
        -- it was disposed before it was its turn
        cases hagain hopen
        rw [Toolkit.active, List.filter_cons_of_neg (by simp [hopen])]
        exact hunloads.head hwv.steps
      | false =>
        have hactive : x.active earlier = (w.active earlier).filter fun k => !k == h := by
          rw [Toolkit.active, Toolkit.active, List.filter_filter]
          refine List.filter_congr fun k hk => ?_
          by_cases hkh : k = h
          · rw [hkh, hlands.2.2]
            simp
          · rw [hothers k (hw.sound.lt_next (hrest k hk)) hkh]
            simp [hkh]
        rw [Toolkit.active, List.filter_cons_of_pos (by simp [hopen]), List.eraseDups_cons]
        refine .next hwv.steps hopen ?_
        rw [← Toolkit.active, ← hactive]
        exact hunloads.head (hfirst hopen)

-- ════════════════════════════════════════════════════════════════════════
-- All runs
-- ════════════════════════════════════════════════════════════════════════

namespace Custody

/-- **A scope holds all active handles** that it was given. The induction is on the run. -/
theorem kept (h : Custody m K s since w) : Custody.Kept m K s since w := by
  induction h with
  | opened hw hs => exact ⟨hw, nofun, by rw [hs]⟩
  | meanwhile _ hu hwu hs ih => exact ih.meanwhile hu hwu hs
  | hold _ hh hr ih => exact ih.hold hh hr
  | @subscribe since w x u h c stream observer hw hc hfree hx hs hr ih =>
    have hlands := hc.subscribe ih.reached hfree stream observer
    rw [hx] at hlands
    rw [Client.subscribeIn, bind_ok hx] at hr
    exact (ih.meanwhile hlands.1 hlands.2.1.steps hs).hold hlands.2.2 hr
  | clear hw hc hr ih =>
    obtain ⟨hu, hempty, -⟩ := (hc.cleared s ih.reached).2 _ hr
    exact ⟨hu, nofun, by rw [hempty]⟩

/-- **What becomes of the handles that a scope was given** since it was cleared last. It holds those
    that are not disposed, in order and as often as it was given them, and lets go of none of them
    when it is given another one. When it is cleared, by whatever client code, that comes back
    without a panic unless an action is given up; then all of the handles are spent, and the scope
    is as good as new. If no action disposed another handle, each handle that was active was
    disposed and its action begun when it was the turn of the last time that the scope was given it,
    the latest first. -/
theorem disposed_together (h : Custody m K s since w) :
    w.active (w.scopes.get s) = w.active since ∧ w.heldCount s = (w.active since).length ∧
    (∀ k, ∃ u, UI.hold s k w = .ok () u ∧
      u.active (u.scopes.get s) = w.active (w.scopes.get s) ++ w.active [k]) ∧
    ∀ c : Client σ, c.Behaves m K → ComesBack m w (c.Balks m since w) (c.clearScope s w) ∧
      ∀ u, c.clearScope s w = .ok () u →
        u.scopes.get s = [] ∧ Custody m K s [] u ∧
        (∀ k ∈ since, u.Spent m k) ∧
        (c.Sparing s (w.scopes.get s).reverse (w.clearing s) →
          Unloads m (w.active since).reverse.eraseDups w u) := by
  obtain ⟨hreached, hknown, hactive⟩ := h.kept
  refine ⟨hactive, congrArg List.length hactive, fun k => ⟨_, rfl, active_of_hold rfl⟩,
    fun c hc => ?_⟩
  obtain ⟨hback, hdone⟩ := hc.cleared s hreached
  rw [Client.Balks, hactive] at hback
  refine ⟨hback, fun u hr => ?_⟩
  obtain ⟨hu, hempty, hdisposed⟩ := hdone u hr
  rw [hr] at hback
  refine ⟨hempty, h.clear hc hr, fun k hk => .of_disposed ?_, fun hs => ?_⟩
  · cases hopen : w.disposed k with
    | true => exact (Steps.grows hback).disposed hopen
    | false =>
      have hmem : k ∈ w.active (w.scopes.get s) := by
        rw [hactive]
        exact List.mem_filter.mpr ⟨hk, by simp [hopen]⟩
      exact hdisposed k (List.mem_filter.mp hmem).1
  · rw [Client.run_clearScope] at hr
    have hnoted : Frame m w (w.clearing s) := .note w rfl
    have hunloads := hc.unloads s _ (hreached.steps hnoted.steps rfl)
      (fun k hk => hreached.sound.held (List.mem_reverse.mp hk)) hs hr
    rw [← hactive]
    refine Unloads.head hnoted.steps ?_
    rw [Toolkit.active, ← List.filter_reverse]
    exact hunloads

/-- Its actions fail, panic, and dispose another handle. -/
def unruly : Code ⟨false, false, false, false⟩ Unit :=
  { Code.quiet _ with
    release := fun n =>
      if n = 1 then .done (.error "half done")
      else if n = 2 then .panic trivial "stuck"
      else .call (.dispose 2) (absurd rfl) (fun _ => trivial) fun _ => .done (.ok ()) }

/-- A toolkit with four handles that have actions. -/
def stocked : Toolkit (Desk Unit) :=
  [1, 2, 3, 4].foldl (fun w n => w.addingHandle { disposed := false, action := some (.client n) })
    { client := { own := () } }

theorem reached_stocked :
    Reached ⟨false, false, false, false⟩ (Desk.Faithful ⟨false, false, false, false⟩) stocked :=
  (Code.reached_start ()).steps ((((Relation.ReflTransGen.single (.newHandle false (some 1))).tail
    (.newHandle false (some 2))).tail (.newHandle false (some 3))).tail
      (.newHandle false (some 4))) rfl

/-- A scope was given one handle twice, another one once, and one that was then disposed by somebody
    else. -/
def entrusted : Toolkit (Desk Unit) :=
  ((stocked.withHeld 1 [1, 2, 4]).disposing 4).withHeld 1 [1, 2, 1]

theorem custody_entrusted : Custody ⟨false, false, false, false⟩
    (Desk.Faithful ⟨false, false, false, false⟩) 1 [1, 2, 4, 1] entrusted := by
  have hgiven := (((opened (s := 1) reached_stocked rfl).hold (h := 1) rfl rfl).hold (h := 2) rfl
    rfl).hold (h := 4) rfl rfl
  have hdisposed := hgiven.meanwhile
    (hgiven.kept.reached.steps (.single (.dispose (h := 4) rfl rfl)) rfl)
    (.single (.dispose rfl rfl)) rfl
  exact hdisposed.hold (h := 1) rfl (by rfl)

/-- When the scope is cleared, the first handle is disposed before the second one: its action fails,
    and the other one panics. If the scope is given another handle before, whose action disposes the
    second handle, all of them are spent too. -/
theorem disposed_together_unruly : let c := unruly.client 5
    entrusted.heldCount 1 = 3 ∧
    (∃ u, c.clearScope 1 entrusted = .ok () u ∧ u.scopes.get 1 = [] ∧
      (∀ k ∈ [1, 2, 4, 1], u.Spent ⟨false, false, false, false⟩ k) ∧
      Unloads ⟨false, false, false, false⟩ [1, 2] entrusted u) ∧
    ∃ v u, UI.hold 1 3 entrusted = .ok () v ∧ v.heldCount 1 = 4 ∧ c.clearScope 1 v = .ok () u ∧
      (∀ k ∈ [1, 2, 4, 1, 3], u.Spent ⟨false, false, false, false⟩ k) ∧
      deeds 2 u.journal = [.disposed, .ran (.client 2)] := by
  intro c
  have hc : c.Behaves ⟨false, false, false, false⟩ (Desk.Faithful _) := unruly.behaves 5
  refine ⟨(disposed_together custody_entrusted).2.1, ?_, ?_⟩
  · obtain ⟨⟨⟩, u, hr, -⟩ := Code.exists_of_test (r := c.clearScope 1 entrusted)
      (P := fun _ => True) (by decide +kernel)
    obtain ⟨hempty, -, hspent, hunloads⟩ :=
      ((disposed_together custody_entrusted).2.2.2 c hc).2 u hr
    exact ⟨u, hr, hempty, hspent, hunloads (by decide +kernel)⟩
  · let v := entrusted.withHeld 1 [1, 2, 1, 3]
    have hgiven := custody_entrusted.hold (h := 3) (u := v) rfl (by rfl)
    obtain ⟨⟨⟩, u, hr, hdeeds⟩ := Code.exists_of_test (r := c.clearScope 1 v)
      (P := fun u => deeds 2 u.journal = [.disposed, .ran (.client 2)]) (by decide +kernel)
    obtain ⟨-, -, hspent, -⟩ := ((disposed_together hgiven).2.2.2 c hc).2 u hr
    exact ⟨v, u, by rfl, (disposed_together hgiven).2.1, hr, hspent, hdeeds⟩

end Custody

end WidgetStreams
