import WidgetStreams.Proofs.Keys
import WidgetStreams.Proofs.Warming

/-!
# What a subscription touches

This file proves that a subscription to a widget touches nothing but the point at
which its binding listens, and that nothing is left of it when it is disposed but
the flag of a clickable view and a key that is used up: from there on everything
happens as if it had never been made.

## Main definitions

- `Screen.Registers`, `Screen.Unregisters` — a listener comes to a point, and goes
- `Toolkit.forgoing` — the toolkit in which a subscription was not made
- `Toolkit.leaving` — the pairing of a subscription that is over with one that was never made
- `Pairing.SameBut` — two toolkits are the same but for what a subscription has left behind
- `Client.TouchesOnly` — what a subscription and its disposal touch, and what goes on afterwards

## Main results

- `Screen.registers_install`, `Screen.unregisters_uninstall` — what is touched at each end
- `Pairing.SameScreen.restored` — what is left on the screen
- `Client.Impartial.subscribes`, `Client.Impartial.refuses` — what becomes of a subscription
- `Client.Impartial.touchesOnly` — a subscription touches one point if nothing else is left of it
- `Code.subscriptions_touch_own_point` — bindings touch nothing but their own point

## Design notes

A toolkit gives out numbers to handles and bridges. So a run with a subscription is
compared with one in which its numbers are given out too, and nothing else is done.
-/

namespace WidgetStreams

open History UI

variable {σ τ : Type} {m : Manners} {K : σ → σ → Prop} {v w u x y : Toolkit σ} {P : Pairing}
  {c : Client σ} {h : HandleId} {s t : Screen} {p q : Point} {listener : Listener}
  {key : Option Nat} {binding : Binding} {n : Nat} {judge : Judge} {observer : Observer}
  {xs : List Payload}

-- ════════════════════════════════════════════════════════════════════════
-- Registering and undoing it
-- ════════════════════════════════════════════════════════════════════════

theorem Flags.assign_assign (f chosen : Flags) (on : Bool) :
    (f.assign chosen on).assign chosen on = f.assign chosen on := by
  have heach : ∀ {chosen a : Bool}, (if chosen then on else if chosen then on else a) =
      if chosen then on else a := by
    intro chosen a
    cases chosen <;> rfl
  simp only [assign, heach]

theorem Site.flag_eq_none {site : Site} (h : ¬ (site = .click ∨ site = .longClick)) :
    site.flag = {} := by
  cases site <;> simp_all [flag]

theorem Site.flag_of_isShared {site : Site} (h : site.isShared = true) : site.flag = {} :=
  flag_eq_none (by rintro (rfl | rfl) <;> cases h)

namespace Screen

/-- **A listener is registered at a point**, and nothing else is another one but the flag of its
    site: no other slot and no other registry, no other view and no other widget. -/
structure Registers (s t : Screen) (p : Point) (listener : Listener) : Prop where
  bare : t.bare = s.bare
  viewsNext : t.views.next = s.views.next
  views : ∀ n, t.views.find? n = (s.views.find? n).map fun x =>
    if p.owner = n then { x with flags := x.flags.assign p.site.flag true } else x
  slot : ∀ q, t.slot q = if p = q ∧ p.site.isShared = false then ⟨some listener⟩ else s.slot q
  roster : ∀ q, t.roster q =
    if p = q ∧ p.site.isShared = true then ((s.roster p).add listener).2 else s.roster q

/-- **The registration at a point is undone**, and nothing else is another one. -/
structure Unregisters (s t : Screen) (p : Point) (key : Option Nat) : Prop where
  bare : t.bare = s.bare
  views : t.views = s.views
  slot : ∀ q, t.slot q = if p = q ∧ key = none then ⟨none⟩ else s.slot q
  roster : ∀ q, t.roster q = key.elim (s.roster q) fun key =>
    if p = q then ((s.roster p).remove key).2 else s.roster q

/-- What a view shows when no flag is set. -/
theorem map_assign_of_flag (hp : p.site.flag = {}) (x : Option ViewState) :
    (x.map fun x =>
      if p.owner = n then { x with flags := x.flags.assign p.site.flag true } else x) =
      x := by
  rw [hp]
  cases x with
  | none => rfl
  | some x => exact congrArg some (ite_self x)

theorem registers_addListener (s : Screen) (hp : p.site.isShared = true) (listener : Listener) :
    s.Registers (s.addListener p listener).2 p listener where
  bare := rfl
  viewsNext := rfl
  views _ := (map_assign_of_flag (Site.flag_of_isShared hp) _).symm
  slot q := by
    rw [if_neg (by simp [hp])]
    rfl
  roster q := by simp [hp]

/-- If a flag is set, the view is there. -/
theorem registers_setListener (s : Screen) (hp : p.site.isShared = false) (listener : Listener)
    (hview : p.site = .click ∨ p.site = .longClick → (s.views.find? p.owner).isSome) :
    s.Registers (s.setListener p listener) p listener where
  bare := bare_setListener s p listener
  viewsNext := by
    simp only [setListener]
    split <;> rfl
  views n := by
    rw [setListener_eq]
    split
    · next hsite =>
      obtain ⟨x, hx⟩ := Option.isSome_iff_exists.mp (hview hsite)
      change (s.views.modify p.owner _).find? n = _
      rw [Registry.find?_modify]
      split
      · next hn =>
        subst hn
        simp [flags, view, Registry.get, hx]
      · exact Option.map_id'.symm
    · next hsite => exact (map_assign_of_flag (Site.flag_eq_none hsite) _).symm
  slot q := by simp [hp]
  roster q := by
    rw [if_neg (by simp [hp])]
    exact roster_congr (rosters_setListener s p listener) q

/-- **To register a listener is to touch one point.** If a flag is set, the view is there. -/
theorem registers_install (s : Screen) (p : Point) (listener : Listener)
    (hview : p.site = .click ∨ p.site = .longClick → (s.views.find? p.owner).isSome) :
    s.Registers (s.install p listener).2 p listener := by
  rw [install]
  split
  · next hp => exact s.registers_addListener hp listener
  · next hp => exact s.registers_setListener (by simpa using hp) listener hview

/-- **To undo a registration is to touch one point.** -/
theorem unregisters_uninstall (s : Screen) (p : Point) (key : Option Nat) :
    s.Unregisters (s.uninstall p key) p key := by
  cases key with
  | none =>
    refine ⟨rfl, rfl, fun q => ?_, fun q => ?_⟩
    · simp [uninstall]
    · simp [uninstall, roster_congr (rosters_clearListener s p)]
  | some key =>
    refine ⟨rfl, rfl, fun q => ?_, fun q => ?_⟩
    · simp [uninstall, slot]
    · simp [uninstall]

namespace Registers

theorem focused (h : s.Registers t p listener) (n : ViewId) :
    (t.flags n).focused = (s.flags n).focused := by
  have hsite : p.site.flag.focused = false := by cases p.site <;> rfl
  rw [flags, view, Registry.get, h.views, flags, view, Registry.get]
  cases s.views.find? n with
  | none => rfl
  | some x =>
    change (if p.owner = n then _ else x).flags.focused = _
    split
    · simp [Flags.assign, hsite]
    · rfl

/-- **What streams start with** is the same before and after. -/
theorem current (h : s.Registers t p listener) (binding : Binding) (n : Nat) :
    t.current binding n = s.current binding n := by
  have hrest : t.bare.current binding n = s.bare.current binding n := by rw [h.bare]
  cases binding with
  | focusChanges => exact congrArg Payload.flag (h.focused n)
  | focusChangeEvents => exact congrArg (Payload.focusChange n) (h.focused n)
  | _ => exact hrest

/-- **A registration that is undone** leaves registries as they were, but for a key. -/
theorem roster_restored (h : s.Registers t p listener) {u : Screen} (hun : t.Unregisters u p key)
    (hn : (s.roster p).Numbered)
    (hkey : key = if p.site.isShared then some (s.roster p).next else none) (q : Point) :
    u.roster q = if p = q ∧ p.site.isShared = true then
      { s.roster q with next := (s.roster q).next + 1 } else s.roster q := by
  rw [hun.roster, hkey, h.roster, h.roster]
  cases hp : p.site.isShared with
  | false => simp
  | true =>
    by_cases hpq : p = q
    · subst hpq
      simpa using hn.remove_add listener
    · simp [hpq]

end Registers

end Screen

-- ════════════════════════════════════════════════════════════════════════
-- What is left behind
-- ════════════════════════════════════════════════════════════════════════

theorem Toolkit.keyOf_eq_ite (w : Toolkit σ) (b : BridgeId) (binding : Binding) (n : Nat)
    (judge : Judge) :
    w.keyOf b binding n judge = if (binding.point n).site.isShared then
      some (w.screen.roster (binding.point n)).next else none := by
  rw [keyOf, Screen.install]
  split <;> rfl

/-- The pairing of a subscription to a widget that is made and disposed with one that is never made.
    It hands over what is shown, if it is warm, and leaves a point behind. -/
def Toolkit.leaving (w : Toolkit σ) (binding : Binding) (n : Nat) (judge : Judge)
    (observer : Observer) : Pairing :=
  { Pairing.itself w.bridges.next observer (.widget binding n judge) with
    first := if binding.isWarm then [w.screen.current binding n] else []
    gone := some (binding.point n, w.keyOf w.bridges.next binding n judge) }

namespace Pairing

/-- Keys are ahead by one from the one on that is used up. -/
theorem rekey_eq_ite (P : Pairing) {r : Registry Listener}
    (hkey : key = if p.site.isShared then some r.next else none) (hgone : P.gone = some (p, key))
    (q : Point) (k : Nat) : P.rekey q k =
      if (p = q ∧ p.site.isShared = true) ∧ r.next ≤ k then k + 1 else k := by
  rw [rekey, hgone, hkey]
  cases p.site.isShared <;> simp

/-- **What a subscription leaves on the screen** after it is disposed is the flag of its view, an
    empty slot, or a key. -/
theorem SameScreen.restored (hP : P.Plain) (hs : w.Sound) (hn : w.Numbered)
    (hb : P.bridge = w.bridges.next) (hreg : w.screen.Registers s p listener)
    (hkey : key = if p.site.isShared then some (w.screen.roster p).next else none)
    (hgone : P.gone = some (p, key)) (hun : s.Unregisters t p key) :
    P.SameScreen t w.screen := by
  have hrelabel : P.relabel = id := funext fun l => hP.relabel_eq l
  have hslot : ∀ q, ¬ P.Hides q → t.slot q = w.screen.slot q := by
    intro q hq
    rw [hun.slot, hreg.slot]
    have hne : ¬ (p = q ∧ key = none) := by
      rintro ⟨rfl, rfl⟩
      exact hq hgone
    rw [if_neg hne]
    refine if_neg fun hpq => hne ⟨hpq.1, ?_⟩
    rw [hkey, if_neg (by simp [hpq.2])]
  refine ⟨hun.bare.trans hreg.bare, ?_, fun n => ?_, fun q hq => ?_, fun q => ?_, fun q l hl =>
    fits_of_ne (fun _ _ => hb ▸ hs.ne_forward_next hl _ _) q, fun q own hq => ?_⟩
  · rw [hun.views, hreg.viewsNext]
  · -- the flag that is set is the one that is left out of account
    rw [hun.views, hreg.views, Option.map_map]
    congr 1
    funext x
    simp only [Function.comp_apply]
    split
    · next hpn =>
      subst hpn
      have hhidden : P.hidden p.owner = p.site.flag := by
        rw [hidden, hgone]
        cases hp : p.site.isShared with
        | true => simp [hkey, hp, Site.flag_of_isShared hp]
        | false => simp [hkey, hp]
      simp only [veiled, veil, hhidden, Flags.assign_assign]
    · rfl
  · rw [hslot q hq, hrelabel, Option.map_id, id]
  · have hrekey := P.rekey_eq_ite hkey hgone q
    rw [hrelabel, hreg.roster_restored hun (hn.held p) hkey]
    split
    · next hpq =>
      obtain ⟨rfl, hp⟩ := hpq
      have hmap : (w.screen.roster p).entries.map (P.rekey p) id = (w.screen.roster p).entries := by
        refine Dict.map_eq_self fun x hx => ⟨?_, rfl⟩
        rw [hrekey, if_neg fun e => absurd e.2 (Nat.not_le.mpr (hn.held p x hx))]
      rw [Registry.map, hmap, hrekey, if_pos ⟨⟨rfl, hp⟩, Nat.le_refl _⟩]
    · next hpq =>
      have hself : ∀ k, P.rekey q k = k := fun k => by rw [hrekey, if_neg fun e => hpq e.1]
      exact (Registry.map_eq_self (hself _) fun x _ => ⟨hself _, rfl⟩).symm
  · rw [hgone] at hq
    cases hp : p.site.isShared with
    | false => simp [hkey, hp] at hq
    | true =>
      simp only [hkey, hp, if_true, Option.some.injEq, Prod.mk.injEq] at hq
      obtain ⟨rfl, rfl⟩ := hq
      exact Nat.le_refl _

/-- **Whatever is to be undone** has a key that comes before the one that is used up. -/
theorem SameRelease.of_numbered (hn : w.Numbered) (hback : w.Backed)
    (hkey : key = if p.site.isShared then some (w.screen.roster p).next else none)
    (hgone : P.gone = some (p, key)) {action : Release}
    (ha : (w.handles.get h).action = some action) : P.SameRelease action action := by
  cases action with
  | client n => exact .client n
  | detach source undone =>
    have hself : P.rekeyOf source undone = undone := by
      cases source with
      | client => rfl
      | widget binding n judge =>
        cases undone with
        | none => rfl
        | some k =>
          have hlt := hn.given (hback.action ha)
          simp only [rekeyOf, Option.map_some, P.rekey_eq_ite hkey hgone]
          refine congrArg some (if_neg ?_)
          rintro ⟨⟨rfl, -⟩, hle⟩
          exact absurd hlt (Nat.not_lt.mpr hle)
    have hsame := SameRelease.detach (P := P) source undone
    rwa [hself] at hsame

end Pairing

-- ════════════════════════════════════════════════════════════════════════
-- Subscribing and disposing
-- ════════════════════════════════════════════════════════════════════════

namespace Toolkit

/-- The toolkit with a handle disposed that has nothing to do any more, and with another screen. -/
def ending (w : Toolkit σ) (h : HandleId) (s : Screen) : Toolkit σ :=
  (w.showing s).withHandle h fun handle => { handle with disposed := true, action := none }

/-- **The toolkit in which a subscription was not made**: a handle and a bridge are given out, so
    that later ones have the same numbers, and the handle is disposed, so that nobody emits by the
    bridge. -/
def forgoing (w : Toolkit σ) (source : Source) (observer : Observer) : Toolkit σ :=
  (w.admitting source observer).ending w.handles.next w.screen

/-- It does not matter what a handle was given before it is disposed. -/
theorem ending_withHandle (w : Toolkit σ) (h : HandleId) (f : Handle → Handle) (s : Screen) :
    (w.withHandle h f).ending h s = w.ending h s := by
  have hhandles : (w.handles.modify h f).modify h
      (fun handle => { handle with disposed := true, action := none }) =
        w.handles.modify h fun handle => { handle with disposed := true, action := none } := by
    rw [Registry.modify, Registry.modify, Registry.put_put, Registry.modify]
  exact congrArg (fun handles => { w with handles := handles, screen := s }) hhandles

/-- What is registered is what the handle is to undo. -/
theorem action_registering (hd : w.disposed h = false) (b : BridgeId) (binding : Binding) (n : Nat)
    (judge : Judge) : ((w.registering h b binding n judge).handles.get h).action =
      some (.detach (.widget binding n judge) (w.keyOf b binding n judge)) := by
  rw [registering, get_arming, if_pos ⟨rfl, hd⟩]
  rfl

/-- Where a subscription was registered and is over, only the journal tells of it. -/
theorem ending_registering (hd : w.disposed h = false) (b : BridgeId) (binding : Binding) (n : Nat)
    (judge : Judge) (s : Screen) :
    (w.registering h b binding n judge).ending h s = (w.ending h s).notedAll
      [.registered h (.widget binding n judge) (w.keyOf b binding n judge),
        .armed h (.detach (.widget binding n judge) (w.keyOf b binding n judge))] := by
  have hd' : (Toolkit.noted { w with
      screen := (w.screen.install (binding.point n) (.forward binding b judge)).2 }
      (.registered h (.widget binding n judge)
        (w.screen.install (binding.point n) (.forward binding b judge)).1)).disposed h = false := hd
  rw [registering, arming, if_neg (by rw [hd']; simp), ending_withHandle]
  rfl

/-- **Nothing is another one** where a subscription was not made, but one handle and one bridge. -/
theorem Sound.agreesBut_forgoing (hs : w.Sound) (source : Source) (observer : Observer) :
    w.AgreesBut (w.forgoing source observer) (some w.handles.next) (some w.bridges.next) := by
  refine ⟨rfl, rfl, rfl, rfl, rfl, rfl, rfl, rfl, fun k hk => ?_, fun k hk => ?_⟩
  · have hne : w.handles.next ≠ k := fun e => hk (congrArg some e)
    refine (Registry.find?_modify _ _ _ _).trans ((if_neg hne).trans ?_)
    exact (hs.find?_addingHandle {} k).trans (if_neg hne)
  · have hne : w.bridges.next ≠ k := fun e => hk (congrArg some e)
    exact (hs.find?_opening observer k).trans (if_neg hne)

end Toolkit

namespace Pairing.Recorded

theorem ending (hv : P.Recorded K xs v w) (h : HandleId) (s : Screen) :
    P.Recorded K xs (v.ending h s) (w.ending h s) := by
  obtain ⟨⟨tapes, journal, client, rfl⟩, htapes, hserves, hvalues, hcalls, hclient⟩ := hv
  exact ⟨⟨tapes, journal, client, rfl⟩, htapes, hserves, hvalues, hcalls, hclient⟩

/-- It does not matter what was handed over before. -/
theorem ahead (hv : P.Recorded K xs v w) (first : List Payload) :
    (P.ahead first).Recorded K xs v w :=
  ⟨hv.rest, hv.tapes, hv.serves, hv.values, hv.calls, hv.client⟩

theorem notedAll (hK : Equivalence K) (w : Toolkit σ) {es : List Event}
    (hes : ∀ e ∈ es, e.isDull P.bridge = true) : P.Recorded K [] w (w.notedAll es) := by
  induction es generalizing w with
  | nil => exact .refl hK w
  | cons e es ih =>
    rw [Toolkit.notedAll_cons]
    exact (Recorded.noted hK w (hes e List.mem_cons_self)).trans hK
      (ih (w.noted e) fun a ha => hes a (List.mem_cons_of_mem e ha))

end Pairing.Recorded

/-- **Twins where a subscription is over**, before it is recorded what has been handed over: the one
    has been registered, and its registration is undone. -/
theorem Reached.resting_forgoing {J : σ → Prop} (hK : Equivalence K) (hw : Reached m J w)
    (observer : Observer)
    (hreg : w.screen.Registers s (binding.point n) (.forward binding w.bridges.next judge))
    (hun : s.Unregisters t (binding.point n) (w.keyOf w.bridges.next binding n judge)) :
    let source := Source.widget binding n judge
    ((w.leaving binding n judge observer).ahead []).Resting K
      ((w.admitting source observer).ending w.handles.next t) (w.forgoing source observer) := by
  intro source
  let P := (w.leaving binding n judge observer).ahead []
  have hP : P.Plain := ⟨rfl, rfl, fun _ => trivial⟩
  have hnumbered : w.Numbered := ⟨hw.past.numbered.held, hw.past.numbered.given⟩
  have hbacked : w.Backed := ⟨hw.past.backed.registered, hw.past.backed.action,
    hw.past.backed.armed, hw.past.backed.released⟩
  have hkey := w.keyOf_eq_ite w.bridges.next binding n judge
  have hscreens : P.SameScreen t w.screen :=
    .restored hP hw.sound hnumbered rfl hreg hkey rfl hun
  have hactions : ∀ k action, (w.handles.get k).action = some action →
      P.SameRelease action action :=
    fun _ _ => .of_numbered hnumbered hbacked hkey rfl
  have hbegin := Pairing.Resting.begin (m := m) hK hw.sound hP.lawful rfl rfl hscreens hactions
  exact hbegin.withHandle w.handles.next (fun _ _ _ => ⟨rfl, .none⟩) fun _ _ => rfl

namespace Client

/-- **To dispose a subscription to a widget** is to undo its registration. -/
theorem dispose_of_widget (hopen : u.disposed h = false)
    (ha : (u.handles.get h).action = some (.detach (.widget binding n judge) key)) :
    c.dispose h u = .ok () ((u.ending h (u.screen.uninstall (binding.point n) key)).notedAll
      [.disposed h, .releasing h (.detach (.widget binding n judge) key),
        .detached (.widget binding n judge) key]) := by
  have hopen : (u.handles.get h).disposed = false := hopen
  simp only [dispose, run_get_bind, run_ite, hopen, Bool.false_eq_true, if_false,
    run_changeHandle_bind, run_note_bind, ha]
  rfl

namespace Impartial

variable (hc : c.Impartial P K)
include hc

/-- **A warm stream of a widget** hands over what is shown, if nothing has happened to the bridge
    since it was opened. -/
theorem greets_widget (hne : c ≠ .stalled) (hs : w.Sound) (hb : P.bridge = w.bridges.next)
    {source : Source} (hbridges : y.bridges = (w.admitting source P.observer).bridges)
    (hopen : y.disposed w.handles.next = false) (binding : Binding) (n : Nat) (judge : Judge)
    (warm : Bool) :
    ∃ z, c.greet ⟨.widget binding n judge, warm⟩ P.bridge y = .ok () z ∧
      P.Recorded K (if warm then [y.screen.current binding n] else []) y z := by
  cases warm with
  | false => exact ⟨y, rfl, .refl hc.equivalence y⟩
  | true =>
    obtain ⟨hpos, htell⟩ := hc.tells.resolve_left hne
    obtain ⟨hfind, hget⟩ := hs.get_admitting source P.observer
    rw [← hb, ← hbridges] at hfind hget
    have hidle : y.delivering P.bridge = none ∧ y.queue P.bridge = [] := by
      rw [Toolkit.delivering, Toolkit.queue, hget]
      exact ⟨rfl, rfl⟩
    have hopen : y.closed P.bridge = false := by rwa [Toolkit.closed, hget]
    obtain ⟨taken, z, hz, hrec⟩ := hc.emits hpos htell (Option.isSome_iff_exists.mpr ⟨_, hfind⟩)
      (by rw [hget]) (fun _ => hidle) (y.screen.current binding n)
    rw [hopen] at hrec
    exact ⟨z, (bind_ok hz : _), hrec⟩

/-- **A subscription to a widget**, made by an observer that only records: a listener is registered,
    and what is shown is handed over if the stream is warm. -/
theorem subscribes (hne : c ≠ .stalled) (hs : w.Sound) (hb : P.bridge = w.bridges.next)
    (hn : w.screen.thread (binding.point n) = w.here ∨ w.threadCheck = .disabled)
    (hreg : w.screen.Registers s (binding.point n) (.forward binding P.bridge judge))
    (hinstall : w.screen.install (binding.point n) (.forward binding P.bridge judge) = (key, s)) :
    let source := Source.widget binding n judge
    ∃ u, c.subscribe (.ofBinding binding n judge) P.observer w = .ok w.handles.next u ∧
      u.screen = s ∧ u.disposed w.handles.next = false ∧
      (u.handles.get w.handles.next).action = some (.detach source key) ∧
      ∀ t, P.Recorded K (if binding.isWarm then [w.screen.current binding n] else [])
        ((w.admitting source P.observer).ending w.handles.next t) (u.ending w.handles.next t) := by
  intro source
  have hK := hc.equivalence
  let h := w.handles.next
  have hn : source.thread w.screen = w.here ∨ w.threadCheck = .disabled := hn
  obtain ⟨x, hwx, hopen, -, hrun⟩ := (hc.settles hs hb hn).resolve_left hne
  rw [show Stream.ofBinding binding n judge = ⟨source, binding.isWarm⟩ from rfl, hrun, ← hb]
  -- what the observer has recorded concerns neither the screen nor bridges
  let x₁ := x.noted (.attaching h source)
  have hopen₁ : x₁.disposed h = false := hopen
  have hinstall₁ : x₁.screen.install (binding.point n) (.forward binding P.bridge judge) =
      (key, s) := by
    rw [show x₁.screen = w.screen from hwx.screen, hinstall]
  have hkey : x.keyOf P.bridge binding n judge = key := congrArg Prod.fst hinstall₁
  -- the listener is registered, which is what the handle is to undo
  let y := x₁.registering h P.bridge binding n judge
  have henroll : c.enroll source P.bridge h x = .ok key y :=
    hkey ▸ Client.enroll_widget c hopen
  have hscreen : y.screen = s :=
    (x₁.screen_registering hopen₁).trans (congrArg Prod.snd hinstall₁)
  have hdisposed : y.disposed h = false := (x₁.disposed_registering _ _ _ _ _ _).trans hopen
  have haction : (y.handles.get h).action = some (.detach source key) :=
    hkey ▸ Toolkit.action_registering hopen₁ P.bridge binding n judge
  have hbridges : y.bridges = (w.admitting source P.observer).bridges :=
    (x₁.bridges_registering _ _ _ _ _).trans hwx.bridges
  -- what is shown is handed over
  let z := y.noted (.attached h key binding.isWarm)
  obtain ⟨z', hz', hrec⟩ :=
    hc.greets_widget (y := z) hne hs hb hbridges hdisposed binding n judge binding.isWarm
  rw [show z.screen = s from hscreen, hreg.current] at hrec
  refine ⟨z'.noted (.concluded h), ?_, ?_, ?_, ?_, fun t => ?_⟩
  · simp only [Client.settle]
    rw [bind_ok henroll, run_note_bind, bind_ok hz']
    rfl
  · exact hrec.screen.trans hscreen
  · exact (congrArg (fun handles => (handles.get h).disposed) hrec.handles).trans hdisposed
  · exact (congrArg (fun handles => (handles.get h).action) hrec.handles).trans haction
  · have hz : z.ending h t = (x.ending h t).notedAll [.attaching h source, .registered h source key,
        .armed h (.detach source key), .attached h key binding.isWarm] := by
      have hy := Toolkit.ending_registering hopen₁ P.bridge binding n judge t
      rw [show x₁.keyOf P.bridge binding n judge = key from hkey] at hy
      exact congrArg (Toolkit.noted · (.attached h key binding.isWarm)) hy
    have hxz : P.Recorded K [] (x.ending h t) (z.ending h t) := by
      rw [hz]
      exact .notedAll hK _ (by simp [Event.isDull])
    have hend : P.Recorded K [] (z'.ending h t) ((z'.noted (.concluded h)).ending h t) :=
      .noted hK (z'.ending h t) (e := .concluded h) rfl
    have hall := (((hwx.ending h t).trans hK hxz).trans hK (hrec.ending h t)).trans hK hend
    simpa using hall

/-- **A foreign observer is refused**: the screen is as it was, and there is nothing to dispose. -/
theorem refuses {J : σ → Prop} {stream : Stream} (hne : c ≠ .stalled) (hw : Reached m J w)
    (hn : stream.source.thread w.screen ≠ w.here) (ht : w.threadCheck = .enforce) :
    ∃ k u, c.subscribe stream P.observer w = .ok k u ∧ u.screen = w.screen ∧
      c.dispose k u = .ok () u := by
  let owner := stream.source.thread w.screen
  obtain ⟨-, htell⟩ := hc.tells.resolve_left hne
  obtain ⟨y, hy, hwy⟩ := htell (.subscribed w.handles.next) (w.refusing owner)
  obtain ⟨z, hz, hyz⟩ := htell (.failed (.wrongThread owner w.here)) y
  have hrefusing : (w.refusing owner).Sound := by
    have hnoted : Reached m J (w.noted (.refused owner w.here)) :=
      hw.steps (Frame.note (m := m) w rfl).steps rfl
    exact (hnoted.steps (.single (.newHandle true none)) rfl : Reached m J _).sound
  have hfresh : z.handles.find? z.handles.next = none := by
    rw [hyz.handles, hwy.handles]
    exact hrefusing.freshHandles _ (Nat.le_refl _)
  have hdisposed : ((z.addingHandle { disposed := true }).handles.get z.handles.next).disposed =
      true := by
    rw [Registry.get, Toolkit.addingHandle, Registry.find?_add hfresh, if_pos rfl]
    rfl
  refine ⟨z.handles.next, z.addingHandle { disposed := true }, ?_, ?_, ?_⟩
  · rw [Client.subscribe_of_refused hn ht, Client.refuse, bind_ok hy, bind_ok hz]
    rfl
  · exact hyz.screen.trans hwy.screen
  · simp only [Client.dispose, run_get_bind, run_ite, hdisposed, if_true]
    rfl

end Impartial

end Client

-- ════════════════════════════════════════════════════════════════════════
-- As if it had never been made
-- ════════════════════════════════════════════════════════════════════════

namespace Pairing

/-- **Two toolkits are the same but for what a subscription has left behind**: the flag of its view
    and the slot that it has emptied are left out of account, and so is the key of a registry that
    it has used up. -/
structure SameBut (P : Pairing) (S : τ → τ → Prop) (v w : Toolkit (Desk τ)) : Prop where
  here : v.here = w.here
  threadCheck : v.threadCheck = w.threadCheck
  bare : v.screen.bare = w.screen.bare
  viewsNext : v.screen.views.next = w.screen.views.next
  views : ∀ n, (v.screen.views.find? n).map (P.veiled n) = (w.screen.views.find? n).map (P.veiled n)
  slot : ∀ q, ¬ P.Hides q → (v.screen.slot q).content = (w.screen.slot q).content
  roster : ∀ q, v.screen.roster q = (w.screen.roster q).map (P.rekey q) id
  disposed : ∀ k, v.disposed k = w.disposed k
  scopes : v.scopes = w.scopes
  overrides : v.overrides = w.overrides
  /-- Other tapes have recorded the same. -/
  tapes : ∀ t, P.observer ≠ .tape t → v.tapes.find? t = w.tapes.find? t
  /-- The observer has been handed nothing but what it was handed before. -/
  values : values P.bridge v.journal = P.first ++ values P.bridge w.journal
  /-- Everybody else has been called alike. -/
  calls : calls P.bridge v.journal = calls P.bridge w.journal
  own : S v.client.own w.client.own

/-- Two answers of a call are the same, but that keys may stand for each other. -/
def SameAnswer (P : Pairing) : {α : Type} → Call α → α → α → Prop
  | _, .listen p _, a, b => a = b.map (P.rekey p)
  | _, _, a, b => a = b

theorem SameAnswer.of_answers {α : Type} (hP : P.Total) {k : Call α} {a b : α}
    (h : P.Answers k a b) : P.SameAnswer k a b := by
  cases k <;> first | exact h | exact h hP

theorem Resting.sameBut {S : τ → τ → Prop} {v w : Toolkit (Desk τ)} (hP : P.Plain)
    (hvw : P.Resting (Desk.Same S) v w) : P.SameBut S v w where
  here := hvw.here
  threadCheck := hvw.threadCheck
  bare := hvw.screen.bare
  viewsNext := hvw.screen.viewsNext
  views := hvw.screen.views
  slot q hq := by
    rw [hvw.screen.slot q hq, show P.relabel = id from funext fun l => hP.relabel_eq l,
      Option.map_id]
    rfl
  roster q := by
    rw [hvw.screen.roster q, show P.relabel = id from funext fun l => hP.relabel_eq l]
  disposed := hvw.disposed
  scopes := hvw.scopes
  overrides := hvw.overrides
  tapes := hvw.tapes.2
  values := by rw [hvw.values, hP.project, List.filterMap_some]
  calls := hvw.calls
  own := hvw.client

end Pairing

/-- **A subscription touches one point**: it leads from `w` to `u`, and its disposal from there to
    `t`. Compared is `r`, where nothing is done. -/
structure Client.TouchesOnly (c : Client (Desk τ)) (m : Manners) (S : τ → τ → Prop) (P : Pairing)
    (p : Point) (listener : Listener) (key : Option Nat) (w u t r : Toolkit (Desk τ)) : Prop where
  /-- A listener is registered at the point, and nothing else is touched on the screen. -/
  registers : w.screen.Registers u.screen p listener
  /-- The registration is undone, and nothing else is touched on the screen. -/
  unregisters : u.screen.Unregisters t.screen p key
  /-- No entry of a registry is lost, and none is left. -/
  restores : ∀ q, (t.screen.roster q).entries = (w.screen.roster q).entries
  /-- The observer is handed what is shown, if the stream is warm. -/
  values : values P.bridge t.journal = P.first
  /-- Nobody else is called. -/
  calls : calls P.bridge t.journal = calls P.bridge w.journal
  /-- An operation that does not concern the point has the same answer and the same effects as if
      the subscription had never been made. -/
  operations : ∀ {α : Type} (k : Call α), p ∉ k.points →
    UI.Agree True (P.SameAnswer k) (P.SameBut S) ((P.callFor k).make m c t) (k.make m c r)
  /-- So has any number of operations, one after the other and inside of each other. -/
  programs : ∀ {s s' : Prop} {α : Type} (program program' : Program m τ s s' α),
    program.Alike P S program' →
      UI.Agree True Eq (P.SameBut S) (program.run c t) (program'.run c r)

/-- **A subscription touches one point** if what it leaves behind is alike to what there is where
    nothing was done. -/
theorem Client.Impartial.touchesOnly {c : Client (Desk τ)} {S : τ → τ → Prop}
    {w u t r : Toolkit (Desk τ)} (hc : c.Impartial P (Desk.Same S)) (hP : P.Plain)
    (hgone : P.gone = some (p, key)) (hreg : w.screen.Registers u.screen p listener)
    (hun : u.screen.Unregisters t.screen p key) (hn : (w.screen.roster p).Numbered)
    (hkey : key = if p.site.isShared then some (w.screen.roster p).next else none)
    (hcalls : calls P.bridge t.journal = calls P.bridge w.journal)
    (hempty : values P.bridge r.journal = []) (hrest : P.Resting (Desk.Same S) t r) :
    c.TouchesOnly m S P p listener key w u t r := by
  have hlater : ∀ {q : Prop} {α β : Type} {R R' : α → β → Prop}
      {x : EStateM.Result Interrupt (Toolkit (Desk τ)) α}
      {y : EStateM.Result Interrupt (Toolkit (Desk τ)) β},
      P.Agree (Desk.Same S) R x y → (∀ a b, R a b → R' a b) → UI.Agree q R' (P.SameBut S) x y :=
    fun hxy hR => hxy.mono (fun _ => hP.total) hR fun _ _ h => h.sameBut hP
  refine ⟨hreg, hun, fun q => ?_, ?_, hcalls, fun k hk => ?_, fun program program' halike => ?_⟩
  · rw [hreg.roster_restored hun hn hkey]
    split <;> rfl
  · rw [hrest.values, hempty, List.filterMap_nil, List.append_nil]
  · have hshown : ∀ q ∈ k.points, ¬ P.Hides q := by
      intro q hq hhides
      rw [Pairing.Hides, hgone] at hhides
      obtain rfl : p = q := (Prod.mk.inj (Option.some.inj hhides)).1
      exact hk hq
    exact hlater (k.alike hc hP.lawful hshown _ _ hrest) fun _ _ => .of_answers hP.total
  · exact hlater (halike.run hc hP.lawful _ _ hrest) fun _ _ => id

namespace Code

variable {code : Code m τ} {depth : Nat} {S : τ → τ → Prop}

/-- **Bindings touch nothing but their own point**, whatever is registered anywhere. The observer
    only records. A subscription registers one listener in the slot or in the registry of its kind
    on its own widget, its disposal empties this slot or removes this entry, and then everything
    goes on as if it had never been made, apart from the flag of a clickable view and the numbers of
    keys. -/
theorem subscriptions_touch_own_point {w : Toolkit (Desk τ)} (hw : Reached m (Desk.Faithful m) w)
    (hdepth : 0 < depth) (binding : Binding) (n : Nat) (judge : Judge) (observer : Observer)
    (hview : binding.site = .click ∨ binding.site = .longClick →
      (w.screen.views.find? n).isSome)
    (hcode : code.Impartial (w.leaving binding n judge observer) S) :
    let c := code.client depth
    let stream := Stream.ofBinding binding n judge
    let p := binding.point n
    let source := Source.widget binding n judge
    (w.screen.thread p ≠ w.here → w.threadCheck = .enforce →
      ∃ h u, c.subscribe stream observer w = .ok h u ∧ u.screen = w.screen ∧
        c.dispose h u = .ok () u) ∧
    (w.screen.thread p = w.here ∨ w.threadCheck = .disabled →
      w.AgreesBut (w.forgoing source observer) (some w.handles.next) (some w.bridges.next) ∧
      ∃ u t, c.subscribe stream observer w = .ok w.handles.next u ∧
        c.dispose w.handles.next u = .ok () t ∧
        c.TouchesOnly m S (w.leaving binding n judge observer) p
          (.forward binding w.bridges.next judge) (w.keyOf w.bridges.next binding n judge)
          w u t (w.forgoing source observer)) := by
  intro c stream p source
  let P := w.leaving binding n judge observer
  let h := w.handles.next
  let listener := Listener.forward binding w.bridges.next judge
  let key := w.keyOf w.bridges.next binding n judge
  have hplain : P.Plain := ⟨rfl, rfl, fun _ => trivial⟩
  have hc : c.Impartial P (Desk.Same S) :=
    hcode.client (hplain.sameJudges hcode) hplain.lawful depth
  have hK := hc.equivalence
  have hne : c ≠ .stalled := by
    obtain ⟨depth, rfl⟩ := Nat.exists_eq_succ_of_ne_zero (Nat.ne_of_gt hdepth)
    exact fun he => absurd (congrArg Client.patience he) (Nat.succ_ne_zero depth)
  refine ⟨fun hn ht => hc.refuses hne hw hn ht,
    fun hn => ⟨hw.sound.agreesBut_forgoing source observer, ?_⟩⟩
  -- what is registered, and what is undone
  have hreg : w.screen.Registers (w.screen.install p listener).2 p listener :=
    w.screen.registers_install p listener hview
  have hinstall : w.screen.install p listener = (key, (w.screen.install p listener).2) := rfl
  obtain ⟨u, hsubscribe, hscreen, hopen, haction, hrec⟩ :=
    hc.subscribes hne hw.sound rfl hn hreg hinstall
  have hdispose := Client.dispose_of_widget (c := c) hopen haction
  let t := (u.ending h (u.screen.uninstall p key)).notedAll
    [.disposed h, .releasing h (.detach source key), .detached source key]
  have hregu : w.screen.Registers u.screen p listener := hscreen ▸ hreg
  have hun : u.screen.Unregisters t.screen p key := u.screen.unregisters_uninstall p key
  -- the one goes ahead by what it has handed over
  have hended : P.Recorded (Desk.Same S) P.first
      ((w.admitting source observer).ending h t.screen) t := by
    have hlast : P.Recorded (Desk.Same S) [] (u.ending h t.screen) t :=
      .notedAll hK _ (by simp [Event.isDull])
    have hboth := (hrec t.screen).trans hK hlast
    rw [List.append_nil] at hboth
    exact hboth
  have hempty : values w.bridges.next (w.forgoing source observer).journal = [] :=
    hw.sound.values_admitting source observer
  have hrest : P.Resting (Desk.Same S) t (w.forgoing source observer) :=
    (hw.resting_forgoing hK observer hregu hun).ahead hK (hended.ahead []) rfl hempty
  exact ⟨u, t, hsubscribe, hdispose, hc.touchesOnly hplain rfl hregu hun (hw.past.numbered.held p)
    (w.keyOf_eq_ite _ _ _ _) hended.calls hempty hrest⟩

/-- Its listeners keep a list of what they hear. Its observers do nothing. -/
def overhearing : Code ⟨false, false, true, false⟩ (List NativeEvent) where
  observe _ _ := .done ()
  judge _ _ := .done (.ok true)
  hear _ e := .look fun _ own => .keep (own ++ [e]) (.done true)
  release _ := .done (.ok ())
  attach _ _ := .done none
  detach _ _ := .done ()
  current _ := .done .unit
  absorb _ _ := .done (.ok ())

/-- One view, at which a listener of the client's hears of hovers. -/
def hoverable : Toolkit (Desk (List NativeEvent)) :=
  (Toolkit.withScreen (Toolkit.showing { client := { own := [] } }
      { views := (Registry.add {} { thread := .main }).2 })
    fun s => (s.install ⟨.hover, 1⟩ (.client 7)).2).noted (.installed ⟨.hover, 1⟩ (.client 7))

theorem impartial_overhearing : overhearing.Impartial P Eq where
  equivalence := ⟨fun _ => rfl, Eq.symm, Eq.trans⟩
  observe _ _ _ := .done _
  judge _ _ := .done _
  hear _ _ := .look fun _ _ _ _ _ h => h ▸ .keep rfl (.done true)
  release _ := .done _
  attach _ _ := .done _
  detach _ _ := .done _
  current _ := .done _
  absorb _ _ := .done _
  records _ _ _ _ := .done rfl ()

/-- The view stays clickable, and its other listener hears of hovers as before. -/
theorem subscriptions_touch_own_point_clicks :
    let m : Manners := ⟨false, false, true, false⟩
    let c := overhearing.client 5
    ∃ u t, c.subscribe (.ofBinding .clicks 1 .always) (.client 0) hoverable = .ok 1 u ∧
      c.dispose 1 u = .ok () t ∧
      c.TouchesOnly m Eq (hoverable.leaving .clicks 1 .always (.client 0)) ⟨.click, 1⟩
        (.forward .clicks 1 .always) none hoverable u t
        (hoverable.forgoing (.widget .clicks 1 .always) (.client 0)) ∧
      (t.screen.flags 1).clickable = true ∧
      ∃ v, (Call.hover 1 ⟨.move, default, default⟩).make m c t = .ok true v ∧
        v.client.own = [.moved 1 ⟨.move, default, default⟩] := by
  intro m c
  have hreached : Reached m (Desk.Faithful m) hoverable := by
    refine Reached.steps ((reached_start []).showing
      (t := { views := (Registry.add {} { thread := .main }).2 }) rfl rfl
      (.of_shown (fun v => ?_) (fun _ => rfl) (fun _ => rfl) (fun _ => rfl) fun _ => rfl)).1
      (.single (.listen rfl)) rfl
    simp only [Screen.flags, Screen.view, Registry.get, Registry.find?_add_eq]
    split <;> rfl
  obtain ⟨-, hboth⟩ := subscriptions_touch_own_point hreached (Nat.succ_pos 4) .clicks 1 .always
    (.client 0) (fun _ => rfl) impartial_overhearing
  obtain ⟨-, u, t, hu, ht, htouches⟩ := hboth (.inl rfl)
  refine ⟨u, t, hu, ht, htouches, ?_⟩
  cases hu
  cases ht
  exact ⟨rfl, _, rfl, rfl⟩

end Code

end WidgetStreams
