import WidgetStreams.Proofs.Rosters

/-!
# Keys that are given out

This file proves that a registry never gives out a key twice, whatever was
registered there and removed again: the keys that it holds come before the next
one, and so do those under which subscriptions were registered. Therefore what was
registered last can be taken out again, and nothing is left of it but a key.

## Main definitions

- `Registry.Numbered`, `Toolkit.Numbered` — the keys given out come before the next one
- `Registry.Becomes` — one registration, one removal, or none

## Main results

- `Registry.Numbered.remove_add` — what was registered last is taken out
- `Step.becomes` — a step leads to at most one registration or removal
- `Step.numbered`, `Steps.numbered` — every step keeps the keys in order
-/

namespace WidgetStreams

open History

namespace Registry

variable {α : Type} {r s : Registry α}

/-- **The keys of a registry come before the next one.** -/
def Numbered (r : Registry α) : Prop := ∀ x ∈ r.entries.pairs, x.1 < r.next

/-- **A registry becomes another one**: something is registered there, or removed, or neither. -/
inductive Becomes (r : Registry α) : Registry α → Prop
  | same : Becomes r r
  | add (a : α) : Becomes r (r.add a).2
  | remove (key : Nat) : Becomes r (r.remove key).2

namespace Numbered

theorem add (h : r.Numbered) (a : α) : (r.add a).2.Numbered := by
  rintro x hx
  obtain hx | hx := List.mem_append.mp hx
  · exact Nat.lt_succ_of_lt (h x hx)
  · rw [List.mem_singleton.mp hx]
    exact Nat.lt_succ_self _

theorem remove (h : r.Numbered) (key : Nat) : (r.remove key).2.Numbered :=
  fun x hx => h x ((Dict.unbind_sublist key _).subset hx)

/-- **What was registered last is taken out**: the entries are those that there were, and the next
    key is another one. -/
theorem remove_add (h : r.Numbered) (a : α) :
    ((r.add a).2.remove r.next).2 = { r with next := r.next + 1 } := by
  have hsplit : (r.add a).2.entries.pairs = r.entries.pairs ++ (r.next, a) :: [] := rfl
  have hnew : r.next ∉ r.entries.pairs.map Prod.fst := by
    intro hmem
    obtain ⟨x, hx, heq⟩ := List.mem_map.mp hmem
    exact Nat.lt_irrefl _ (heq ▸ h x hx)
  rw [remove_of_split hsplit hnew List.not_mem_nil, List.append_nil]
  rfl

theorem of_becomes (h : r.Numbered) (hs : r.Becomes s) : s.Numbered := by
  cases hs with
  | same => exact h
  | add a => exact h.add a
  | remove key => exact h.remove key

end Numbered

theorem Becomes.next_le (h : r.Becomes s) : r.next ≤ s.next := by
  cases h with
  | add => exact Nat.le_succ _
  | _ => exact Nat.le_refl _

end Registry

namespace Screen

variable {s : Screen} {p q : Point} {listener : Listener}

theorem becomes_install : (s.roster p).Becomes ((s.install q listener).2.roster p) := by
  rw [install]
  split
  · rw [roster_addListener]
    split
    · next hqp => exact hqp ▸ .add _
    · exact .same
  · rw [roster_congr (rosters_setListener s q listener)]
    exact .same

theorem becomes_uninstall (key : Option Nat) :
    (s.roster p).Becomes ((s.uninstall q key).roster p) := by
  cases key with
  | none =>
    rw [uninstall, roster_congr (rosters_clearListener s q)]
    exact .same
  | some key =>
    rw [uninstall, roster_removeListener]
    split
    · next hqp => exact hqp ▸ .remove key
    · exact .same

/-- Undoing a registration is at most one removal. -/
theorem becomes_undone (action : Release) : (s.roster p).Becomes ((action.undone s).roster p) := by
  cases action with
  | client => exact .same
  | detach source key =>
    cases source with
    | client => exact .same
    | widget => exact becomes_uninstall key

end Screen

variable {σ : Type} {m : Manners} {v w : Toolkit σ} {h : HandleId} {b : BridgeId}
  {binding : Binding} {n key : Nat} {judge : Judge}

/-- **The keys of all registries are in order**: those in use, and those under which subscriptions
    were registered, come before the next one. -/
structure Toolkit.Numbered (w : Toolkit σ) : Prop where
  held : ∀ p, (w.screen.roster p).Numbered
  given : ∀ {h binding n judge key},
    Occurred (.registered h (.widget binding n judge) (some key)) w.journal →
      key < (w.screen.roster (binding.point n)).next

namespace Toolkit.Numbered

/-- At most one registration or removal, and none of a subscription. -/
theorem of_becomes (hv : v.Numbered) (es : List Event)
    (journal : w.journal = (v.notedAll es).journal)
    (roster : ∀ p, (v.screen.roster p).Becomes (w.screen.roster p))
    (hes : ∀ h binding n judge key, .registered h (.widget binding n judge) (some key) ∉ es) :
    w.Numbered where
  held p := (hv.held p).of_becomes (roster p)
  given ho := by
    rw [journal, occurred_notedAll] at ho
    exact Nat.lt_of_lt_of_le (hv.given (ho.resolve_left (hes _ _ _ _ _))) (roster _).next_le

/-- **A subscription is registered** under a key that comes before the next one. -/
theorem registering (hv : v.Numbered) (hd : v.disposed h = false) (warm : Bool) :
    ((v.registering h b binding n judge).noted
      (.attached h (v.keyOf b binding n judge) warm)).Numbered := by
  have hscreen : ((v.registering h b binding n judge).noted
      (.attached h (v.keyOf b binding n judge) warm)).screen =
        (v.screen.install (binding.point n) (.forward binding b judge)).2 :=
    v.screen_registering hd
  have hbecomes : ∀ p, (v.screen.roster p).Becomes
      ((v.screen.install (binding.point n) (.forward binding b judge)).2.roster p) :=
    fun _ => Screen.becomes_install
  refine ⟨fun p => hscreen ▸ (hv.held p).of_becomes (hbecomes p),
    fun {k binding' n' judge' key} ho => ?_⟩
  rw [hscreen]
  rw [journal_noted_registering hd, occurred_notedAll] at ho
  simp only [List.mem_cons, List.not_mem_nil, or_false, Event.registered.injEq, reduceCtorEq,
    or_false] at ho
  obtain ⟨-, hsource, hkey⟩ | ho := ho
  · -- the key that was given out just now
    cases hsource
    rw [keyOf, Screen.install] at hkey
    split at hkey
    · next hp =>
      obtain rfl := Option.some.inj hkey
      rw [Screen.roster_install hp, if_pos rfl]
      exact Nat.lt_succ_self _
    · cases hkey
  · exact Nat.lt_of_lt_of_le (hv.given ho) (hbecomes _).next_le

theorem starting (hv : v.Numbered) (b : BridgeId) (signal : Signal) :
    (v.starting b signal).Numbered :=
  hv.of_becomes _ (journal_starting v b signal) (fun _ => .same) (by simp)

end Toolkit.Numbered

/-- **A step leads to at most one registration or removal** in a registry of listeners. -/
theorem Step.becomes (h : Step m v w) (p : Point) :
    (v.screen.roster p).Becomes (w.screen.roster p) := by
  have hregistering : ∀ {l b binding n judge}, v.disposed l = false →
      (v.screen.roster p).Becomes ((v.registering l b binding n judge).screen.roster p) := by
    intro l b binding n judge hd
    rw [v.screen_registering hd]
    exact Screen.becomes_install
  cases h.enlists with
  | quiet _ _ _ hrosters =>
    rw [Screen.roster_congr hrosters]
    exact .same
  | disposed =>
    rw [Toolkit.screen_disposing]
    split
    · exact .same
    · exact Screen.becomes_undone _
  | registered warm ho hd => exact hregistering hd
  | started ho hd => exact hregistering hd
  | listened => exact Screen.becomes_install
  | @removed q key => exact Screen.becomes_uninstall (some key)

/-- **Every step keeps the keys in order.** -/
theorem Step.numbered (hv : v.Numbered) (h : Step m v w) : w.Numbered := by
  have hbecomes := h.becomes
  cases h.enlists with
  | quiet es hj hes =>
    refine hv.of_becomes es hj hbecomes fun _ _ _ _ _ hmem => ?_
    cases hes _ hmem
  | @disposed l =>
    refine hv.of_becomes _ (Toolkit.journal_disposing v l) hbecomes ?_
    cases (v.handles.get l).action <;> simp
  | registered warm ho hd => exact hv.registering hd warm
  | started ho hd => exact (hv.registering hd true).starting _ _
  | listened | removed => exact hv.of_becomes [_] rfl hbecomes (by simp)

/-- The keys are in order wherever steps lead. -/
theorem Steps.numbered {w : Toolkit Unit} (h : Steps m Toolkit.fresh w) : w.Numbered := by
  refine h.invariant ⟨fun _ _ hx => ?_, fun ho => absurd ho (not_occurred_nil _)⟩
    fun _ ih h => h.numbered ih
  cases hx

end WidgetStreams
