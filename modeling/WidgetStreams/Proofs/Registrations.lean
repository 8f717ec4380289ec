import WidgetStreams.Proofs.Keys

/-!
# Registrations in the course of a run

This file follows a registry from the beginning through any number of
registrations and removals, and proves that it agrees with what was done: each
registration has a key of its own, the key takes out what was registered under it,
once, and what is left stands in the order in which it was registered.

## Main definitions

- `Registry.Use` — a registration with the key that was given out, or a removal with its answer
- `Registry.Used` — a registry after some uses
- `Registry.standing` — what was registered and not removed
- `Registry.Agrees` — a registry holds what stands, and its next key is a new one

## Main results

- `Registry.Used.agrees` — a registry agrees with its uses, whatever they are
- `Registry.Used.answers` — a key answers what was registered under it, and only once
- `Registry.Used.keys_serve_once` — keys, entries, answers and views after any run
- `Steps.used` — every registry of listeners has come about by such uses
-/

namespace WidgetStreams

namespace Registry

variable {α : Type}

-- ════════════════════════════════════════════════════════════════════════
-- Uses
-- ════════════════════════════════════════════════════════════════════════

/-- **A use of a registry**, with what the registry answered. -/
inductive Use (α : Type)
  /-- Something was registered, and the key was given out for it. -/
  | added (key : Nat) (a : α)
  /-- The key was brought back, and this was under it. -/
  | removed (key : Nat) (found : Option α)
  deriving Repr, DecidableEq

/-- What a use registers, under its key. -/
def Use.added? : Use α → Option (Nat × α)
  | .added key a => some (key, a)
  | .removed .. => none

/-- The key that a use brings back. -/
def Use.removed? : Use α → Option Nat
  | .added .. => none
  | .removed key _ => some key

/-- What was registered, under its keys, in order of registration. -/
def added (uses : List (Use α)) : List (Nat × α) := uses.filterMap Use.added?

/-- The keys that were given out, in this order. -/
def issued (uses : List (Use α)) : List Nat := (added uses).map Prod.fst

/-- The keys that were brought back. -/
def removed (uses : List (Use α)) : List Nat := uses.filterMap Use.removed?

/-- **What stands** after some uses: what was registered and not removed, in order of
    registration. -/
def standing (uses : List (Use α)) : List (Nat × α) :=
  (added uses).filter fun x => x.1 ∉ removed uses

/-- **A registry after some uses**, from the beginning. The keys that are brought back are those
    that it gave out; a removal by another number is no use. -/
inductive Used : List (Use α) → Registry α → Prop
  | new : Used [] {}
  | add {uses : List (Use α)} {r : Registry α} (h : Used uses r) (a : α) :
      Used (uses ++ [.added (r.add a).1 a]) (r.add a).2
  | remove {uses : List (Use α)} {r : Registry α} {k : Nat} (h : Used uses r)
      (hk : k ∈ issued uses) : Used (uses ++ [.removed k (r.remove k).1]) (r.remove k).2
  | miss {uses : List (Use α)} {r : Registry α} {k : Nat} (h : Used uses r)
      (hk : k ∉ issued uses) : Used uses (r.remove k).2

section Snoc

variable (uses : List (Use α)) (k : Nat)

@[simp] theorem added_snoc_added (a : α) :
    added (uses ++ [.added k a]) = added uses ++ [(k, a)] := by
  simp [added, Use.added?]

@[simp] theorem added_snoc_removed (found : Option α) :
    added (uses ++ [.removed k found]) = added uses := by
  simp [added, Use.added?]

@[simp] theorem issued_snoc_added (a : α) :
    issued (uses ++ [.added k a]) = issued uses ++ [k] := by
  simp [issued]

@[simp] theorem issued_snoc_removed (found : Option α) :
    issued (uses ++ [.removed k found]) = issued uses := by
  simp [issued]

@[simp] theorem removed_snoc_added (a : α) : removed (uses ++ [.added k a]) = removed uses := by
  simp [removed, Use.removed?]

@[simp] theorem removed_snoc_removed (found : Option α) :
    removed (uses ++ [.removed k found]) = removed uses ++ [k] := by
  simp [removed, Use.removed?]

/-- What stands after a removal is what stood before, without the key. -/
theorem standing_snoc_removed (found : Option α) :
    standing (uses ++ [.removed k found]) = Dict.unbind k (standing uses) := by
  rw [standing, standing, Dict.unbind_eq_filter, List.filter_filter, added_snoc_removed,
    removed_snoc_removed]
  apply List.filter_congr
  intro x _
  simp [and_comm]

/-- What is registered under a new key stands last. -/
theorem standing_snoc_added (h : k ∉ removed uses) (a : α) :
    standing (uses ++ [.added k a]) = standing uses ++ [(k, a)] := by
  rw [standing, standing, added_snoc_added, removed_snoc_added, List.filter_append]
  simp [h]

end Snoc

-- ════════════════════════════════════════════════════════════════════════
-- Agreement
-- ════════════════════════════════════════════════════════════════════════

/-- **A registry agrees with its uses**: the keys given out are the numbers before the next one,
    only such keys were brought back, and the entries are what stands. -/
structure Agrees (uses : List (Use α)) (r : Registry α) : Prop where
  next : r.next = (added uses).length + 1
  counted : issued uses = List.range' 1 (added uses).length
  known : ∀ k ∈ removed uses, k ∈ issued uses
  stands : r.entries.pairs = standing uses

namespace Agrees

variable {uses : List (Use α)} {r : Registry α} {k : Nat}

theorem new : Agrees ([] : List (Use α)) {} where
  next := rfl
  counted := rfl
  known := nofun
  stands := rfl

/-- A key was given out if and only if it comes before the next one. -/
theorem mem_issued (h : Agrees uses r) : k ∈ issued uses ↔ 1 ≤ k ∧ k < r.next := by
  rw [h.counted, h.next, List.mem_range'_1, Nat.add_comm 1]

/-- **Keys are given out in increasing order.** -/
theorem increasing (h : Agrees uses r) : (issued uses).Pairwise (· < ·) := by
  rw [h.counted]
  exact List.pairwise_lt_range'

/-- The keys in use are some of those that were given out, in their order. -/
theorem keys_sublist (h : Agrees uses r) : r.entries.keys.Sublist (issued uses) := by
  rw [Dict.keys, h.stands]
  exact List.filter_sublist.map Prod.fst

theorem keys_increasing (h : Agrees uses r) : r.entries.keys.Pairwise (· < ·) :=
  h.increasing.sublist h.keys_sublist

/-- A registration agrees, as its key is a new one. -/
theorem add (h : Agrees uses r) (a : α) :
    Agrees (uses ++ [.added (r.add a).1 a]) (r.add a).2 := by
  have hnew : r.next ∉ removed uses := by
    intro hk
    have hlt := (h.mem_issued.mp (h.known _ hk)).2
    omega
  constructor
  · rw [next_add, added_snoc_added, List.length_append, List.length_singleton]
    show r.next + 1 = _
    rw [h.next]
  · rw [issued_snoc_added, added_snoc_added, List.length_append, List.length_singleton,
      List.range'_concat, h.counted]
    show _ ++ [r.next] = _
    rw [h.next, Nat.one_mul, Nat.add_comm]
  · intro k hk
    rw [removed_snoc_added] at hk
    rw [issued_snoc_added]
    exact List.mem_append_left _ (h.known k hk)
  · calc r.entries.pairs ++ [(r.next, a)]
      _ = standing uses ++ [(r.next, a)] := by rw [h.stands]
      _ = standing (uses ++ [.added r.next a]) := (standing_snoc_added uses r.next hnew a).symm

/-- A removal agrees. -/
theorem remove (h : Agrees uses r) (hk : k ∈ issued uses) :
    Agrees (uses ++ [.removed k (r.remove k).1]) (r.remove k).2 := by
  constructor
  · rw [next_remove, added_snoc_removed, h.next]
  · rw [issued_snoc_removed, added_snoc_removed, h.counted]
  · intro j hj
    rw [removed_snoc_removed, List.mem_append, List.mem_singleton] at hj
    rw [issued_snoc_removed]
    obtain hj | rfl := hj
    · exact h.known j hj
    · exact hk
  · rw [standing_snoc_removed, ← h.stands]
    rfl

/-- **A key takes out what was registered under it**, if it was not brought back before. -/
theorem remove_first (h : Agrees uses r) {x : Nat × α} (hx : x ∈ added uses)
    (hk : x.1 ∉ removed uses) :
    ∃ before after, r.entries.pairs = before ++ x :: after ∧
      r.remove x.1 = (some x.2, { r with entries := ⟨before ++ after⟩ }) := by
  have hstands : x ∈ r.entries.pairs := by
    rw [h.stands]
    exact List.mem_filter.mpr ⟨hx, decide_eq_true hk⟩
  obtain ⟨before, after, hsplit⟩ := List.append_of_mem hstands
  have hkeys : ((before ++ x :: after).map Prod.fst).Nodup := hsplit ▸ h.keys_increasing.nodup
  rw [List.map_append, List.map_cons, List.nodup_middle, List.nodup_cons, List.mem_append,
    not_or] at hkeys
  exact ⟨before, after, hsplit, remove_of_split hsplit hkeys.1.1 hkeys.1.2⟩

/-- **A key that was brought back** takes out nothing any more, and neither does one that was never
    given out. -/
theorem remove_again (h : Agrees uses r)
    (hk : k ∈ removed uses ∨ k ∉ issued uses) : r.remove k = (none, r) := by
  apply remove_of_notMem
  intro hmem
  obtain ⟨x, hx, rfl⟩ := List.mem_map.mp hmem
  rw [h.stands] at hx
  obtain ⟨hadded, hnot⟩ := List.mem_filter.mp hx
  obtain hk | hk := hk
  · exact of_decide_eq_true hnot hk
  · exact hk (List.mem_map_of_mem hadded)

end Agrees

-- ════════════════════════════════════════════════════════════════════════
-- All runs
-- ════════════════════════════════════════════════════════════════════════

namespace Used

variable {uses : List (Use α)} {r s : Registry α}

/-- **A registry agrees with its uses.** The induction is on the run. -/
theorem agrees (h : Used uses r) : Agrees uses r := by
  induction h with
  | new => exact .new
  | add h a ih => exact ih.add a
  | remove h hk ih => exact ih.remove hk
  | miss h hk ih =>
    rw [ih.remove_again (.inr hk)]
    exact ih

/-- **What a key answered** when it was brought back: what was registered under it, the first time,
    and nothing ever after. -/
theorem answers (h : Used uses r) {earlier : List (Use α)} {k : Nat} {found : Option α}
    (hk : earlier ++ [.removed k found] <+: uses) :
    (k ∉ removed earlier → ∃ a, (k, a) ∈ added earlier ∧ found = some a) ∧
      (k ∈ removed earlier → found = none) := by
  induction h with
  | new => simp at hk
  | miss h _ ih => exact ih hk
  | add h a ih =>
    obtain heq | hk := List.prefix_concat_iff.mp hk
    · cases (List.append_inj' heq rfl).2
    · exact ih hk
  | @remove uses r j h hissued ih =>
    obtain heq | hk := List.prefix_concat_iff.mp hk
    · -- it is the removal of just now
      obtain ⟨rfl, hlast⟩ := List.append_inj' heq rfl
      cases hlast
      constructor
      · intro hfirst
        obtain ⟨x, hx, rfl⟩ := List.mem_map.mp hissued
        obtain ⟨_, _, -, hremove⟩ := h.agrees.remove_first hx hfirst
        exact ⟨x.2, hx, by rw [hremove]⟩
      · intro hagain
        rw [h.agrees.remove_again (.inl hagain)]
    · exact ih hk

/-- **Every key serves once**, in a run with fewer registrations than there are keys of 64 bits.
    Keys are given out in increasing order and none of them twice. The entries stand in order of
    registration under different keys that come before the next one; they are what was registered
    and not removed, and the snapshot and the size are theirs. A key has answered, and will answer,
    what was registered under it the first time that it is brought back, and nothing ever after; the
    other entries stay, in their order. -/
theorem keys_serve_once (h : Used uses r) (hroom : (added uses).length < UInt64.size - 1) :
    -- the keys
    ((issued uses).Pairwise (· < ·) ∧ (∀ k ∈ issued uses, k < r.next) ∧ r.next < UInt64.size) ∧
    -- the entries
    (r.entries.pairs = standing uses ∧ r.entries.keys.Pairwise (· < ·) ∧
      ∀ k ∈ r.entries.keys, k < r.next) ∧
    -- the answers so far
    (∀ earlier k found, earlier ++ [.removed k found] <+: uses →
      (k ∉ removed earlier → ∃ a, (k, a) ∈ added earlier ∧ found = some a) ∧
      (k ∈ removed earlier → found = none)) ∧
    -- the next removal
    (∀ x ∈ added uses, x.1 ∉ removed uses → ∃ before after,
      r.entries.pairs = before ++ x :: after ∧
      r.remove x.1 = (some x.2, { r with entries := ⟨before ++ after⟩ })) ∧
    (∀ k, k ∈ removed uses ∨ k ∉ issued uses → r.remove k = (none, r)) ∧
    -- the views
    r.snapshot = (standing uses).map Prod.snd ∧ r.size = (standing uses).length := by
  have hagrees := h.agrees
  have hbelow : ∀ k ∈ issued uses, k < r.next := fun k hk => (hagrees.mem_issued.mp hk).2
  refine ⟨⟨hagrees.increasing, hbelow, ?_⟩, ⟨hagrees.stands, hagrees.keys_increasing, ?_⟩, ?_, ?_,
    ?_, ?_, ?_⟩
  · have hnext := hagrees.next
    omega
  · intro k hk
    exact hbelow k (hagrees.keys_sublist.subset hk)
  · intro earlier k found hk
    exact h.answers hk
  · intro x hx hfirst
    exact hagrees.remove_first hx hfirst
  · intro k hk
    exact hagrees.remove_again hk
  · rw [snapshot, Dict.values, hagrees.stands]
  · rw [size, Dict.size, hagrees.stands]

/-- Of three things the second is taken out, and its key is brought back once more. Then it is
    registered anew, under another key. -/
theorem keys_serve_once_anew :
    ∃ (uses : List (Use String)) (r : Registry String), Used uses r ∧
      uses = [.added 1 "a", .added 2 "b", .added 3 "c", .removed 2 (some "b"), .removed 2 none,
        .added 4 "b"] ∧
      (added uses).length < UInt64.size - 1 ∧ issued uses = [1, 2, 3, 4] ∧
      r.snapshot = ["a", "c", "b"] ∧ r.size = 3 ∧ r.remove 2 = (none, r) ∧
      (r.remove 4).1 = some "b" ∧ (r.remove 4).2.snapshot = ["a", "c"] := by
  have hadded : Used [.added 1 "a", .added 2 "b", .added 3 "c"] _ :=
    ((new.add "a").add "b").add "c"
  have hremoved : Used [.added 1 "a", .added 2 "b", .added 3 "c", .removed 2 (some "b"),
      .removed 2 none] _ :=
    (hadded.remove (k := 2) (by decide)).remove (k := 2) (by decide)
  have hused : Used [.added 1 "a", .added 2 "b", .added 3 "c", .removed 2 (some "b"),
      .removed 2 none, .added 4 "b"] _ := hremoved.add "b"
  obtain ⟨-, -, -, hfirst, hagain, hsnapshot, hsize⟩ := keys_serve_once hused (by decide)
  obtain ⟨_, _, -, hremove⟩ := hfirst (4, "b") (by decide) (by decide)
  exact ⟨_, _, hused, rfl, by decide, rfl, hsnapshot, hsize, hagain 2 (by decide),
    congrArg Prod.fst hremove, rfl⟩

/-- One registration or removal more, or none, is a use more at most. -/
theorem of_becomes (h : Used uses r) (hs : r.Becomes s) : ∃ more, Used (uses ++ more) s := by
  cases hs with
  | same => exact ⟨[], by rwa [List.append_nil]⟩
  | add a => exact ⟨_, h.add a⟩
  | remove k =>
    by_cases hk : k ∈ issued uses
    · exact ⟨_, h.remove hk⟩
    · refine ⟨[], ?_⟩
      rw [List.append_nil]
      exact h.miss hk

end Used

end Registry

/-- **Every registry of listeners has come about by uses**, wherever steps lead, so that it agrees
    with them and its keys serve once. -/
theorem Steps.used {m : Manners} {w : Toolkit Unit} (h : Steps m Toolkit.fresh w) (p : Point) :
    ∃ uses, Registry.Used uses (w.screen.roster p) := by
  induction h with
  | refl => exact ⟨[], .new⟩
  | tail _ hstep ih =>
    obtain ⟨uses, hused⟩ := ih
    obtain ⟨more, hmore⟩ := hused.of_becomes (hstep.becomes p)
    exact ⟨uses ++ more, hmore⟩

end WidgetStreams
