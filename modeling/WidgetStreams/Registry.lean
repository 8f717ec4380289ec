import WidgetStreams.Dict

/-!
# Numbered registrations

This file defines `Registry`, the container in which things are registered
under numbers that are never used twice. Listener lists are registries, and so
are the tables in which the toolkit keeps its own objects.

## Main definitions

- `Registry` — the entries in registration order and the next number
- `Registry.add` — register under a fresh number
- `Registry.remove` — take one entry out
- `Registry.snapshot` — the registered things, in registration order
-/

namespace WidgetStreams

/-- A **registry**: entries under numbers, in registration order. -/
structure Registry (α : Type) where
  /-- The number of the next registration. -/
  next : Nat := 1
  /-- The entries that were not removed. -/
  entries : Dict Nat α := {}
  deriving Repr, DecidableEq

namespace Registry

variable {α : Type}

instance : Inhabited (Registry α) := ⟨{}⟩

/-- Register `a` behind all others; the result is its number. -/
def add (r : Registry α) (a : α) : Nat × Registry α :=
  (r.next, { next := r.next + 1, entries := ⟨r.entries.pairs ++ [(r.next, a)]⟩ })

/-- The entry under `key`, if there is one. -/
def find? (r : Registry α) (key : Nat) : Option α := r.entries.find? key

/-- The entry under `key`, or the default one. -/
def get [Inhabited α] (r : Registry α) (key : Nat) : α := (r.find? key).getD default

/-- Put `a` in the place of the entry under `key`. -/
def put (r : Registry α) (key : Nat) (a : α) : Registry α :=
  { r with entries := r.entries.insert key a }

/-- Change the entry under `key` by `f`. -/
def modify [Inhabited α] (r : Registry α) (key : Nat) (f : α → α) : Registry α :=
  r.put key (f (r.get key))

/-- Take the entry under `key` out; the first component is what was there. -/
def remove (r : Registry α) (key : Nat) : Option α × Registry α :=
  (r.find? key, { r with entries := r.entries.erase key })

/-- The registered things, in registration order. -/
def snapshot (r : Registry α) : List α := r.entries.values

/-- How many things are registered. -/
def size (r : Registry α) : Nat := r.entries.size

/-- The registry with every number changed by `g` and every entry by `f`. -/
def map {β : Type} (g : Nat → Nat) (f : α → β) (r : Registry α) : Registry β :=
  ⟨g r.next, r.entries.map g f⟩

@[simp] theorem find?_put (r : Registry α) (k j : Nat) (a : α) :
    (r.put k a).find? j = if k = j then some a else r.find? j :=
  Dict.find?_insert r.entries k j a

@[simp] theorem get_put [Inhabited α] (r : Registry α) (k j : Nat) (a : α) :
    (r.put k a).get j = if k = j then a else r.get j := by
  by_cases h : k = j <;> simp [get, h]

@[simp] theorem get_modify [Inhabited α] (r : Registry α) (k j : Nat) (f : α → α) :
    (r.modify k f).get j = if k = j then f (r.get j) else r.get j := by
  by_cases h : k = j <;> simp [modify, h]

@[simp] theorem find?_modify [Inhabited α] (r : Registry α) (k j : Nat) (f : α → α) :
    (r.modify k f).find? j = if k = j then some (f (r.get k)) else r.find? j :=
  find?_put r k j (f (r.get k))

@[simp] theorem find?_remove (r : Registry α) (k j : Nat) :
    (r.remove k).2.find? j = if k = j then none else r.find? j :=
  Dict.find?_erase r.entries k j

@[simp] theorem next_remove (r : Registry α) (k : Nat) : (r.remove k).2.next = r.next := rfl

/-- What is registered last stands last. -/
@[simp] theorem snapshot_add (r : Registry α) (a : α) :
    (r.add a).2.snapshot = r.snapshot ++ [a] := by
  simp [add, snapshot, Dict.values]

/-- What is under a number after a registration is what was there, or else the new entry. -/
theorem find?_add_eq (r : Registry α) (a : α) (k : Nat) :
    (r.add a).2.find? k = (r.find? k).or (if r.next = k then some a else none) :=
  Dict.lookup_append k r.entries.pairs [(r.next, a)]

/-- **Reading after a registration**: the new number has the new entry, every other one its old
    one. -/
theorem find?_add {r : Registry α} (h : r.find? r.next = none) (a : α) (k : Nat) :
    (r.add a).2.find? k = if r.next = k then some a else r.find? k := by
  rw [find?_add_eq]
  split
  · next he => subst he; rw [h]; rfl
  · exact Option.or_none

/-- A number that is in use keeps its entry. -/
theorem find?_add_of_isSome {r : Registry α} {k : Nat} (h : (r.find? k).isSome) (a : α) :
    (r.add a).2.find? k = r.find? k := by
  obtain ⟨x, hx⟩ := Option.isSome_iff_exists.mp h
  rw [find?_add_eq, hx, Option.some_or]

/-- An entry after a registration is the new one, or it was there. -/
theorem get_add_or [Inhabited α] (r : Registry α) (a : α) (k : Nat) :
    (r.add a).2.get k = r.get k ∨ (r.add a).2.get k = a := by
  rw [get, get, find?_add_eq]
  cases r.find? k with
  | some x => exact .inl rfl
  | none =>
    split
    · exact .inr rfl
    · exact .inl rfl

/-- Of two changes of an entry that overwrite it, the later one counts. -/
theorem put_put (r : Registry α) (k : Nat) (a b : α) : (r.put k a).put k b = r.put k b :=
  congrArg (Registry.mk r.next) (Dict.insert_insert r.entries k a b)

/-- Putting an entry in its own place changes nothing. -/
theorem put_of_find? {r : Registry α} {k : Nat} {a : α} (h : r.find? k = some a) :
    r.put k a = r :=
  congrArg (Registry.mk r.next) (Dict.insert_of_find? h)

section Map

variable {β : Type} {g : Nat → Nat} (f : α → β)

@[simp] theorem snapshot_map (r : Registry α) : (r.map g f).snapshot = r.snapshot.map f :=
  Dict.values_map f r.entries

/-- Functions that leave the numbers and entries of a registry alone leave the registry alone. -/
theorem map_eq_self {f : α → α} {r : Registry α} (hnext : g r.next = r.next)
    (h : ∀ x ∈ r.entries.pairs, g x.1 = x.1 ∧ f x.2 = x.2) : r.map g f = r := by
  rw [map, hnext, Dict.map_eq_self h]

theorem add_map {r : Registry α} (hg : g (r.next + 1) = g r.next + 1) (a : α) :
    (r.map g f).add (f a) = (g (r.add a).1, (r.add a).2.map g f) := by
  simp [add, map, Dict.map, hg]

theorem remove_map (hg : Function.Injective g) (r : Registry α) (k : Nat) :
    (r.map g f).remove (g k) = ((r.remove k).1.map f, (r.remove k).2.map g f) := by
  simp only [remove, map, find?, Dict.find?_map f hg, Dict.erase_map f hg]

end Map

/-- What is left in a registry was in it. -/
theorem mem_of_mem_snapshot_remove {r : Registry α} {k : Nat} {a : α}
    (h : a ∈ (r.remove k).2.snapshot) : a ∈ r.snapshot :=
  Dict.mem_of_mem_values_erase h

/-- Entries under other numbers stay. -/
theorem mem_pairs_remove {r : Registry α} {k i : Nat} {a : α} (h : (i, a) ∈ r.entries.pairs)
    (hne : i ≠ k) : (i, a) ∈ (r.remove k).2.entries.pairs := by
  change (i, a) ∈ Dict.unbind k r.entries.pairs
  rw [Dict.unbind_eq_filter]
  exact List.mem_filter.mpr ⟨h, decide_eq_true hne⟩

/-- **A key that is in use once** takes out its own entry, and leaves the others in their order. -/
theorem remove_of_split {r : Registry α} {before after : List (Nat × α)} {x : Nat × α}
    (h : r.entries.pairs = before ++ x :: after) (hbefore : x.1 ∉ before.map Prod.fst)
    (hafter : x.1 ∉ after.map Prod.fst) :
    r.remove x.1 = (some x.2, { r with entries := ⟨before ++ after⟩ }) := by
  have hfind : r.find? x.1 = some x.2 := by
    rw [find?, Dict.find?, h, Dict.lookup_append, Dict.lookup_of_notMem hbefore, Option.none_or,
      Dict.lookup, if_pos rfl]
  have herase : r.entries.erase x.1 = ⟨before ++ after⟩ := by
    rw [Dict.erase, h, Dict.unbind_eq_filter, List.filter_append, List.filter_cons_of_neg (by simp),
      ← Dict.unbind_eq_filter, ← Dict.unbind_eq_filter, Dict.unbind_of_notMem hbefore,
      Dict.unbind_of_notMem hafter]
  rw [remove, hfind, herase]

/-- A key that is not in use takes out nothing. -/
theorem remove_of_notMem {r : Registry α} {k : Nat} (h : k ∉ r.entries.keys) :
    r.remove k = (none, r) := by
  have hfind : r.find? k = none := Dict.lookup_of_notMem h
  have herase : r.entries.erase k = r.entries := congrArg Dict.mk (Dict.unbind_of_notMem h)
  rw [remove, hfind, herase]

/-- The next number is past the one that was given out. -/
@[simp] theorem next_add (r : Registry α) (a : α) : (r.add a).2.next = (r.add a).1 + 1 := rfl

end Registry

end WidgetStreams
