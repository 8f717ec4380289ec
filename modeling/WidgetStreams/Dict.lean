/-!
# Finite maps as lists of pairs

This file defines `Dict`, a finite map kept as a list of key–value pairs in
order of first insertion.

## Main definitions

- `Dict` — the list of pairs
- `Dict.find?` — the value under a key
- `Dict.insert` — bind a key, in place where it is bound already
- `Dict.erase` — forget a key

## Design notes

All operations recurse on the list, so a look-up in a concrete map evaluates
by `rfl`. Reading after a write needs no well-formedness: `find?_insert` and
`find?_erase` hold of every list of pairs.
-/

namespace WidgetStreams

/-- A **finite map**: pairs of a key and its value. The first pair for a key counts. -/
structure Dict (κ α : Type) where
  /-- The pairs, oldest key first. -/
  pairs : List (κ × α) := []
  deriving Repr, DecidableEq

namespace Dict

variable {κ α : Type} [DecidableEq κ]

/-- The map without any key. -/
def empty : Dict κ α := {}

instance : Inhabited (Dict κ α) := ⟨{}⟩

/-- The value of the first pair for `k` in a list of pairs. -/
def lookup (k : κ) : List (κ × α) → Option α
  | [] => none
  | (j, a) :: rest => if j = k then some a else lookup k rest

/-- Replace the first pair for `k`, or add one at the end. -/
def bind (k : κ) (a : α) : List (κ × α) → List (κ × α)
  | [] => [(k, a)]
  | (j, b) :: rest => if j = k then (k, a) :: rest else (j, b) :: bind k a rest

/-- The list without the pairs for `k`. -/
def unbind (k : κ) : List (κ × α) → List (κ × α)
  | [] => []
  | (j, b) :: rest => if j = k then unbind k rest else (j, b) :: unbind k rest

/-- The value under `k`, if there is one. -/
def find? (d : Dict κ α) (k : κ) : Option α := lookup k d.pairs

/-- The map in which `k` is bound to `a`. -/
def insert (d : Dict κ α) (k : κ) (a : α) : Dict κ α := ⟨bind k a d.pairs⟩

/-- The map in which `k` is not bound. -/
def erase (d : Dict κ α) (k : κ) : Dict κ α := ⟨unbind k d.pairs⟩

/-- The values, oldest key first. -/
def values (d : Dict κ α) : List α := d.pairs.map Prod.snd

/-- The keys, oldest first. -/
def keys (d : Dict κ α) : List κ := d.pairs.map Prod.fst

/-- The number of pairs. -/
def size (d : Dict κ α) : Nat := d.pairs.length

/-- The map with every key changed by `g` and every value by `f`. -/
def map {β : Type} (g : κ → κ) (f : α → β) (d : Dict κ α) : Dict κ β :=
  ⟨d.pairs.map (Prod.map g f)⟩

theorem lookup_bind (k j : κ) (a : α) (l : List (κ × α)) :
    lookup j (bind k a l) = if k = j then some a else lookup j l := by
  induction l with
  | nil => rfl
  | cons p rest ih => grind [bind, lookup]

theorem lookup_unbind (k j : κ) (l : List (κ × α)) :
    lookup j (unbind k l) = if k = j then none else lookup j l := by
  induction l with
  | nil => simp [unbind, lookup]
  | cons p rest ih => grind [unbind, lookup]

theorem lookup_append (k : κ) (l l' : List (κ × α)) :
    lookup k (l ++ l') = (lookup k l).or (lookup k l') := by
  induction l with
  | nil => rfl
  | cons p rest ih => grind [lookup]

/-- What is left without a key are the pairs for the other keys. -/
theorem unbind_eq_filter (k : κ) (l : List (κ × α)) : unbind k l = l.filter fun p => p.1 ≠ k := by
  induction l with
  | nil => rfl
  | cons p rest ih => grind [unbind]

theorem unbind_sublist (k : κ) (l : List (κ × α)) : (unbind k l).Sublist l := by
  rw [unbind_eq_filter]
  exact List.filter_sublist

/-- A key that does not occur has no value. -/
theorem lookup_of_notMem {k : κ} {l : List (κ × α)} (h : k ∉ l.map Prod.fst) :
    lookup k l = none := by
  induction l with
  | nil => rfl
  | cons x rest ih =>
    obtain ⟨hne, hrest⟩ := not_or.mp (mt List.mem_cons.mpr h)
    rw [lookup, if_neg (Ne.symm hne)]
    exact ih hrest

/-- Forgetting a key that does not occur changes nothing. -/
theorem unbind_of_notMem {k : κ} {l : List (κ × α)} (h : k ∉ l.map Prod.fst) :
    unbind k l = l := by
  rw [unbind_eq_filter, List.filter_eq_self]
  intro x hx
  apply decide_eq_true
  rintro rfl
  exact h (List.mem_map_of_mem hx)

/-- **Reading after a binding**: the bound key has the new value, every other key its old one. -/
@[simp] theorem find?_insert (d : Dict κ α) (k j : κ) (a : α) :
    (d.insert k a).find? j = if k = j then some a else d.find? j :=
  lookup_bind k j a d.pairs

/-- **Reading after forgetting**: the key has no value, every other key its old one. -/
@[simp] theorem find?_erase (d : Dict κ α) (k j : κ) :
    (d.erase k).find? j = if k = j then none else d.find? j :=
  lookup_unbind k j d.pairs

/-- Binding a key twice leaves the later value. -/
@[simp] theorem insert_insert (d : Dict κ α) (k : κ) (a b : α) :
    (d.insert k a).insert k b = d.insert k b := by
  obtain ⟨l⟩ := d
  refine congrArg Dict.mk ?_
  change bind k b (bind k a l) = bind k b l
  induction l with
  | nil => simp [bind]
  | cons p rest ih => grind [bind]

/-- Binding a key to the value that it has changes nothing. -/
theorem insert_of_find? {d : Dict κ α} {k : κ} {a : α} (h : d.find? k = some a) :
    d.insert k a = d := by
  obtain ⟨l⟩ := d
  refine congrArg Dict.mk ?_
  change lookup k l = some a at h
  induction l with
  | nil => cases h
  | cons p rest ih => grind [bind, lookup]

section Map

variable {β : Type} {g : κ → κ} (f : α → β)

theorem find?_map (hg : Function.Injective g) (d : Dict κ α) (k : κ) :
    (d.map g f).find? (g k) = (d.find? k).map f := by
  obtain ⟨l⟩ := d
  change lookup (g k) (l.map (Prod.map g f)) = (lookup k l).map f
  induction l with
  | nil => rfl
  | cons p rest ih =>
    simp only [List.map_cons, lookup, Prod.map, hg.eq_iff]
    split
    · rfl
    · exact ih

omit [DecidableEq κ] in
@[simp] theorem values_map (d : Dict κ α) : (d.map g f).values = d.values.map f := by
  simp [values, map, Function.comp_def]

theorem erase_map (hg : Function.Injective g) (d : Dict κ α) (k : κ) :
    (d.map g f).erase (g k) = (d.erase k).map g f := by
  obtain ⟨l⟩ := d
  refine congrArg Dict.mk ?_
  change unbind (g k) (l.map (Prod.map g f)) = (unbind k l).map (Prod.map g f)
  rw [unbind_eq_filter, unbind_eq_filter, List.filter_map]
  simp [Function.comp_def, hg.eq_iff]

omit [DecidableEq κ] in
/-- Functions that leave the pairs of a map alone leave the map alone. -/
theorem map_eq_self {f : α → α} {d : Dict κ α} (h : ∀ x ∈ d.pairs, g x.1 = x.1 ∧ f x.2 = x.2) :
    d.map g f = d := by
  obtain ⟨l⟩ := d
  refine congrArg Dict.mk ((List.map_congr_left fun x hx => ?_).trans (List.map_id l))
  exact Prod.ext (h x hx).1 (h x hx).2

end Map

/-- What is left in a map was in it. -/
theorem mem_of_mem_values_erase {d : Dict κ α} {k : κ} {a : α} (h : a ∈ (d.erase k).values) :
    a ∈ d.values := by
  obtain ⟨x, hx, rfl⟩ := List.mem_map.mp h
  exact List.mem_map.mpr ⟨x, (unbind_sublist k d.pairs).subset hx, rfl⟩

end Dict

end WidgetStreams
