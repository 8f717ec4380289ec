import Mathlib.Data.List.Basic
import WidgetStreams.Toolkit.Pager

/-!
# Itineraries of pagers

This file is about what is told of moves of a pager that come one after the other. It
proves what a listener can rely on who hears all of it: how the states of the motion
follow each other, which pages are selected, and where the pager is on the way.

## Main definitions

- `Leg` — what is told of one move, from one page to another
- `Tour` — moves one after the other
- `Guide` — what a listener to them can rely on

## Main results

- `Pages.leg_jump`, `Pages.leg_glide` — the moves of a pager are legs
- `Tour.guide` — a listener can rely on all that

## Design notes

A stop on a tour is one on some leg of it, with the legs before it behind. So what is
to hold of a stop and its surroundings is looked up in the four kinds of legs.
-/

namespace WidgetStreams

/-- The page that is selected at a stop. -/
def PageStep.selected? : PageStep → Option Nat
  | .selected page => some page
  | _ => none

/-- The state of the motion from a stop on. -/
def PageStep.motion? : PageStep → Option ScrollState
  | .motion state => some state
  | _ => none

/-- The pages that are visited on the way. -/
def visits (steps : List PageStep) : List Nat := steps.filterMap PageStep.selected?

/-- The states of the motion on the way. -/
def motions (steps : List PageStep) : List ScrollState := steps.filterMap PageStep.motion?

/-- The page that is shown after these stops, from a page on. -/
def pageAfter (page : Nat) (steps : List PageStep) : Nat := (visits steps).getLast?.getD page

variable {page next last : Nat} {steps : List PageStep} {legs legs' : List (List PageStep)}

theorem visits_append (steps rest : List PageStep) :
    visits (steps ++ rest) = visits steps ++ visits rest := List.filterMap_append

theorem motions_append (steps rest : List PageStep) :
    motions (steps ++ rest) = motions steps ++ motions rest := List.filterMap_append

theorem pageAfter_append (page : Nat) (steps rest : List PageStep) :
    pageAfter page (steps ++ rest) = pageAfter (pageAfter page steps) rest := by
  rw [pageAfter, visits_append, List.getLast?_append]
  cases hrest : (visits rest).getLast? <;> simp [pageAfter, hrest]

-- ════════════════════════════════════════════════════════════════════════
-- Legs
-- ════════════════════════════════════════════════════════════════════════

/-- **A leg**: what is told of one move of a pager, from one page to another. Only when it is
    dragged the pager moves to the page where it is. -/
inductive Leg (page : Nat) : List PageStep → Nat → Prop
  | jump {next : Nat} (hnext : next ≠ page) : Leg page [.selected next, .scrolled next .zero 0] next
  | settle {next : Nat} (hnext : next ≠ page) (px : Int32) : Leg page
      [.motion .settling, .scrolled (min page next) .half px, .selected next,
        .scrolled next .zero 0, .motion .idle] next
  | fling {next : Nat} (hnext : next ≠ page) (px : Int32) : Leg page
      [.motion .dragging, .scrolled (min page next) .half px, .motion .settling, .selected next,
        .scrolled next .zero 0, .motion .idle] next
  | tug : Leg page
      [.motion .dragging, .motion .settling, .scrolled page .zero 0, .motion .idle] page

namespace Pages

variable {p : Pages}

theorem leg_jump (h : page ≠ p.current) : Leg p.current (jump page) page := .jump h

theorem leg_glide {dragged : Bool} (h : page ≠ p.current ∨ dragged = true) :
    Leg p.current (p.glide page dragged) page := by
  by_cases hpage : page = p.current
  · obtain rfl : dragged = true := h.resolve_left (not_not.mpr hpage)
    subst hpage
    simpa [glide] using Leg.tug
  · cases dragged with
    | false => simpa [glide, Ne.symm hpage] using Leg.settle hpage (p.width / 2)
    | true => simpa [glide, Ne.symm hpage] using Leg.fling hpage (p.width / 2)

end Pages

namespace Leg

/-- A leg selects the page to which it leads, if that is another one. -/
theorem visits (h : Leg page steps next) :
    next ≠ page ∧ visits steps = [next] ∨ next = page ∧ visits steps = [] := by
  cases h with
  | jump hnext | settle hnext | fling hnext => exact .inl ⟨hnext, rfl⟩
  | tug => exact .inr ⟨rfl, rfl⟩

theorem pageAfter_eq (h : Leg page steps next) : pageAfter page steps = next := by
  obtain ⟨-, hs⟩ | ⟨rfl, hs⟩ := h.visits <;> rw [pageAfter, hs] <;> rfl

/-- At the end of a leg the motion has come to rest, unless there was none. -/
theorem motions (h : Leg page steps next) :
    motions steps = [] ∨ motions steps = [.settling, .idle] ∨
      motions steps = [.dragging, .settling, .idle] := by
  cases h with
  | jump => exact .inl rfl
  | settle => exact .inr (.inl rfl)
  | fling | tug => exact .inr (.inr rfl)

/-- **Half-way** a leg is between two pages. -/
theorem halfway {first rest : List PageStep} {position : Nat} {px : Int32}
    (h : Leg page (first ++ .scrolled position .half px :: rest) next) :
    next ≠ page ∧ position = min page next ∧
      (first = [.motion .settling] ∧
          rest = [.selected next, .scrolled next .zero 0, .motion .idle] ∨
        first = [.motion .dragging] ∧
          rest = [.motion .settling, .selected next, .scrolled next .zero 0, .motion .idle]) := by
  have hzero : Float32.half ≠ Float32.zero := by decide
  generalize hsteps : first ++ .scrolled position .half px :: rest = steps at h
  cases h with
  | jump | tug =>
    simp [List.append_eq_cons_iff, List.cons_eq_append_iff, hzero] at hsteps
  | settle hnext px' =>
    obtain ⟨rfl, ⟨rfl, -⟩, rfl⟩ : first = [.motion .settling] ∧
        (position = min page next ∧ px = px') ∧
        rest = [.selected next, .scrolled next .zero 0, .motion .idle] := by
      simpa [List.append_eq_cons_iff, List.cons_eq_append_iff, hzero] using hsteps
    exact ⟨hnext, rfl, .inl ⟨rfl, rfl⟩⟩
  | fling hnext px' =>
    obtain ⟨rfl, ⟨rfl, -⟩, rfl⟩ : first = [.motion .dragging] ∧
        (position = min page next ∧ px = px') ∧
        rest = [.motion .settling, .selected next, .scrolled next .zero 0, .motion .idle] := by
      simpa [List.append_eq_cons_iff, List.cons_eq_append_iff, hzero] using hsteps
    exact ⟨hnext, rfl, .inr ⟨rfl, rfl⟩⟩

/-- **A leg lands** on a page as soon as it has selected it. -/
theorem landed {first rest : List PageStep} {selected : Nat}
    (h : Leg page (first ++ .selected selected :: rest) next) :
    ∃ after, rest = .scrolled selected .zero 0 :: after := by
  generalize hsteps : first ++ .selected selected :: rest = steps at h
  cases h with
  | jump =>
    obtain ⟨-, rfl, rfl⟩ : first = [] ∧ selected = next ∧ rest = [.scrolled next .zero 0] := by
      simpa [List.append_eq_cons_iff, List.cons_eq_append_iff] using hsteps
    exact ⟨_, rfl⟩
  | settle _ px =>
    obtain ⟨-, rfl, rfl⟩ : first = [.motion .settling, .scrolled (min page next) .half px] ∧
        selected = next ∧ rest = [.scrolled next .zero 0, .motion .idle] := by
      simpa [List.append_eq_cons_iff, List.cons_eq_append_iff] using hsteps
    exact ⟨_, rfl⟩
  | fling _ px =>
    obtain ⟨-, rfl, rfl⟩ : first = [.motion .dragging, .scrolled (min page next) .half px,
        .motion .settling] ∧ selected = next ∧ rest = [.scrolled next .zero 0, .motion .idle] := by
      simpa [List.append_eq_cons_iff, List.cons_eq_append_iff] using hsteps
    exact ⟨_, rfl⟩
  | tug => simp [List.append_eq_cons_iff, List.cons_eq_append_iff] at hsteps

end Leg

-- ════════════════════════════════════════════════════════════════════════
-- Tours
-- ════════════════════════════════════════════════════════════════════════

/-- **A tour**: moves of a pager one after the other, from one page to another. -/
inductive Tour : Nat → List (List PageStep) → Nat → Prop
  | stay (page : Nat) : Tour page [] page
  | go {page next last : Nat} {leg : List PageStep} {legs : List (List PageStep)} :
      Leg page leg next → Tour next legs last → Tour page (leg :: legs) last

/-- **What a listener can rely on** who is told these stops from a page on, while these pages become
    current. -/
structure Guide (page : Nat) (steps : List PageStep) (turns : List Nat) : Prop where
  /-- An animated move settles and comes to rest, or is dragged, settles and comes to rest. -/
  words : ∃ words : List (List ScrollState), motions steps = words.flatten ∧
    ∀ word ∈ words, word = [.settling, .idle] ∨ word = [.dragging, .settling, .idle]
  /-- What is selected are the pages that become current. -/
  visits : visits steps = turns
  /-- Each of them is another one than that before. -/
  new : (page :: turns).IsChain (· ≠ ·)
  /-- Half-way, right after a move has begun, the pager is at the lower of two pages. Then it may
      settle, and the other one of the two is selected. -/
  halfway : ∀ first position px rest, steps = first ++ .scrolled position .half px :: rest →
    ∃ before opening middle next after, first = before ++ [.motion opening] ∧
      rest = middle ++ .selected next :: after ∧
      (opening = .settling ∧ middle = [] ∨ opening = .dragging ∧ middle = [.motion .settling]) ∧
      next ≠ pageAfter page before ∧ position = min (pageAfter page before) next
  /-- The pager lands on a page as soon as that is selected. -/
  landed : ∀ first next rest, steps = first ++ .selected next :: rest →
    ∃ after, rest = .scrolled next .zero 0 :: after

namespace Tour

theorem single (h : Leg page steps next) : Tour page [steps] next := .go h (.stay next)

theorem trans (h : Tour page legs next) (h' : Tour next legs' last) :
    Tour page (legs ++ legs') last := by
  induction h with
  | stay => exact h'
  | go hleg _ ih => exact .go hleg (ih h')

/-- **A stop on a tour** is one on some leg of it. -/
theorem exists_leg (h : Tour page legs last) {first rest : List PageStep} {step : PageStep}
    (hsteps : legs.flatten = first ++ step :: rest) :
    ∃ before opening closing after next, first = before ++ opening ∧ rest = closing ++ after ∧
      Leg (pageAfter page before) (opening ++ step :: closing) next := by
  induction h generalizing first with
  | stay => simp at hsteps
  | @go page next last leg legs hleg _ ih =>
    have hlater : ∀ first', legs.flatten = first' ++ step :: rest → first = leg ++ first' →
        ∃ before opening closing after next, first = before ++ opening ∧ rest = closing ++ after ∧
          Leg (pageAfter page before) (opening ++ step :: closing) next := by
      rintro first' hflat rfl
      obtain ⟨before, opening, closing, after, next', rfl, rfl, hfound⟩ := ih hflat
      refine ⟨leg ++ before, opening, closing, after, next', by simp, rfl, ?_⟩
      rwa [pageAfter_append, hleg.pageAfter_eq]
    rw [List.flatten_cons, List.append_eq_append_iff] at hsteps
    obtain ⟨first', rfl, hflat⟩ | ⟨closing, rfl, hclosing⟩ := hsteps
    · exact hlater first' hflat rfl
    · cases closing with
      | nil => exact hlater [] hclosing.symm (by simp)
      | cons x closing =>
        obtain ⟨rfl, rfl⟩ := List.cons.inj hclosing
        exact ⟨[], first, closing, legs.flatten, next, rfl, rfl, hleg⟩

theorem words (h : Tour page legs last) : ∃ words : List (List ScrollState),
    motions legs.flatten = words.flatten ∧
    ∀ word ∈ words, word = [.settling, .idle] ∨ word = [.dragging, .settling, .idle] := by
  induction h with
  | stay => exact ⟨[], rfl, by simp⟩
  | @go _ _ _ leg _ hleg _ ih =>
    obtain ⟨words, hwords, hall⟩ := ih
    rw [List.flatten_cons, motions_append, hwords]
    obtain hnone | hword := hleg.motions
    · exact ⟨words, by rw [hnone, List.nil_append], hall⟩
    · exact ⟨motions leg :: words, rfl, List.forall_mem_cons.mpr ⟨hword, hall⟩⟩

/-- No page is selected that is shown already. -/
theorem new (h : Tour page legs last) : (page :: visits legs.flatten).IsChain (· ≠ ·) := by
  induction h with
  | stay => exact .singleton _
  | go hleg _ ih =>
    rw [List.flatten_cons, visits_append]
    obtain ⟨hnext, hs⟩ | ⟨rfl, hs⟩ := hleg.visits
    · rw [hs]
      exact List.isChain_cons_cons.mpr ⟨hnext.symm, ih⟩
    · rwa [hs, List.nil_append]

/-- **A listener can rely** on what it is told of a tour. -/
theorem guide (h : Tour page legs last) :
    Guide page legs.flatten (WidgetStreams.visits legs.flatten) where
  words := h.words
  visits := rfl
  new := h.new
  halfway first position px rest hsteps := by
    obtain ⟨before, opening, closing, after, next, rfl, rfl, hleg⟩ := h.exists_leg hsteps
    obtain ⟨hnext, hposition, ⟨rfl, rfl⟩ | ⟨rfl, rfl⟩⟩ := hleg.halfway
    · exact ⟨before, .settling, [], next, _, rfl, rfl, .inl ⟨rfl, rfl⟩, hnext, hposition⟩
    · exact ⟨before, .dragging, [.motion .settling], next, _, rfl, rfl, .inr ⟨rfl, rfl⟩, hnext,
        hposition⟩
  landed first next rest hsteps := by
    obtain ⟨_, _, closing, after, _, rfl, rfl, hleg⟩ := h.exists_leg hsteps
    obtain ⟨landed, rfl⟩ := hleg.landed
    exact ⟨landed ++ after, rfl⟩

end Tour

end WidgetStreams
