import WidgetStreams.Proofs.Lands
import WidgetStreams.Toolkit.Setting

/-!
# Overrides of the setting

This file proves which setting of the thread check is in force after overrides of
it have begun and ended in any order. Ending an override puts back what it found,
so the override that is ended last decides, and the setting from the start is back
in force if and only if the overrides unwind.

## Main definitions

- `Switch` — what changes the setting
- `Switch.left` — what some switches leave in force
- `Switch.Proper` — overrides end once, after they have begun
- `Switch.Unwinds` — spans, each closed by the override that opened it
- `Switching` — switches in the course of a run

## Main results

- `Switch.left_eq_none_iff` — what was in force at first is in force again if the switches unwind,
  and only then
- `Switching.tally` — the setting and the overrides after any switches
- `Switching.setting_restored` — what is left when all overrides have ended
-/

namespace WidgetStreams

variable {σ : Type} {u v w : Toolkit σ} {o : OverrideId} {check : ThreadCheck}

/-- **A switch** of the setting: for good, or until an override is ended. -/
inductive Switch
  | installed (check : ThreadCheck)
  | began (o : OverrideId) (check : ThreadCheck)
  | ended (o : OverrideId)
  deriving Repr, DecidableEq

namespace Switch

-- ════════════════════════════════════════════════════════════════════════
-- What switches leave
-- ════════════════════════════════════════════════════════════════════════

mutual

/-- **What switches leave in force**, latest first: a setting that one of them has put there, or
    else what was in force before them. -/
def left : List Switch → Option ThreadCheck
  | [] => none
  | .installed check :: _ => some check
  | .began _ check :: _ => some check
  | .ended o :: earlier => found o earlier

/-- What an override found in force when it began. -/
def found (o : OverrideId) : List Switch → Option ThreadCheck
  | [] => none
  | .installed _ :: earlier => found o earlier
  | .began o' _ :: earlier => if o' = o then left earlier else found o earlier
  | .ended _ :: earlier => found o earlier

end

/-- The override that a switch begins. -/
def begun? : Switch → Option OverrideId
  | .began o _ => some o
  | _ => none

/-- The overrides that switches begin. -/
def begun (log : List Switch) : List OverrideId := log.filterMap begun?

variable {log earlier mid : List Switch}

theorem mem_begun : o ∈ begun log ↔ ∃ check, .began o check ∈ log := by
  constructor
  · intro h
    obtain ⟨x, hx, hox⟩ := List.mem_filterMap.mp h
    cases x with
    | began o' check =>
      cases hox
      exact ⟨check, hx⟩
    | _ => cases hox
  · rintro ⟨check, h⟩
    exact List.mem_filterMap.mpr ⟨_, h, rfl⟩

/-- What an override found is what the switches before it had left. -/
theorem found_append (h : o ∉ begun mid) :
    found o (mid ++ .began o check :: earlier) = left earlier := by
  induction mid with
  | nil => exact if_pos rfl
  | cons x mid ih =>
    cases x with
    | installed => exact ih h
    | ended => exact ih h
    | began o' =>
      have hne : ¬ o' = o ∧ o ∉ begun mid := by
        simpa [begun, begun?, eq_comm (a := o)] using h
      exact (if_neg hne.1).trans (ih hne.2)

/-- **Overrides end once, after they have begun**, and none begins twice. -/
inductive Proper : List Switch → Prop
  | nil : Proper []
  | installed {log : List Switch} {check : ThreadCheck} (h : Proper log) :
      Proper (.installed check :: log)
  | began {log : List Switch} {o : OverrideId} {check : ThreadCheck} (h : Proper log)
      (ho : o ∉ begun log) : Proper (.began o check :: log)
  | ended {log : List Switch} {o : OverrideId} (h : Proper log) (ho : o ∈ begun log)
      (hopen : .ended o ∉ log) : Proper (.ended o :: log)

/-- What is put in force is put there by an override, if nothing is installed for good. -/
theorem left_eq_some_cases (hplain : ∀ check, .installed check ∉ log) :
    (left log = some check → ∃ o, .began o check ∈ log) ∧
      ∀ o, found o log = some check → ∃ o', .began o' check ∈ log := by
  induction log with
  | nil => exact ⟨nofun, fun _ => nofun⟩
  | cons x earlier ih =>
    obtain ⟨ihl, ihf⟩ := ih fun check h => hplain check (.tail _ h)
    have hlater : (∃ o', .began o' check ∈ earlier) → ∃ o', .began o' check ∈ x :: earlier :=
      fun ⟨o', h⟩ => ⟨o', .tail _ h⟩
    cases x with
    | installed check' => exact absurd (.head _) (hplain check')
    | began o' check' =>
      refine ⟨fun h => ?_, fun o h => ?_⟩
      · cases h
        exact ⟨o', .head _⟩
      · rw [found] at h
        split at h
        · exact hlater (ihl h)
        · exact hlater (ihf o h)
    | ended o' => exact ⟨fun h => hlater (ihf o' h), fun o h => hlater (ihf o h)⟩

-- ════════════════════════════════════════════════════════════════════════
-- Unwinding
-- ════════════════════════════════════════════════════════════════════════

/-- **Switches unwind**: they are spans, one after the other, each of which an override closes that
    opened it. Within a span overrides may overlap in any way. -/
inductive Unwinds : List Switch → Prop
  | nil : Unwinds []
  | span {earlier : List Switch} (h : Unwinds earlier) (o : OverrideId) (check : ThreadCheck)
      (mid : List Switch) : Unwinds (.ended o :: (mid ++ .began o check :: earlier))

theorem Proper.tail {x : Switch} (h : Proper (x :: log)) : Proper log := by
  cases h <;> assumption

theorem Proper.of_append (h : Proper (mid ++ log)) : Proper log := by
  induction mid with
  | nil => exact h
  | cons x mid ih => exact ih h.tail

/-- An override that has ended had begun. -/
theorem Proper.mem_begun_of_ended (h : Proper log) (ho : .ended o ∈ log) : o ∈ begun log := by
  induction h with
  | nil => cases ho
  | installed h ih =>
    obtain ho | ho := List.mem_cons.mp ho
    · cases ho
    · exact ih ho
  | began h hnew ih =>
    obtain ho | ho := List.mem_cons.mp ho
    · cases ho
    · exact List.mem_cons_of_mem _ (ih ho)
  | ended h hbegun hopen ih =>
    obtain ho | ho := List.mem_cons.mp ho
    · cases ho
      exact hbegun
    · exact ih ho

/-- An override that began has not begun later. -/
theorem Proper.notMem_begun (h : Proper (mid ++ .began o check :: earlier)) : o ∉ begun mid := by
  induction mid with
  | nil => exact List.not_mem_nil
  | cons x mid ih =>
    cases h with
    | installed h => exact ih h
    | ended h => exact ih h
    | began h hnew =>
      rename_i o' check'
      have hne : o ≠ o' := by
        rintro rfl
        exact hnew (mem_begun.mpr ⟨check, by simp⟩)
      simpa [begun, begun?, hne] using ih h

/-- A span leaves in force what it found. -/
theorem left_span (h : Proper (mid ++ .began o check :: earlier)) :
    left (.ended o :: (mid ++ .began o check :: earlier)) = left earlier :=
  found_append h.notMem_begun

/-- **What was in force at first is in force again** if and only if the switches unwind. -/
theorem left_eq_none_iff (hlog : Proper log) : left log = none ↔ Unwinds log := by
  constructor
  · intro h
    induction hn : log.length using Nat.strongRecOn generalizing log with
    | ind n ih =>
      cases hlog with
      | nil => exact .nil
      | installed => cases h
      | began => cases h
      | ended hrest ho =>
        obtain ⟨check, hmem⟩ := mem_begun.mp ho
        obtain ⟨mid, earlier, rfl⟩ := List.append_of_mem hmem
        rw [left_span hrest] at h
        have hlen : earlier.length < n := by
          subst hn
          simp
          omega
        have hearlier : Proper earlier := hrest.of_append.tail
        exact .span (ih earlier.length hlen hearlier h rfl) _ check mid
  · intro h
    induction h with
    | nil => rfl
    | @span earlier _ o check mid ih =>
      rw [left_span hlog.tail]
      exact ih hlog.tail.of_append.tail

end Switch

-- ════════════════════════════════════════════════════════════════════════
-- Switches in the course of a run
-- ════════════════════════════════════════════════════════════════════════

/-- **Switches of the setting in the course of a run**, latest first, and the toolkit by then. Of
    the overrides only those are ended that began in the run, and each of them once. -/
inductive Switching (w : Toolkit σ) : List Switch → Toolkit σ → Prop
  | start : Switching w [] w
  /-- Something else is done, and the setting and its overrides stay as they are. -/
  | meanwhile {log : List Switch} {v u : Toolkit σ} (h : Switching w log v)
      (hsetting : u.threadCheck = v.threadCheck) (hoverrides : u.overrides = v.overrides) :
      Switching w log u
  | install {log : List Switch} {v u : Toolkit σ} {check before : ThreadCheck}
      (h : Switching w log v) (hr : UI.installCheck check v = .ok before u) :
      Switching w (.installed check :: log) u
  | override {log : List Switch} {v u : Toolkit σ} {o : OverrideId} {check : ThreadCheck}
      (h : Switching w log v) (hr : UI.overrideCheck check v = .ok o u) :
      Switching w (.began o check :: log) u
  | finish {log : List Switch} {v u : Toolkit σ} {o : OverrideId} (h : Switching w log v)
      (hbegun : o ∈ Switch.begun log) (hopen : .ended o ∉ log)
      (hr : UI.endOverride o v = .ok () u) : Switching w (.ended o :: log) u

theorem UI.run_overrideCheck (check : ThreadCheck) (w : Toolkit σ) :
    UI.overrideCheck check w = .ok w.overrides.next
      { w with threadCheck := check, overrides := (w.overrides.add w.threadCheck).2 } := rfl

/-- Ending an override that is in force puts back what it found. -/
theorem UI.run_endOverride {before : ThreadCheck} (h : w.overrides.find? o = some before) :
    UI.endOverride o w = .ok ()
      { w with threadCheck := before, overrides := (w.overrides.remove o).2 } := by
  simp only [UI.endOverride, run_get_bind, Registry.remove, h]
  rfl

/-- The numbers from the next one on are not in use. -/
def Toolkit.FreshOverrides (w : Toolkit σ) : Prop :=
  ∀ k, w.overrides.next ≤ k → w.overrides.find? k = none

/-- **The tally of switches** from one toolkit to another: the setting that they leave, and what is
    remembered of overrides. -/
structure Switching.Tally (w : Toolkit σ) (log : List Switch) (u : Toolkit σ) : Prop where
  proper : Switch.Proper log
  setting : u.threadCheck = (Switch.left log).getD w.threadCheck
  fresh : u.FreshOverrides
  later : w.overrides.next ≤ u.overrides.next
  /-- The overrides that began have numbers of their own. -/
  own : ∀ o ∈ Switch.begun log, w.overrides.next ≤ o ∧ o < u.overrides.next
  /-- Of an override that has begun and not ended it is remembered what it found. -/
  inForce : ∀ o ∈ Switch.begun log, u.overrides.find? o =
    if .ended o ∈ log then none else some ((Switch.found o log).getD w.threadCheck)
  /-- Nothing becomes of other overrides. -/
  others : ∀ o, o ∉ Switch.begun log → u.overrides.find? o = w.overrides.find? o

namespace Switching

variable {log : List Switch}

namespace Tally

theorem start (hw : w.FreshOverrides) : Tally w [] w where
  proper := .nil
  setting := rfl
  fresh := hw
  later := Nat.le_refl _
  own := nofun
  inForce := nofun
  others _ _ := rfl

theorem meanwhile (h : Tally w log v) (hsetting : u.threadCheck = v.threadCheck)
    (hoverrides : u.overrides = v.overrides) : Tally w log u := by
  obtain ⟨hproper, hset, hfresh, hlater, hown, hforce, hothers⟩ := h
  rw [Toolkit.FreshOverrides] at hfresh
  rw [← hoverrides] at hfresh hlater hown hforce hothers
  exact ⟨hproper, hsetting.trans hset, hfresh, hlater, hown, hforce, hothers⟩

/-- A setting that is installed leaves the overrides as they are. -/
theorem install (h : Tally w log v) (check : ThreadCheck) :
    Tally w (.installed check :: log) { v with threadCheck := check } where
  proper := h.proper.installed
  setting := rfl
  fresh := h.fresh
  later := h.later
  own := h.own
  inForce o ho := by
    rw [h.inForce o ho]
    simp [Switch.found]
  others := h.others

/-- **An override begins**, under a new number, and what it found is remembered. -/
theorem override (h : Tally w log v) (check : ThreadCheck) :
    Tally w (.began v.overrides.next check :: log)
      { v with threadCheck := check, overrides := (v.overrides.add v.threadCheck).2 } := by
  have hnew : v.overrides.next ∉ Switch.begun log :=
    fun ho => Nat.lt_irrefl _ (h.own _ ho).2
  have hread : ∀ o, (v.overrides.add v.threadCheck).2.find? o =
      if v.overrides.next = o then some v.threadCheck else v.overrides.find? o :=
    Registry.find?_add (h.fresh _ (Nat.le_refl _)) v.threadCheck
  refine ⟨h.proper.began hnew, rfl, ?_, Nat.le_succ_of_le h.later, ?_, ?_, ?_⟩
  · intro k hk
    have hlt : v.overrides.next < k := hk
    exact (hread k).trans ((if_neg (Nat.ne_of_lt hlt)).trans (h.fresh k (Nat.le_of_lt hlt)))
  · intro o ho
    obtain rfl | ho := List.mem_cons.mp ho
    · exact ⟨h.later, Nat.lt_succ_self _⟩
    · obtain ⟨hle, hlt⟩ := h.own o ho
      exact ⟨hle, Nat.lt_succ_of_lt hlt⟩
  · intro o ho
    rw [hread]
    obtain rfl | ho := List.mem_cons.mp ho
    · have hopen : .ended v.overrides.next ∉ log :=
        fun hended => hnew (h.proper.mem_begun_of_ended hended)
      simp [Switch.found, hopen, h.setting]
    · have hne : v.overrides.next ≠ o := by
        rintro rfl
        exact hnew ho
      rw [if_neg hne, h.inForce o ho]
      simp [Switch.found, hne]
  · intro o ho
    have hne : v.overrides.next ≠ o := by
      rintro rfl
      exact ho (.head _)
    rw [hread, if_neg hne]
    exact h.others o fun hlog => ho (.tail _ hlog)

/-- **An override ends**, and what it found is in force again. -/
theorem finish (h : Tally w log v) (hbegun : o ∈ Switch.begun log) (hopen : .ended o ∉ log) :
    Tally w (.ended o :: log)
      { v with
        threadCheck := (Switch.found o log).getD w.threadCheck
        overrides := (v.overrides.remove o).2 } := by
  refine ⟨h.proper.ended hbegun hopen, rfl, ?_, h.later, h.own, ?_, ?_⟩
  · intro k hk
    change (v.overrides.remove o).2.find? k = none
    rw [Registry.find?_remove, h.fresh k hk, ite_self]
  · intro o' ho'
    rw [Registry.find?_remove, h.inForce o' ho']
    by_cases heq : o = o'
    · simp [heq]
    · simp [heq, eq_comm (a := o'), Switch.found]
  · intro o' ho'
    have hne : o ≠ o' := by
      rintro rfl
      exact ho' hbegun
    rw [Registry.find?_remove, if_neg hne]
    exact h.others o' ho'

end Tally

/-- **Every run keeps the tally.** The induction is on the switches, with one case for each way in
    which a run goes on. -/
theorem tally (hw : w.FreshOverrides) (h : Switching w log u) : Tally w log u := by
  induction h with
  | start => exact .start hw
  | meanwhile h hsetting hoverrides ih => exact ih.meanwhile hsetting hoverrides
  | install h hr ih =>
    cases hr
    exact ih.install _
  | override h hr ih =>
    rw [UI.run_overrideCheck] at hr
    cases hr
    exact ih.override _
  | @finish log v u o h hbegun hopen hr ih =>
    have hforce : v.overrides.find? o = some ((Switch.found o log).getD w.threadCheck) :=
      (ih.inForce o hbegun).trans (if_neg hopen)
    rw [UI.run_endOverride hforce] at hr
    cases hr
    exact ih.finish hbegun hopen

/-- **What is left when all overrides have ended** that began in a run: nothing is remembered of
    them, and the setting from the start is in force again if they unwind. Otherwise one of them has
    left its setting behind. -/
theorem setting_restored (hw : w.FreshOverrides) (h : Switching w log u)
    (hplain : ∀ check, .installed check ∉ log)
    (hended : ∀ o ∈ Switch.begun log, .ended o ∈ log) :
    (∀ o, u.overrides.find? o = w.overrides.find? o) ∧
      (Switch.Unwinds log → u.threadCheck = w.threadCheck) ∧
      (¬ Switch.Unwinds log →
        ∃ o check, .began o check ∈ log ∧ .ended o ∈ log ∧ u.threadCheck = check) := by
  have htally := h.tally hw
  have hleft := Switch.left_eq_none_iff htally.proper
  refine ⟨fun o => ?_, fun hunwinds => ?_, fun hunwinds => ?_⟩
  · by_cases ho : o ∈ Switch.begun log
    · rw [htally.inForce o ho, if_pos (hended o ho)]
      exact (hw o (htally.own o ho).1).symm
    · exact htally.others o ho
  · rw [htally.setting, hleft.mpr hunwinds]
    rfl
  · obtain ⟨check, hcheck⟩ := Option.ne_none_iff_exists'.mp fun hnone => hunwinds (hleft.mp hnone)
    obtain ⟨o, hbegan⟩ := (Switch.left_eq_some_cases hplain).1 hcheck
    refine ⟨o, check, hbegan, hended o (Switch.mem_begun.mpr ⟨check, hbegan⟩), ?_⟩
    rw [htally.setting, hcheck]
    rfl

/-- Three overrides overlap: the second ends before the third, and the first ends last. -/
theorem setting_restored_overlapping :
    ∃ (log : List Switch) (u : Toolkit Unit),
      log = [.ended 1, .ended 3, .ended 2, .began 3 .disabled,
      .began 2 .enforce, .began 1 .disabled] ∧ Switching Toolkit.fresh log u ∧
      u.threadCheck = Toolkit.fresh.threadCheck ∧ ∀ o, u.overrides.find? o = none := by
  have hbegun : Switching Toolkit.fresh
      [.began 3 .disabled, .began 2 .enforce, .began 1 .disabled] _ :=
    .override (.override (.override .start rfl) rfl) rfl
  have hended : Switching Toolkit.fresh _ _ :=
    .finish (.finish (.finish hbegun (o := 2) (by decide) (by decide) rfl)
      (o := 3) (by decide) (by decide) rfl) (o := 1) (by decide) (by decide) rfl
  have hfresh : Toolkit.fresh.FreshOverrides := fun _ _ => rfl
  obtain ⟨hforgotten, hrestored, -⟩ := setting_restored hfresh hended (by simp) (by decide)
  refine ⟨_, _, rfl, hended, hrestored ?_, hforgotten⟩
  exact .span .nil 1 .disabled [.ended 3, .ended 2, .began 3 .disabled, .began 2 .enforce]

/-- **An override may be left behind**: of two that overlap, the one that began first ends first,
    and its setting stays when both have ended. -/
theorem setting_left_behind :
    ∃ (log : List Switch) (u : Toolkit Unit), Switching Toolkit.fresh log u ∧
      (∀ check, .installed check ∉ log) ∧ (∀ o ∈ Switch.begun log, .ended o ∈ log) ∧
      u.threadCheck ≠ Toolkit.fresh.threadCheck := by
  have hbegun : Switching Toolkit.fresh [.began 2 .enforce, .began 1 .disabled] _ :=
    .override (.override .start rfl) rfl
  have hended : Switching Toolkit.fresh _ _ :=
    .finish (.finish hbegun (o := 1) (by decide) (by decide) rfl)
      (o := 2) (by decide) (by decide) rfl
  exact ⟨_, _, hended, by simp, by decide, by decide⟩

end Switching

end WidgetStreams
