import WidgetStreams.Proofs.Program

/-!
# What is registered is undone

This file proves that every registration is undone at most once, with the key
that was given out for it and not before, and that it is undone when its handle
is disposed, whenever that happens.

## Main definitions

- `Course`, `Course.Step` — a subscription on its own, and what may happen to it
- `Course.Kept` — the invariant of its steps
- `Toolkit.Undoes` — what the journal tells of a registration and its end

## Main results

- `Step.course` — a step of the library is any number of steps of each subscription
- `Code.registrations_undone` — registrations are undone

## Design notes

Client code may give the handle of a subscription another action. The results
are about handles to which this does not happen.
-/

namespace WidgetStreams

open History

/-- **The course of a subscription**: its handle, and what the journal tells of it. -/
structure Course where
  disposed : Bool
  action : Option Release
  /-- How far the subscription has come. -/
  stages : List Event
  /-- The actions that were run. -/
  releases : List Release

namespace Course

/-- **What may happen to a subscription** whose handle is given no other action. -/
inductive Step (h : HandleId) : Course → Course → Prop
  | dispose {c : Course} (hd : c.disposed = false) :
      Step h c { c with
        disposed := true, action := none, releases := c.releases ++ c.action.toList }
  | withdraw {c : Course} {b : BridgeId} {source : Source}
      (hs : c.stages = [.subscribing h b source]) (hd : c.disposed = true) :
      Step h c { c with stages := c.stages ++ [.withdrawn h] }
  | attach {c : Course} {b : BridgeId} {source : Source}
      (hs : c.stages = [.subscribing h b source]) :
      Step h c { c with stages := c.stages ++ [.attaching h source] }
  | register {c : Course} {b : BridgeId} {source : Source} (key : Option Nat)
      (hs : c.stages = [.subscribing h b source, .attaching h source]) (hd : c.disposed = false) :
      Step h c { c with action := some (.detach source key),
                        stages := c.stages ++ [.registered h source key] }
  | registerLate {c : Course} {b : BridgeId} {source : Source} (key : Option Nat)
      (hs : c.stages = [.subscribing h b source, .attaching h source]) (hd : c.disposed = true) :
      Step h c { c with stages := c.stages ++ [.registered h source key],
                        releases := c.releases ++ [.detach source key] }
  | attached {c : Course} {b : BridgeId} {source : Source} {key : Option Nat} (warm : Bool)
      (hs : c.stages = [.subscribing h b source, .attaching h source, .registered h source key]) :
      Step h c { c with stages := c.stages ++ [.attached h key warm] }
  | conclude {c : Course} {b : BridgeId} {source : Source}
      (hs : c.stages = [.subscribing h b source, .withdrawn h] ∨
        ∃ key warm, c.stages = stagesOf h b source key warm) :
      Step h c { c with stages := c.stages ++ [.concluded h] }

variable {h : HandleId} {b : BridgeId} {source : Source} {c c' : Course}

/-- **A subscription is registered** under a key, and has come no further than to its end. -/
def Registered (h : HandleId) (b : BridgeId) (source : Source) (key : Option Nat)
    (stages : List Event) : Prop :=
  stages = [.subscribing h b source, .attaching h source, .registered h source key] ∨
    ∃ warm, stages = stagesOf h b source key warm ∨
      stages = stagesOf h b source key warm ++ [.concluded h]

/-- **The invariant of a subscription**: nothing is run for it before it is registered; from then on
    the undoing of the registration is in place, or was run. -/
inductive Kept (h : HandleId) (b : BridgeId) (source : Source) : Course → Prop
  | early {disposed : Bool} {stages : List Event}
      (hs : stages = [.subscribing h b source] ∨
        stages = [.subscribing h b source, .attaching h source]) :
      Kept h b source ⟨disposed, none, stages, []⟩
  | withdrawn {stages : List Event}
      (hs : stages = [.subscribing h b source, .withdrawn h] ∨
        stages = [.subscribing h b source, .withdrawn h, .concluded h]) :
      Kept h b source ⟨true, none, stages, []⟩
  | standing {key : Option Nat} {stages : List Event} (hs : Registered h b source key stages) :
      Kept h b source ⟨false, some (.detach source key), stages, []⟩
  | undone {key : Option Nat} {stages : List Event} (hs : Registered h b source key stages) :
      Kept h b source ⟨true, none, stages, [.detach source key]⟩

/-- What has come to an end takes no further stage. -/
theorem Registered.attached {key key' : Option Nat} {b' : BridgeId} {source' : Source}
    {stages : List Event} (hr : Registered h b source key stages)
    (hs : stages = [.subscribing h b' source', .attaching h source', .registered h source' key'])
    (warm : Bool) : Registered h b source key (stages ++ [.attached h key' warm]) := by
  obtain rfl | ⟨_, rfl | rfl⟩ := hr
  · cases hs
    exact .inr ⟨warm, .inl rfl⟩
  · cases hs
  · cases hs

theorem Registered.conclude {key : Option Nat} {b' : BridgeId} {source' : Source}
    {stages : List Event} (hr : Registered h b source key stages)
    (hs : stages = [.subscribing h b' source', .withdrawn h] ∨
      ∃ key warm, stages = stagesOf h b' source' key warm) :
    Registered h b source key (stages ++ [.concluded h]) := by
  obtain hs | ⟨_, _, hs⟩ := hs <;> obtain rfl | ⟨warm, rfl | rfl⟩ := hr <;> cases hs
  exact .inr ⟨_, .inr rfl⟩

/-- **Every step keeps the invariant.** -/
theorem Step.kept (hk : c.Kept h b source) (hs : Step h c c') : c'.Kept h b source := by
  cases hs with
  | dispose hd =>
    cases hk with
    | early hs => exact .early hs
    | withdrawn => cases hd
    | standing hs => exact .undone hs
    | undone => cases hd
  | withdraw hs hd =>
    cases hk with
    | early hs' =>
      obtain rfl | rfl := hs' <;> cases hs
      obtain rfl := hd
      exact .withdrawn (.inl rfl)
    | withdrawn hs' => obtain rfl | rfl := hs' <;> cases hs
    | standing hs' | undone hs' => obtain rfl | ⟨_, rfl | rfl⟩ := hs' <;> cases hs
  | attach hs =>
    cases hk with
    | early hs' =>
      obtain rfl | rfl := hs' <;> cases hs
      exact .early (.inr rfl)
    | withdrawn hs' => obtain rfl | rfl := hs' <;> cases hs
    | standing hs' | undone hs' => obtain rfl | ⟨_, rfl | rfl⟩ := hs' <;> cases hs
  | register key hs hd =>
    cases hk with
    | early hs' =>
      obtain rfl | rfl := hs' <;> cases hs
      obtain rfl := hd
      exact .standing (.inl rfl)
    | withdrawn | undone => cases hd
    | standing hs' => obtain rfl | ⟨_, rfl | rfl⟩ := hs' <;> cases hs
  | registerLate key hs hd =>
    cases hk with
    | early hs' =>
      obtain rfl | rfl := hs' <;> cases hs
      obtain rfl := hd
      exact .undone (.inl rfl)
    | withdrawn hs' => obtain rfl | rfl := hs' <;> cases hs
    | standing => cases hd
    | undone hs' => obtain rfl | ⟨_, rfl | rfl⟩ := hs' <;> cases hs
  | attached warm hs =>
    cases hk with
    | early hs' | withdrawn hs' => obtain rfl | rfl := hs' <;> cases hs
    | standing hs' => exact .standing (hs'.attached hs warm)
    | undone hs' => exact .undone (hs'.attached hs warm)
  | conclude hs =>
    cases hk with
    | early hs' => obtain rfl | rfl := hs' <;> obtain hs | ⟨_, _, hs⟩ := hs <;> cases hs
    | withdrawn hs' =>
      obtain rfl | rfl := hs' <;> obtain hs | ⟨_, _, hs⟩ := hs <;> cases hs
      exact .withdrawn (.inr rfl)
    | standing hs' => exact .standing (hs'.conclude hs)
    | undone hs' => exact .undone (hs'.conclude hs)

/-- Any number of steps keeps the invariant. -/
theorem Kept.steps (hk : c.Kept h b source) (hs : Relation.ReflTransGen (Step h) c c') :
    c'.Kept h b source := by
  induction hs with
  | refl => exact hk
  | tail _ hs ih => exact hs.kept ih

end Course

variable {σ τ α : Type} {m : Manners} {v w : Toolkit σ} {h k : HandleId} {b : BridgeId}
  {source : Source}

namespace Toolkit

/-- The course of the subscription with a handle. -/
def course (w : Toolkit σ) (h : HandleId) : Course where
  disposed := w.disposed h
  action := (w.handles.get h).action
  stages := milestones h w.journal
  releases := releases h w.journal

/-- A change that leaves a handle alone and says nothing of it. -/
theorem course_eq (es : List Event) (journal : w.journal = (v.notedAll es).journal)
    (hes : ∀ e ∈ es, e.handle? ≠ some h) (handle : w.handles.get h = v.handles.get h) :
    w.course h = v.course h := by
  have hm : es.filterMap (milestone? h) = [] :=
    List.filterMap_eq_nil_iff.mpr fun e he => milestone?_of_handle?_ne (hes e he)
  have hr : es.filterMap (release? h) = [] :=
    List.filterMap_eq_nil_iff.mpr fun e he => release?_of_handle?_ne (hes e he)
  simp only [course, disposed, handle, journal, milestones_notedAll, releases_notedAll, hm, hr,
    List.append_nil]

/-- What is noted of the stages of a subscription adds to its course. -/
theorem course_noted (w : Toolkit σ) {e : Event} (he : subscription? e = some h) :
    (w.noted e).course h = { w.course h with stages := (w.course h).stages ++ [e] } := by
  have hm : milestone? h e = some e := if_pos he
  have hr : release? h e = none := by cases e <;> first | rfl | cases he
  have hreleases : releases h (w.noted e).journal = releases h w.journal := by
    rw [releases, journal_noted, collect_cons, hr]
    exact List.append_nil _
  simp only [course, milestones_noted, hm, hreleases]
  rfl

/-- An action is put in place, or run at once. -/
theorem course_arming (w : Toolkit σ) (h : HandleId) (action : Release) :
    (w.arming h action).course h =
      if w.disposed h then { w.course h with releases := (w.course h).releases ++ [action] }
      else { w.course h with action := some action } := by
  simp only [course, disposed_arming, get_arming, journal_arming, milestones_notedAll,
    releases_notedAll]
  by_cases d : w.disposed h = true <;>
    simp [d, List.filterMap_cons, milestone?, subscription?, release?]

/-- The handle is marked, and what was in place is run. -/
theorem course_disposing (w : Toolkit σ) (h : HandleId) :
    (w.disposing h).course h =
      { w.course h with disposed := true, action := none,
                        releases := (w.course h).releases ++ (w.course h).action.toList } := by
  simp only [course, disposed_disposing, get_disposing, journal_disposing, milestones_notedAll,
    releases_notedAll, if_true]
  cases (w.handles.get h).action <;>
    simp [List.filterMap_cons, milestone?, subscription?, release?]

theorem course_starting (w : Toolkit σ) (b : BridgeId) (signal : Signal) :
    (w.starting b signal).course h = w.course h :=
  course_eq _ (journal_starting w b signal) (by simp [Event.handle?, subscription?]) rfl

/-- A widget registers an open subscription. -/
theorem course_registering (w : Toolkit σ) {binding : Binding} {owner : Nat} {judge : Judge}
    (hd : w.disposed h = false) :
    (w.registering h b binding owner judge).course h =
      { w.course h with
        action := some (.detach (.widget binding owner judge) (w.keyOf b binding owner judge))
        stages := (w.course h).stages ++
          [.registered h (.widget binding owner judge) (w.keyOf b binding owner judge)] } := by
  rw [registering, course_arming, if_neg (by rw [← Bool.not_eq_true] at hd; exact hd),
    course_noted _ rfl]
  rfl

end Toolkit

/-- **A step of the library is any number of steps of each subscription**, as long as the handle is
    given no action of the client's. -/
theorem Step.course (hs : v.Sound) (h : Step m v w) (hk : v.HasHandle k)
    (ha : ∀ n, ¬ Occurred (.armed k (.client n)) w.journal) :
    Relation.ReflTransGen (Course.Step k) (v.course k) (w.course k) := by
  -- a registration with a widget, and that it is in place
  have hregister : ∀ {c binding owner judge} (warm : Bool),
      milestones k v.journal = [.subscribing k c (.widget binding owner judge),
        .attaching k (.widget binding owner judge)] → v.disposed k = false →
      Relation.ReflTransGen (Course.Step k) (v.course k)
        (((v.registering k c binding owner judge).noted
          (.attached k (v.keyOf c binding owner judge) warm)).course k) := by
    intro c binding owner judge warm hm hd
    rw [Toolkit.course_noted _ rfl, Toolkit.course_registering v hd]
    have hstages : (v.course k).stages ++ [.registered k (.widget binding owner judge)
        (v.keyOf c binding owner judge)] = [.subscribing k c (.widget binding owner judge),
          .attaching k (.widget binding owner judge),
          .registered k (.widget binding owner judge) (v.keyOf c binding owner judge)] :=
      congrArg (· ++ _) hm
    exact .tail (.single (.register _ hm hd)) (.attached warm hstages)
  cases h.treats hs k with
  | apart es hj hes hh => rw [Toolkit.course_eq es hj hes hh]
  | made es hnew => exact absurd (hnew ▸ hk) hs.not_hasHandle_next
  | disposed hd =>
    rw [Toolkit.course_disposing]
    exact .single (.dispose hd)
  | @armed n =>
    refine absurd ?_ (ha n)
    rw [Toolkit.journal_arming, Toolkit.occurred_notedAll]
    exact .inl List.mem_cons_self
  | withdrawn hm hd =>
    rw [Toolkit.course_noted v rfl]
    exact .single (.withdraw hm hd)
  | attaching hm =>
    rw [Toolkit.course_noted v rfl]
    exact .single (.attach hm)
  | registered hm hd => exact hregister false hm hd
  | started hm hd =>
    rw [Toolkit.course_starting]
    exact hregister true hm hd
  | registeredClient hm =>
    rw [Toolkit.course_arming, Toolkit.course_noted v rfl]
    split
    · next hd => exact .single (.registerLate _ hm hd)
    · next hd =>
      rw [Bool.not_eq_true] at hd
      exact .single (.register _ hm hd)
  | attached warm hm =>
    rw [Toolkit.course_noted v rfl]
    exact .single (.attached warm hm)
  | concluded hm =>
    rw [Toolkit.course_noted v rfl]
    exact .single (.conclude hm)

/-- **Subscriptions are tidy**: each whose handle was given no action of the client's keeps its
    invariant. -/
def Toolkit.Tidy (w : Toolkit σ) : Prop :=
  ∀ h b source, Occurred (.subscribing h b source) w.journal →
    (∀ n, ¬ Occurred (.armed h (.client n)) w.journal) → (w.course h).Kept h b source

/-- A new subscription has nothing behind it. -/
theorem Toolkit.Sound.course_subscribing (hs : w.Sound) (source : Source) (observer : Observer) :
    (w.subscribing source observer).course w.handles.next =
      ⟨false, none, [.subscribing w.handles.next w.bridges.next source], []⟩ := by
  have hhandle : (w.opening observer).handles.get w.handles.next = {} := by
    change ((w.addingHandle {}).handles.find? w.handles.next).getD default = {}
    rw [hs.find?_addingHandle, if_pos rfl]
    rfl
  have hreleases : releases w.handles.next w.journal = [] := by
    refine List.eq_nil_iff_forall_not_mem.mpr fun action ha => ?_
    obtain ⟨e, ho, he⟩ := mem_collect.mp ha
    have hknown := hs.knows ho
    cases e with
    | releasing k =>
      simp only [release?] at he
      split at he
      · next e => exact hs.not_hasHandle_next (e ▸ hknown)
      · cases he
    | _ => cases he
  rw [subscribing, course_starting, course_noted _ rfl]
  simp only [course, disposed, hhandle, journal_opening, hreleases,
    hs.milestones_eq_nil hs.not_hasHandle_next]
  rfl

/-- **Every step keeps subscriptions tidy.** -/
theorem Step.tidy (hs : v.Sound) (hv : v.Tidy) (h : Step m v w) : w.Tidy := by
  intro k c source ho ha
  have hold : Occurred (.subscribing k c source) v.journal → (w.course k).Kept k c source := by
    intro ho
    obtain ⟨hc, hck⟩ := hs.knows ho
    have hkept := hv k c source ho fun n hn => ha n (hn.mono h.grows.journal)
    exact hkept.steps (h.course hs (hck ▸ hs.owned hc) ha)
  obtain ho' | ⟨rfl, rfl, observer, rfl⟩ := h.occurred_subscribing hs ho
  · exact hold ho'
  · rw [hs.course_subscribing]
    exact .early (.inl rfl)

theorem Steps.tidy {w : Toolkit Unit} (h : Steps m Toolkit.fresh w) : w.Tidy :=
  h.invariant (fun _ _ _ ho => absurd ho (not_occurred_nil _)) fun hv ih h =>
    h.tidy hv.sound_of_fresh ih

/-- **What the journal tells of a registration** with `source` under the handle `h`. -/
structure Toolkit.Undoes (w : Toolkit σ) (h : HandleId) (source : Source) : Prop where
  /-- The source is called to register once at most. -/
  once : attachings h w.journal = [] ∨ attachings h w.journal = [source]
  /-- The registration is undone once at most, and nothing else is done for the handle. -/
  released : releases h w.journal = [] ∨ ∃ key, releases h w.journal = [.detach source key]
  /-- It is undone with the key that was given out for it, and after that. -/
  after : Guarded (fun earlier e => ∀ action, e = .releasing h action →
    ∃ key, action = .detach source key ∧ Occurred (.registered h source key) earlier) w.journal
  /-- While the handle is not disposed, it is not undone. -/
  standing : w.disposed h = false → releases h w.journal = []
  /-- When the handle is disposed and the subscribing call is back, it is undone, if it was made. -/
  undone : w.disposed h = true → Occurred (.concluded h) w.journal →
    attachings h w.journal = [] ∨ ∃ key, releases h w.journal = [.detach source key]

theorem Course.Registered.attachings {h : HandleId} {b : BridgeId} {source : Source}
    {key : Option Nat} {stages : List Event} (hr : Registered h b source key stages) :
    (stages.filterMap fun e => match e with
      | .attaching _ source => some source
      | _ => none) = [source] := by
  obtain rfl | ⟨warm, rfl | rfl⟩ := hr <;> rfl

/-- A tidy subscription is undone. -/
theorem Toolkit.Tidy.undoes (hw : w.Tidy) (hb : w.Backed)
    (ho : Occurred (.subscribing h b source) w.journal)
    (ha : ∀ n, ¬ Occurred (.armed h (.client n)) w.journal) : w.Undoes h source := by
  have hkept := hw h b source ho ha
  generalize hc : w.course h = c at hkept
  obtain ⟨disposed, action, stages, released⟩ := c
  simp only [course, Course.mk.injEq] at hc
  obtain ⟨hdisposed, haction, hstages, hreleases⟩ := hc
  have hreleased : releases h w.journal = [] ∨
      ∃ key, releases h w.journal = [.detach source key] := by
    rw [hreleases]
    cases hkept with
    | early | withdrawn | standing => exact .inl rfl
    | @undone key => exact .inr ⟨key, rfl⟩
  have hattachings : attachings h w.journal = [] ∨ attachings h w.journal = [source] := by
    rw [attachings, hstages]
    cases hkept with
    | early hs =>
      obtain rfl | rfl := hs
      · exact .inl rfl
      · exact .inr rfl
    | withdrawn hs => obtain rfl | rfl := hs <;> exact .inl rfl
    | standing hs => exact .inr hs.attachings
    | undone hs => exact .inr hs.attachings
  refine ⟨hattachings, hreleased, ?_, fun hd => ?_, fun hd hconcluded => ?_⟩
  · rintro later x earlier hj action he
    have hmem : action ∈ releases h w.journal := by
      refine mem_collect.mpr ⟨x.event, ⟨x, ?_, rfl⟩, ?_⟩
      · rw [hj]
        simp
      · rw [he]
        exact if_pos rfl
    obtain hnone | ⟨key, hsome⟩ := hreleased
    · rw [hnone] at hmem
      cases hmem
    · rw [hsome] at hmem
      obtain rfl := List.mem_singleton.mp hmem
      exact ⟨key, rfl, hb.released later x earlier hj h source key he⟩
  · rw [hreleases]
    rw [hdisposed] at hd
    cases hkept with
    | early | standing => rfl
    | withdrawn | undone => cases hd
  · have hlast : Event.concluded h ∈ stages := by
      rw [← hstages]
      exact mem_milestones.mpr ⟨hconcluded, rfl⟩
    rw [attachings, hstages, hreleases]
    rw [hdisposed] at hd
    cases hkept with
    | early hs => obtain rfl | rfl := hs <;> simp at hlast
    | withdrawn hs => obtain rfl | rfl := hs <;> exact .inl rfl
    | standing => cases hd
    | @undone key => exact .inr ⟨key, rfl⟩

namespace Code

/-- **Registrations are undone**: at every moment of every run, whatever client code does meanwhile,
    as long as it gives the handle no other action. -/
theorem registrations_undone {code : Code m τ} {depth : Nat} {own : τ}
    {program : Program m τ True True α} {w : Toolkit Unit}
    (hw : w ∈ code.moments depth own program)
    (ho : Occurred (.subscribing h b source) w.journal) (ha : rearmed h w.journal = false) :
    w.Undoes h source :=
  have hsteps := reachable hw
  hsteps.tidy.undoes hsteps.backed ho (rearmed_eq_false.mp ha)

/-- Its source emits while it registers, its observer disposes at the first value, and undoing the
    registration panics. -/
def disposingInside : Code ⟨false, false, true, false⟩ Unit :=
  { quiet _ with
    attach := fun _ b => .call (.emit b .unit) (fun _ => rfl) id fun _ => .done (some 7)
    observe := fun _ signal =>
      match signal with
      | .next .unit => .call (.dispose 1) (fun _ => rfl) False.elim fun _ => .done ()
      | _ => .done ()
    detach := fun _ _ => .panic trivial "stuck" }

/-- Subscribe to a warm source of the client's own. -/
def subscribingWarm : Program m Unit True True Unit :=
  .making (.subscribe ⟨.client 0 .main, true⟩ (.client 0)) fun _ => .done ()

/-- A disposal in the midst of the registration is made good when the registration is over. -/
theorem registrations_undone_inside :
    ∃ w ∈ disposingInside.moments 5 () subscribingWarm,
      w.disposed 1 = true ∧ w.Undoes 1 (.client 0 .main) ∧
      releases 1 w.journal = [.detach (.client 0 .main) (some 7)] := by
  have hw := List.head_mem (l := disposingInside.moments 5 () subscribingWarm) (by decide)
  have ho : Occurred (.subscribing 1 1 (.client 0 .main))
      ((disposingInside.moments 5 () subscribingWarm).head (by decide)).journal :=
    ⟨⟨.main, .subscribing 1 1 (.client 0 .main)⟩, by decide, rfl⟩
  exact ⟨_, hw, by rfl, registrations_undone hw ho (by rfl), by rfl⟩

end Code

end WidgetStreams
