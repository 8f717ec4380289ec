import WidgetStreams.Proofs.Callbacks
import WidgetStreams.Proofs.Edits
import WidgetStreams.Proofs.Feeds

/-!
# Text change events rebuild the text

This file proves that the events of the edits of a text rebuild it for a
subscriber that is the only one to be told of them: each event says what was
replaced in the text of the event before, however deep the subscriber nests
edits in its own callbacks.

## Main definitions

- `Rebuilds` — events lead from a text to another one
- `History.hearing` — the text with which a subscription started, and what its listener was told
- `History.Alone` — a subscription starts between two edits, and alone is told of those after it
- `Retelling` — where the edits of a text stand with a listener that alone is told of them

## Main results

- `History.retold` — the events that a listener was told of rebuild the text
- `Step.credited` — every step keeps what a subscriber took in accord with what it was told
- `Code.texts_rebuilt` — what a subscriber receives rebuilds the text

## Design notes

A listener that hands events to a bridge heeds only that the text has changed. So
another edit begins only after it was told of the one before: the events come in
the order of the changes, and each edit is made in the text that it found.
-/

namespace WidgetStreams

open History UI

variable {σ τ α : Type} {m : Manners} {v n : ViewId} {h k : HandleId} {b : BridgeId}
  {judge : Judge} {j : List Entry} {text shown : String}

/-- **Events of edits rebuild a text** from another one: each says what was replaced in the text of
    the event before. -/
inductive Rebuilds (v : ViewId) : String → List Payload → String → Prop
  | refl (text : String) : Rebuilds v text [] text
  | tail {text old new : String} {changes : List Payload} {start before count : Nat}
      (h : Rebuilds v text changes old) (hs : Spliced old start before count new) :
      Rebuilds v text (changes ++ [.textChange v new start before count]) new

-- ════════════════════════════════════════════════════════════════════════
-- What a listener is told that alone is told
-- ════════════════════════════════════════════════════════════════════════

/-- The payload that a subscriber to the events of edits receives for a native event. -/
abbrev NativeEvent.change (e : NativeEvent) : Option Payload := Binding.textEvents.payload? e

namespace History

/-- The native event of which an event says that the listener of a bridge was told. -/
def heardBy? (b : BridgeId) : Event → Option NativeEvent
  | .heard (.forward _ bridge _) e => if bridge = b then some e else none
  | _ => none

/-- **What the listener of a subscription heard** since the subscription started with a value, and
    the text of its view by then. -/
def hearing (h : HandleId) (b : BridgeId) (v : ViewId) :
    List Entry → Option (String × List NativeEvent)
  | [] => none
  | x :: earlier =>
    if warms h x.event = true then some (textOf v earlier, [])
    else (hearing h b v earlier).map fun s => (s.1, s.2 ++ (heardBy? b x.event).toList)

/-- The listeners that an edit of a text is to tell, if an event says that one begins. -/
def audience? (v : ViewId) : Event → Option (List Listener)
  | .operating p ls => if p = ⟨.watcher, v⟩ then some ls else none
  | _ => none

/-- **A subscription is alone with a text**: it starts when no edit is running, and the edits that
    begin after that are to tell its listener and nobody else. -/
def Alone (v : ViewId) (h : HandleId) (l : Listener) (earlier : List Entry) (e : Event) : Prop :=
  (warms h e = true → drafts v earlier = []) ∧
    ∀ ls ∈ audience? v e, warmed h earlier = true → ls = [l]

instance (v : ViewId) (h : HandleId) (l : Listener) (j : List Entry) (e : Event) :
    Decidable (Alone v h l j e) := inferInstanceAs (Decidable (_ ∧ _))

theorem warmed_cons (x : Entry) : warmed h (x :: j) = (warms h x.event || warmed h j) := by
  rw [warmed, List.any_cons]
  congr 1

theorem hearing_isSome : (hearing h b v j).isSome = warmed h j := by
  induction j with
  | nil => rfl
  | cons x j ih =>
    rw [hearing, warmed_cons, ← ih]
    split
    · next hx => simp [hx]
    · next hx => simp [hx]

theorem hearing_eq_none (hw : warmed h j = false) : hearing h b v j = none := by
  rw [← Option.not_isSome_iff_eq_none, hearing_isSome, hw]
  exact Bool.false_ne_true

/-- What neither starts the subscription nor is told to its listener. -/
theorem hearing_cons {x : Entry} (hw : warms h x.event = false) (hx : heardBy? b x.event = none) :
    hearing h b v (x :: j) = hearing h b v j := by
  rw [hearing, if_neg (by rw [hw]; exact Bool.false_ne_true), hx]
  simp

end History

/-- The edit is to tell one listener and no other, and has not told it of a change before there was
    one. -/
structure Draft.IsFor (l : Listener) (d : Draft) : Prop where
  listeners : d.listeners = [l]
  calls : ∀ call ∈ d.calls, call.1 = l
  early : d.change = none → d.told = []

/-- **Where the edits of a text stand** with a listener that alone is told of them, when the first
    text is the one that it was told of last and the second one is the text as it is. The innermost
    edit may still have to tell it of what it changed; all others have done so. -/
structure Retelling (l : Listener) (last : String) (ds : List Draft) (now : String) : Prop where
  alone : ∀ d ∈ ds, d.IsFor l
  outer : ∀ d ∈ ds.tail, d.told ≠ []
  current : (∀ d ∈ ds.head?, d.told ≠ [] ∨ d.change = none) → last = now
  found : ∀ d ∈ ds.head?, d.told = [] → d.found = last
  changed : ∀ d ∈ ds.head?, ∀ old new, d.change = some (old, new) → d.told = [] →
    old = last ∧ new = now

namespace Retelling

variable {l : Listener} {last now : String} {d : Draft} {ds : List Draft} {e : NativeEvent}

theorem start (l : Listener) (now : String) : Retelling l now [] now :=
  ⟨nofun, nofun, fun _ => rfl, nofun, nofun⟩

/-- A listener that is being told of what it heeds is told of a change. -/
theorem told_of_inside (hd : d.IsFor (.forward .textEvents b judge)) (hi : d.Inside) :
    d.told ≠ [] := by
  obtain ⟨l, e, rest, hcalls, hheeds⟩ := hi
  obtain rfl : l = .forward .textEvents b judge := hd.calls (l, e) (by rw [hcalls]; exact .head _)
  cases e with
  | textChanged view text start before count => simp [Draft.told, hcalls, Draft.toldOf]
  | _ => cases hheeds

/-- **An edit begins**, on its own or while the listener is told of another one. -/
theorem begin (hr : Retelling (.forward .textEvents b judge) last ds now)
    (hi : ∀ d ∈ ds.head?, d.Inside) : Retelling (.forward .textEvents b judge) last
      ({ listeners := [.forward .textEvents b judge], found := now } :: ds) now := by
  have htold : ∀ d ∈ ds.head?, d.told ≠ [] := fun d hd =>
    told_of_inside (hr.alone d (List.mem_of_mem_head? hd)) (hi d hd)
  have hcurrent : last = now := hr.current fun d hd => .inl (htold d hd)
  have hall : ∀ d ∈ ds, d.told ≠ [] := by
    cases ds with
    | nil => nofun
    | cons d ds => exact List.forall_mem_cons.mpr ⟨htold d rfl, hr.outer⟩
  exact {
    alone := List.forall_mem_cons.mpr ⟨⟨rfl, by simp, fun _ => rfl⟩, hr.alone⟩
    outer := hall
    current := fun _ => hcurrent
    found := by
      rintro _ ⟨⟩ -
      exact hcurrent.symm
    changed := by
      rintro _ ⟨⟩ old new h
      cases h }

theorem isFor_after (hd : d.IsFor l) (he : d.change = none → Draft.toldOf (l, e) = none) :
    (d.after [l] e).IsFor l where
  listeners := hd.listeners
  calls := by
    rintro call hc
    obtain rfl | hc := List.mem_cons.mp hc
    · rfl
    · exact hd.calls call hc
  early hn := by
    rw [Draft.told_after, hd.early hn]
    simp [he hn]

/-- **The listener is told** of something else than the change. -/
theorem call (hr : Retelling l last (d :: ds) now) (he : Draft.toldOf (l, e) = none) :
    Retelling l last (d.after [l] e :: ds) now := by
  have htold : (d.after [l] e).told = d.told := by
    rw [Draft.told_after]
    simp [he]
  obtain ⟨hd, hds⟩ := List.forall_mem_cons.mp hr.alone
  refine ⟨List.forall_mem_cons.mpr ⟨isFor_after hd fun _ => he, hds⟩, hr.outer, fun hc => ?_,
    ?_, ?_⟩
  · refine hr.current ?_
    rintro _ ⟨⟩
    exact htold ▸ hc _ rfl
  · rintro _ ⟨⟩ h
    exact hr.found d rfl (htold ▸ h)
  · rintro _ ⟨⟩ old new hc h
    exact hr.changed d rfl old new hc (htold ▸ h)

/-- **The listener is told of the change**: it is one of the text that it was told of last. -/
theorem tell (hr : Retelling l last (d :: ds) now) {text : String} {start before count : Nat}
    (hl : d.Admits v l (.textChanged v text start before count)) :
    Spliced last start before count text ∧
      Retelling l text (d.after [l] (.textChanged v text start before count) :: ds) now := by
  obtain ⟨-, old, hchange, -, -, hspliced, hturn⟩ := hl
  obtain ⟨hd, hds⟩ := List.forall_mem_cons.mp hr.alone
  have hnone : d.told = [] := by
    rw [hd.listeners] at hturn
    have hlength := hturn.length_le
    simpa using hlength
  obtain ⟨rfl, rfl⟩ := hr.changed d rfl old text hchange hnone
  have hfound : d.found = old := hr.found d rfl hnone
  have htold : (d.after [l] (.textChanged v text start before count)).told ≠ [] := by
    rw [Draft.told_after_changed]
    simp
  refine ⟨hspliced (by rw [hfound]), List.forall_mem_cons.mpr ⟨isFor_after hd ?_, hds⟩, hr.outer,
    fun _ => rfl, ?_, ?_⟩
  · intro hn
    rw [hn] at hchange
    cases hchange
  · rintro _ ⟨⟩ h
    exact absurd h htold
  · rintro _ ⟨⟩ _ _ - h
    exact absurd h htold

/-- **The text is changed.** -/
theorem alter (hr : Retelling l last (d :: ds) now) (hd : d.change = none) (new : String) :
    Retelling l last (d.alter now new :: ds) new := by
  obtain ⟨hfor, hds⟩ := List.forall_mem_cons.mp hr.alone
  have hcurrent : last = now := hr.current (by rintro _ ⟨⟩; exact .inr hd)
  have hnone : (d.alter now new).told = [] := hfor.early hd
  refine ⟨List.forall_mem_cons.mpr ⟨⟨hfor.listeners, hfor.calls, nofun⟩, hds⟩, hr.outer,
    fun hc => ?_, ?_, ?_⟩
  · obtain h | h := hc _ rfl
    · exact absurd hnone h
    · cases h
  · rintro _ ⟨⟩ -
    exact hr.found d rfl hnone
  · rintro _ ⟨⟩ _ _ ⟨⟩ -
    exact ⟨hcurrent.symm, rfl⟩

/-- **An edit is over.** -/
theorem finish (hr : Retelling l last (d :: ds) now) (hd : d.Settled) :
    Retelling l last ds now := by
  obtain ⟨hfor, hds⟩ := List.forall_mem_cons.mp hr.alone
  have hcurrent : last = now := by
    refine hr.current ?_
    rintro _ ⟨⟩
    by_cases hn : d.change = none
    · exact .inr hn
    · refine .inl ((hd hn).resolve_left ?_)
      rw [hfor.listeners]
      nofun
  have htold : ∀ d ∈ ds.head?, d.told ≠ [] := fun d hd => hr.outer d (List.mem_of_mem_head? hd)
  exact ⟨hds, fun d hd => hr.outer d (List.mem_of_mem_tail hd), fun _ => hcurrent,
    fun d hd h => absurd h (htold d hd), fun d hd _ _ _ h => absurd h (htold d hd)⟩

end Retelling

/-- The listeners that an edit is to tell are those for whom it began. -/
theorem History.listeners_of_mem_drafts {x : Entry} {d : Draft} (hd : d ∈ drafts v (x :: j)) :
    x.event = .operating ⟨.watcher, v⟩ d.listeners ∨
      ∃ d' ∈ drafts v j, d'.listeners = d.listeners := by
  have hhead : ∀ {f : Draft → Draft}, (∀ d, (f d).listeners = d.listeners) →
      d ∈ (drafts v j).modifyHead f → ∃ d' ∈ drafts v j, d'.listeners = d.listeners := by
    intro f hf hd
    cases hds : drafts v j with
    | nil =>
      rw [hds] at hd
      cases hd
    | cons d' ds =>
      rw [hds] at hd
      obtain rfl | hd := List.mem_cons.mp hd
      · exact ⟨d', .head _, (hf d').symm⟩
      · exact ⟨d, .tail _ hd, rfl⟩
  by_cases hx : x.event.Concerns v
  · obtain ⟨t, e⟩ := x
    cases e with
    | operating q ls =>
      obtain rfl : q = ⟨.watcher, v⟩ := hx
      rw [drafts_operating] at hd
      obtain rfl | hd := List.mem_cons.mp hd
      · exact .inl rfl
      · exact .inr ⟨d, hd, rfl⟩
    | heard l e =>
      rw [drafts_heard hx] at hd
      exact .inr (hhead (f := fun d => d.after [l] e) (fun _ => rfl) hd)
    | altered q value =>
      obtain rfl : q = ⟨.watcher, v⟩ := hx
      cases value with
      | text new =>
        rw [drafts_altered] at hd
        exact .inr (hhead (f := fun d => d.alter (textOf v j) new) (fun _ => rfl) hd)
      | _ => exact .inr ⟨d, hd, rfl⟩
    | operated q =>
      obtain rfl : q = ⟨.watcher, v⟩ := hx
      rw [drafts_operated] at hd
      exact .inr ⟨d, List.mem_of_mem_tail hd, rfl⟩
    | _ => cases hx
  · rw [(unconcerned hx).2.1] at hd
    exact .inr ⟨d, hd, rfl⟩

/-- Whoever an edit is to tell was there when some edit began. -/
theorem History.exists_operating_of_draft {l : Listener} {d : Draft} (hd : d ∈ drafts v j)
    (hl : l ∈ d.listeners) : ∃ ls, l ∈ ls ∧ Occurred (.operating ⟨.watcher, v⟩ ls) j := by
  induction j generalizing d with
  | nil => cases hd
  | cons x j ih =>
    obtain hx | ⟨d', hd', heq⟩ := listeners_of_mem_drafts hd
    · exact ⟨_, hl, occurred_cons.mpr (.inl hx)⟩
    · obtain ⟨ls, hls, ho⟩ := ih hd' (heq ▸ hl)
      exact ⟨ls, hls, occurred_cons.mpr (.inr ho)⟩

/-- **An event of the edits of a text**: if it is that the listener is told of a change, this is one
    of the text that it was told of last. -/
theorem Retelling.next {x : Entry} {changes : List Payload} {last : String}
    (hr : Retelling (.forward .textEvents b judge) last (drafts v j) (textOf v j))
    (hreports : Reports v j x.event) (hx : x.event.Concerns v)
    (halone : ∀ ls, x.event = .operating ⟨.watcher, v⟩ ls → ls = [.forward .textEvents b judge])
    (hchanges : Rebuilds v text changes last) :
    ∃ last', Rebuilds v text
        (changes ++ (heardBy? b x.event).toList.filterMap NativeEvent.change) last' ∧
      Retelling (.forward .textEvents b judge) last' (drafts v (x :: j)) (textOf v (x :: j)) := by
  obtain ⟨t, e⟩ := x
  have hsilent : heardBy? b e = none → Rebuilds v text
      (changes ++ (heardBy? b e).toList.filterMap NativeEvent.change) last := by
    intro h
    rw [h]
    simpa using hchanges
  cases e with
  | operating q ls =>
    obtain rfl : q = ⟨.watcher, v⟩ := hx
    obtain rfl := halone ls rfl
    refine ⟨last, hsilent rfl, ?_⟩
    rw [drafts_operating]
    exact hr.begin (hreports rfl)
  | altered q value =>
    obtain rfl : q = ⟨.watcher, v⟩ := hx
    obtain ⟨d, ds, new, hds, hd, rfl⟩ := hreports rfl
    refine ⟨last, hsilent rfl, ?_⟩
    rw [drafts_altered, textOf_altered, hds]
    exact (hds ▸ hr).alter hd new
  | operated q =>
    obtain rfl : q = ⟨.watcher, v⟩ := hx
    obtain ⟨d, ds, hds, hd⟩ := hreports rfl
    refine ⟨last, hsilent rfl, ?_⟩
    rw [drafts_operated, hds]
    exact (hds ▸ hr).finish hd
  | heard l e =>
    obtain ⟨d, ds, hds, hadmits⟩ := hreports hx
    rw [hds] at hr
    rw [drafts_heard hx, hds]
    obtain rfl : l = .forward .textEvents b judge := by
      have hl := hadmits.1
      rw [(hr.alone d (.head _)).listeners] at hl
      exact List.mem_singleton.mp hl
    have hheard : heardBy? b (.heard (.forward .textEvents b judge) e) = some e := if_pos rfl
    rw [hheard]
    cases e with
    | textChanged view new start before count =>
      obtain rfl : view = v := Option.some.inj hx
      obtain ⟨hspliced, hr'⟩ := hr.tell hadmits
      exact ⟨new, hchanges.tail hspliced, hr'⟩
    | textChanging | textSettled =>
      refine ⟨last, ?_, hr.call rfl⟩
      change Rebuilds v text (changes ++ []) last
      rwa [List.append_nil]
    | _ => cases hx
  | _ => cases hx

/-- A listener is told of no change but those of its text. -/
theorem History.change_of_not_concerns {x : Entry} (hx : ¬ x.event.Concerns v)
    (hreports : ∀ n, Reports n j x.event)
    (hown : ∀ binding judge' e, Occurred (.heard (.forward binding b judge') e) (x :: j) →
      binding = .textEvents ∧ judge' = judge)
    (hplace : ∀ n ls, Occurred (.operating ⟨.watcher, n⟩ ls) (x :: j) →
      .forward .textEvents b judge ∈ ls → n = v) :
    (heardBy? b x.event).toList.filterMap NativeEvent.change = [] := by
  obtain ⟨t, e⟩ := x
  cases e with
  | heard l e =>
    cases l with
    | forward binding c judge' =>
      by_cases hc : c = b
      · subst hc
        obtain ⟨rfl, rfl⟩ := hown binding judge' e (occurred_cons.mpr (.inl rfl))
        have hheard : heardBy? c (.heard (.forward .textEvents c judge') e) = some e := if_pos rfl
        rw [hheard]
        cases e with
        | textChanged n text start before count =>
          obtain ⟨d, ds, hds, hl, -⟩ := hreports n rfl
          obtain ⟨ls, hls, ho⟩ := exists_operating_of_draft (hds ▸ List.mem_cons_self) hl
          obtain rfl := hplace n ls (occurred_cons.mpr (.inr ho)) hls
          exact absurd rfl hx
        | _ => rfl
      · have hheard : heardBy? b (.heard (.forward binding c judge') e) = none := if_neg hc
        rw [hheard]
        rfl
    | _ => rfl
  | _ => rfl

/-- **The events of edits rebuild the text**, which a listener was told that alone is told of them.
    The induction is on the journal. -/
theorem History.retold (hreports : ∀ n, Guarded (Reports n) j)
    (halone : Guarded (Alone v h (.forward .textEvents b judge)) j)
    (hown : ∀ binding judge' e, Occurred (.heard (.forward binding b judge') e) j →
      binding = .textEvents ∧ judge' = judge)
    (hplace : ∀ n ls, Occurred (.operating ⟨.watcher, n⟩ ls) j →
      .forward .textEvents b judge ∈ ls → n = v)
    {es : List NativeEvent} (hes : hearing h b v j = some (text, es)) :
    ∃ last, Rebuilds v text (es.filterMap NativeEvent.change) last ∧
      Retelling (.forward .textEvents b judge) last (drafts v j) (textOf v j) := by
  induction j generalizing es with
  | nil => cases hes
  | cons x j ih =>
    have hnow := fun n => (guarded_cons.mp (hreports n)).1
    obtain ⟨⟨hstart, hbegin⟩, halone⟩ := guarded_cons.mp halone
    have ih := @ih (fun n => (guarded_cons.mp (hreports n)).2) halone
      (fun binding judge' e ho => hown binding judge' e (occurred_cons.mpr (.inr ho)))
      (fun n ls ho => hplace n ls (occurred_cons.mpr (.inr ho)))
    by_cases hwarm : warms h x.event = true
    · -- the subscription starts
      have hx : ¬ x.event.Concerns v := by
        cases he : x.event <;> rw [he] at hwarm <;> first | exact not_false | cases hwarm
      rw [hearing, if_pos hwarm] at hes
      cases hes
      rw [(unconcerned hx).2.1, (unconcerned hx).1, hstart hwarm]
      exact ⟨_, .refl _, .start _ _⟩
    rw [hearing, if_neg hwarm] at hes
    obtain ⟨⟨text', es'⟩, hes', heq⟩ := Option.map_eq_some_iff.mp hes
    obtain ⟨rfl, rfl⟩ := Prod.mk.inj heq
    obtain ⟨last, hchanges, hr⟩ := ih hes'
    rw [List.filterMap_append]
    by_cases hx : x.event.Concerns v
    · have hwarmed : warmed h j = true := by rw [← hearing_isSome, hes']; rfl
      have hlisteners : ∀ ls, x.event = .operating ⟨.watcher, v⟩ ls →
          ls = [.forward .textEvents b judge] := fun ls he =>
        hbegin ls (by rw [he]; exact if_pos rfl) hwarmed
      exact hr.next (hnow v) hx hlisteners hchanges
    · -- the listener is told of no edit of another view
      have hnone : (heardBy? b x.event).toList.filterMap NativeEvent.change = [] :=
        change_of_not_concerns hx hnow hown hplace
      rw [hnone, List.append_nil, (unconcerned hx).2.1, (unconcerned hx).1]
      exact ⟨last, hchanges, hr⟩

-- ════════════════════════════════════════════════════════════════════════
-- What a subscriber takes
-- ════════════════════════════════════════════════════════════════════════

theorem History.textOf_cons {x : Entry} (hx : alteration? ⟨.watcher, v⟩ x.event = none) :
    textOf v (x :: j) = textOf v j := by
  obtain ⟨t, e⟩ := x
  cases e with
  | altered q value =>
    have hq : q ≠ ⟨.watcher, v⟩ := fun h => by simp [alteration?, h] at hx
    cases value <;> first | rfl | exact if_neg hq
  | _ => rfl

theorem alteration?_of_isStill {e : Event} {p : Point} (he : e.isStill = true) :
    alteration? p e = none := by
  cases e <;> first | rfl | cases he

/-- **What was taken accords with what was told**: nothing before the registration; and if the
    subscription started with a value, the text of that time and then what comes of the events of
    which the listener was told. -/
structure Accords (v : ViewId) (taken : List Payload) (registered : Bool)
    (heard : Option (String × List NativeEvent)) : Prop where
  early : registered = false → taken = []
  since : ∀ text es, heard = some (text, es) →
    taken = .textChange v text 0 0 0 :: es.filterMap NativeEvent.change

namespace Accords

variable {values : List Payload} {registered : Bool} {e : NativeEvent}
  {heard : Option (String × List NativeEvent)}

theorem start (v : ViewId) (text : String) :
    Accords v [.textChange v text 0 0 0] true (some (text, [])) where
  early := nofun
  since _ _ h := by
    cases h
    rfl

/-- The listener is told of what is none of a change. -/
theorem pass (h : Accords v values registered heard) (he : e.change = none) :
    Accords v values registered (heard.map fun s => (s.1, s.2 ++ [e])) where
  early := h.early
  since text es hes := by
    obtain ⟨⟨text', es'⟩, hheard, heq⟩ := Option.map_eq_some_iff.mp hes
    cases heq
    rw [List.filterMap_append, h.since text' es' hheard]
    simp [he]

/-- The listener is told of a change, and its bridge takes that. -/
theorem tell (h : Accords v values true heard) {value : Payload} (he : e.change = some value) :
    Accords v (values ++ [value]) true (heard.map fun s => (s.1, s.2 ++ [e])) where
  early := nofun
  since text es hes := by
    obtain ⟨⟨text', es'⟩, hheard, heq⟩ := Option.map_eq_some_iff.mp hes
    cases heq
    rw [List.filterMap_append, h.since text' es' hheard]
    simp [he]

end Accords

/-- **The journal credits a subscription** to the events of the edits of a text with what its
    listener was told. -/
abbrev History.Credits (h : HandleId) (b : BridgeId) (v : ViewId) (j : List Entry) : Prop :=
  Accords v (taken b j) (member ⟨.watcher, v⟩ h j) (hearing h b v j)

namespace Toolkit

/-- **Texts are what the journal says.** -/
def Inscribed (w : Toolkit σ) : Prop := ∀ v, w.screen.text v = textOf v w.journal

/-- **What subscribers to the events of edits took** accords with what their listeners were told, as
    long as they are not disposed. -/
def Credited (w : Toolkit σ) : Prop :=
  ∀ h b v judge, Occurred (.subscribing h b (.widget .textEvents v judge)) w.journal →
    w.closed b = false → Credits h b v w.journal

end Toolkit

theorem History.textOf_notedAll {w : Toolkit σ} {es : List Event}
    (hes : ∀ e ∈ es, alteration? ⟨.watcher, v⟩ e = none) :
    textOf v (w.notedAll es).journal = textOf v w.journal :=
  Toolkit.read_notedAll (fun e he _ _ hx => textOf_cons (hx ▸ hes e he)) w

section Steps

variable {w u : Toolkit σ}

/-- A text stays as it is if the screen and the journal say so. -/
theorem Toolkit.Inscribed.same (hw : w.Inscribed) (es : List Event)
    (hj : u.journal = (w.notedAll es).journal) (hes : ∀ e ∈ es, alteration? ⟨.watcher, v⟩ e = none)
    (hs : u.screen.current .texts v = w.screen.current .texts v) :
    u.screen.text v = textOf v u.journal := by
  rw [hj, textOf_notedAll hes, ← hw v]
  exact Payload.text.inj hs

/-- The registration of a subscription leaves texts as they are. -/
theorem Toolkit.Inscribed.registering (hw : w.Inscribed) {binding : Binding} {owner : Nat}
    (hd : w.disposed h = false) : (w.registering h b binding owner judge).Inscribed := fun _ =>
  hw.same _ (journal_registering _ _ _ _ _ _) (by simp [hd, alteration?])
    (shows_registering hd .texts _ (.inr rfl))

/-- **Every step keeps texts inscribed.** -/
theorem Step.inscribed (hw : w.Inscribed) (h : Step m w u) : u.Inscribed := by
  intro n
  cases h.redraws with
  | still es hj hes hshows =>
    exact hw.same es hj (fun e he => alteration?_of_isStill (hes e he))
      (hshows .texts n (.inr rfl))
  | turned _ turn hj hes =>
    refine hw.same _ hj (List.forall_mem_cons.mpr ⟨rfl, fun e he => ?_⟩)
      (turn.feeds .texts n rfl)
    exact alteration?_of_isStill (hes e he)
  | @altered s p value alteration =>
    by_cases hp : p = ⟨.watcher, n⟩
    · subst hp
      obtain rfl : Payload.text (s.text n) = value := alteration.shown .texts n rfl rfl
      exact textOf_altered.symm
    · refine hw.same (u := (w.showing s).noted (.altered p value)) [_] rfl ?_
        (alteration.elsewhere .texts n rfl (Ne.symm hp))
      simp [alteration?, hp]
  | flagged => exact hw.same [_] rfl (by simp [alteration?]) rfl

/-- What neither starts a subscription nor is told to its listener. -/
theorem History.hearing_notedAll {es : List Event}
    (hes : ∀ e ∈ es, warms h e = false ∧ heardBy? b e = none) :
    hearing h b v (w.notedAll es).journal = hearing h b v w.journal :=
  Toolkit.read_notedAll (fun e he _ _ hx =>
    hearing_cons (hx ▸ (hes e he).1) (hx ▸ (hes e he).2)) w

theorem heardBy?_of_isForeign {e : Event} (he : e.isForeign h b = true) : heardBy? b e = none := by
  cases e <;> first | rfl | cases he

theorem warms_of_spares {e : Event} (he : e.spares h b = true) : warms h e = false := by
  cases e with
  | attached handle key warm =>
    cases warm with
    | false => rfl
    | true => simpa [Event.spares, warms] using he
  | _ => rfl

/-- Entries that are none of a subscription leave it as it is. -/
theorem History.Credits.same (hc : Credits h b v w.journal) (es : List Event)
    (hj : u.journal = (w.notedAll es).journal)
    (hes : ∀ e ∈ es, e.spares h b = true ∧ heardBy? b e = none) : Credits h b v u.journal := by
  have hreflection : reflection ⟨.watcher, v⟩ h b .unit u.journal =
      reflection ⟨.watcher, v⟩ h b .unit w.journal := by
    rw [hj]
    exact reflection_notedAll fun e he => (hes e he).1
  have hhearing : hearing h b v u.journal = hearing h b v w.journal := by
    rw [hj]
    exact hearing_notedAll fun e he => ⟨warms_of_spares (hes e he).1, (hes e he).2⟩
  have htaken : taken b u.journal = taken b w.journal :=
    congrArg Reflection.taken hreflection
  have hmember : member ⟨.watcher, v⟩ h u.journal = member ⟨.watcher, v⟩ h w.journal :=
    congrArg Reflection.registered hreflection
  rw [Credits, htaken, hmember, hhearing]
  exact hc

theorem History.hearing_cons_heard {x : Entry} {binding : Binding} {e : NativeEvent}
    (hx : x.event = .heard (.forward binding b judge) e) :
    hearing h b v (x :: j) = (hearing h b v j).map fun s => (s.1, s.2 ++ [e]) := by
  rw [hearing, hx, if_neg (by exact Bool.false_ne_true)]
  simp [heardBy?]

/-- **Its listener is told** of what its bridge takes. -/
theorem History.Credits.tell (hc : Credits h b v w.journal)
    (hm : member ⟨.watcher, v⟩ h w.journal = true) (binding : Binding) (judge : Judge)
    {e : NativeEvent} {value : Payload} (he : e.change = some value) (queued : Bool) :
    Credits h b v (w.notedAll
      [.heard (.forward binding b judge) e, .accepted b (.next value) queued]).journal := by
  rw [Credits, hm] at hc
  simp only [Toolkit.notedAll_cons, Toolkit.notedAll_nil, Toolkit.journal_noted]
  rw [Credits, hearing_cons rfl rfl, hearing_cons_heard rfl, taken_cons_accepted]
  change Accords v (taken b w.journal ++ [value]) (member ⟨.watcher, v⟩ h w.journal) _
  rw [hm]
  exact Accords.tell hc he

/-- **Its listener is told** of what its bridge does not take. -/
theorem History.Credits.pass (hc : Credits h b v w.journal) {binding : Binding} {e : NativeEvent}
    (he : e.change = none) :
    Credits h b v (w.noted (.heard (.forward binding b judge) e)).journal := by
  rw [Credits, Toolkit.journal_noted, hearing_cons_heard rfl]
  exact Accords.pass hc he

/-- **Its bridge takes** what its listener is told, after entries that are none of it. -/
theorem History.Credits.taking (hc : Credits h b v w.journal) (pre : List Event)
    {binding : Binding} {e : NativeEvent} {value : Payload} {queued : Bool}
    (hpre : ∀ e ∈ pre, e.spares h b = true ∧ heardBy? b e = none)
    (hm : member ⟨.watcher, v⟩ h w.journal = true) (he : e.change = some value)
    (hj : u.journal = (w.notedAll
      (pre ++ ([.heard (.forward binding b judge) e] ++ takings b value queued))).journal) :
    Credits h b v u.journal := by
  have hbefore : Credits h b v (w.notedAll pre).journal := hc.same pre rfl hpre
  have hkept : reflection ⟨.watcher, v⟩ h b .unit (w.notedAll pre).journal =
      reflection ⟨.watcher, v⟩ h b .unit w.journal := reflection_notedAll fun e he => (hpre e he).1
  have htold :=
    hbefore.tell ((congrArg Reflection.registered hkept).trans hm) binding judge he queued
  refine htold.same (if queued then [] else [.began b (.next value)]) ?_ ?_
  · rw [hj, Toolkit.notedAll_append]
    simp only [takings, List.singleton_append, Toolkit.notedAll_cons, Toolkit.notedAll_nil]
  · cases queued <;> simp [Event.spares, heardBy?]

/-- **A subscription starts with a value**: the text of its view. -/
theorem History.Credits.registeringWarm (hw : w.Inscribed) (hd : w.disposed h = false)
    (hnone : taken b w.journal = []) :
    Credits h b v (((w.registering h b .textEvents v judge).noted
      (.attached h (w.keyOf b .textEvents v judge) true)).starting b
        (.next
          ((w.registering h b .textEvents v judge).screen.current .textEvents v))).journal := by
  have hmember :
      member ⟨.watcher, v⟩ h (w.registering h b .textEvents v judge).journal = true := by
    refine member_eq_true.mpr ⟨.textEvents, v, judge, w.keyOf b .textEvents v judge, ?_, rfl⟩
    rw [Toolkit.journal_registering, Toolkit.occurred_notedAll]
    exact .inl (.head _)
  have htaken : taken b (w.registering h b .textEvents v judge).journal = [] :=
    (Toolkit.taken_registering hd).trans hnone
  rw [Toolkit.journal_starting]
  simp only [Toolkit.notedAll_cons, Toolkit.notedAll_nil, Toolkit.journal_noted]
  rw [Credits, hearing_cons rfl rfl, hearing_cons rfl rfl, hearing, if_pos (by simp [warms])]
  change Accords v
    (taken b (⟨_, .accepted b (.next _) false⟩ :: (w.registering h b .textEvents v judge).journal))
    (member ⟨.watcher, v⟩ h (w.registering h b .textEvents v judge).journal) _
  rw [taken_cons_accepted, htaken, hmember, ← hw.registering hd v]
  exact .start v _

/-- **Every step keeps what subscribers took in accord with what their listeners were told**, if
    nobody else emits on the bridges of widgets. -/
theorem Step.credited (hev : m.everywhere = false) (hs : w.Sound) (hone : w.Single)
    (hw : w.Inscribed) (hc : w.Credited) (h : Step m w u) : u.Credited := by
  intro k b n judge how hopen
  obtain ho | ⟨rfl, rfl, observer, rfl⟩ := h.occurred_subscribing hs how
  swap
  · -- the subscription is new
    have hj := hs.reflection_subscribing (p := ⟨.watcher, n⟩) (.widget .textEvents n judge)
      observer .unit
    rw [reflection, Reflection.mk.injEq] at hj
    obtain ⟨htaken, hwarmed, hmember, -⟩ := hj
    rw [Credits, htaken, hmember, hearing_eq_none hwarmed]
    exact ⟨fun _ => rfl, fun _ _ h => by cases h⟩
  have hclosed := h.grows.closed (hs.knows ho).1 hopen
  have hcredits := hc k b n judge ho hclosed
  cases h.befalls hev hs hone ho with
  | quiet es hj hes =>
    exact hcredits.same es hj fun e he =>
      ⟨Event.spares_of_isForeign (hes e he), heardBy?_of_isForeign (hes e he)⟩
  | registered hm hd =>
    -- a subscription that does not start with a value has not been told of anything
    have htaken : taken b (w.registering k b .textEvents n judge).journal = [] :=
      (Toolkit.taken_registering hd).trans (hcredits.early (member_of_milestones hm))
    have hwarmed : warmed k (w.registering k b .textEvents n judge).journal = false :=
      (Toolkit.warmed_registering hd).trans (warmed_of_milestones hm)
    refine ⟨fun _ => htaken, fun text es hes => ?_⟩
    rw [Toolkit.journal_noted, hearing_cons rfl rfl, hearing_eq_none hwarmed] at hes
    cases hes
  | started hm hd =>
    exact Credits.registeringWarm hw hd (hcredits.early (member_of_milestones hm))
  | told _ _ _ hmember hvalue _ hj =>
    exact hcredits.taking [_] (by simp [Event.spares, heardBy?]) hmember hvalue hj
  | notified _ _ _ hmember hvalue hj =>
    exact hcredits.taking [] (by simp) hmember hvalue hj
  | @toldOther w q e c binding' judge' value queued hcb turn hcontent hj =>
    refine hcredits.same _ hj ?_
    cases queued <;> simp [takings, Event.spares, heardBy?, hcb]
  | @notifiedOther w e c binding' judge' value queued hcb hscreen hj =>
    refine hcredits.same _ hj ?_
    cases queued <;> simp [takings, Event.spares, heardBy?, hcb]
  | ignored hnone =>
    refine hcredits.pass (hnone.resolve_right ?_)
    rw [hclosed]
    exact Bool.false_ne_true
  | @heardOther l e hother =>
    refine hcredits.same [_] rfl (List.forall_mem_singleton.mpr ⟨rfl, ?_⟩)
    cases l with
    | forward binding' c judge' => simpa [heardBy?] using hother binding' judge'
    | _ => rfl
  | advanced | passed | operating | altered | operated | flagged =>
    exact hcredits.same [_] rfl (by simp [Event.spares, heardBy?])

end Steps

-- ════════════════════════════════════════════════════════════════════════
-- What subscribers receive
-- ════════════════════════════════════════════════════════════════════════

theorem Steps.inscribed {w : Toolkit Unit} (h : Steps m Toolkit.fresh w) : w.Inscribed :=
  h.invariant (fun _ => rfl) fun _ ih h => h.inscribed ih

theorem Steps.credited {w : Toolkit Unit} (hev : m.everywhere = false)
    (h : Steps m Toolkit.fresh w) : w.Credited :=
  h.invariant (fun _ _ _ _ ho => absurd ho (not_occurred_nil _)) fun hv ih h =>
    h.credited hev hv.sound_of_fresh hv.subscriptions_single hv.inscribed ih

/-- **What a subscriber receives rebuilds a text**: the one of the bridge `b`, from the text with
    which its subscription started. -/
structure Toolkit.Rebuilt (w : Toolkit σ) (h : HandleId) (b : BridgeId) (v : ViewId)
    (text : String) (changes : List Payload) (last : String) : Prop where
  started : (hearing h b v w.journal).map Prod.fst = some text
  /-- What it receives, by the time everything that waits is handed over, is that text and then the
      events of the edits. -/
  received : values b w.journal ++ (w.queue b).filterMap Signal.value? =
    .textChange v text 0 0 0 :: changes
  rebuilt : Rebuilds v text changes last
  /-- When no edit is running, they lead to the text as it is. -/
  current : drafts v w.journal = [] → last = w.screen.text v
  /-- Outside its own callbacks it has received all of them. -/
  settled : w.delivering b = none → values b w.journal = .textChange v text 0 0 0 :: changes

/-- The listener of a subscription alone is told of what its bridge takes, and only by the edits of
    its own text. -/
theorem Steps.rebuilt {w : Toolkit Unit} (hm : m.observersPanic = false)
    (hev : m.everywhere = false) (hw : Steps m Toolkit.fresh w)
    (hreports : ∀ n, Guarded (Reports n) w.journal)
    (ho : Occurred (.subscribing h b (.widget .textEvents v judge)) w.journal)
    (hwarm : warmed h w.journal = true) (hopen : w.closed b = false)
    (halone : Guarded (Alone v h (.forward .textEvents b judge)) w.journal) :
    ∃ text changes last, w.Rebuilt h b v text changes last := by
  have hs := hw.sound_of_fresh
  have hone := hw.subscriptions_single
  have hown : ∀ binding judge' e, Occurred (.heard (.forward binding b judge') e) w.journal →
      binding = .textEvents ∧ judge' = judge := by
    intro binding judge' e hheard
    obtain ⟨i, hi, henrolled⟩ := Guarded.occurred hw.hearsEnrolled hheard
    obtain ⟨owner, k, key, ⟨x, hx, hxe⟩, -⟩ := henrolled binding b judge' e rfl
    cases (hone.of_bridge hs ho ⟨x, hi.subset hx, hxe⟩).2
    exact ⟨rfl, rfl⟩
  have hplace : ∀ n ls, Occurred (.operating ⟨.watcher, n⟩ ls) w.journal →
      .forward .textEvents b judge ∈ ls → n = v := by
    intro n ls hoperating hls
    obtain ⟨i, hi, henrolled⟩ := Guarded.occurred hw.addressed hoperating
    obtain ⟨-, k, key, ⟨x, hx, hxe⟩, -⟩ := henrolled ⟨.watcher, n⟩ ls rfl .textEvents b judge hls
    cases (hone.of_bridge hs ho ⟨x, hi.subset hx, hxe⟩).2
    rfl
  obtain ⟨⟨text, es⟩, hes⟩ := Option.isSome_iff_exists.mp (hearing_isSome.trans hwarm)
  obtain ⟨last, hchanges, hretelling⟩ := retold hreports halone hown hplace hes
  have htaken : taken b w.journal = .textChange v text 0 0 0 :: es.filterMap NativeEvent.change :=
    (hw.credited hev h b v judge ho hopen).since text es hes
  obtain ⟨hreceived, hsettled⟩ := hw.taken_eq hm (hs.knows ho).1 hopen
  refine ⟨text, _, last, by rw [hes]; rfl, hreceived.symm.trans htaken, hchanges, fun hd => ?_,
    fun hd => (hsettled hd).symm.trans htaken⟩
  rw [hw.inscribed v]
  refine hretelling.current ?_
  rw [hd]
  nofun

namespace Code

variable {code : Code m τ} {depth : Nat} {own : τ} {program : Program m τ True True α}

/-- **The events of edits rebuild the text**, at every moment of every run and when it is over, for
    every subscriber to them that started with the text when no edit was running, is alone told of
    the edits since, and is not disposed, if observers do not panic. When the run is over, the
    events lead to the text as it is by then. -/
theorem texts_rebuilt (hm : m.observersPanic = false) (hev : m.everywhere = false) :
    (∀ w ∈ code.moments depth own program, ∀ h b v judge,
      Occurred (.subscribing h b (.widget .textEvents v judge)) w.journal →
      warmed h w.journal = true → w.closed b = false →
      Guarded (Alone v h (.forward .textEvents b judge)) w.journal →
        ∃ text changes last, w.Rebuilt h b v text changes last) ∧
    ∀ a u, code.outcome depth own program = .ok a u → ∀ h b v judge,
      Occurred (.subscribing h b (.widget .textEvents v judge)) u.journal →
      warmed h u.journal = true → u.closed b = false →
      Guarded (Alone v h (.forward .textEvents b judge)) u.journal →
        ∃ text changes, (hearing h b v u.journal).map Prod.fst = some text ∧
          values b u.journal = .textChange v text 0 0 0 :: changes ∧
          Rebuilds v text changes (u.screen.text v) := by
  obtain ⟨hmoments, hend, hover⟩ := code.written depth own program
  constructor
  · intro w hw h b v judge ho hwarm hopen halone
    exact (reachable hw).rebuilt hm hev (hmoments w hw).reported ho hwarm hopen halone
  · intro a u hr h b v judge ho hwarm hopen halone
    rw [hr] at hend hover
    obtain ⟨hsteps, hidle⟩ := idle hr
    obtain ⟨text, changes, last, hrebuilt⟩ :=
      hsteps.rebuilt hm hev hend.reported ho hwarm hopen halone
    have hlast : last = u.screen.text v := hrebuilt.current (hover v)
    exact ⟨text, changes, hrebuilt.started, hrebuilt.settled (hidle b), hlast ▸ hrebuilt.rebuilt⟩

/-- A subscriber to the edits of a text, which is then set and continued. -/
def drafting : Program m Unit True True Unit :=
  .making (.newView .main) fun v =>
    .making (.setText v "né") fun _ =>
      .making (.subscribe (.ofBinding .textEvents v .always) (.client 0)) fun _ =>
        .making (.setText v "x") fun _ => .making (.append v "e") fun _ => .done ()

/-- The subscriber sets the text to another one when it receives the first edit: it receives that
    edit before the one that comes after both. -/
theorem texts_rebuilt_redrafting :
    let code := reacting 0 (.textChange 1 "x" 0 2 1) (.setText 1 "été")
    (∃ w ∈ code.moments 5 () drafting, ∃ last,
      w.Rebuilt 1 1 1 "né" [.textChange 1 "x" 0 2 1, .textChange 1 "été" 0 1 3] last ∧
      w.queue 1 = [.next (.textChange 1 "été" 0 1 3)]) ∧
    ∃ a u, code.outcome 5 () drafting = .ok a u ∧
      Rebuilds 1 "né" [.textChange 1 "x" 0 2 1, .textChange 1 "été" 0 1 3,
        .textChange 1 "étée" 3 0 1] (u.screen.text 1) := by
  intro code
  constructor
  · have hw := List.get_mem (code.moments 5 () drafting) ⟨4, by decide +kernel⟩
    obtain ⟨text, changes, last, hrebuilt⟩ := (texts_rebuilt rfl rfl).1 _ hw 1 1 1 .always
      (by decide +kernel) (by decide +kernel) (by decide +kernel) (by decide +kernel)
    have hreceived := hrebuilt.received
    rw [show values 1 _ ++ List.filterMap _ _ = [.textChange 1 "né" 0 0 0,
      .textChange 1 "x" 0 2 1, .textChange 1 "été" 0 1 3] by decide +kernel] at hreceived
    cases hreceived
    exact ⟨_, hw, last, hrebuilt, by decide +kernel⟩
  · obtain ⟨a, u, hr, ho, hwarm, hopen, halone, hvalues⟩ := exists_of_test
      (r := code.outcome 5 () drafting) (P := fun u =>
        Occurred (.subscribing 1 1 (.widget .textEvents 1 .always)) u.journal ∧
          warmed 1 u.journal = true ∧ u.closed 1 = false ∧
          Guarded (Alone 1 1 (.forward .textEvents 1 .always)) u.journal ∧
          values 1 u.journal = [.textChange 1 "né" 0 0 0, .textChange 1 "x" 0 2 1,
            .textChange 1 "été" 0 1 3, .textChange 1 "étée" 3 0 1]) (by decide +kernel)
    obtain ⟨text, changes, -, hreceived, hrebuilds⟩ :=
      (texts_rebuilt rfl rfl).2 a u hr 1 1 1 .always ho hwarm hopen halone
    rw [hvalues] at hreceived
    cases hreceived
    exact ⟨a, u, hr, hrebuilds⟩

end Code

end WidgetStreams
