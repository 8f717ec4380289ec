import WidgetStreams.Proofs.Rounds

/-!
# What registries do for those who are registered

This file proves that where any number of listeners may be registered each
subscription keeps its listener until it is disposed, whatever happens to
others, and receives exactly the events of which its listener is told until
then; and that an edit or a move tells everybody who is registered when it
begins. Callbacks may dispose whomever they want to, also in the midst of a
round of calls, but they make no edits and no moves.

## Main definitions

- `Toolkit.Serves` — a registry serves those who are registered in it

## Main results

- `Steps.waited_eq_nil` — no signal has to wait if callbacks make no bridge take one
- `Steps.serves` — registries serve those who are registered wherever steps lead
- `Code.registries_serve_everybody` — so they do at every moment of every run
-/

namespace WidgetStreams

open History UI

variable {σ τ : Type} {m : Manners} {p : Point} {h : HandleId} {b : BridgeId}

/-- **No signal had to wait** if callbacks make no bridge take one. -/
theorem Steps.waited_eq_nil {w : Toolkit Unit} (hm : m.signals = false)
    (h : Steps m Toolkit.fresh w) : ∀ b, w.HasBridge b → waited b w.journal = [] := by
  refine h.invariant (I := fun w => ∀ b, w.HasBridge b → (w.ledger b).waited = [])
    (fun b hb => by cases hb) fun {v w} hv ih h b hb => ?_
  have hunqueued : (w.ledger b).queue = [] := h.unqueued hm (hv.unqueued hm) b
  obtain ⟨hb', heq | hstep⟩ | heq | ⟨k, heq⟩ := h.ledger_or hv.sound_of_fresh hb
  · exact heq ▸ ih b hb'
  · have hwaited := ih b hb'
    generalize v.ledger b = l at hstep hwaited
    generalize w.ledger b = l' at hstep hunqueued
    cases hstep with
    | queue => exact absurd hunqueued (by simp)
    | _ => exact hwaited
  · rw [heq]
  · rw [heq]
    rfl

/-- A subscription that was withdrawn is disposed. -/
theorem Steps.disposed_of_withdrawn {w : Toolkit Unit} (h : Steps m Toolkit.fresh w) :
    ∀ k, Occurred (.withdrawn k) w.journal → w.disposed k = true := by
  refine h.invariant
    (I := fun w => ∀ k, Occurred (.withdrawn k) w.journal → w.disposed k = true)
    (fun k ho => absurd ho (not_occurred_nil _)) fun hv ih h k ho => ?_
  obtain ho | ⟨i, -, -, he⟩ := (h.explained hv.sound_of_fresh).occurred ho
  · exact h.grows.disposed (ih k ho)
  · exact he

/-- A subscription that was concluded was registered, or it is disposed. -/
theorem Steps.registered_or {w : Toolkit Unit} (h : Steps m Toolkit.fresh w) :
    ∀ k, Occurred (.concluded k) w.journal →
      w.disposed k = true ∨ ∃ source key, Occurred (.registered k source key) w.journal := by
  refine h.invariant (I := fun w => ∀ k, Occurred (.concluded k) w.journal →
      w.disposed k = true ∨ ∃ source key, Occurred (.registered k source key) w.journal)
    (fun k ho => absurd ho (not_occurred_nil _)) fun hv ih h k ho => ?_
  obtain ho | ⟨i, -, hi, ⟨x, hx, he⟩ | ⟨source, key, x, hx, he⟩⟩ :=
    (h.explained hv.sound_of_fresh).occurred ho
  · exact (ih k ho).imp (fun hd => h.grows.disposed hd) fun ⟨source, key, hr⟩ =>
      ⟨source, key, hr.mono h.grows.journal⟩
  · exact .inl (Steps.disposed_of_withdrawn (hv.tail h) k ⟨x, hi.subset hx, he⟩)
  · exact .inr ⟨source, key, x, hi.subset hx, he⟩

/-- **A subscription that is left has its listener** in the registry. -/
theorem Toolkit.Listed.listener {w : Toolkit σ} (hw : w.Listed p) (hone : w.Single)
    {binding : Binding} {n : Nat} {judge : Judge}
    (ho : Occurred (.subscribing h b (.widget binding n judge)) w.journal)
    (hl : h ∈ w.subscriptionsLeft p) :
    .forward binding b judge ∈ (w.screen.roster p).snapshot := by
  obtain ⟨hm, hd⟩ := mem_subscriptionsLeft.mp hl
  obtain ⟨key, hkey⟩ := exists_key_iff_member.mpr hm
  have hpresent : (.subscriber h, key) ∈ w.present p :=
    mem_present.mpr ⟨hkey, by simpa [remains] using hd⟩
  obtain ⟨i, hi, hix⟩ := List.getElem_of_mem hpresent
  have hlen : i < (w.screen.roster p).entries.pairs.length := hw.stands.length_eq ▸ hi
  obtain ⟨-, hstands⟩ := hw.stands.get hlen hi
  rw [List.get_eq_getElem, hix] at hstands
  obtain ⟨binding', b', judge', -, hforward, ho'⟩ := hstands
  obtain ⟨rfl, hsource⟩ := hone _ _ _ _ _ ho ho'
  obtain ⟨rfl, -, rfl⟩ := Source.widget.inj hsource
  rw [← Option.some.inj hforward]
  exact List.mem_map_of_mem (List.getElem_mem hlen)

/-- **A registry serves those who are registered in it.** -/
structure Toolkit.Serves (w : Toolkit σ) (p : Point) : Prop where
  /-- It holds the listeners of those who are left, in the order in which they were registered. -/
  stands : List.Forall₂
    (fun entry x => entry.1 = x.2 ∧ Stands p w.journal (some x.1) (some entry.2))
    (w.screen.roster p).entries.pairs (w.present p)
  /-- So there are as many as subscriptions are left, and other listeners. -/
  size : (w.screen.roster p).size = (w.subscriptionsLeft p).length + (w.rawsLeft p).length
  /-- Nobody is counted twice. -/
  distinct : (w.subscriptionsLeft p).Nodup ∧ (w.rawsLeft p).Nodup
  /-- A subscription that was made is left, and keeps its listener, until it is disposed itself. -/
  held : ∀ h b binding n judge, Occurred (.subscribing h b (.widget binding n judge)) w.journal →
    binding.point n = p → Occurred (.concluded h) w.journal → w.disposed h = false →
      h ∈ w.subscriptionsLeft p ∧ .forward binding b judge ∈ (w.screen.roster p).snapshot
  /-- Every subscription received what its binding makes of the events of which its listener was
      told before it was disposed, after the value with which it started, if it did. -/
  received : ∀ h b binding n judge,
    Occurred (.subscribing h b (.widget binding n judge)) w.journal → binding.point n = p →
      (account h b w.journal).Fits binding
  /-- Nothing is handed over after the disposal of a subscription. -/
  silent : ∀ h b source, Occurred (.subscribing h b source) w.journal →
    Guarded (fun earlier e =>
      Occurred (.disposed h) earlier → ∀ signal, e ≠ .began b signal) w.journal
  /-- A handle is disposed once. -/
  once : ∀ h,
    Guarded (fun earlier e => e = .disposed h → ¬ Occurred (.disposed h) earlier) w.journal

/-- **Registries serve those who are registered** wherever steps lead, if callbacks make no bridge
    take a signal, client code leaves the handles of the subscriptions their actions, and listeners
    are removed by their own keys. -/
theorem Steps.serves {w : Toolkit Unit} (hm : m.signals = false) (hev : m.everywhere = false)
    (hp : p.site.isShared = true) (h : Steps m Toolkit.fresh w) (hu : w.Undisturbed p)
    (hk : OwnKeys p w.journal) : w.Serves p := by
  have hlisted := h.listed hp hu hk
  refine {
    stands := hlisted.stands
    size := hlisted.size
    distinct := ⟨hlisted.nodup_subscriptionsLeft h.tidy h.backed hu, w.nodup_rawsLeft p⟩
    held := fun k b binding n judge ho hpoint hconcluded hd => ?_
    received := fun k b binding n judge ho hpoint => ?_
    silent := fun k b source ho => ?_
    once := h.told.once }
  · have hregistered : ∃ source key, Occurred (.registered k source key) w.journal :=
      (h.registered_or k hconcluded).resolve_left (by simp [hd])
    obtain ⟨source, key, hr⟩ := hregistered
    obtain ⟨c, hsub⟩ := (h.backed.registered hr).1
    obtain ⟨rfl, rfl⟩ := h.subscriptions_single _ _ _ _ _ ho hsub
    have hleft : k ∈ w.subscriptionsLeft p :=
      Toolkit.mem_subscriptionsLeft.mpr ⟨member_eq_true.mpr ⟨_, _, _, key, hr, hpoint⟩, hd⟩
    exact ⟨hleft, hlisted.listener h.subscriptions_single ho hleft⟩
  · exact h.received hev k b binding n judge (by rw [← hpoint] at hp; exact hp) ho
      (h.waited_eq_nil hm b (h.sound_of_fresh.knows ho).1)
  · obtain ⟨hb, rfl⟩ := h.sound_of_fresh.knows ho
    exact h.told.silent hb

namespace Code

/-- **Registries serve everybody who is registered in them**, if callbacks make no bridge take a
    signal: at every moment of every run in which client code leaves the handles of the
    subscriptions their actions and removes listeners by their own keys; and every edit and every
    move tells everybody who was registered when it began of everything, though callbacks dispose
    some of them on the way. -/
theorem registries_serve_everybody {code : Code m τ} {depth : Nat} (hm : m.signals = false)
    (hev : m.everywhere = false) :
    (∀ {α : Type} {own : τ} {program : Program m τ True True α},
      ∀ w ∈ code.moments depth own program, ∀ p, p.site.isShared = true → w.Undisturbed p →
        OwnKeys p w.journal → w.Serves p) ∧
    ∀ {β : Type} (k : Call β) (w : Toolkit (Desk τ)) p rounds,
      k.rounds w.screen = some (p, rounds) →
        Tells w (rounds.flatMap fun e => (w.screen.roster p).snapshot.map (·, e)) (fun _ => True)
          (k.make m (code.client depth) w) :=
  ⟨fun _ hw _ hp hu hk => Steps.serves hm hev hp (reachable hw) hu hk,
    fun k _ _ _ hr => k.tells_everybody (code.calm hm depth) hr⟩

/-- Code whose first observer disposes the second subscription when it receives a value. -/
def outbidding : Code ⟨true, true, false, false⟩ Unit :=
  { quiet ⟨true, true, false, false⟩ with
    observe := fun n signal =>
      if n = 0 ∧ signal.value?.isSome then
        .call (.dispose 2) (fun h => absurd rfl h) False.elim fun _ => .done ()
      else .done () }

/-- Two subscriptions and a watcher of a text, which is then set. -/
def watching : Program m Unit True True Unit :=
  .making (.newView .main) fun v =>
    .making (.subscribe ⟨.widget .texts v .always, false⟩ (.client 0)) fun _ =>
      .making (.subscribe ⟨.widget .texts v .always, false⟩ (.client 1)) fun _ =>
        .making (.listen ⟨.watcher, v⟩ none) fun _ =>
          .making (.setText v "b") fun _ => .done ()

/-- The second subscription is told of the change of the text, but it receives nothing any more. -/
theorem registries_serve_everybody_outbidding :
    (∃ w ∈ outbidding.moments 5 () watching, w.Undisturbed ⟨.watcher, 1⟩ ∧
      OwnKeys ⟨.watcher, 1⟩ w.journal ∧ w.Serves ⟨.watcher, 1⟩ ∧
      w.subscriptionsLeft ⟨.watcher, 1⟩ = [1] ∧ w.rawsLeft ⟨.watcher, 1⟩ = [3] ∧
      values 1 w.journal = [.text "b"] ∧ values 2 w.journal = [] ∧
      (.forward .texts 2 .always, .textChanged 1 "b" 0 0 1) ∈ hearings w.journal ∧
      callbacks 2 2 w.journal = [.textChanging 1 "" 0 0 1]) ∧
    ∃ w : Toolkit (Desk Unit), (w.screen.roster ⟨.watcher, 1⟩).snapshot = [.silent] ∧
      (Call.setText 1 "b").rounds w.screen = some (⟨.watcher, 1⟩, editRounds 1 0 0 1 "" "b") ∧
      Tells w ((editRounds 1 0 0 1 "" "b").flatMap fun e => [(.silent, e)]) (fun _ => True)
        ((Call.setText 1 "b").make ⟨true, true, false, false⟩ (outbidding.client 5) w) := by
  constructor
  · have hw := List.head_mem (l := outbidding.moments 5 () watching) (by decide +kernel)
    have hu : ((outbidding.moments 5 () watching).head (by decide +kernel)).Undisturbed
        ⟨.watcher, 1⟩ := Toolkit.undisturbed_of_all (by decide +kernel)
    have hk : OwnKeys ⟨.watcher, 1⟩ ((outbidding.moments 5 () watching).head
        (by decide +kernel)).journal := ownKeys_of_all (by decide +kernel)
    exact ⟨_, hw, hu, hk, (registries_serve_everybody rfl rfl).1 _ hw _ rfl hu hk,
      by decide +kernel, by decide +kernel, by decide +kernel, by decide +kernel,
      by decide +kernel, by decide +kernel⟩
  · let w : Toolkit (Desk Unit) := { client := ⟨(), []⟩,
                                     screen := (Screen.install {} ⟨.watcher, 1⟩ .silent).2 }
    have hr : (Call.setText 1 "b").rounds w.screen =
        some (⟨.watcher, 1⟩, editRounds 1 0 0 1 "" "b") := by decide +kernel
    exact ⟨w, rfl, hr, (registries_serve_everybody rfl rfl).2 _ w _ _ hr⟩

end Code

end WidgetStreams
