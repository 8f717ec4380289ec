import WidgetStreams.Proofs.Treating

/-!
# What a step writes down

This file proves of every step what is behind the entries that it adds to the
journal, and from that what the journal as a whole tells at every moment, how
client code may behave.

## Main definitions

- `Added` — entries that were added, each in its place
- `Event.Explained` — what is behind an entry
- `Toolkit.Told` — the journal tells of disposals, and no call begins after them

## Main results

- `Step.explained` — what a step adds is explained
- `Step.hasBridge_or` — bridges are opened by steps that do nothing else to bridges
- `Step.told` — every step keeps what the journal tells
-/

namespace WidgetStreams

open History

variable {σ : Type} {m : Manners} {v w : Toolkit σ} {b : BridgeId} {h : HandleId}

-- ════════════════════════════════════════════════════════════════════════
-- Entries that were added
-- ════════════════════════════════════════════════════════════════════════

namespace History

variable {P Q : List Entry → Event → Prop} {i j k : List Entry}

/-- **Entries that were added** to a journal, each with what `P` says of it and of those before. -/
inductive Added (P : List Entry → Event → Prop) (j : List Entry) : List Entry → Prop
  | refl : Added P j j
  | entry {k : List Entry} {x : Entry} (h : Added P j k) (hx : P k x.event) : Added P j (x :: k)

theorem Added.suffix (h : Added P j k) : j <:+ k := by
  induction h with
  | refl => exact List.suffix_refl _
  | entry _ _ ih => exact ih.trans (List.suffix_cons _ _)

/-- An event was there before, or it was added. -/
theorem Added.occurred (h : Added P j k) {e : Event} (he : Occurred e k) :
    Occurred e j ∨ ∃ i, j <:+ i ∧ i <:+ k ∧ P i e := by
  induction h with
  | refl => exact .inl he
  | @entry i x h hx ih =>
    obtain rfl | he := occurred_cons.mp he
    · exact .inr ⟨i, h.suffix, List.suffix_cons _ _, hx⟩
    · obtain he | ⟨l, hjl, hli, hl⟩ := ih he
      · exact .inl he
      · exact .inr ⟨l, hjl, hli.trans (List.suffix_cons _ _), hl⟩

theorem Guarded.of_suffix (h : Guarded P k) (hj : j <:+ k) : Guarded P j := by
  rintro later x earlier rfl
  obtain ⟨before, rfl⟩ := hj
  exact h (before ++ later) x earlier (by rw [List.append_assoc])

/-- An event that is in its place has its grounds before it. -/
theorem Guarded.occurred (h : Guarded P k) {e : Event} (he : Occurred e k) :
    ∃ i, i <:+ k ∧ P i e := by
  obtain ⟨x, hx, rfl⟩ := he
  obtain ⟨later, earlier, rfl⟩ := List.append_of_mem hx
  exact ⟨earlier, (List.suffix_cons x earlier).trans (List.suffix_append _ _),
    h later x earlier rfl⟩

/-- Every event is in its place if those are that were there, and those that were added. -/
theorem Added.guarded (h : Added P j k) (hj : Guarded Q j)
    (hQ : ∀ i e, j <:+ i → i <:+ k → P i e → Q i e) : Guarded Q k := by
  induction h with
  | refl => exact hj
  | @entry i x h hx ih =>
    refine guarded_cons.mpr ⟨hQ i _ h.suffix (List.suffix_cons _ _) hx, ih fun l e hjl hli he => ?_⟩
    exact hQ l e hjl (hli.trans (List.suffix_cons _ _)) he

end History

theorem History.Added.noted {P : List Entry → Event → Prop} {j : List Entry}
    (h : Added P j w.journal) {e : Event} (he : P w.journal e) : Added P j (w.noted e).journal :=
  h.entry he

/-- Events that are noted are added if nothing before them matters. -/
theorem History.Added.notedAll {P : List Entry → Event → Prop} {j : List Entry}
    (h : Added P j w.journal) {es : List Event} (he : ∀ e ∈ es, ∀ i, P i e) :
    Added P j (w.notedAll es).journal := by
  induction es generalizing w with
  | nil => exact h
  | cons e es ih =>
    rw [Toolkit.notedAll_cons]
    refine ih (h.noted ?_) fun a ha => he a (List.mem_cons_of_mem _ ha)
    exact he e List.mem_cons_self _

-- ════════════════════════════════════════════════════════════════════════
-- New bridges
-- ════════════════════════════════════════════════════════════════════════

/-- The toolkit with a subscription more, at its first call. -/
def Toolkit.subscribing (w : Toolkit σ) (source : Source) (observer : Observer) : Toolkit σ :=
  ((w.opening observer).noted (.subscribing w.handles.next w.bridges.next source)).starting
    w.bridges.next (.subscribed w.handles.next)

/-- A bridge that there is after another was changed was there before. -/
theorem Toolkit.hasBridge_of_withBridge {k : BridgeId} {f : Bridge → Bridge} (hk : w.HasBridge k)
    (hb : (w.withBridge k f).HasBridge b) : w.HasBridge b := by
  by_cases e : k = b
  · exact e ▸ hk
  · simpa [Toolkit.HasBridge, Toolkit.withBridge, e] using hb

theorem Toolkit.hasBridge_of_starting {k : BridgeId} {signal : Signal} (hk : w.HasBridge k)
    (hb : (w.starting k signal).HasBridge b) : w.HasBridge b := hasBridge_of_withBridge hk hb

theorem Toolkit.Sound.hasBridge_of_opening (hs : w.Sound) {observer : Observer}
    (hb : (w.opening observer).HasBridge b) : w.HasBridge b ∨ b = w.bridges.next := by
  rw [Toolkit.HasBridge, hs.find?_opening] at hb
  split at hb
  · next e => exact .inr e.symm
  · exact .inl hb

/-- A bridge that there is after a step was there before, or the step opened it. -/
theorem Step.hasBridge_or (hs : v.Sound) (h : Step m v w) (hb : w.HasBridge b) :
    v.HasBridge b ∨ b = v.bridges.next ∧ ((∃ observer, w = v.opening observer) ∨
      ∃ source observer, w = v.subscribing source observer) := by
  cases h with
  | change h => exact .inl (by rwa [Toolkit.HasBridge, h.bridges] at hb)
  | newBridge observer =>
    exact (hs.hasBridge_of_opening hb).imp_right fun e => ⟨e, .inl ⟨observer, rfl⟩⟩
  | dispose => exact .inl (by rwa [Toolkit.HasBridge, Toolkit.bridges_disposing] at hb)
  | arm => exact .inl (by rwa [Toolkit.HasBridge, Toolkit.bridges_arming] at hb)
  | @start k s signal notes hk =>
    exact .inl (Toolkit.hasBridge_of_withBridge (w := (v.showing s).notedAll notes) hk hb)
  | @queue k s signal notes _ hk =>
    exact .inl (Toolkit.hasBridge_of_withBridge (w := (v.showing s).notedAll notes) hk hb)
  | advance _ hd =>
    exact .inl (Toolkit.hasBridge_of_withBridge (Toolkit.hasBridge_of_delivering hd) hb)
  | drop _ hd =>
    exact .inl (Toolkit.hasBridge_of_withBridge (Toolkit.hasBridge_of_delivering hd) hb)
  | finish _ hd =>
    exact .inl (Toolkit.hasBridge_of_withBridge (Toolkit.hasBridge_of_delivering hd) hb)
  | unwind _ _ hd =>
    exact .inl (Toolkit.hasBridge_of_withBridge (Toolkit.hasBridge_of_delivering hd) hb)
  | subscribe source observer =>
    by_cases e : b = v.bridges.next
    · exact .inr ⟨e, .inr ⟨source, observer, rfl⟩⟩
    · have hnew : (v.opening observer).HasBridge v.bridges.next := by
        rw [Toolkit.HasBridge, hs.find?_opening, if_pos rfl]
        rfl
      have hopen := Toolkit.hasBridge_of_withBridge (w := v.opening observer) hnew hb
      exact .inl ((hs.hasBridge_of_opening hopen).resolve_right e)
  | @registerWidget k c binding owner judge =>
    change (v.registering k c binding owner judge).HasBridge b at hb
    exact .inl (by rwa [Toolkit.HasBridge, Toolkit.bridges_registering] at hb)
  | @registerWarm k c binding owner judge hm =>
    have hk := (hs.knows (hs.hasHandle_of_subscribing hm).2).1
    have hbridges : ((v.registering k c binding owner judge).noted
        (.attached k (v.keyOf c binding owner judge) true)).bridges = v.bridges :=
      Toolkit.bridges_registering v k c binding owner judge
    have hb' := Toolkit.hasBridge_of_starting (by rwa [Toolkit.HasBridge, hbridges]) hb
    exact .inl (by rwa [Toolkit.HasBridge, hbridges] at hb')
  | registerClient => exact .inl (by rwa [Toolkit.HasBridge, Toolkit.bridges_arming] at hb)
  | _ => exact .inl hb

namespace Toolkit

/-- A bridge that a step opened has a handle of its own, and that is open. -/
theorem Sound.opened (hs : v.Sound) (hnew : (∃ observer, w = v.opening observer) ∨
    ∃ source observer, w = v.subscribing source observer) :
    (w.bridges.get v.bridges.next).handle = v.handles.next ∧ w.closed v.bridges.next = false := by
  have hbridge : ∀ observer, ((v.opening observer).bridges.get v.bridges.next).handle =
      v.handles.next := by
    intro observer
    rw [Registry.get, hs.find?_opening, if_pos rfl]
    rfl
  obtain ⟨observer, rfl⟩ | ⟨source, observer, rfl⟩ := hnew
  · exact ⟨hbridge observer, hs.closed_opening_next observer⟩
  · constructor
    · have h := get_withBridge (v.opening observer) v.bridges.next v.bridges.next
        fun bridge => { bridge with delivering := some v.here }
      rw [if_pos rfl] at h
      exact (congrArg Bridge.handle h).trans (hbridge observer)
    · rw [subscribing, closed_starting]
      exact hs.closed_opening_next observer

end Toolkit

-- ════════════════════════════════════════════════════════════════════════
-- What is behind an entry
-- ════════════════════════════════════════════════════════════════════════

/-- **What is behind an entry** that a step adds to those before it. -/
def Event.Explained (v w : Toolkit σ) (earlier : List Entry) : Event → Prop
  | .subscribing h b source =>
    h = v.handles.next ∧ b = v.bridges.next ∧ ∃ observer, w = v.subscribing source observer
  | .began b signal => w.closed b = false ∧
    ((∃ t i, earlier = ⟨t, .accepted b signal false⟩ :: i) ∨
      earlier = v.journal ∧ v.closed b = false ∧ (v.queue b).head? = some signal)
  | .disposed h => earlier = v.journal ∧ v.disposed h = false ∧ w.disposed h = true
  | .registered h source key => (∃ b, Occurred (.subscribing h b source) earlier) ∧
    ∀ binding owner judge, source = .widget binding owner judge →
      binding.site.isShared = false → key = none
  | .armed h (.detach source key) => Occurred (.registered h source key) earlier
  | .releasing h action =>
    (v.handles.get h).action = some action ∨ Occurred (.armed h action) earlier
  | .dispatched p _ reached => earlier = v.journal ∧ reached = (v.screen.slot p).content
  | .heard (.forward binding b judge) _ => ∃ owner, Enrolled b binding owner judge earlier
  | .operating p listeners => earlier = v.journal ∧ listeners = (v.screen.roster p).snapshot
  | .withdrawn h => w.disposed h = true
  | .concluded h =>
    Occurred (.withdrawn h) earlier ∨ ∃ source key, Occurred (.registered h source key) earlier
  | _ => True

theorem Event.explained_of_isAside {e : Event} (he : e.isAside = true) {j : List Entry} :
    e.Explained v w j := by
  cases e <;> trivial

/-- What is noted before a bridge takes a signal is explained by who is registered. -/
theorem Cause.explained (hs : v.Sound) {s : Screen} {signal : Signal} {notes : List Event}
    (hc : Cause m v b s signal notes) :
    Added (Event.Explained v w) v.journal ((v.showing s).notedAll notes).journal := by
  cases hc with
  | direct => exact .refl
  | failing => exact .entry .refl trivial
  | @slot s p e binding judge value turn hp hv =>
    have hdispatched : Added (Event.Explained v w) v.journal
        ((v.showing s).noted (.dispatched p e (some (.forward binding b judge)))).journal :=
      .entry .refl ⟨rfl, hp.symm⟩
    refine hdispatched.entry ⟨p.owner, ?_⟩
    exact (hs.placed (.inl hp)).2.mono (List.suffix_cons _ _)
  | roster hl => exact .entry .refl hl.2

/-- A site for one listener gives out no key. -/
theorem Screen.install_of_not_isShared {s : Screen} {p : Point} (hp : p.site.isShared = false)
    (listener : Listener) : s.install p listener = (none, s.setListener p listener) := by
  rw [Screen.install, if_neg (by rw [hp]; exact Bool.false_ne_true)]

namespace History.Added

variable {u : Toolkit σ} {j : List Entry}

/-- An action that is put in place is explained by the registration that it will undo. -/
theorem arming (hu : Added (Event.Explained v w) j u.journal) {action : Release}
    (ha : (Event.armed h action).Explained v w u.journal) :
    Added (Event.Explained v w) j (u.arming h action).journal := by
  have harmed := hu.noted ha
  rw [Toolkit.journal_arming, Toolkit.notedAll_cons]
  split
  · exact harmed.entry (.inr (occurred_cons.mpr (.inl rfl)))
  · exact harmed

theorem registering (hu : Added (Event.Explained v w) j u.journal) {binding : Binding}
    {owner : Nat} {judge : Judge}
    (ho : Occurred (.subscribing h b (.widget binding owner judge)) u.journal) :
    Added (Event.Explained v w) j (u.registering h b binding owner judge).journal := by
  have hregistered : (Event.registered h (.widget binding owner judge)
      (u.keyOf b binding owner judge)).Explained v w u.journal := by
    refine ⟨⟨b, ho⟩, fun binding' owner' judge' hsource hs => ?_⟩
    cases hsource
    exact congrArg Prod.fst (Screen.install_of_not_isShared (p := binding.point owner) hs _)
  rw [Toolkit.registering]
  refine arming ?_ ?_
  · exact hu.noted hregistered
  · exact occurred_cons.mpr (.inl rfl)

/-- A delivery that starts is explained by the open handle of the bridge. -/
theorem starting (hu : Added (Event.Explained v w) j u.journal) {signal : Signal}
    (hc : w.closed b = false) :
    Added (Event.Explained v w) j (u.starting b signal).journal :=
  (hu.noted (e := .accepted b signal false) trivial).noted (w := Toolkit.noted _ _)
    (e := .began b signal) ⟨hc, .inl ⟨_, _, rfl⟩⟩

end History.Added

/-- **What a step adds to the journal is explained** by what it does. -/
theorem Step.explained (hs : v.Sound) (h : Step m v w) :
    Added (Event.Explained v w) v.journal w.journal := by
  cases h with
  | note he => exact .entry .refl (Event.explained_of_isAside he)
  | change h => rw [h.journal]; exact .refl
  | newHandle => exact .refl
  | @dispose k hh hd =>
    have hdisposed : (v.disposing k).disposed k = true := by
      rw [Toolkit.disposed_disposing, if_pos rfl]
    rw [Toolkit.journal_disposing, Toolkit.notedAll_cons]
    refine .notedAll (w := v.noted _) (.entry .refl ⟨rfl, hd, hdisposed⟩) fun e he j => ?_
    obtain ⟨action, ha, rfl⟩ := List.mem_map.mp he
    exact .inl (Option.mem_toList.mp ha)
  | arm => exact .arming .refl trivial
  | newBridge => exact .refl
  | @start k s signal notes hb hc hd cause =>
    refine .starting (cause.explained hs) ?_
    rw [Toolkit.closed_starting]
    exact hc
  | queue _ _ _ _ cause => exact .entry (cause.explained hs) trivial
  | comeBack => exact .entry .refl trivial
  | @advance k signal rest hr hd hc hf hq =>
    refine .entry .refl ⟨(Toolkit.closed_advancing v k k signal rest).trans hc, .inr ⟨rfl, hc, ?_⟩⟩
    rw [hq, List.head?_cons]
  | drop => exact .refl
  | finish => exact .refl
  | unwind => exact .refl
  | subscribe source observer =>
    have hnew : (Event.subscribing v.handles.next v.bridges.next source).Explained v
        (v.subscribing source observer) v.journal := ⟨rfl, rfl, observer, rfl⟩
    refine .starting (u := (v.opening observer).noted _) (.entry .refl hnew) ?_
    rw [Toolkit.subscribing, Toolkit.closed_starting]
    exact hs.closed_opening_next observer
  | withdraw hm hd => exact .entry .refl hd
  | attach => exact .entry .refl trivial
  | registerWidget hm =>
    exact .noted (.registering .refl (hs.hasHandle_of_subscribing hm).2) trivial
  | @registerWarm k c binding owner judge hm hd hc hi =>
    have ho := (hs.hasHandle_of_subscribing hm).2
    refine .starting (u := Toolkit.noted _ (.attached k _ true))
      (.noted (.registering .refl ho) trivial) ?_
    rw [Toolkit.closed_starting]
    change (v.registering k c binding owner judge).closed c = false
    rw [Toolkit.closed, Toolkit.disposed_registering, Toolkit.bridges_registering]
    exact hc
  | @registerClient k c callback thread key hm =>
    have hregistered : (Event.registered k (.client callback thread) key).Explained v
        ((v.noted (.registered k (.client callback thread) key)).arming k
          (.detach (.client callback thread) key)) v.journal :=
      ⟨⟨c, (hs.hasHandle_of_subscribing hm).2⟩, (by simp)⟩
    refine .arming (.noted .refl hregistered) ?_
    exact occurred_cons.mpr (.inl rfl)
  | attached => exact .entry .refl trivial
  | @conclude k c source hm =>
    refine .entry .refl ?_
    obtain hm | ⟨key, warm, hm⟩ := hm
    · have hmem : Event.withdrawn k ∈ milestones k v.journal := by simp [hm]
      exact .inl (mem_milestones.mp hmem).1
    · have hmem : Event.registered k source key ∈ milestones k v.journal := by simp [hm]
      exact .inr ⟨source, key, (mem_milestones.mp hmem).1⟩
  | listen => exact .entry .refl trivial
  | unlisten => exact .entry .refl trivial
  | removeListener => exact .entry .refl trivial
  | pass => exact .entry .refl ⟨rfl, rfl⟩
  | @hear listener e hl =>
    refine .entry .refl ?_
    cases listener with
    | forward binding c judge => exact (hl binding c judge rfl).1
    | _ => trivial
  | operate => exact .entry .refl ⟨rfl, rfl⟩
  | alter => exact .entry .refl trivial
  | flag => exact .entry .refl trivial

-- ════════════════════════════════════════════════════════════════════════
-- Disposals
-- ════════════════════════════════════════════════════════════════════════

theorem Toolkit.Sound.not_hasBridge_next (hs : w.Sound) : ¬ w.HasBridge w.bridges.next := by
  rw [Toolkit.HasBridge, hs.freshBridges _ (Nat.le_refl _)]
  simp

namespace Toolkit

/-- Nothing is said of a bridge that is not there. -/
theorem Sound.accepted_eq_nil (hs : w.Sound) (hb : ¬ w.HasBridge b) :
    accepted b w.journal = [] := by
  refine List.eq_nil_iff_forall_not_mem.mpr fun signal hsignal => ?_
  obtain ⟨e, ho, he⟩ := mem_collect.mp hsignal
  have hknown := hs.knows ho
  cases e with
  | accepted k =>
    simp only [accepted?] at he
    split at he
    · next e => exact hb (e ▸ hknown)
    · cases he
  | _ => cases he

theorem Sound.marks_eq_nil (hs : w.Sound) (hb : ¬ w.HasBridge b) : marks b w.journal = [] := by
  refine List.eq_nil_iff_forall_not_mem.mpr fun mark hmark => ?_
  obtain ⟨e, ho, he⟩ := mem_collect.mp hmark
  have hknown := hs.knows ho
  cases e with
  | began k | ended k =>
    simp only [mark?] at he
    split at he
    · next e => exact hb (e ▸ hknown)
    · cases he
  | _ => cases he

end Toolkit

/-- A subscription that a step begins is one with a bridge that was not there. -/
theorem Step.occurred_subscribing (hs : v.Sound) (h : Step m v w) {k : HandleId} {source : Source}
    (ho : Occurred (.subscribing k b source) w.journal) :
    Occurred (.subscribing k b source) v.journal ∨
      k = v.handles.next ∧ b = v.bridges.next ∧ ∃ observer, w = v.subscribing source observer := by
  obtain ho | ⟨i, -, -, he⟩ := (h.explained hs).occurred ho
  · exact .inl ho
  · exact .inr he

/-- **A handle has one subscription** at most. -/
def Toolkit.Single (w : Toolkit σ) : Prop :=
  ∀ h b b' source source', Occurred (.subscribing h b source) w.journal →
    Occurred (.subscribing h b' source') w.journal → b = b' ∧ source = source'

theorem Step.single (hs : v.Sound) (hv : v.Single) (h : Step m v w) : w.Single := by
  intro k c c' source source' ho ho'
  have hnew : ∀ {d source}, ¬ Occurred (.subscribing v.handles.next d source) v.journal := by
    intro d source ho
    obtain ⟨hd, hh⟩ := hs.knows ho
    exact hs.not_hasHandle_next (hh ▸ hs.owned hd)
  obtain ho | ⟨rfl, rfl, observer, rfl⟩ := h.occurred_subscribing hs ho
  · obtain ho' | ⟨rfl, -, -⟩ := h.occurred_subscribing hs ho'
    · exact hv _ _ _ _ _ ho ho'
    · exact absurd ho hnew
  · obtain ho' | ⟨-, rfl, observer', he⟩ := h.occurred_subscribing hs ho'
    · exact absurd ho' hnew
    · have hj := congrArg Toolkit.journal he
      simp only [Toolkit.subscribing, Toolkit.journal_starting, Toolkit.notedAll_cons,
        Toolkit.notedAll_nil, Toolkit.journal_noted, List.cons.injEq, Entry.mk.injEq] at hj
      have he' : Event.subscribing v.handles.next v.bridges.next source = _ := hj.2.2.1.2
      exact ⟨rfl, (Event.subscribing.inj he').2.2⟩

/-- **The journal tells of disposals**: a handle of a bridge is disposed if and only if the journal
    says so, it says so once, and after that no call of the bridge begins. -/
structure Toolkit.Told (w : Toolkit σ) : Prop where
  disposed : ∀ {h}, Occurred (.disposed h) w.journal → w.disposed h = true
  closed : ∀ {b}, w.HasBridge b → w.closed b = true →
    Occurred (.disposed (w.bridges.get b).handle) w.journal
  once : ∀ h,
    Guarded (fun earlier e => e = .disposed h → ¬ Occurred (.disposed h) earlier) w.journal
  silent : ∀ {b}, w.HasBridge b → Guarded (fun earlier e =>
    Occurred (.disposed (w.bridges.get b).handle) earlier → ∀ signal, e ≠ .began b signal) w.journal

theorem Toolkit.told_start (client : σ) : ({ client := client } : Toolkit σ).Told where
  disposed h := absurd h (not_occurred_nil _)
  closed hb := by cases hb
  once _ := guarded_nil _
  silent hb := by cases hb

/-- **Every step keeps what the journal tells** of disposals. -/
theorem Step.told (hs : v.Sound) (hv : v.Told) (h : Step m v w) : w.Told := by
  have hadded := h.explained hs
  have hdisposed : ∀ {k}, Occurred (.disposed k) w.journal → w.disposed k = true := by
    intro k ho
    obtain ho | ⟨i, -, -, he⟩ := hadded.occurred ho
    · exact h.grows.disposed (hv.disposed ho)
    · exact he.2.2
  refine ⟨hdisposed, fun {b} hb hclosed => ?_, fun k => ?_, fun {b} hb => ?_⟩
  · obtain hb' | ⟨rfl, hnew⟩ := h.hasBridge_or hs hb
    · obtain hclosed | ho := h.disposed_or hs (h.grows.handle hb' ▸ hs.owned hb') hclosed
      · rw [h.grows.handle hb'] at hclosed ⊢
        exact (hv.closed hb' hclosed).mono h.grows.journal
      · exact ho
    · rw [(hs.opened hnew).2] at hclosed
      cases hclosed
  · refine hadded.guarded (hv.once k) fun i e _ _ he hek ho => ?_
    subst hek
    obtain ⟨rfl, hopen, -⟩ := he
    rw [hv.disposed ho] at hopen
    cases hopen
  · -- nothing new begins for a bridge whose handle is disposed by now
    refine hadded.guarded ?_ fun i e hi hik he ho signal hsignal => ?_
    · obtain hb' | ⟨rfl, -⟩ := h.hasBridge_or hs hb
      · rw [h.grows.handle hb']
        exact hv.silent hb'
      · rintro later x earlier hj - signal hx
        refine hs.not_hasBridge_next (hs.knows (e := .began v.bridges.next signal) ⟨x, ?_, hx⟩)
        rw [hj]
        simp
    · subst hsignal
      have hopen : w.closed b = false := he.1
      obtain ⟨x, hx, hxe⟩ := ho
      have hclosed : w.closed b = true := hdisposed ⟨x, hik.subset hx, hxe⟩
      rw [hopen] at hclosed
      cases hclosed

-- ════════════════════════════════════════════════════════════════════════
-- Actions that undo registrations
-- ════════════════════════════════════════════════════════════════════════

/-- **Registrations are undone after they are made**: whatever is in place to undo one, or was run
    to undo one, has the key that was given out for it. -/
structure Toolkit.Backed (w : Toolkit σ) : Prop where
  registered : ∀ {h source key}, Occurred (.registered h source key) w.journal →
    (∃ b, Occurred (.subscribing h b source) w.journal) ∧
      ∀ binding owner judge, source = .widget binding owner judge →
        binding.site.isShared = false → key = none
  action : ∀ {h source key}, (w.handles.get h).action = some (.detach source key) →
    Occurred (.registered h source key) w.journal
  armed : Guarded (fun earlier e => ∀ h source key, e = .armed h (.detach source key) →
    Occurred (.registered h source key) earlier) w.journal
  released : Guarded (fun earlier e => ∀ h source key, e = .releasing h (.detach source key) →
    Occurred (.registered h source key) earlier) w.journal

theorem Toolkit.backed_start (client : σ) : ({ client := client } : Toolkit σ).Backed where
  registered ho := absurd ho (not_occurred_nil _)
  action ha := by cases ha
  armed := guarded_nil _
  released := guarded_nil _

/-- **Every step keeps** what undoes registrations backed. -/
theorem Step.backed (hs : v.Sound) (hv : v.Backed) (h : Step m v w) : w.Backed := by
  have hadded := h.explained hs
  have harmed : Guarded (fun earlier e => ∀ h source key, e = .armed h (.detach source key) →
      Occurred (.registered h source key) earlier) w.journal := by
    refine hadded.guarded hv.armed fun i e _ _ he k source key hek => ?_
    subst hek
    exact he
  have hregistered : ∀ {i k source key}, i <:+ w.journal →
      Occurred (.armed k (.detach source key)) i → Occurred (.registered k source key) i := by
    intro i k source key hi ho
    obtain ⟨j, hj, hr⟩ := (harmed.of_suffix hi).occurred ho
    obtain ⟨x, hx, hxe⟩ := hr k source key rfl
    exact ⟨x, hj.subset hx, hxe⟩
  refine ⟨fun {k source key} ho => ?_, fun {k source key} ha => ?_, harmed, ?_⟩
  · obtain ho | ⟨i, -, hiw, ⟨c, x, hx, hxe⟩, hkey⟩ := hadded.occurred ho
    · obtain ⟨⟨c, hc⟩, hkey⟩ := hv.registered ho
      exact ⟨⟨c, hc.mono h.grows.journal⟩, hkey⟩
    · exact ⟨⟨c, x, hiw.subset hx, hxe⟩, hkey⟩
  · obtain ha | ho | ⟨n, hn⟩ := h.action_or hs ha
    · exact (hv.action ha).mono h.grows.journal
    · exact hregistered (List.suffix_refl _) ho
    · cases hn
  · refine hadded.guarded hv.released fun i e hvi hiw he k source key hek => ?_
    subst hek
    obtain ha | ho := he
    · obtain ⟨x, hx, hxe⟩ := hv.action ha
      exact ⟨x, hvi.subset hx, hxe⟩
    · exact hregistered hiw ho

end WidgetStreams
