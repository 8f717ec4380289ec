import WidgetStreams.Proofs.Delivering

/-!
# Subscribing takes steps

This file proves that subscribing lands within its frame, whatever the observer
does when it learns of its handle and whatever the source does when it
registers, and that the subscription goes through its stages in order.

## Main definitions

- `Underway` — how far a subscription has come that began within the operation
- `Client.enroll`, `Client.greet` — the two parts of connecting: register, and hand over the current
  value
- `Toolkit.admitting` — the toolkit with a subscription more whose observer was not called yet
- `Client.letIn` — subscribe an observer that is let in

## Main results

- `Client.Behaves.enroll_client` — a subscription is registered with a source of the client's own
- `Client.Behaves.connect` — a subscription is registered
- `Client.Behaves.letIn` — the subscription of an observer that is let in comes to its last stage
- `Client.Behaves.subscribe` — subscribing lands, and the result is a handle
-/

namespace WidgetStreams

open History UI

variable {σ : Type} {m : Manners} {K : σ → Prop} {p : Prop} {v w u x : Toolkit σ} {c : Client σ}
  {h : HandleId} {b : BridgeId} {source : Source} {es : List Event}

/-- **A subscription is underway** at `u` that did not exist at `w`; its bridge does not deliver. -/
structure Underway (m : Manners) (w : Toolkit σ) (h : HandleId) (b : BridgeId) (es : List Event)
    (u : Toolkit σ) : Prop where
  frame : Frame m w u
  fresh : ¬ w.HasHandle h
  idle : w.delivering b = none
  stages : milestones h u.journal = es

namespace Underway

/-- What happens in between keeps the stage. -/
theorem keep (hu : Underway m w h b es u) (hh : u.HasHandle h) (hf : Frame m u x) :
    Underway m w h b es x where
  frame := hu.frame.trans hf
  fresh := hu.fresh
  idle := hu.idle
  stages := (hf.milestones h hh).trans hu.stages

/-- A step of the subscription itself. -/
theorem step (hu : Underway m w h b es u) (notes : List Event) (hs : Step m u x)
    (here : x.here = u.here) (delivering : ∀ k, x.delivering k = u.delivering k)
    (journal : x.journal = (u.notedAll notes).journal)
    (quiet : ∀ k, notes.filterMap (mark? k) = [])
    (own : ∀ k, k ≠ h → notes.filterMap (milestone? k) = []) :
    Underway m w h b (es ++ notes.filterMap (milestone? h)) x where
  frame := by
    refine ⟨hu.frame.steps.tail hs, here.trans hu.frame.here, fun k => ?_, fun k hk => ?_,
      fun k hk => ?_⟩
    · exact (delivering k).trans (hu.frame.delivering k)
    · rw [journal, marks_notedAll, quiet k, List.append_nil]
      exact hu.frame.marks k hk
    · have hne : k ≠ h := fun e => hu.fresh (e ▸ hk)
      rw [journal, milestones_notedAll, own k hne, List.append_nil]
      exact hu.frame.milestones k hk
  fresh := hu.fresh
  idle := hu.idle
  stages := by rw [journal, milestones_notedAll, hu.stages]

/-- A stage that is only noted. -/
theorem note (hu : Underway m w h b es u) {e : Event} (hs : Step m u (u.noted e))
    (he : subscription? e = some h) (hm : ∀ k, mark? k e = none) :
    Underway m w h b (es ++ [e]) (u.noted e) := by
  have hown : milestone? h e = some e := if_pos he
  have := hu.step [e] hs rfl (fun _ => rfl) rfl (fun k => by simp [hm k]) fun k hk => by
    have hother : milestone? k e = none := if_neg (by rw [he]; simpa using hk.symm)
    simp [hother]
  simpa [hown] using this

/-- A step of the subscription itself with which a delivery starts. -/
theorem start (hu : Underway m w h b es u) {signal : Signal} (hs : Step m u (x.starting b signal))
    (here : x.here = u.here) (delivering : ∀ k, x.delivering k = u.delivering k)
    {notes : List Event} (journal : x.journal = (u.notedAll notes).journal)
    (quiet : ∀ k, notes.filterMap (mark? k) = [])
    (own : ∀ k, k ≠ h → notes.filterMap (milestone? k) = []) :
    Within m b w (x.starting b signal) ∧
      milestones h (x.starting b signal).journal = es ++ notes.filterMap (milestone? h) := by
  constructor
  · constructor
    · exact hu.frame.steps.tail hs
    · exact here.trans hu.frame.here
    · intro k hk
      rw [← hu.frame.delivering k, ← delivering k]
      simp [Toolkit.delivering, Toolkit.starting, Toolkit.withBridge, Toolkit.notedAll, hk.symm]
    · simp [Toolkit.delivering, Toolkit.starting, Toolkit.withBridge, Toolkit.notedAll]
    · intro k hk hd
      rw [marks_starting, if_neg hk.symm, List.append_nil, journal, marks_notedAll, quiet k,
        List.append_nil, hu.frame.marks k hd]
    · intro k hk
      have hne : k ≠ h := fun e => hu.fresh (e ▸ hk)
      rw [milestones_starting, journal, milestones_notedAll, own k hne, List.append_nil,
        hu.frame.milestones k hk]
  · rw [milestones_starting, journal, milestones_notedAll, hu.stages]

end Underway

/-- What the journal says of a subscription at its end. -/
def stagesOf (h : HandleId) (b : BridgeId) (source : Source) (key : Option Nat) (warm : Bool) :
    List Event :=
  [.subscribing h b source, .attaching h source, .registered h source key, .attached h key warm]

/-- The bridge of a subscription to a client's source serves no widget. -/
theorem Toolkit.Sound.servesWidget_eq_false (hs : w.Sound) {callback : Nat} {thread : Thread}
    (hm : milestones h w.journal = .subscribing h b (.client callback thread) :: es)
    (hes : ∀ k d source, .subscribing k d source ∉ es) : w.servesWidget b = false := by
  by_contra hserves
  rw [Bool.not_eq_false, Toolkit.servesWidget, List.any_eq_true] at hserves
  obtain ⟨entry, hmem, hentry⟩ := hserves
  have ho : Occurred entry.event w.journal := ⟨entry, hmem, rfl⟩
  split at hentry
  · next k d binding owner judge he =>
    rw [he] at ho
    obtain rfl : d = b := by simpa using hentry
    have hk : k = h := by
      have hfirst : Occurred (.subscribing h d (.client callback thread)) w.journal :=
        (mem_milestones.mp (hm ▸ List.mem_cons_self)).1
      exact (hs.knows ho).2.symm.trans (hs.knows hfirst).2
    have hin := mem_milestones.mpr ⟨ho, congrArg some hk⟩
    rw [hm] at hin
    obtain he | hin := List.mem_cons.mp hin
    · cases he
    · exact hes _ _ _ hin
  · cases hentry

/-- A bridge that does not deliver and whose subscription is not disposed emits at once. -/
theorem Client.emit_of_open {value : Payload} (hd : w.delivering b = none)
    (hcl : w.closed b = false) :
    c.emit b value w = (c.deliver b (.next value) >>= fun _ => pure true) w := by
  simp only [Client.emit, run_isClosed_bind, run_ite, hcl, Bool.false_eq_true, if_false,
    Client.dispatch_of_open hd hcl]

namespace Client

/-- Register an open subscription with its source, so that its action is in place. -/
def enroll (c : Client σ) (source : Source) (b : BridgeId) (h : HandleId) : UI σ (Option Nat) := do
  note (.attaching h source)
  let key ← c.attachTo source b
  note (.registered h source key)
  c.setAction h (.detach source key)
  return key

/-- Hand over the current value of a source, if the stream is warm. -/
def greet (c : Client σ) (stream : Stream) (b : BridgeId) : UI σ Unit := do
  if stream.warm then
    let value ← c.currentValue stream.source
    discard (c.emit b value)

/-- To connect is to enroll, and to hand over the current value if the stream is warm. -/
theorem connect_eq (c : Client σ) (stream : Stream) (b : BridgeId) (h : HandleId) :
    c.connect stream b h = (do
      let key ← c.enroll stream.source b h
      note (.attached h key stream.warm)
      c.greet stream b) := by
  simp only [connect, enroll, greet, bind_assoc, pure_bind]

/-- **A subscription to a widget is registered** without any call of client code. -/
theorem enroll_widget {binding : Binding} {owner : Nat} {judge : Judge} (c : Client σ)
    (hd : u.disposed h = false) :
    c.enroll (.widget binding owner judge) b h u =
      .ok (u.keyOf b binding owner judge) ((u.noted (.attaching h
        (.widget binding owner judge))).registering h b binding owner judge) := by
  change (c.setAction h _ >>= _) _ = _
  exact bind_ok (setAction_of_open hd)

end Client

/-- The action that a subscription puts in place is no stage of it. -/
theorem Underway.arming {action : Release} (hu : Underway m w h b es u) {f : Screen → Screen}
    {source : Source} {key : Option Nat}
    (hs : Step m u (((u.withScreen f).noted (.registered h source key)).arming h action)) :
    Underway m w h b (es ++ [.registered h source key])
      (((u.withScreen f).noted (.registered h source key)).arming h action) := by
  let notes : List Event := .registered h source key :: .armed h action ::
    if u.disposed h then [.releasing h action] else []
  have hown : ∀ k, notes.filterMap (milestone? k) =
      if h = k then [.registered h source key] else [] := by
    intro k
    by_cases e : h = k <;> by_cases d : u.disposed h = true <;>
      simp [notes, milestone?, subscription?, e, d]
  have hquiet : ∀ k, notes.filterMap (mark? k) = [] := by
    intro k
    by_cases d : u.disposed h = true <;> simp [notes, mark?, d]
  have hjournal : (((u.withScreen f).noted (.registered h source key)).arming h action).journal =
      (u.notedAll notes).journal := by
    rw [Toolkit.journal_arming, ← Toolkit.notedAll_cons]
    rfl
  have hst := hu.step _ hs ?_ (fun k => ?_) hjournal hquiet fun k hk => by
    rw [hown k, if_neg hk.symm]
  · rwa [hown h, if_pos rfl] at hst
  · simp only [Toolkit.arming]
    split <;> rfl
  · simp only [Toolkit.arming]
    split <;> rfl

namespace Client.Behaves

/-- **Registering with a widget** lands. A warm stream starts to deliver at once. -/
theorem connect_widget {binding : Binding} {owner : Nat} {judge : Judge} {warm : Bool}
    (hc : c.Behaves m K) (hu : Reached m K u) (hd : u.disposed h = false)
    (hst : Underway m w h b [.subscribing h b (.widget binding owner judge)] u) :
    Lands m K m.mayPanic (Frame m w)
      (fun _ x => ∃ key, Underway m w h b
        (stagesOf h b (.widget binding owner judge) key warm) x)
      (c.connect ⟨.widget binding owner judge, warm⟩ b h u) := by
  let source : Source := .widget binding owner judge
  let u₁ := u.noted (.attaching h source)
  let key := u₁.keyOf b binding owner judge
  let y := u₁.registering h b binding owner judge
  have hs₁ : Step m u u₁ := .attach hst.stages hd
  have hst₁ := hst.note hs₁ rfl fun _ => rfl
  have hu₁ : Reached m K u₁ := hu.steps (.single hs₁) rfl
  -- what the registration changes
  have hd₁ : u₁.disposed h = false := hd
  have hy : y.here = u₁.here ∧ y.bridges = u₁.bridges ∧ y.client = u₁.client := by
    simp only [y, Toolkit.registering, Toolkit.arming]
    split <;> exact ⟨rfl, rfl, rfl⟩
  have hdelivering : ∀ k, y.delivering k = u₁.delivering k := fun k => by
    rw [Toolkit.delivering, hy.2.1]
    rfl
  let notes : List Event := [.registered h source key, .armed h (.detach source key),
    .attached h key warm]
  have hjournal : (y.noted (.attached h key warm)).journal = (u₁.notedAll notes).journal :=
    Toolkit.journal_noted_registering hd₁ _
  have hquiet : ∀ k, notes.filterMap (mark? k) = [] := fun k => by simp [notes, mark?]
  have hown : ∀ k, k ≠ h → notes.filterMap (milestone? k) = [] := fun k hk => by
    simp [notes, milestone?, subscription?, hk.symm]
  have hstages : notes.filterMap (milestone? h) =
      [.registered h source key, .attached h key warm] := by
    simp [notes, milestone?, subscription?]
  have hrun : c.connect ⟨source, warm⟩ b h u = ((do
      if warm then
        let value ← c.currentValue source
        discard (c.emit b value)) : UI σ Unit) (y.noted (.attached h key warm)) := by
    rw [Client.connect_eq, bind_ok (Client.enroll_widget c hd)]
    rfl
  rw [hrun]
  cases warm with
  | false =>
    have hs₂ : Step m u₁ (y.noted (.attached h key false)) := .registerWidget hst₁.stages hd₁
    have hst₂ := hst₁.step _ hs₂ hy.1 hdelivering hjournal hquiet hown
    rw [hstages] at hst₂
    exact ⟨hu₁.steps (.single hs₂) hy.2.2, hst₂.frame, key, hst₂⟩
  | true =>
    have ho : Occurred (.subscribing h b source) u₁.journal :=
      (hu₁.sound.hasHandle_of_subscribing hst₁.stages).2
    have hcl : u₁.closed b = false := by
      rw [Toolkit.closed, (hu₁.sound.knows ho).2]
      exact hd₁
    have hidle : u₁.delivering b = none := (hst₁.frame.delivering b).trans hst₁.idle
    let value := y.screen.current binding owner
    have hs₂ : Step m u₁ ((y.noted (.attached h key true)).starting b (.next value)) :=
      .registerWarm hst₁.stages hd₁ hcl hidle
    obtain ⟨hwithin, hstages₂⟩ := hst₁.start hs₂ hy.1 hdelivering hjournal hquiet hown
    rw [hstages] at hstages₂
    have hdeliver := hc.deliver hst.idle (hu₁.steps (.single hs₂) hy.2.2) hwithin
    have hh : u₁.HasHandle h := (hu₁.sound.hasHandle_of_subscribing hst₁.stages).1
    have hemit : Lands m K m.mayPanic (Frame m w)
        (fun _ x => Underway m w h b (stagesOf h b source key true) x)
        (c.emit b value (y.noted (.attached h key true))) := by
      have hcl₂ : (y.noted (.attached h key true)).closed b = false := by
        change y.disposed (y.bridges.get b).handle = false
        rw [hy.2.1]
        exact (Toolkit.disposed_arming _ _ _ _).trans hcl
      rw [Client.emit_of_open (w := y.noted (.attached h key true))
        ((hdelivering b).trans hidle) hcl₂]
      refine (hdeliver.mono .inl).bind (fun _ hx => hx) fun _ x hx hwx hkept => ?_
      refine ⟨hx, hwx, hwx, hst.fresh, hst.idle, ?_⟩
      rw [hkept h (hs₂.grows.hasHandle hh), hstages₂]
      rfl
    exact hemit.discard fun _ x hx => ⟨key, hx⟩

/-- **Enrolling with a source of the client's own** lands, whatever the source does meanwhile. If
    the handle is open in the end, nothing has been done but what the source did, and the action is
    in place. -/
theorem enroll_client {callback : Nat} {thread : Thread} (hc : c.Behaves m K) (hu : Reached m K u)
    (hd : u.disposed h = false)
    (hst : Underway m w h b [.subscribing h b (.client callback thread)] u) :
    Lands m K m.mayPanic (Frame m w)
      (fun key z => Underway m w h b [.subscribing h b (.client callback thread),
          .attaching h (.client callback thread), .registered h (.client callback thread) key] z ∧
        ∃ x, c.attach callback b (u.noted (.attaching h (.client callback thread))) = .ok key x ∧
          (z.disposed h = false →
            z = (x.noted (.registered h (.client callback thread) key)).arming h
            (.detach (.client callback thread) key)))
      (c.enroll (.client callback thread) b h u) := by
  let source : Source := .client callback thread
  have hh : u.HasHandle h := (hu.sound.hasHandle_of_subscribing hst.stages).1
  have hs₁ : Step m u (u.noted (.attaching h source)) := .attach hst.stages hd
  have hst₁ := hst.note hs₁ rfl fun _ => rfl
  have hu₁ : Reached m K (u.noted (.attaching h source)) := hu.steps (.single hs₁) rfl
  simp only [Client.enroll, run_note_bind]
  -- the source registers the bridge
  have hattach := ((hc.attach callback b).mono id (q := m.mayPanic) .inr) _ hu₁ False.elim
  change Lands m K _ _ _ ((c.attach callback b >>= _) _)
  cases hr : c.attach callback b (u.noted (.attaching h source)) with
  | error e x =>
    rw [hr] at hattach
    rw [bind_error hr]
    cases e with
    | panic => exact ⟨hattach.1, hattach.2.1, hst₁.frame.trans hattach.2.2⟩
    | stalled => exact hattach
  | ok key x =>
    rw [hr] at hattach
    obtain ⟨hx, hux, -⟩ := hattach
    rw [bind_ok hr]
    simp only [run_note_bind]
    have hst₂ := hst₁.keep hh hux
    have hh₂ : x.HasHandle h := hux.grows.hasHandle hh
    -- the action is put in place, and runs at once if the handle is disposed by now
    let y := (x.noted (.registered h source key)).arming h (.detach source key)
    have hs₃ : Step m x y := .registerClient hst₂.stages
    have hst₃ : Underway m w h b [.subscribing h b source, .attaching h source,
        .registered h source key] y := hst₂.arming (f := id) hs₃
    have hclient : y.client = x.client := by
      simp only [y, Toolkit.arming]
      split <;> rfl
    have hy : Reached m K y := hx.steps (.single hs₃) hclient
    cases hdx : (x.noted (.registered h source key)).disposed h with
    | false =>
      rw [bind_ok (Client.setAction_of_open hdx)]
      exact ⟨hy, hst₃.frame, hst₃, x, rfl, fun _ => rfl⟩
    | true =>
      have hset := (hc.setAction hy).mono (q := m.mayPanic) False.elim
      refine hset.bind (fun _ hz => hst₃.frame.trans hz) fun _ z hz hyz _ => ?_
      have hdz : z.disposed h = true :=
        hyz.grows.disposed ((Toolkit.disposed_arming _ _ _ _).trans hdx)
      refine ⟨hz, hst₃.frame.trans hyz, hst₃.keep (hs₃.grows.hasHandle hh₂) hyz,
        x, rfl, fun hopen => ?_⟩
      rw [hdz] at hopen
      cases hopen

/-- **Registering with a source of the client's own** lands. -/
theorem connect_client {callback : Nat} {thread : Thread} {warm : Bool}
    (hc : c.Behaves m K) (hf : Free m w) (hu : Reached m K u) (hd : u.disposed h = false)
    (hst : Underway m w h b [.subscribing h b (.client callback thread)] u) :
    Lands m K m.mayPanic (Frame m w)
      (fun _ x => ∃ key, Underway m w h b (stagesOf h b (.client callback thread) key warm) x)
      (c.connect ⟨.client callback thread, warm⟩ b h u) := by
  let source : Source := .client callback thread
  rw [Client.connect_eq]
  refine (hc.enroll_client hu hd hst).bind (fun _ hx => hx) fun key z hz hwz hkey => ?_
  obtain ⟨hst₄, -⟩ := hkey
  have hs₅ : Step m z (z.noted (.attached h key warm)) := .attached warm hst₄.stages
  have hst₅ : Underway m w h b (stagesOf h b source key warm) (z.noted (.attached h key warm)) :=
    hst₄.note hs₅ rfl fun _ => rfl
  have hz₅ : Reached m K (z.noted (.attached h key warm)) := hz.steps (.single hs₅) rfl
  have hh₅ : z.HasHandle h := (hz.sound.hasHandle_of_subscribing hst₄.stages).1
  simp only [run_note_bind, Client.greet]
  cases warm with
  | false => exact ⟨hz₅, hst₅.frame, key, hst₅⟩
  | true =>
    -- the current value is emitted
    have hcurrent := ((hc.current callback).mono id (q := m.mayPanic) .inr) _ hz₅ False.elim
    refine hcurrent.bind (fun _ hx => hst₅.frame.trans hx) fun value t ht hzt _ => ?_
    have hst₆ := hst₅.keep hh₅ hzt
    obtain ⟨hht, ho⟩ := ht.sound.hasHandle_of_subscribing hst₆.stages
    have hserves : t.servesWidget b = false := by
      refine ht.sound.servesWidget_eq_false hst₆.stages ?_
      simp
    have hemit := (hc.emit [] ht (hf.frame hst₆.frame) (ht.sound.knows ho).1
      (fun _ => ⟨ht, .refl t⟩) fun _ => .direct value (.inr hserves)).mono (q := m.mayPanic) .inl
    refine (hemit.consequence id (fun _ hx => hst₆.frame.trans hx) ?_).discard
      (Q := fun _ x => ∃ key, Underway m w h b (stagesOf h b source key true) x) fun _ _ hx => hx
    exact fun _ x _ htx _ => ⟨key, hst₆.keep hht htx⟩

/-- **Registering** lands, and the subscription has come to its last stage but one. -/
theorem connect {stream : Stream} (hc : c.Behaves m K) (hf : Free m w) (hu : Reached m K u)
    (hd : u.disposed h = false)
    (hst : Underway m w h b [.subscribing h b stream.source] u) :
    Lands m K m.mayPanic (Frame m w)
      (fun _ x => ∃ key, Underway m w h b (stagesOf h b stream.source key stream.warm) x)
      (c.connect stream b h u) := by
  obtain ⟨source, warm⟩ := stream
  cases source with
  | widget => exact hc.connect_widget hu hd hst
  | client => exact hc.connect_client hf hu hd hst

end Client.Behaves

/-- A handle more is in the frame. -/
theorem Frame.addingHandle (w : Toolkit σ) (disposed : Bool) (action : Option Nat) :
    Frame m w (w.addingHandle { disposed := disposed, action := action.map .client }) :=
  .of_step (.newHandle disposed action) rfl (fun _ => rfl) (fun _ => rfl) fun _ => rfl

/-- A new handle lands, and is there. -/
theorem Reached.newHandle (hw : Reached m K w) (disposed : Bool) (action : Option Nat) :
    Lands m K p (Frame m w) (fun h u => u.HasHandle h)
      (newHandle { disposed := disposed, action := action.map .client } w) := by
  refine ⟨hw.steps (.single (.newHandle disposed action)) rfl, .addingHandle w disposed action, ?_⟩
  have hf := hw.sound.find?_addingHandle { disposed := disposed, action := action.map .client }
    w.handles.next
  rw [if_pos rfl] at hf
  exact Option.isSome_iff_exists.mpr ⟨_, hf⟩

/-- Nothing is said of a subscription without a handle. -/
theorem Toolkit.Sound.milestones_eq_nil (hs : w.Sound) (hh : ¬ w.HasHandle h) :
    milestones h w.journal = [] := by
  rw [List.eq_nil_iff_forall_not_mem]
  intro e he
  obtain ⟨ho, he⟩ := mem_milestones.mp he
  have hk := hs.knows ho
  cases e with
  | subscribing k b source =>
    obtain rfl : k = h := Option.some.inj he
    obtain ⟨hb, rfl⟩ := hk
    exact hh (hs.owned hb)
  | withdrawn k | attaching k | registered k | attached k | concluded k =>
    obtain rfl : k = h := Option.some.inj he
    exact hh hk
  | _ => cases he

/-- The last stage of a subscription is that its call comes back. -/
theorem Underway.conclude (hu : Reached m K u) (hst : Underway m w h b es u)
    (hes : es = [.subscribing h b source, .withdrawn h] ∨
      ∃ key warm, es = stagesOf h b source key warm) :
    Lands m K p (Frame m w)
      (fun k x => k = h ∧ ∃ es, Underway m w h b (.subscribing h b source :: es) x)
      (((do UI.note (.concluded h); return h) : UI σ HandleId) u) := by
  have hs : Step m u (u.noted (.concluded h)) := .conclude (by rw [hst.stages]; exact hes)
  have hst' := hst.note hs rfl fun _ => rfl
  refine ⟨hu.steps (.single hs) rfl, hst'.frame, rfl, ?_⟩
  obtain rfl | ⟨key, warm, rfl⟩ := hes <;> exact ⟨_, hst'⟩

/-- The toolkit with a subscription more whose observer was not called yet. -/
def Toolkit.admitting (w : Toolkit σ) (source : Source) (observer : Observer) : Toolkit σ :=
  (w.opening observer).noted (.subscribing w.handles.next w.bridges.next source)

/-- Subscribe an observer that is let in. -/
def Client.letIn (c : Client σ) (stream : Stream) (observer : Observer) : UI σ HandleId := do
  let (b, h) ← newBridge observer
  note (.subscribing h b stream.source)
  discard (c.dispatch b (.subscribed h))
  if ← isDisposed h then note (.withdrawn h)
  else c.connect stream b h
  note (.concluded h)
  return h

/-- The bridge and the handle of a new subscription. -/
theorem Toolkit.Sound.get_admitting (hs : w.Sound) (source : Source) (observer : Observer) :
    (w.admitting source observer).bridges.find? w.bridges.next =
        some { handle := w.handles.next, observer := observer } ∧
      (w.admitting source observer).bridges.get w.bridges.next =
        { handle := w.handles.next, observer := observer } := by
  have hfind : (w.admitting source observer).bridges.find? w.bridges.next =
      some { handle := w.handles.next, observer := observer } :=
    (hs.find?_opening observer w.bridges.next).trans (if_pos rfl)
  refine ⟨hfind, ?_⟩
  rw [Registry.get, hfind]
  rfl

namespace Client.Behaves

/-- **The thread check** lands, whether the observer is refused or not. -/
theorem checkThread (hc : c.Behaves m K) (owner : Thread) (observer : Observer) :
    Keeps m K False (m.observersPanic = true) (c.checkThread owner observer) := by
  intro w hw _
  simp only [Client.checkThread, run_get_bind, run_ite]
  split
  · exact ⟨hw, .refl w, trivial⟩
  have hnoted : Frame m w (w.noted (.refused owner w.here)) := .note w rfl
  have hw' : Reached m K (w.noted (.refused owner w.here)) := hw.steps hnoted.steps rfl
  simp only [run_note_bind]
  refine Lands.after hnoted ((hw'.newHandle true none).next fun h u hu _ _ => ?_)
  exact ((hc.tell observer (.subscribed h)).bind fun _ => (hc.tell observer _).bind fun _ =>
    .pure false) u hu False.elim

/-- **The first call on a new observer** lands: the bridge is new, so it delivers at once. -/
theorem firstCall (hc : c.Behaves m K) (hw : Reached m K w) (source : Source)
    (observer : Observer) :
    Lands m K m.mayPanic (Frame m w)
      (fun _ u => Underway m w w.handles.next w.bridges.next
        [.subscribing w.handles.next w.bridges.next source] u)
      (c.dispatch w.bridges.next (.subscribed w.handles.next) (w.admitting source observer)) := by
  let h := w.handles.next
  let b := w.bridges.next
  let x := w.admitting source observer
  have hx : x = (w.opening observer).noted (.subscribing h b source) := rfl
  have hfresh : ¬ w.HasHandle h := hw.sound.not_hasHandle_next
  have hbridge := (hw.sound.get_admitting source observer).2
  have hidle : x.delivering b = none := by rw [Toolkit.delivering, hbridge]
  have hcl : x.closed b = false := hw.sound.closed_opening_next observer
  have hunborn : w.delivering b = none := by
    rw [Toolkit.delivering, Registry.get, hw.sound.freshBridges b (Nat.le_refl _)]
    rfl
  have hs : Step m w (x.starting b (.subscribed h)) := .subscribe source observer
  have hother : ∀ k, h ≠ k → milestone? k (.subscribing h b source) = none :=
    fun k hk => if_neg (by simpa [subscription?] using hk)
  have hwithin : Within m b w (x.starting b (.subscribed h)) := by
    refine .starting hs rfl (fun k hk => ?_) (fun k => ?_) fun k hk => ?_
    · have hfk := hw.sound.find?_opening observer k
      rw [if_neg hk.symm] at hfk
      change (((w.opening observer).bridges.find? k).getD default).delivering = _
      rw [hfk]
      rfl
    · rw [hx, marks_noted]
      exact List.append_nil _
    · rw [hx, milestones_noted, hother k fun e => hfresh (e ▸ hk)]
      exact List.append_nil _
  have hstages : milestones h (x.starting b (.subscribed h)).journal =
      [.subscribing h b source] := by
    rw [milestones_starting, hx, milestones_noted]
    change milestones h w.journal ++ _ = _
    rw [hw.sound.milestones_eq_nil hfresh]
    simp [milestone?, subscription?, h, b]
  have hhx : (x.starting b (.subscribed h)).HasHandle h := by
    have hfh := hw.sound.find?_addingHandle {} h
    rw [if_pos rfl] at hfh
    exact Option.isSome_iff_exists.mpr ⟨_, hfh⟩
  rw [Client.dispatch_of_open hidle hcl]
  refine ((hc.deliver hunborn (hw.steps (.single hs) rfl) hwithin).mono .inl).bind
    (fun _ hx => hx) fun _ u hu hwu hkept => ?_
  exact ⟨hu, hwu, hwu, hfresh, hunborn, (hkept h hhx).trans hstages⟩

/-- **An observer that is let in** is subscribed, and the result is the handle that was made for
    it. -/
theorem letIn (hc : c.Behaves m K) (hw : Reached m K w) (hf : Free m w) (stream : Stream)
    (observer : Observer) :
    Lands m K m.mayPanic (Frame m w)
      (fun h u => h = w.handles.next ∧ ∃ es, Underway m w w.handles.next w.bridges.next
        (.subscribing w.handles.next w.bridges.next stream.source :: es) u)
      (c.letIn stream observer w) := by
  simp only [Client.letIn, run_newBridge_bind, run_note_bind]
  refine ((hc.firstCall hw stream.source observer).discard
    (T := fun _ u => Underway m w w.handles.next w.bridges.next
      [.subscribing w.handles.next w.bridges.next stream.source] u)
    fun _ _ hx => hx).bind (fun _ hx => hx) fun _ u hu hwu hst => ?_
  simp only [run_isDisposed_bind, run_ite]
  split
  · next hd =>
    have hs : Step m u (u.noted (.withdrawn w.handles.next)) := .withdraw hst.stages hd
    have hst' := hst.note hs rfl fun _ => rfl
    exact hst'.conclude (hu.steps (.single hs) rfl) (.inl rfl)
  · next hd =>
    have hd : u.disposed w.handles.next = false := by simpa using hd
    refine (hc.connect hf hu hd hst).bind (fun _ hx => hx) fun _ y hy hwy hconnected => ?_
    obtain ⟨key, hst'⟩ := hconnected
    exact hst'.conclude hy (.inr ⟨key, stream.warm, rfl⟩)

/-- **Subscribing lands**, and the result is a handle. -/
theorem subscribe (hc : c.Behaves m K) (hv : Reached m K v) (hfree : Free m v) (stream : Stream)
    (observer : Observer) :
    Lands m K m.mayPanic (Frame m v) (fun h u => u.HasHandle h)
      (c.subscribe stream observer v) := by
  simp only [Client.subscribe, run_screen_bind]
  have hcheck := (hc.checkThread (stream.source.thread v.screen) observer).mono id
    (q := m.mayPanic) .inl
  refine (hcheck v hv False.elim).next fun granted w hw hvw _ => ?_
  cases granted with
  | false => exact (hw.newHandle true none).bind (fun _ hx => hx) fun h u hu hwu hh => ⟨hu, hwu, hh⟩
  | true =>
    simp only [Bool.not_true, Bool.false_eq_true, if_false]
    refine (hc.letIn hw (hfree.frame hvw) stream observer).weaken ?_
    rintro _ u hu - ⟨rfl, es, hst⟩
    exact (hu.sound.hasHandle_of_subscribing hst.stages).1

end Client.Behaves

/-- An observer on the thread of the source is let in, and so is every observer while the check is
    disabled. -/
theorem Client.subscribe_of_admitted {stream : Stream} {observer : Observer}
    (hn : stream.source.thread w.screen = w.here ∨ w.threadCheck = .disabled) :
    c.subscribe stream observer w = c.letIn stream observer w := by
  have hcheck : c.checkThread (stream.source.thread w.screen) observer w = .ok true w := by
    simp only [checkThread, run_get_bind, run_ite, if_pos hn, run_pure]
  simp only [subscribe, run_screen_bind]
  rw [bind_ok hcheck]
  rfl

end WidgetStreams
