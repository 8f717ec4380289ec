import WidgetStreams.Scenario.Names

/-!
# Carrying operations out

This file defines what each operation of a scenario does.

## Main definitions

- `invoke` — ask something of an object
- `operate` — carry an operation out; the result is plain data or a refusal
- `operateAll` — carry instructions out one after the other

## Design notes

Operations call the library with a given client, so what callbacks do is not
decided here.

The handles, the key or the stream that an operation is given are found before the
scope or the list that it acts on, and if one is missing nothing is done. A scope is
held on to while it is at work, so it outlives a callback that drops its last name.
The result of an operation tells of its object as it was before a name was bound to
it, because whatever had the name until then may end and act on the object.
-/

namespace WidgetStreams

namespace Scenario

open UI Run

-- ════════════════════════════════════════════════════════════════════════
-- Outcomes
-- ════════════════════════════════════════════════════════════════════════

namespace Refusal

/-- The kind of a refusal. -/
def kind : Refusal → String
  | .widget (.positionOutOfRange _ _) => "PositionOutOfRange"
  | .widget (.pageOutOfRange _ _) => "PageOutOfRange"
  | .fault _ => "InvalidArgument"
  | .setting _ => "InvalidValue"
  | .undecodable => "Decode"
  | .unbound _ => "NoObject"
  | .malformed => "BadInput"

/-- The fields that tell of a refusal. A message without any text is left out. -/
def fields (r : Refusal) : List (String × Value) :=
  ("error", .text r.kind) :: match r.message? with
    | none | some "" => []
    | some message => [("message", .text message)]

end Refusal

/-- The fields that tell of an outcome. -/
def outcomeFields : Outcome → List (String × Value)
  | .ok v => [("ret", v)]
  | .error r => r.fields

/-- Carry a step out without a result. -/
def silently (x : Step Unit) : Step Value := do
  x
  return .null

/-- What a widget answers when it may refuse. -/
def orRefuse (x : Run (Except WidgetError Unit)) : Step Value := do
  match ← x with
  | .ok () => return .null
  | .error e => throw (.widget e)

/-- A truth value as the result. -/
def truth (x : Run Bool) : Step Value := return .bool (← x)

/-- A text as the result. -/
def words (x : Run String) : Step Value := return .text (← x)

/-- The state of an object as the result; null if it has none. -/
def stateOf (object : Object) : Step Value := do
  let w ← (get : Run (Toolkit State))
  return (snapshot? w object).getD .null

/-- The name of a setting. -/
def checkName : ThreadCheck → String
  | .enforce => "Enforce"
  | .disabled => "Disabled"

/-- A notification as data. -/
def encodeNotification : Notification → Value
  | .next value => .record [("next", value.encode)]
  | .failed fault => .record [("fail", fault.encode)]

/-- A former content as data. -/
def encodeOld (old : Option Value) : Value := .record [("old", old.getD .null)]

/-- The constants of the library as data. -/
def constants : Value :=
  .record
    [("invalid_position", .ofInt32 invalidPosition), ("invalid_row_id", .ofInt64 invalidRowId),
      ("default_page_width", .ofInt32 defaultPageWidth),
      ("thread_check_var", .text ThreadCheck.variableName),
      ("ime", .list ((List.range 8).map .ofNat)),
      ("visibility", .text (default : Visibility).name),
      ("scroll_state", .text (default : ScrollState).name),
      ("thread_check", .text (checkName default)),
      ("view_flags", .ofNat Flags.initial.bits)]

-- ════════════════════════════════════════════════════════════════════════
-- Methods
-- ════════════════════════════════════════════════════════════════════════

/-- Ask something of a view. -/
def invokeView (c : Code) (v : ViewId) : Method → Step Value
  | .id => return .ofNat v
  | .click => truth (c.click v)
  | .longClick => truth (c.longClick v)
  | .requestFocus => truth (c.requestFocus v)
  | .clearFocus => silently (c.clearFocus v)
  | .setFocusable on => silently (c.setFocusable v on)
  | .setFlag chosen on => truth (setFlags v chosen on)
  | .putFlag chosen on => silently do discard (setFlags v chosen on : Run Bool)
  | .setVisibility visibility => silently (setVisibility v visibility : Run Unit)
  | .touch motion => truth (c.touch v motion)
  | .hover motion => truth (c.hover v motion)
  | .describeFlags => words do return Describe.flags ((← screenNow).flags v)
  | .threadIsCurrent => truth do return ((← screenNow).view v).thread == (← get).here
  | _ => throw .malformed

/-- Ask something of a text view. -/
def invokeTextView (c : Code) (v : ViewId) : Method → Step Value
  | .setText s => silently (c.setText v s)
  | .append s => silently (c.append v s)
  | .text => words (text v)
  | .editorAction action => truth (c.actInEditor v action)
  | .removeListener name => do
    let key ← resolveKey name
    truth (UI.removeListener ⟨.watcher, v⟩ key)
  | _ => throw .malformed

/-- Ask something of an adapter view. -/
def invokeAdapterView (c : Code) (v : ViewId) : Method → Step Value
  | .select position => orRefuse (c.select v position)
  | .clearSelection => silently (c.clearSelection v)
  | .setItems ids => silently (c.setRows v ids)
  | .itemIdAt position => do return .ofInt64 ((← (rows v : Run Rows)).idAt position)
  | .clickItem position => truth (c.clickRow v position)
  | .longClickItem position => truth (c.longClickRow v position)
  | _ => throw .malformed

/-- Ask something of a search view. -/
def invokeSearchView (c : Code) (v : ViewId) : Method → Step Value
  | .setQuery s submit => silently (c.setQuery v s submit)
  | .submitQuery => truth (c.submitQuery v)
  | _ => throw .malformed

/-- Ask something of a search bar. -/
def invokeSearchBar (c : Code) (v : ViewId) : Method → Step Value
  | .setBarQuery s => silently (c.setBarQuery v s)
  | .submitBar => silently (c.submitBarQuery v)
  | .dismissKeyboard => silently (c.dismissKeyboard v)
  | _ => throw .malformed

/-- Ask something of a pager. -/
def invokePager (c : Code) (v : ViewId) : Method → Step Value
  | .setPage page smooth => orRefuse (c.setPage v page smooth)
  | .swipeTo page => orRefuse (c.swipeTo v page)
  | .setPageWidth width => silently (setPageWidth v width : Run Unit)
  | .removeListener name => do
    let key ← resolveKey name
    truth (UI.removeListener ⟨.page, v⟩ key)
  | _ => throw .malformed

/-- Ask something of a menu. -/
def invokeMenu (c : Code) (m : Nat) : Method → Step Value
  | .showMenu => silently (putShowing m true : Run Unit)
  | .dismissMenu => silently (c.dismissMenu m)
  | .chooseItem id => truth (c.chooseItem m id)
  | .items => do return .list ((← (menu m : Run Menu)).items.map MenuItem.encode)
  | _ => throw .malformed

/-- Ask something of a tape called `name`. -/
def invokeTape (c : Code) (name : Name) (t : TapeId) : Method → Step Value
  | .take => do return encodeNotification (← (take t : Run Notification))
  | .takeNext => do return (← (takeNext t : Run Payload)).encode
  | .takeError => do return (← (takeFault t : Run Fault)).encode
  | .expectEmpty => silently (expectEmpty t : Run Unit)
  | .values => do return .list ((← (tape t : Run Tape)).values.map Payload.encode)
  | .pending => do return .ofNat (← (tape t : Run Tape)).pending.length
  | .handle => do
    match (← (tape t : Run Tape)).handle with
    | none => return .null
    | some h =>
      let disposed ← (isDisposed h : Run Bool)
      assign c (name ++ ".handle") (.handle h)
      return .bool disposed
  | _ => throw .malformed

/-- Ask something of the object called `name`. -/
def invoke (c : Code) (name : Name) (object : Object) (method : Method) : Step Value :=
  match object, method with
  | object, .describe => words do return describe (← get) object
  | .view v, method => invokeView c v method
  | .textView v, method => invokeTextView c v method
  | .adapterView v, method => invokeAdapterView c v method
  | .searchView v, method => invokeSearchView c v method
  | .searchBar v, method => invokeSearchBar c v method
  | .pager v, method => invokePager c v method
  | .menu m, method => invokeMenu c m method
  | .swipe n, .swipe => silently (c.swipeAway n)
  | .scrollView v, .scrollTo x y => silently (c.scrollTo v ⟨x, y⟩)
  | .scrollView v, .scrollBy dx dy => silently (c.scrollBy v dx dy)
  | .tape t, method => invokeTape c name t method
  | _, _ => throw .malformed

-- ════════════════════════════════════════════════════════════════════════
-- Creating
-- ════════════════════════════════════════════════════════════════════════

/-- Create a widget on a thread; the last two kinds live where their view does. -/
def create (thread : Thread) : WidgetKind → Step Object
  | .view => do return .view (← (newView thread : Run ViewId))
  | .textView => do return .textView (← (newView thread : Run ViewId))
  | .searchView => do return .searchView (← (newView thread : Run ViewId))
  | .searchBar => do return .searchBar (← (newView thread : Run ViewId))
  | .scrollView => do return .scrollView (← (newView thread : Run ViewId))
  | .adapterView ids => do return .adapterView (← (newAdapterView thread ids : Run ViewId))
  | .pager count => do return .pager (← (newPager thread count : Run ViewId))
  | .menu anchor items => do
    let v ← resolveView anchor
    return .menu (← (newMenu v items : Run Nat))
  | .swipe view => do
    let v ← resolveView view
    return .swipe (← (newSwipe v : Run Nat))

/-- The handle of a kind. -/
def handleOf (label : Name) (kind : HandleKind) (instructions : List Instruction)
    (failure : Option String) : Run HandleId := do
  match kind with
  | .infallible => newHandle { action := some (← actionOf label instructions none) }
  | .fallible => newHandle { action := some (← actionOf label instructions failure) }
  | .empty => newHandle {}
  | .disposed => newHandle { disposed := true }

/-- The fault of a specification. -/
def faultOf : FaultSpec → Step Fault
  | .callback reason => return .callback reason
  | .invalidArgument reason => return .invalidArgument reason
  | .wrapping inner => do
    match ← resolve inner with
    | .fault f => return .callbackFault f
    | _ => throw .malformed

/-- The sink of a target. -/
def sinkOf (name : Name) : SinkTarget → Step Sink
  | .widget binding target => do
    let v ← resolveView target
    return .widget binding v
  | .visibility target none => do return .shown (← resolveView target)
  | .visibility target (some whenFalse) => do
    let v ← resolveView target
    match Sink.visibility? v whenFalse with
    | .ok sink => return sink
    | .error f => throw (.fault f)
  | .custom limit => do
    let n ← newCallback (.sink name limit)
    return .client n

/-- The payload that a sink makes of plain data. -/
def payloadFor? : Sink → Value → Option Payload
  | .adapted _ sink, v => payloadFor? sink v
  | .client _, v => v.int64?.map fun n => .data (.ofInt64 n)
  | .widget .selection _, v => v.int32?.map .number
  | .widget .currentPage _, v => v.nat64?.map .page
  | .widget .text _, v | .widget (.query _) _, v | .widget .barQuery _, v => v.text?.map .text
  | .widget _ _, v => v.bool?.map .flag

/-- The adapter in front of a sink: truth values are negated, texts get a start, and numbers an
    amount. -/
def adapterFor (start : String) (amount : Int) : Sink → Adapter
  | .adapted _ sink => adapterFor start amount sink
  | .client _ | .widget .selection _ | .widget .currentPage _ => .add amount
  | .widget .text _ | .widget (.query _) _ | .widget .barQuery _ => .prepend start
  | .widget _ _ => .negate

/-- Feed an observer with calls. -/
def feed (c : Code) (observer : Observer) : List Feed → Run Unit
  | [] => return ()
  | event :: rest => do
    match event with
    | .subscribe => c.tell observer (.subscribed (← newHandle {}))
    | .next v => c.tell observer (.next (.data v))
    | .error fault => c.tell observer (.failed fault)
    feed c observer rest

/-- Hold some handles, one after the other. -/
def holdAll (s : ScopeId) : List HandleId → Run Unit
  | [] => return ()
  | h :: rest => do
    hold s h
    holdAll s rest

-- ════════════════════════════════════════════════════════════════════════
-- Dials
-- ════════════════════════════════════════════════════════════════════════

/-- Tell a listener of a dial of its value. -/
def tellDial (c : Code) (v : Value) (l : DialListener) : Run Bool :=
  match l.judge with
  | some judge => c.emitJudged l.bridge (.data v) judge
  | none => c.emit l.bridge (.data v)

/-- Tell listeners of a dial of its value, one after the other, and collect their answers. -/
def tellDials (c : Code) (v : Value) : List DialListener → Run (List Value)
  | [] => return []
  | l :: rest => do
    let answer ← tellDial c v l
    let answers ← tellDials c v rest
    return .bool answer :: answers

/-- Turn a dial: those in its list are told first, then the one in its slot. -/
def turn (c : Code) (d : Nat) (v : Value) : Run Value := do
  changeDial d fun dial => { dial with value := v }
  let dial := (← state).dials.get d
  return .list (← tellDials c v (dial.list.snapshot ++ dial.slot.content.toList))

-- ════════════════════════════════════════════════════════════════════════
-- Operations
-- ════════════════════════════════════════════════════════════════════════

/-- Whether two objects are one and the same. -/
def sameObject : Object → Object → Option Bool
  | .view a, .view b => some (a == b)
  | .handle a, .handle b => some (a == b)
  | .thread a, .thread b => some (a == b)
  | .key a, .key b => some (a == b)
  | _, _ => none

/-- Subscribe an observer under a name. The result tells whether the handle is disposed, and for
    probes whether it is the one that the observer was given. -/
def subscribeAs (c : Code) (stream : Stream) (name : Name) (spec : ObserverSpec) : Run Value := do
  let observer ← observerOf c name spec
  let h ← c.subscribe stream observer
  let same ← match spec with
    | .mk .probe _ => do
      match ← find? name with
      | some (.handle k) => pure (.bool (h == k))
      | _ => pure .null
    | _ => pure .null
  let disposed ← isDisposed h
  assign c name (.handle h)
  return .record [("disposed", .bool disposed), ("same", same)]

/-- Subscribe an observer under a name and let a scope hold the handle. -/
def subscribeHeld (c : Code) (s : ScopeId) (stream : Stream) (name : Name) (spec : ObserverSpec) :
    Run Unit :=
  holding c (.scope s) do
    let observer ← observerOf c name spec
    c.subscribeIn s stream observer

mutual

/-- Carry an operation out. -/
def operate (c : Code) : Operation → Step Value
  | .malformed => throw .malformed
  | .create kind name owner => do
    let thread ← match owner with
      | some owner => resolveThread owner
      | none => pure (← (get : Run (Toolkit State))).here
    let object ← create thread kind
    let state ← stateOf object
    assign c name object
    return state
  | .call target method => do invoke c target (← resolve target) method
  | .listen target kind name answer silent reactions => do
    match pointOf? (← resolve target) kind with
    | none => throw .malformed
    | some p =>
      let listener ← if silent then pure Listener.silent else do
        let reactor ← newReactor reactions
        let n ← newCallback (.listener name reactor answer)
        pure (Listener.client n)
      match ← (UI.listen p listener : Run (Option Nat)) with
      | none => return .null
      | some key =>
        assign c name (.key key)
        return .ofNat key
  | .unlisten target kind => do
    match pointOf? (← resolve target) kind with
    | none => throw .malformed
    | some p => silently (UI.unlisten p : Run Unit)
  | .viewOf target name => do
    let v ← resolveView target
    silently (assign c name (.view v))
  | .clone target name => do
    let object ← resolve target
    silently (assign c name object)
  | .drop target => truth (forget c target)
  | .same a b => do
    match sameObject (← resolve a) (← resolve b) with
    | some answer => return .bool answer
    | none => throw .malformed
  | .state target => do
    match ← find? target with
    | some object => stateOf object
    | none => return .null
  | .mark v => return v
  | .panic message => do (panicWith message : Run Value)
  | .onThread instructions => do
    let outcomes ← (onNewThread (operateAll c instructions) : Run (List Outcome))
    return .list (outcomes.map fun o => .record (outcomeFields o))
  | .describe target => do
    let object ← resolve target
    words do return describe (← get) object
  | .newHandle name kind instructions failure => do
    let h ← handleOf name kind instructions failure
    silently (assign c name (.handle h))
  | .dispose target => do
    let h ← resolveHandle target
    silently (c.dispose h)
  | .isDisposed target => do
    let h ← resolveHandle target
    truth (isDisposed h)
  | .setAction target label instructions failure => do
    let h ← resolveHandle target
    let action ← actionOf label instructions failure
    silently (c.setAction h action)
  | .newScope name => do
    let s ← (newScope : Run ScopeId)
    silently (assign c name (.scope s))
  | .hold target handles => do
    let hs ← handles.mapM resolveHandle
    let s ← resolveScope target
    silently (holdAll s hs)
  | .subscribeIn target stream name spec => do
    let stream ← resolveStream stream
    let s ← resolveScope target
    silently (subscribeHeld c s stream name spec : Run Unit)
  | .clearScope target => do
    let s ← resolveScope target
    silently (holding c (.scope s) (c.clearScope s) : Run Unit)
  | .newSlot name => do
    let (i, slots) := (← state).slots.add {}
    change fun s => { s with slots := slots }
    silently (assign c name (.slot i))
  | .setSlot target v => do
    match ← resolve target with
    | .slot i =>
      let (old, slot) := ((← state).slots.get i).set v
      change fun s => { s with slots := s.slots.put i slot }
      return encodeOld old
    | _ => throw .malformed
  | .clearSlot target => do
    match ← resolve target with
    | .slot i =>
      let (old, slot) := ((← state).slots.get i).clear
      change fun s => { s with slots := s.slots.put i slot }
      return encodeOld old
    | _ => throw .malformed
  | .newList name => do
    let (i, lists) := (← state).lists.add {}
    change fun s => { s with lists := lists }
    silently (assign c name (.list i))
  | .add target v name => do
    match ← resolve target with
    | .list i =>
      let (key, list) := ((← state).lists.get i).add v
      change fun s => { s with lists := s.lists.put i list }
      assign c name (.key key)
      return .ofNat key
    | _ => throw .malformed
  | .remove target key => do
    let key ← resolveKey key
    match ← resolve target with
    | .list i =>
      let (old, list) := ((← state).lists.get i).remove key
      change fun s => { s with lists := s.lists.put i list }
      return encodeOld old
    | _ => throw .malformed
  | .parseCheck raw => do
    match ThreadCheck.parse? raw with
    | some check => return .text (checkName check)
    | none => throw (.setting raw)
  | .checkOf raw => do
    match ThreadCheck.ofVariable? raw with
    | some check => return .text (checkName check)
    | none => throw (.setting (raw.getD ""))
  | .currentCheck => do
    return .text (checkName (← (get : Run (Toolkit State))).threadCheck)
  | .installCheck check => do
    return .text (checkName (← (installCheck check : Run ThreadCheck)))
  | .overrideCheck check name => do
    let o ← (overrideCheck check : Run OverrideId)
    silently (assign c name (.guard o))
  | .newFault name spec => do
    let f ← faultOf spec
    assign c name (.fault f)
    return f.encode
  | .faultInfo target => do
    match ← resolve target with
    | .fault f => return f.encode
    | _ => throw .malformed
  | .thread name => do
    let here := (← (get : Run (Toolkit State))).here
    assign c name (.thread here)
    return .bool true
  | .threadIsCurrent target => do
    let t ← resolveThread target
    return .bool (t == (← (get : Run (Toolkit State))).here)
  | .checkThread target name spec => do
    let t ← resolveThread target
    let observer ← observerOf c name spec
    truth (c.checkThread t observer)
  | .observe name handlesErrors reactions events => do
    let kind := if handlesErrors then ObserverKind.bothFunctions else .valueFunction
    let observer ← observerOf c name (.mk kind reactions)
    feed c observer events
    return .text (Describe.functions handlesErrors)
  | .newBridge name spec => do
    let observer ← observerOf c name spec
    let (b, _) ← (newBridge observer : Run (BridgeId × HandleId))
    silently (assign c name (.bridge b))
  | .emit target v => do
    let b ← resolveBridge target
    truth (c.emit b (.data v))
  | .emitJudged target v predicate => do
    let b ← resolveBridge target
    let judge ← judgeOf target predicate
    truth (c.emitJudged b (.data v) judge)
  | .fail target fault => do
    let b ← resolveBridge target
    silently (c.fail b fault)
  | .handleOf target name => do
    let b ← resolveBridge target
    let h := (← (bridge b : Run Bridge)).handle
    silently (assign c name (.handle h))
  | .bind binding target name predicate => do
    match ownerOf? (← resolve target) binding.site with
    | none => throw .malformed
    | some owner =>
      let judge ← judgeOf name predicate
      assign c name (.stream (.ofBinding binding owner judge))
      return .record [("warm", .bool binding.isWarm)]
  | .subscribe stream name spec => do
    let stream ← resolveStream stream
    subscribeAs c stream name spec
  | .skipInitial target name => do
    let stream ← resolveStream target
    assign c name (.stream stream.cold)
    return .record [("warm", .bool false)]
  | .currentValue target => do
    let stream ← resolveStream target
    return (← (c.currentValue stream.source : Run Payload)).encode
  | .sourceIsCurrent target => do
    let stream ← resolveStream target
    let owner := stream.source.thread (← screenNow)
    return .bool (owner == (← (get : Run (Toolkit State))).here)
  | .newDial name v shared => do
    let here := (← (get : Run (Toolkit State))).here
    let (d, dials) := (← state).dials.add { value := v, shared := shared, thread := here }
    change fun s => { s with dials := dials }
    silently (assign c name (.dial d))
  | .turn target v => do
    let d ← resolveDial target
    turn c d v
  | .bindDial target name warm predicate emitterName emissions onDetach => do
    let d ← resolveDial target
    let judge ← (predicate.mapM (judgeOf name) : Run (Option Judge))
    let reactor ← newReactor onDetach
    let n ← newCallback (.source name d judge emitterName emissions reactor)
    let thread := ((← state).dials.get d).thread
    assign c name (.stream ⟨.client n thread, warm⟩)
    return .record [("warm", .bool warm)]
  | .newSink name target => do
    let sink ← sinkOf name target
    silently (assign c name (.sink sink))
  | .accept sink v => do
    let sink ← resolveSink sink
    match payloadFor? sink v with
    | none => throw .malformed
    | some value =>
      match ← c.accept sink value with
      | .ok () => return .null
      | .error (.widget e) => throw (.widget e)
      | .error (.fault f) => throw (.fault f)
  | .contramap sink name start amount => do
    let sink ← resolveSink sink
    silently (assign c name (.sink (.adapted (adapterFor start amount sink) sink)))
  | .isHover action => return .bool action.isHover
  | .constants => return constants
  | .decode type json => do
    match Payload.ofText? .plain type json with
    | some value => return value.encode
    | none => throw .undecodable
  | .decodeSelectionView json => do
    match (Payload.ofText? .plain .selection json).bind Payload.selectionView? with
    | some v => return .ofNat v
    | none => throw .undecodable

/-- Carry instructions out one after the other, whatever their outcomes. -/
def operateAll (c : Code) : List Instruction → Run (List Outcome)
  | [] => return []
  | .mk _ operation :: rest => do
    let outcome ← (operate c operation).run
    let outcomes ← operateAll c rest
    return outcome :: outcomes

end

end Scenario

end WidgetStreams
