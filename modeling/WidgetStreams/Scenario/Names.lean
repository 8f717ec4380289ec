import WidgetStreams.Scenario.Report

/-!
# Names and observers of a scenario

This file defines how names are bound and let go, how operations find their
objects, and how observers, predicates and actions become numbered callbacks.

## Main definitions

- `assign`, `forget` — bind a name, or unbind it; a scope or an override without a name ends
- `holding` — run an operation on an object that must not end before the operation does
- `Step` — computations that may be refused
- `observerOf`, `judgeOf`, `actionOf` — callbacks from their specifications
-/

namespace WidgetStreams

namespace Scenario

open UI Run

/-- An object has lost a reference. If no name and no running operation refers to it any more, a
    scope is disposed and an override of the setting ends; nothing happens to other objects. -/
def letGo (c : Code) (object : Object) : Run Unit := do
  let s ← state
  if object ∈ s.names.values ∨ object ∈ s.inUse then return ()
  match object with
  | .scope s => c.clearScope s
  | .guard o => endOverride o
  | _ => return ()

/-- Bind a name to an object. What had the name before is let go. -/
def assign (c : Code) (name : Name) (object : Object) : Run Unit := do
  let before ← find? name
  change fun s => { s with names := s.names.insert name object }
  match before with
  | some object => letGo c object
  | none => return ()

/-- Unbind a name; the answer is whether it was bound. -/
def forget (c : Code) (name : Name) : Run Bool := do
  match ← find? name with
  | none => return false
  | some object =>
    change fun s => { s with names := s.names.erase name }
    letGo c object
    return true

/-- Run an operation that refers to an object. If the object loses its last name meanwhile, it is
    let go when the operation ends, however it ends. -/
def holding {α : Type} (c : Code) (object : Object) (body : Run α) : Run α := do
  change fun s => { s with inUse := object :: s.inUse }
  try body
  finally
    change fun s => { s with inUse := s.inUse.erase object }
    letGo c object

/-- Computations of a scenario that may be refused. -/
abbrev Step := ExceptT Refusal Run

/-- The object of a name. -/
def resolve (name : Name) : Step Object := do
  match ← find? name with
  | some object => return object
  | none => throw (.unbound name)

/-- The handle of a name. -/
def resolveHandle (name : Name) : Step HandleId := do
  match ← resolve name with
  | .handle h => return h
  | _ => throw .malformed

/-- The scope of a name. -/
def resolveScope (name : Name) : Step ScopeId := do
  match ← resolve name with
  | .scope s => return s
  | _ => throw .malformed

/-- The stream of a name. -/
def resolveStream (name : Name) : Step Stream := do
  match ← resolve name with
  | .stream s => return s
  | _ => throw .malformed

/-- The sink of a name. -/
def resolveSink (name : Name) : Step Sink := do
  match ← resolve name with
  | .sink s => return s
  | _ => throw .malformed

/-- The key of a name. -/
def resolveKey (name : Name) : Step Nat := do
  match ← resolve name with
  | .key k => return k
  | _ => throw .malformed

/-- The dial of a name. -/
def resolveDial (name : Name) : Step Nat := do
  match ← resolve name with
  | .dial d => return d
  | _ => throw .malformed

/-- The bridge of a name, also by way of its emitter. -/
def resolveBridge (name : Name) : Step BridgeId := do
  match ← resolve name with
  | .bridge b | .emitter b => return b
  | _ => throw .malformed

/-- The view that an object is or has. -/
def viewOf? (s : Screen) : Object → Option ViewId
  | .view v | .textView v | .searchView v | .searchBar v | .scrollView v | .adapterView v
  | .pager v => some v
  | .menu m => some (s.menus.get m).anchor
  | .swipe n => some (s.swipes.get n)
  | _ => none

/-- The view of a name. -/
def resolveView (name : Name) : Step ViewId := do
  let object ← resolve name
  match viewOf? (← screenNow) object with
  | some v => return v
  | none => throw .malformed

/-- The thread of a name, also by way of a widget that lives on it. -/
def resolveThread (name : Name) : Step Thread := do
  match ← resolve name with
  | .thread t => return t
  | object =>
    let s ← screenNow
    match viewOf? s object with
    | some v => return (s.view v).thread
    | none => throw .malformed

/-- The registration point that a scenario calls by a kind of listener. -/
def pointOf? : Object → ListenerKind → Option Point
  | .view v, .click => some ⟨.click, v⟩
  | .view v, .longClick => some ⟨.longClick, v⟩
  | .view v, .focus => some ⟨.focus, v⟩
  | .view v, .touch => some ⟨.touch, v⟩
  | .view v, .hover => some ⟨.hover, v⟩
  | .textView v, .watcher => some ⟨.watcher, v⟩
  | .textView v, .editorAction => some ⟨.editorAction, v⟩
  | .adapterView v, .itemClick => some ⟨.itemClick, v⟩
  | .adapterView v, .itemLongClick => some ⟨.itemLongClick, v⟩
  | .adapterView v, .itemSelected => some ⟨.itemSelected, v⟩
  | .searchView v, .query => some ⟨.query, v⟩
  | .searchBar v, .query => some ⟨.barQuery, v⟩
  | .pager v, .page => some ⟨.page, v⟩
  | .menu m, .itemClick => some ⟨.menuClick, m⟩
  | .menu m, .dismiss => some ⟨.menuDismiss, m⟩
  | .swipe n, .dismiss => some ⟨.swipe, n⟩
  | .scrollView v, .scroll => some ⟨.scroll, v⟩
  | _, _ => none

/-- The number of the widget that offers the bindings of a site. -/
def ownerOf? : Object → Site → Option Nat
  | .view v, .click | .view v, .longClick | .view v, .focus | .view v, .touch
  | .view v, .hover => some v
  | .textView v, .watcher | .textView v, .editorAction => some v
  | .adapterView v, .itemClick | .adapterView v, .itemLongClick
  | .adapterView v, .itemSelected => some v
  | .searchView v, .query => some v
  | .searchBar v, .barQuery => some v
  | .pager v, .page => some v
  | .menu m, .menuClick | .menu m, .menuDismiss => some m
  | .swipe n, .swipe => some n
  | .scrollView v, .scroll => some v
  | _, _ => none

/-- A function for the values or the faults of an observer, with reactions of its own. -/
def functionOf (name : Name) (reactions : List Reaction) : Run Nat := do
  newCallback (.function name (← newReactor reactions))

/-- The observer called `name`. A recorder's tape is named after it. -/
def observerOf (c : Code) (name : Name) : ObserverSpec → Run Observer
  | .mk .probe reactions => do
    return .client (← newCallback (.probe name (← newReactor reactions) false))
  | .mk .bare reactions => do
    return .client (← newCallback (.probe name (← newReactor reactions) true))
  | .mk .valueFunction reactions => do
    return .functions (← functionOf name reactions) none
  | .mk .bothFunctions reactions => do
    return .functions (← functionOf name reactions) (some (← functionOf name reactions))
  | .mk .recorder _ => do
    let t ← newTape
    assign c (name ++ ".rec") (.tape t)
    return .tape t

/-- The judge that a predicate is, under the name it notes. -/
def judgeOf (name : Name) : PredicateSpec → Run Judge
  | .always => return .always
  | .scripted answers reactions => do
    return .client (← newCallback (.predicate name (← newReactor reactions) answers 0))

/-- The action of a handle. -/
def actionOf (label : Name) (instructions : List Instruction) (failure : Option String) :
    Run Release := do
  return .client (← newCallback (.action label instructions failure))

end Scenario

end WidgetStreams
