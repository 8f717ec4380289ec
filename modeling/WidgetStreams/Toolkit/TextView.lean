import WidgetStreams.Toolkit.View

/-!
# Text views

This file defines edits of a text. The watchers that are registered when an
edit begins are told before the text changes, after it has changed, and once
more when all of them know. Places and lengths are counted in characters.
-/

namespace WidgetStreams

variable {σ : Type}

namespace UI

/-- The text of a text view. -/
def text (v : ViewId) : UI σ String := return (← screen).text v

/-- Replace the text of a text view without telling anybody. -/
def putText (v : ViewId) (s : String) : UI σ Unit :=
  changeScreen fun screen => { screen with texts := screen.texts.insert v s }

end UI

open UI

namespace Client

/-- Edit a text: `apply` turns the text as it is after the first round of calls into the new one.
    The watchers are told that `before` characters at `start` become `count` others. -/
def edit (c : Client σ) (v : ViewId) (start before count : Nat) (apply : String → String) :
    UI σ Unit := operate ⟨.watcher, v⟩ fun watchers => do
  c.notifyAll (.textChanging v (← text v) start before count) watchers
  let new := apply (← text v)
  putText v new
  note (.altered ⟨.watcher, v⟩ (.text new))
  note (.edited v start before count)
  c.notifyAll (.textChanged v new start before count) watchers
  c.notifyAll (.textSettled v new) watchers

/-- Replace a text. -/
def setText (c : Client σ) (v : ViewId) (s : String) : UI σ Unit := do
  c.edit v 0 (← text v).length s.length fun _ => s

/-- Add to the end of a text. -/
def append (c : Client σ) (v : ViewId) (s : String) : UI σ Unit := do
  c.edit v (← text v).length 0 s.length fun old => old ++ s

/-- Act on a text from the keyboard; the answer is the listener's. -/
def actInEditor (c : Client σ) (v : ViewId) (action : Int32) : UI σ Bool :=
  c.ask ⟨.editorAction, v⟩ (.editorActed v action)

end Client

end WidgetStreams
