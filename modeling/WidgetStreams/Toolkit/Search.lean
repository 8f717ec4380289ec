import WidgetStreams.Toolkit.View

/-!
# Search views and search bars

This file defines changes and submissions of a query.
-/

namespace WidgetStreams

variable {σ : Type}

namespace UI

/-- The query of a search view. -/
def query (v : ViewId) : UI σ String := return (← screen).query v

/-- Replace the query of a search view without telling anybody. -/
def putQuery (v : ViewId) (s : String) : UI σ Unit :=
  changeScreen fun screen => { screen with queries := screen.queries.insert v s }

/-- The query of a search bar. -/
def barQuery (v : ViewId) : UI σ String := return (← screen).barQuery v

/-- Replace the query of a search bar without telling anybody. -/
def putBarQuery (v : ViewId) (s : String) : UI σ Unit :=
  changeScreen fun screen => { screen with barQueries := screen.barQueries.insert v s }

end UI

open UI

namespace Client

/-- Submit the query of a search view as it is; the answer is the listener's. -/
def submitQuery (c : Client σ) (v : ViewId) : UI σ Bool := do
  let q ← query v
  note (.submitted v)
  c.ask ⟨.query, v⟩ (.querySubmitted v q)

/-- Change the query of a search view, and then submit what has become of it. -/
def setQuery (c : Client σ) (v : ViewId) (s : String) (submit : Bool) : UI σ Unit := do
  putQuery v s
  discard (c.notify ⟨.query, v⟩ (.queryChanged v s))
  if submit then discard (c.submitQuery v)

/-- Change the query of a search bar. -/
def setBarQuery (c : Client σ) (v : ViewId) (s : String) : UI σ Unit := do
  putBarQuery v s
  discard (c.notify ⟨.barQuery, v⟩ (.queryChanged v s))

/-- Submit the query of a search bar. -/
def submitBarQuery (c : Client σ) (v : ViewId) : UI σ Unit := do
  discard (c.notify ⟨.barQuery, v⟩ (.querySubmitted v (← barQuery v)))

/-- Put the keyboard of a search bar away. -/
def dismissKeyboard (c : Client σ) (v : ViewId) : UI σ Unit := do
  discard (c.notify ⟨.barQuery, v⟩ (.keyboardDismissed v (← barQuery v)))

end Client

end WidgetStreams
