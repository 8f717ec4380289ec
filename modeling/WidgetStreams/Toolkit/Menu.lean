import WidgetStreams.Toolkit.View

/-!
# Popup menus

This file defines showing, dismissing and choosing from a menu. Choosing an
item dismisses the menu.
-/

namespace WidgetStreams

variable {σ : Type}

namespace UI

/-- A menu as it is. -/
def menu (m : Nat) : UI σ Menu := return (← screen).menus.get m

/-- Set whether a menu is showing, without telling anybody. -/
def putShowing (m : Nat) (showing : Bool) : UI σ Unit :=
  changeScreen fun s =>
    { s with menus := s.menus.modify m fun menu => { menu with showing := showing } }

/-- A new menu of the given items over an anchor. -/
def newMenu (anchor : ViewId) (items : List MenuItem) : UI σ Nat := do
  let s ← screen
  let (m, menus) := s.menus.add { anchor := anchor, items := items }
  changeScreen fun s => { s with menus := menus }
  return m

end UI

open UI

namespace Client

/-- Dismiss a menu. One that is not showing tells nobody. -/
def dismissMenu (c : Client σ) (m : Nat) : UI σ Unit := do
  let menu ← menu m
  putShowing m false
  if menu.showing then discard (c.notify ⟨.menuDismiss, m⟩ .menuDismissed)

/-- Choose the first item of an id and dismiss the menu; the answer is the listener's. An unknown
    id does nothing. -/
def chooseItem (c : Client σ) (m : Nat) (id : Int32) : UI σ Bool := do
  match (← menu m).items.find? fun item => item.id = id with
  | none => return false
  | some item =>
    let consumed ← c.ask ⟨.menuClick, m⟩ (.menuItemClicked item)
    c.dismissMenu m
    return consumed

end Client

end WidgetStreams
