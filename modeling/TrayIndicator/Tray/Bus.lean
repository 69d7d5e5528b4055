import TrayIndicator.Tray.StatusItem

/-!
# The status item on the session bus

A shell uses a status item by calls on the bus: it reports clicks, asks for
properties and for the layout of the menu, and reports events of menu entries,
which are numbered from 1 in their order. A session is a list of such calls; it
ends with the call that chooses the quit entry.
-/

namespace TrayIndicator.Tray

/-- A value on the bus. -/
inductive BusValue where
  | text (value : String)
  | number (value : Int)
  | flag (value : Bool)
  | bytes (value : List UInt8)
  | list (items : List BusValue)
  | dictionary (entries : List (String × BusValue))

/-- A call of the shell. -/
inductive BusCall where
  /-- A callback of the item, except choices, which come by number. -/
  | activate (x y : Int)
  | secondaryActivate (x y : Int)
  /-- The shell shows the menu itself. -/
  | contextMenu (x y : Int)
  /-- The wheel was turned. -/
  | scroll (delta : Int) (orientation : String)
  /-- Asks for a property. -/
  | get (property : String)
  /-- Asks for the layout of the menu. -/
  | layout
  /-- Something happened to the menu entry with a number. -/
  | menuEvent (entry : Int) (event : String)
  /-- The shell chooses the entry that has a label. -/
  | select (label : String)

/-- What a call answers: the values of the reply, or the text of an error. -/
abbrev BusReply := Except String (List BusValue)

namespace BusCall

/-- The menu entry with a number. -/
def actionAt? (number : Int) : Option MenuAction :=
  if 1 ≤ number then MenuAction.all[(number - 1).toNat]? else none

/-- The callback that a call leads to, if any. -/
def callback? : BusCall → Option Callback
  | .activate x y => some (.activate x y)
  | .secondaryActivate x y => some (.secondaryActivate x y)
  | .menuEvent number event =>
    if event = "clicked" then (actionAt? number).map .choose else none
  | .select label => (MenuAction.ofLabel? label).map .choose
  | _ => none

end BusCall

/-- An image as a value on the bus. -/
def BusValue.ofPixmap (pixmap : Icon.Pixmap) : BusValue :=
  .list [.number pixmap.width, .number pixmap.height, .bytes pixmap.argb]

/-- The menu as a value on the bus: a root with the entries as its children. -/
def menuLayout : BusValue :=
  .list [.number 0, .dictionary [("children-display", .text "submenu")],
    .list (MenuAction.all.zipIdx.map fun (action, index) =>
      .list [.number (index + 1), .dictionary [("label", .text action.label)], .list []])]

namespace StatusItem

variable {σ : Type} (item : StatusItem σ)

/-- The value of a property. -/
def property? (name : String) : Option BusValue :=
  match name with
  | "Id" => some (.text item.id)
  | "Title" => some (.text item.title)
  | "ToolTip" =>
    let tip := item.toolTip
    some (.list [.text tip.iconName, .list (tip.icons.map .ofPixmap), .text tip.title,
      .text tip.description])
  | "IconPixmap" => some (.list (item.pixmaps.map .ofPixmap))
  | "Status" => some (.text "Active")
  | "Category" => some (.text "ApplicationStatus")
  | "ItemIsMenu" => some (.flag false)
  | "Menu" => some (.text "/MenuBar")
  | "WindowId" => some (.number 0)
  | "IconName" | "IconThemePath" | "OverlayIconName" | "AttentionIconName"
  | "AttentionMovieName" => some (.text "")
  | "OverlayIconPixmap" | "AttentionIconPixmap" => some (.list [])
  | _ => none

/-- What a call answers. -/
def reply : BusCall → BusReply
  | .get name =>
    match item.property? name with
    | some value => .ok [value]
    | none => .error ("Unknown property " ++ name)
  | .layout => .ok [.number 0, menuLayout]
  | .menuEvent number event =>
    if event = "clicked" ∧ (BusCall.actionAt? number).isNone then .error "id not found" else .ok []
  | .select label =>
    if (MenuAction.ofLabel? label).isNone then .error "no such label" else .ok []
  | _ => .ok []

/-- Answers a call. When it sends the first token the main loop leaves. -/
def serve (call : BusCall) (state : ItemState σ) : Step (ItemState σ) BusReply :=
  match call.callback? with
  | none => ⟨item.reply call, state, []⟩
  | some callback =>
    let step := item.handle callback state
    let leaving := if state.tokens < step.state.tokens then [leavingEvent] else []
    ⟨item.reply call, step.state, step.events ++ leaving⟩

/-- The steps of a session, up to the one that ends it. -/
def session : List BusCall → ItemState σ → List (Step (ItemState σ) BusReply)
  | [], _ => []
  | call :: calls, state =>
    let step := item.serve call state
    if state.tokens < step.state.tokens then [step] else step :: session calls step.state

/-- Did a step of a session end it? -/
def ended (steps : List (Step (ItemState σ) BusReply)) : Bool :=
  steps.any fun step => 0 < step.state.tokens

end StatusItem

end TrayIndicator.Tray
