/-!
# Clicks on the icon

Some desktops report every press and release of a button. A click counts when
the button is released. A double click arrives as release, double click and
release, and the second release is swallowed, so that it does not count once
more.
-/

namespace TrayIndicator.Tray

/-- The buttons of the pointer. -/
inductive Button where
  | left | right | middle
  deriving DecidableEq, Repr

/-- What happens to a button over the icon. -/
inductive Click where
  | press (button : Button)
  | release (button : Button)
  | doubleClick (button : Button)
  deriving DecidableEq, Repr

/-- Why the icon was activated. -/
inductive Activation where
  /-- A single primary click. -/
  | trigger
  /-- A double click. -/
  | doubleClick
  /-- A secondary click, which opens the menu. -/
  | context
  /-- A middle click. -/
  | middleClick
  deriving DecidableEq, Repr

namespace Activation

/-- The name of a reason. -/
def name : Activation → String
  | .trigger => "Trigger"
  | .doubleClick => "DoubleClick"
  | .context => "Context"
  | .middleClick => "MiddleClick"

/-- Every reason. -/
def all : List Activation := [.trigger, .doubleClick, .context, .middleClick]

/-- The reason with a name. -/
def ofName? (name : String) : Option Activation := all.find? (·.name == name)

end Activation

/-- What is remembered between clicks. -/
structure ClickFilter where
  /-- Is the next release of the left button swallowed? -/
  swallowsRelease : Bool
  deriving DecidableEq, Repr

namespace ClickFilter

/-- Nothing is remembered at first. -/
def start : ClickFilter := ⟨false⟩

/-- The reason that a click gives, if any, and what is remembered after it. -/
def step (filter : ClickFilter) : Click → Option Activation × ClickFilter
  | .press _ => (none, filter)
  | .doubleClick .left => (some .doubleClick, ⟨true⟩)
  | .doubleClick _ => (none, filter)
  | .release .left => if filter.swallowsRelease then (none, ⟨false⟩) else (some .trigger, ⟨false⟩)
  | .release .right => (some .context, filter)
  | .release .middle => (some .middleClick, filter)

/-- The reasons that clicks give one after the other. -/
def reasons (filter : ClickFilter) : List Click → List (Option Activation)
  | [] => []
  | click :: clicks => (filter.step click).1 :: reasons (filter.step click).2 clicks

/-- There is one answer for each click. -/
theorem reasons_length (filter : ClickFilter) (clicks : List Click) :
    (filter.reasons clicks).length = clicks.length := by
  induction clicks generalizing filter with
  | nil => rfl
  | cons click clicks ih => simp [reasons, ih]

end ClickFilter

end TrayIndicator.Tray
