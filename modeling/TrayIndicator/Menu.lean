/-!
# The context menu

The menu has two entries in a fixed order. Each has a stable id, by which
events name it, and a label, which is shown.
-/

namespace TrayIndicator

/-- The entries of the context menu. -/
inductive MenuAction where
  | openLogFile | quit
  deriving DecidableEq, Repr

namespace MenuAction

/-- The entries in the order they are shown. -/
def all : List MenuAction := [.openLogFile, .quit]

/-- The name of an entry as an action. -/
def name : MenuAction → String
  | .openLogFile => "OpenLogFile"
  | .quit => "Quit"

/-- The id by which events name an entry. -/
def id : MenuAction → String
  | .openLogFile => "open_log_file"
  | .quit => "quit"

/-- What is shown for an entry. -/
def label : MenuAction → String
  | .openLogFile => "Open log file"
  | .quit => "Quit"

/-- The entry with an id. -/
def ofId? (id : String) : Option MenuAction := all.find? (·.id == id)

/-- The entry with a label. -/
def ofLabel? (label : String) : Option MenuAction := all.find? (·.label == label)

/-- The entry with a name. -/
def ofName? (name : String) : Option MenuAction := all.find? (·.name == name)

/-- An entry is found by its id. -/
theorem ofId?_id (action : MenuAction) : ofId? action.id = some action := by
  cases action <;> rfl

/-- An id finds only the entry that has it. -/
theorem id_of_ofId? {id : String} {action : MenuAction} (h : ofId? id = some action) :
    action.id = id := by
  have := List.find?_some h
  simpa using this

end MenuAction

end TrayIndicator
