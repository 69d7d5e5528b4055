import TrayIndicator.Tray.EventLoop
import TrayIndicator.Tray.StatusItem

/-!
# A published status item and its main loop

A published item is used from two sides. The service hands it what the shell
reports, one callback at a time. The main loop waits for a quit token; a wait
that ends in vain has children collected, and the first token ends the loop. The
menu is made anew whenever it is asked for, and its entries act on the item.

The loop holds the item itself, so the channel of tokens is never closed while
it waits.
-/

namespace TrayIndicator.Tray

/-- An entry of the menu as it is exported. -/
structure MenuEntry (σ : Type) where
  /-- What is shown. -/
  label : String
  /-- What its activation does. -/
  activate : ItemState σ → Step (ItemState σ) Unit

/-- The menu as it is exported: each entry chooses its own action. -/
def StatusItem.entries {σ : Type} (item : StatusItem σ) : List (MenuEntry σ) :=
  item.menu.map fun action => ⟨action.label, item.handle (.choose action)⟩

/-- What the shell can see of an item. -/
structure Appearance where
  /-- The id. -/
  id : String
  /-- The title. -/
  title : String
  /-- The tooltip. -/
  toolTip : ToolTip
  /-- The images. -/
  pixmaps : List Icon.Pixmap
  /-- The labels of the menu, in order. -/
  labels : List String
  deriving DecidableEq, Repr

/-- A published item with its surroundings. -/
structure LiveTray (σ : Type) where
  /-- The world as it is now. -/
  world : World
  /-- The item. -/
  item : StatusItem σ
  /-- The state of the item. -/
  state : ItemState σ
  /-- How the main loop has ended, if it has. -/
  result : Option (Except TrayError Unit)

/-- What happens to a published item. -/
inductive TrayEvent where
  /-- The shell reports a primary click at a point. -/
  | activate (x y : Int)
  /-- The shell reports a middle click at a point. -/
  | secondaryActivate (x y : Int)
  /-- The shell activates the entry at a place of the menu. -/
  | entry (place : Nat)
  /-- A wait of the main loop ends. -/
  | wait
  /-- The files around the program change. -/
  | filesChange (files : Files.Tree)

namespace LiveTray

variable {σ : Type}

/-- Publishes the item of an indicator. -/
def publish (world : World) (indicator : Indicator σ) (launcher : σ) : Step (LiveTray σ) Unit :=
  let created := StatusItem.create world indicator
  ⟨(), ⟨world, created.1, StatusItem.start launcher, none⟩,
    created.2 ++ [StatusItem.registeredEvent]⟩

/-- What the shell sees. -/
def appearance (tray : LiveTray σ) : Appearance :=
  ⟨tray.item.id, tray.item.title, tray.item.toolTip, tray.item.pixmaps,
    tray.item.entries.map (·.label)⟩

/-- The tray after a step of its item. -/
def keep (tray : LiveTray σ) (step : Step (ItemState σ) Unit) : Step (LiveTray σ) Unit :=
  ⟨(), { tray with state := step.state }, step.events⟩

/-- The end of a wait: the loop takes a token and leaves, or has waited in vain.
A loop that has left waits no more. -/
def wait (tray : LiveTray σ) : Step (LiveTray σ) Unit :=
  match tray.result with
  | some _ => ⟨(), tray, []⟩
  | none =>
    if 0 < tray.state.tokens then
      ⟨(), { tray with state := { tray.state with hasReceiver := false }, result := some (.ok ()) },
        [StatusItem.leavingEvent]⟩
    else tray.keep (tray.item.tick tray.state)

/-- Answers an event. A place where the menu has no entry is no event of it. -/
def step (event : TrayEvent) (tray : LiveTray σ) : Step (LiveTray σ) Unit :=
  match event with
  | .activate x y => tray.keep (tray.item.handle (.activate x y) tray.state)
  | .secondaryActivate x y => tray.keep (tray.item.handle (.secondaryActivate x y) tray.state)
  | .entry place =>
    match tray.item.entries[place]? with
    | some entry => tray.keep (entry.activate tray.state)
    | none => ⟨(), tray, []⟩
  | .wait => tray.wait
  | .filesChange files => ⟨(), { tray with world := { tray.world with files } }, []⟩

/-- Answers events one after the other. -/
def run : List TrayEvent → LiveTray σ → Step (LiveTray σ) Unit
  | [], tray => ⟨(), tray, []⟩
  | event :: events, tray =>
    let first := tray.step event
    let later := run events first.state
    ⟨(), later.state, first.events ++ later.events⟩

end LiveTray

end TrayIndicator.Tray
