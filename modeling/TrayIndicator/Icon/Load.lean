import TrayIndicator.Icon.Png.Decode
import TrayIndicator.Icon.Scale
import TrayIndicator.World
import TrayIndicator.Log

/-!
# Loading the tray icon

The icon is a PNG file, scaled to the size of the tray icon. When the file
cannot be used an event says why, and the placeholder stands in.
-/

namespace TrayIndicator.Icon

/-- Why a file gives no icon. -/
inductive IconError where
  /-- The file cannot be read. -/
  | unreadable (path : Path) (cause : IoError)
  /-- The file is no usable image; what the decoder says of it, where that is known. -/
  | undecodable {complaint : Option String}
  deriving DecidableEq, Repr

/-- The text of an error. -/
def IconError.message : IconError → String
  | .unreadable path cause => "Failed to read icon " ++ path.shown ++ ": " ++ cause.text
  | @undecodable (some complaint) => "Failed to decode icon: " ++ complaint
  | @undecodable none => "Failed to decode icon"

/-- The icon that the bytes of a file hold, or the complaint of the decoder. -/
def decode (file : List UInt8) (complaint : Option String := none) : Except IconError Image :=
  match Png.decode file with
  | some bitmap => .ok bitmap.toIconSize.image
  | none => .error (@IconError.undecodable complaint)

/-- Which image a file holds is not for the complaint to say. -/
theorem decode_eq_ok_iff {file : List UInt8} (complaint : Option String) {image : Image} :
    decode file complaint = .ok image ↔ decode file = .ok image := by
  unfold decode
  cases Png.decode file <;> simp

/-- The icon that a file holds. -/
def read (world : World) (path : Path) : Except IconError Image :=
  match world.read path with
  | .ok file => decode file (world.decoderSays file)
  | .error cause => .error (.unreadable path cause)

/-- The event of an unusable icon. -/
def unusableEvent (path : Path) (error : IconError) : LogEvent :=
  ⟨.warn, .icon, "Using placeholder tray icon", [("path", path.shown), ("error", error.message)]⟩

/-- The icon that a file holds, or the placeholder. -/
def readOrPlaceholder (world : World) (path : Path) : Image × List LogEvent :=
  match read world path with
  | .ok image => (image, [])
  | .error error => (placeholder, [unusableEvent path error])

end TrayIndicator.Icon
