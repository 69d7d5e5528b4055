import TrayIndicator.Files.Tree

/-!
# The world around the program

What the program can ask about its surroundings: the variables of its
environment, its working directory, the tree of files and the home directory
of the account it runs under. What the decoder of images says of a file it refuses
comes from outside too: only its text is passed on.
-/

namespace TrayIndicator

/-- The surroundings of one run. -/
structure World where
  /-- The variables of the environment, each named once. -/
  environment : List (String × List UInt8)
  /-- The working directory; it is absolute. -/
  cwd : Path
  /-- The tree of files. -/
  files : Files.Tree
  /-- The home directory that the account database knows, if any. -/
  accountHome : Option Path
  /-- What the decoder of images says of the bytes of a file it refuses, where that is
  known. -/
  decoderSays : List UInt8 → Option String := fun _ => none

namespace World

/-- The value of a variable. -/
def value? (world : World) (name : String) : Option (List UInt8) :=
  world.environment.lookup name

/-- The place of the working directory. -/
def here (world : World) : Files.Place := world.cwd.steps

/-- The home directory: the variable unless it is empty, else the account's. -/
def home? (world : World) : Option Path :=
  match world.value? "HOME" with
  | some (byte :: rest) => some ⟨byte :: rest⟩
  | _ => world.accountHome

/-- Does the path lead anywhere? -/
def exists? (world : World) (path : Path) : Bool := world.files.exists world.here path

/-- What looking a path up ends with. -/
def look (world : World) (path : Path) : Except IoError Unit :=
  (world.files.find world.here path).map fun _ => ()

/-- The contents of the file that a path leads to. -/
def read (world : World) (path : Path) : Except IoError (List UInt8) :=
  world.files.read world.here path

/-- The text of the file that a path leads to. -/
def readText (world : World) (path : Path) : Except IoError String :=
  world.files.readText world.here path

/-- A path leads somewhere if looking it up succeeds. -/
theorem isOk_look (world : World) (path : Path) :
    (world.look path).isOk = world.exists? path := by
  rw [look, exists?, Files.Tree.exists]
  cases world.files.find world.here path <;> rfl

end World

end TrayIndicator
