import TrayIndicator.Machine.Execution
import TrayIndicator.Machine.FirstLine

/-!
# What a started program runs

A program is named by a path or looked up in the directories of `PATH`. A file
can be run if it has an execute bit and is in the machine's own code, or names
another file that can be run, to which it becomes an argument. Whether a file that
is no script can be run is for the system to say: it may not know the code, or miss
a library. Of the programs in the machine's own code the shells read scripts.
-/

namespace TrayIndicator.Machine

/-- What the system makes of a file with an execute bit that is no script: it is run in a
world, or fails. -/
def Loader : Type := World → List UInt8 → Except IoError Unit

/-- The loader that goes by the first bytes alone, and runs all that is marked as the
machine's own code. -/
def Loader.byMark : Loader := fun _ content =>
  if marksOwnCode content then .ok () else .error .notExecutable

/-- A program that can be run: where it is, and the words it is called with. -/
structure Invocation where
  /-- The place of the program, which is in the machine's own code. -/
  place : Files.Place
  /-- Its name and its arguments. -/
  words : List (List UInt8)

/-- The contents of a file that may be run, with its place. -/
def openProgram (world : World) (path : Path) : Except IoError (Files.Place × List UInt8) :=
  match world.files.find world.here path with
  | .error cause => .error cause
  | .ok (place, .file content mode) =>
    if mode &&& 0o111 = 0 then .error .permissionDenied else .ok (place, content)
  | .ok _ => .error .permissionDenied

/-- An argument must be shorter than this. -/
def argumentLimit : Nat := 131072

/-- How many scripts may name one another. -/
def scriptLimit : Nat := 5

/-- The program that is run for a file that is called with some words. A script
is replaced by its interpreter, whose arguments are the script's own one, the
script, and those of the script. `scripts` bounds how often that is done. -/
def invoke (load : Loader) (world : World) (scripts : Nat) (path : Path)
    (words : List (List UInt8)) : Except IoError Invocation :=
  match openProgram world path with
  | .error cause => .error cause
  | .ok (place, content) =>
    if words.any fun word => argumentLimit ≤ word.length then .error .argumentTooLong
    else
      match scriptLine? content with
      | none => (load world content).map fun _ => ⟨place, words⟩
      | some (interpreter, argument) =>
        if interpreter.bytes.isEmpty then .error .permissionDenied
        else
          match scripts with
          | 0 =>
            match openProgram world interpreter with
            | .error cause => .error cause
            | .ok _ => .error .linkLoop
          | scripts + 1 =>
            invoke load world scripts interpreter
              (interpreter.bytes :: argument.toList ++ path.bytes :: words.drop 1)

/-- The directories that are searched when there is no `PATH`. -/
def systemPath : List UInt8 := Text.bytes "/bin:/usr/bin"

/-- Goes on after a failed attempt? A missing file or step does not end the
search, nor does a file that may not be run, or one on a device that is gone or
does not answer. -/
def continuesSearch (cause : IoError) : Bool :=
  [.notFound, .notDirectory, .permissionDenied, .noDevice, .staleHandle, .timedOut].contains cause

/-- Tries directories one after the other. A file that may not be run is
reported if no later one can be. -/
def search (load : Loader) (world : World) (name : List UInt8) (arguments : List (List UInt8)) :
    List Path → IoError → Except IoError Invocation
  | [], cause => .error cause
  | entry :: rest, cause =>
    match invoke load world scriptLimit (entry.join ⟨name⟩) (name :: arguments) with
    | .ok invocation => .ok invocation
    | .error found =>
      if continuesSearch found then
        search load world name arguments rest (if cause = .permissionDenied then cause else found)
      else .error found

/-- The program that a name starts with arguments. -/
def locate (load : Loader) (world : World) (name : List UInt8) (arguments : List (List UInt8)) :
    Except IoError Invocation :=
  if name.isEmpty then .error .notFound
  else if name.contains Path.slash then invoke load world scriptLimit ⟨name⟩ (name :: arguments)
  else
    search load world name arguments
      (Path.searchEntries ((world.value? "PATH").getD systemPath)) .notFound

/-- What a started program runs: statements, and what they are started with. -/
structure Image where
  /-- The frame of the statements. -/
  frame : Frame
  /-- The statements. -/
  statements : List Statement

namespace Image

/-- The image that runs one command. -/
def ofCommand (words : List (List UInt8)) : Image :=
  let command : Command := ⟨.always, false, words.map fun word => [.literal word], none⟩
  ⟨⟨words.headD [], [], false⟩, [.command command]⟩

/-- The image that only returns a number. -/
def returning (code : Nat) : Image :=
  ofCommand [Text.bytes "exit", Text.bytes (toString code)]

/-- The options of a shell that take no value. -/
def shellOptions : List UInt8 := Text.bytes "abefilmnpsuvxCEIV"

/-- A shell's image. The options come first, and end with a hyphen or two; with
no file after them nothing is run. A script that cannot be read, as an option
that there is not, is an error of the shell. -/
def ofShell (world : World) (strict idle : Bool) : List (List UInt8) → Image
  | [] => returning 0
  | word :: rest =>
    let dashes := Text.bytes "--"
    match word with
    | 0x2D :: option :: options =>
      if word = dashes then ofFile strict idle rest
      else if (option :: options).all shellOptions.contains then
        ofShell world (strict || word.contains 0x65)
          (idle || word.contains 0x6E || word.contains 0x73) rest
      else returning 2
    | 0x2B :: option :: options =>
      if (option :: options).all shellOptions.contains then ofShell world strict idle rest
      else returning 2
    | [0x2D] => ofFile strict idle rest
    | _ => ofFile strict idle (word :: rest)
where
  /-- The image of a file and its arguments. -/
  ofFile (strict idle : Bool) : List (List UInt8) → Image
    | [] => returning 0
    | file :: arguments =>
      if idle then returning 0
      else
        match world.read ⟨file⟩ with
        | .ok content => ⟨⟨file, arguments, strict⟩, script content⟩
        | .error _ => returning 2

/-- The names of shells. -/
def shells : List String := ["sh", "dash", "bash"]

/-- The image of an invocation. One program starts another that its arguments
name, which is followed `followed` times at most. -/
def ofInvocation (load : Loader) (world : World) : Nat → Invocation → Image
  | followed, invocation =>
    let name := invocation.place.getLast?.getD []
    let operands := invocation.words.drop 1
    if shells.any fun shell => name = Text.bytes shell then ofShell world false false operands
    else
      match followed, decide (name = Text.bytes "env"), operands with
      | followed + 1, true, named :: arguments =>
        match locate load world named arguments with
        | .ok next => ofInvocation load world followed next
        | .error cause => returning (if cause = .notFound then 127 else 126)
      | _, _, _ => ofCommand ((Path.ofSteps true invocation.place).bytes :: operands)

/-- The image of a program that is started by its name with arguments. -/
def of (load : Loader) (world : World) (name : List UInt8) (arguments : List (List UInt8)) :
    Except IoError Image :=
  (locate load world name arguments).map (ofInvocation load world 8)

end Image

end TrayIndicator.Machine
