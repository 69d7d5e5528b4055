import TrayIndicator.CommandLine.Help

/-!
# Reading a command line

Arguments are read one by one. A word that leads on hands the rest of the
arguments to the position it leads to. A value attached to its option is checked
at once. An option without one waits for the next argument, which is checked
when the next option comes or at the end of its position, after the positions
within it. Then variables stand in for options not given there.
-/

namespace TrayIndicator.CommandLine

/-- The values given at one position. -/
structure Values where
  /-- The log level, if given. -/
  logLevel : Option LogLevel
  /-- The settings file, if given. -/
  config : Option Path
  /-- The icon, if given. -/
  icon : Option Path
  /-- The log file, if given. -/
  logFile : Option String
  /-- The opener, if given. -/
  opener : Option String
  /-- The companion, if given. -/
  companion : Option String
  /-- Is the flag given? -/
  expandHome : Bool
  deriving DecidableEq, Repr

namespace Values

/-- Nothing is given. -/
def none : Values := ⟨.none, .none, .none, .none, .none, .none, false⟩

/-- Is an option given? -/
def has (values : Values) : Opt → Bool
  | .logLevel => values.logLevel.isSome
  | .config => values.config.isSome
  | .icon => values.icon.isSome
  | .logFile => values.logFile.isSome
  | .opener => values.opener.isSome
  | .companion => values.companion.isSome
  | .expandHome => values.expandHome

/-- Is anything given? -/
def hasAny (values : Values) : Bool := Opt.all.any values.has

/-- The text of a value. -/
def textOf (value : List UInt8) : Except UsageError String :=
  match Text.ofBytes? value with
  | some text => .ok text
  | .none => .error .invalidUtf8

/-- The path of a value, which may not be empty. -/
def pathOf (value : List UInt8) : Except UsageError Path :=
  if value.isEmpty then .error .invalidValue else .ok ⟨value⟩

/-- The log level of a value. -/
def levelOf (value : List UInt8) : Except UsageError LogLevel :=
  match (Text.ofBytes? value).bind LogLevel.ofName? with
  | some level => .ok level
  | .none => .error .invalidValue

/-- The values with one set; it must be a value that the option takes. -/
def set (values : Values) (opt : Opt) (value : List UInt8) : Except UsageError Values :=
  match opt with
  | .logLevel => (levelOf value).map fun level => { values with logLevel := some level }
  | .config => (pathOf value).map fun path => { values with config := some path }
  | .icon => (pathOf value).map fun path => { values with icon := some path }
  | .logFile => (textOf value).map fun text => { values with logFile := some text }
  | .opener => (textOf value).map fun text => { values with opener := some text }
  | .companion => (textOf value).map fun text => { values with companion := some text }
  | .expandHome => .ok { values with expandHome := true }

/-- The values with a further one given. An option is given at most once. -/
def give (values : Values) (opt : Opt) (value : List UInt8) : Except UsageError Values :=
  if values.has opt then .error .argumentConflict else values.set opt value

end Values

/-- An option whose value is not checked yet. -/
structure Pending where
  /-- The option. -/
  opt : Opt
  /-- Its value, once it has come. -/
  value : Option (List UInt8)
  deriving DecidableEq, Repr

/-- What was read at one position. -/
structure Reading where
  /-- The values checked so far. -/
  values : Values
  /-- The option whose value is not checked yet. -/
  pending : Option Pending
  /-- Has the mark come after which nothing is an option? -/
  pastMark : Bool
  deriving DecidableEq, Repr

namespace Reading

/-- Nothing was read. -/
def start : Reading := ⟨Values.none, none, false⟩

/-- Does an option wait for its value? -/
def awaits (reading : Reading) : Bool :=
  match reading.pending with
  | some ⟨_, none⟩ => true
  | _ => false

/-- Checks the value that was left open. -/
def settle (reading : Reading) : Except UsageError Reading :=
  match reading.pending with
  | none => .ok reading
  | some ⟨_, none⟩ => .error .invalidValue
  | some ⟨opt, some value⟩ =>
    (reading.values.give opt value).map fun values => { reading with values, pending := none }

/-- Takes in an option with its value, or the flag; the value is checked at
once. -/
def withValue (reading : Reading) (opt : Opt) (value : List UInt8) :
    Except UsageError Reading := do
  let reading ← reading.settle
  let values ← reading.values.give opt value
  .ok { reading with values }

/-- Takes in an option, with a value attached or to come. -/
def option (reading : Reading) (opt : Opt) : Option (List UInt8) → Except UsageError Reading
  | some value => reading.withValue opt value
  | none => reading.settle.map fun reading => { reading with pending := some ⟨opt, none⟩ }

end Reading

/-- The byte of the dash. -/
def dash : UInt8 := 0x2D

/-- The byte of the equals sign. -/
def equals : UInt8 := 0x3D

/-- An argument by its form. -/
inductive ArgumentForm where
  /-- The mark after which nothing is an option. -/
  | mark
  /-- A long option: its name and the value attached to it. -/
  | long (name : List UInt8) (value : Option (List UInt8))
  /-- Short options, one letter each. -/
  | short (letters : List UInt8)
  /-- Anything else. -/
  | other
  deriving DecidableEq, Repr

/-- The form of an argument. -/
def ArgumentForm.of (argument : List UInt8) : ArgumentForm :=
  match argument with
  | first :: second :: rest =>
    if first = dash ∧ second = dash then
      if rest.isEmpty then .mark
      else
        let name := rest.takeWhile (· != equals)
        match rest.drop name.length with
        | [] => .long name none
        | _ :: value => .long name (some value)
    else if first = dash then .short (second :: rest)
    else .other
  | _ => .other

/-- What becomes of a step that asks for an answer at once. -/
def answering (reading : Reading) (stop : Stop) : Except Stop Reading :=
  match reading.settle with
  | .error error => .error (.usage error)
  | .ok _ => .error stop

/-- A mistake stops the reading. -/
def orStop (result : Except UsageError Reading) : Except Stop Reading :=
  match result with
  | .ok reading => .ok reading
  | .error error => .error (.usage error)

/-- Takes in a long option. -/
def readLong (world : World) (position : Position) (reading : Reading) (name : List UInt8)
    (value : Option (List UInt8)) : Except Stop Reading :=
  match Opt.ofName? name with
  | some .expandHome =>
    if value.isSome then .error (.usage .tooManyValues)
    else orStop (reading.withValue .expandHome [])
  | some opt => orStop (reading.option opt value)
  | none =>
    let isHelp := Text.bytes "help" = name
    let isVersion := Text.bytes "version" = name && position = .root
    if isHelp || isVersion then
      if value.isSome then .error (.usage .tooManyValues)
      else
        answering reading (if isHelp then .help (position.help world) else .version versionText)
    else .error (.usage .unknownArgument)

/-- Takes in short options; only the first one counts, as all of them answer at
once. -/
def readShort (world : World) (position : Position) (reading : Reading) (letters : List UInt8) :
    Except Stop Reading :=
  if letters.head? = some 0x68 then answering reading (.help (position.help world))
  else if letters.head? = some 0x56 ∧ position = .root then
    answering reading (.version versionText)
  else .error (.usage .unknownArgument)

/-- The mistake of an argument that is neither an option nor a value. -/
def strayError (position : Position) (reading : Reading) (argument : List UInt8) : UsageError :=
  if position.next.isEmpty then .unknownArgument
  else if reading.pastMark && (Text.bytes helpWord = argument ||
      position.next.any fun next => Text.bytes next.1 = argument) then .unknownArgument
  else .invalidSubcommand

/-- Takes in an argument that is no word leading on. -/
def readArgument (world : World) (position : Position) (reading : Reading)
    (argument : List UInt8) : Except Stop Reading :=
  if reading.pastMark then .error (.usage (strayError position reading argument))
  else
    match ArgumentForm.of argument with
    | .mark => .ok { reading with pastMark := true }
    | .long name value => readLong world position reading name value
    | .short letters => readShort world position reading letters
    | .other =>
      match reading.pending with
      | some ⟨opt, none⟩ => .ok { reading with pending := some ⟨opt, some argument⟩ }
      | _ => .error (.usage (strayError position reading argument))

/-- The values of the variables that stand in for options not given. -/
def standIns (world : World) (values : Values) : Except UsageError Values :=
  Opt.all.foldlM (fun found opt =>
    match opt.variableName? with
    | none => .ok found
    | some name =>
      if values.has opt then .ok found
      else
        match world.value? name with
        | none => .ok found
        | some value => found.set opt value) Values.none

/-- What was found at one position: the values given there and those of
variables. -/
structure Level where
  /-- The values given on the command line. -/
  given : Values
  /-- The values of variables that stand in. -/
  standIn : Values
  deriving DecidableEq, Repr

/-- Ends the reading of a position. -/
def finish (world : World) (reading : Reading) : Except Stop Level :=
  match reading.settle with
  | .error error => .error (.usage error)
  | .ok reading =>
    match standIns world reading.values with
    | .error error => .error (.usage error)
    | .ok standIn => .ok ⟨reading.values, standIn⟩

/-- Reads the arguments of a position and of the positions within it. The
answer is the position reached, and the levels from the outermost on. -/
def readFrom (world : World) :
    Position → Reading → List (List UInt8) → Except Stop (Position × List Level)
  | position, reading, [] =>
    match finish world reading with
    | .error stop => .error stop
    | .ok level =>
      if position = .config then
        .error (.usage (if level.given.hasAny || level.standIn.hasAny then .missingSubcommand
          else .nothingGiven))
      else .ok (position, [level])
  | position, reading, argument :: arguments =>
    let leads := !reading.pastMark && !reading.awaits
    match position.next.find? fun next => leads && Text.bytes next.1 = argument with
    | some (_, next) =>
      match readFrom world next Reading.start arguments with
      | .error stop => .error stop
      | .ok (reached, levels) =>
        match finish world reading with
        | .error stop => .error stop
        | .ok level => .ok (reached, level :: levels)
    | none =>
      if leads && !position.next.isEmpty && Text.bytes helpWord = argument then
        .error (position.helpFor world arguments)
      else
        match readArgument world position reading argument with
        | .error stop => .error stop
        | .ok reading => readFrom world position reading arguments

/-- The value of an option: the innermost one given, else the one of its
variable. -/
def pick {α : Type} (levels : List Level) (value : Values → Option α) : Option α :=
  let inner := levels.reverse
  (inner.findSome? fun level => value level.given) <|>
    (inner.findSome? fun level => value level.standIn)

/-- What the levels of a command line ask for. -/
def choiceOf (reached : Position) (levels : List Level) : Choice where
  logLevel := (pick levels (·.logLevel)).getD LogLevel.usual
  config := pick levels (·.config)
  overrides := {
    iconPath := pick levels (·.icon)
    logFile := pick levels (·.logFile)
    opener := pick levels (·.opener)
    companion := pick levels (·.companion)
    expandHome := levels.any (·.given.expandHome) }
  command := reached.command?

/-- Reads a command line. -/
def parse (world : World) (arguments : List (List UInt8)) : Except Stop Choice :=
  (readFrom world .root Reading.start arguments).map fun (reached, levels) =>
    choiceOf reached levels

end TrayIndicator.CommandLine
