import TrayIndicator.Text.Utf8

/-!
# Scripts

The programs that the indicator starts are scripts of a small command
language: commands with quoted words and parameters, redirected output, and
loops that wait for a test to fail. A script is read into its statements; the
bytes of a word stand for themselves, and zeros are passed over.
-/

namespace TrayIndicator.Machine

/-- A piece of a word. -/
inductive Piece where
  /-- Bytes that stand for themselves; quotes begin with none. -/
  | literal (bytes : List UInt8)
  /-- An argument by its number. -/
  | argument (number : Nat)
  /-- All arguments, each a word of its own. -/
  | arguments
  /-- The number of arguments. -/
  | count
  /-- The process itself. -/
  | self
  /-- The number that the command before returned. -/
  | status
  /-- A variable of the environment. -/
  | named (name : String)

/-- A word is its pieces put together. -/
abbrev Word := List Piece

/-- When a command runs, after the one before it. -/
inductive Link where
  /-- In any case. -/
  | always
  /-- If that returned zero. -/
  | ifOk
  /-- If that returned another number. -/
  | ifFailed
  deriving DecidableEq, Repr

/-- A token of a script. -/
inductive Token where
  | word (word : Word)
  | separator (link : Link)
  | redirect

/-- Reads a parameter after its dollar sign. -/
def parameter : List Char → Piece × List Char
  | '#' :: rest => (.count, rest)
  | '@' :: rest => (.arguments, rest)
  | '$' :: rest => (.self, rest)
  | '?' :: rest => (.status, rest)
  | c :: rest =>
    if c.isDigit then (.argument (c.toNat - 48), rest)
    else
      let isName (c : Char) : Bool := c.isAlphanum || c = '_'
      (.named (String.ofList ((c :: rest).takeWhile isName)), (c :: rest).dropWhile isName)
  | [] => (.literal [0x24], [])

/-- A character as a piece; characters stand for single bytes. -/
def letter (c : Char) : Piece := .literal [c.toNat.toUInt8]

/-- The state of the reader between characters. -/
inductive Mode where
  /-- Between words. -/
  | between
  /-- In a word, outside quotes. -/
  | bare
  /-- Between single quotes. -/
  | single
  /-- Between double quotes. -/
  | double
  /-- In a comment. -/
  | comment
  deriving DecidableEq

/-- Splits a script into tokens. `word` holds the pieces of the word being read,
in reverse; `fuel` bounds the number of steps. -/
def tokens : Nat → Mode → Word → List Char → List Token
  | 0, _, _, _ => []
  | fuel + 1, mode, word, source =>
    let flush : List Token := if mode = .between ∨ mode = .comment then [] else [.word word.reverse]
    match mode, source with
    | _, [] => flush
    | .single, '\'' :: rest => tokens fuel .bare word rest
    | .single, c :: rest => tokens fuel .single (letter c :: word) rest
    | .double, '"' :: rest => tokens fuel .bare word rest
    | .double, '$' :: rest =>
      let read := parameter rest
      tokens fuel .double (read.1 :: word) read.2
    | .double, '\\' :: c :: rest =>
      if "$\"\\".toList.contains c then tokens fuel .double (letter c :: word) rest
      else tokens fuel .double (letter c :: letter '\\' :: word) rest
    | .double, c :: rest => tokens fuel .double (letter c :: word) rest
    | .comment, '\n' :: rest => .separator .always :: tokens fuel .between [] rest
    | .comment, _ :: rest => tokens fuel .comment [] rest
    | .between, '#' :: rest => tokens fuel .comment [] rest
    | _, '\n' :: rest => flush ++ .separator .always :: tokens fuel .between [] rest
    | _, ';' :: rest => flush ++ .separator .always :: tokens fuel .between [] rest
    | _, '&' :: '&' :: rest => flush ++ .separator .ifOk :: tokens fuel .between [] rest
    | _, '|' :: '|' :: rest => flush ++ .separator .ifFailed :: tokens fuel .between [] rest
    | _, ' ' :: rest => flush ++ tokens fuel .between [] rest
    | _, '\t' :: rest => flush ++ tokens fuel .between [] rest
    | _, '>' :: rest => flush ++ .redirect :: tokens fuel .between [] rest
    | _, '\'' :: rest => tokens fuel .single (.literal [] :: word) rest
    | _, '"' :: rest => tokens fuel .double (.literal [] :: word) rest
    | _, '\\' :: c :: rest => tokens fuel .bare (letter c :: word) rest
    | _, '$' :: rest =>
      let read := parameter rest
      tokens fuel .bare (read.1 :: word) read.2
    | _, c :: rest => tokens fuel .bare (letter c :: word) rest

/-- A command with its words and the file its output goes to. -/
structure Command where
  /-- When it runs. -/
  link : Link
  /-- Is failure meant to be success, and the other way around? -/
  negated : Bool
  /-- The name and the arguments. -/
  words : List Word
  /-- Where the output goes, if it is redirected. -/
  output : Option Word

/-- A statement of a script. -/
inductive Statement where
  /-- A single command. -/
  | command (command : Command)
  /-- Runs the body as long as the test succeeds. -/
  | loop (test body : List Command)

/-- The bytes of a word without parameters. -/
def plain? (word : Word) : Option (List UInt8) :=
  word.foldrM (fun piece rest =>
    match piece with
    | .literal bytes => some (bytes ++ rest)
    | _ => none) []

/-- Is the word the given keyword? -/
def isKeyword (word : Word) (keyword : String) : Bool :=
  plain? word = some (Text.bytes keyword)

/-- The command that tokens up to a separator spell. -/
def commandOf (link : Link) : List Token → Command
  | [] => ⟨link, false, [], none⟩
  | .redirect :: .word target :: rest =>
    let command := commandOf link rest
    { command with output := some target }
  | .word word :: rest =>
    let command := commandOf link rest
    if isKeyword word "!" then { command with negated := true }
    else { command with words := word :: command.words }
  | _ :: rest => commandOf link rest

/-- The tokens up to a separator, and how they are linked to those before. -/
abbrev Line := Link × List Token

/-- Splits tokens at the separators, after a separator with the given link. -/
def lines : Link → List Token → List Line
  | link, [] => [(link, [])]
  | link, .separator next :: rest => (link, []) :: lines next rest
  | link, token :: rest =>
    match lines link rest with
    | first :: others => (link, token :: first.2) :: others
    | [] => [(link, [token])]

/-- Gathers commands into statements. A loop is the keyword of its beginning
before its test, one before its body, and one at its end. The accumulator is
the loop being read: its test, and its body once that has begun. -/
def statementsOf : Option (List Command × Option (List Command)) → List Line → List Statement
  | _, [] => []
  | open', (link, line) :: rest =>
    let command := commandOf link line
    let inner := commandOf .always (line.drop 1)
    let begins (keyword : String) : Bool :=
      match line with
      | .word first :: _ => isKeyword first keyword
      | _ => false
    match open' with
    | none =>
      if line.isEmpty then statementsOf none rest
      else if begins "while" then statementsOf (some ([inner], none)) rest
      else .command command :: statementsOf none rest
    | some (test, none) =>
      if line.isEmpty then statementsOf open' rest
      else if begins "do" then statementsOf (some (test, some [inner])) rest
      else statementsOf (some (test ++ [command], none)) rest
    | some (test, some body) =>
      if line.isEmpty then statementsOf open' rest
      else if begins "done" then .loop test body :: statementsOf none rest
      else statementsOf (some (test, some (body ++ [command]))) rest

/-- The statements that the bytes of a script spell. -/
def script (source : List UInt8) : List Statement :=
  let characters := (source.filter (· != 0)).map fun byte => Char.ofNat byte.toNat
  statementsOf none (lines .always (tokens (characters.length + 1) .between [] characters))

end TrayIndicator.Machine
