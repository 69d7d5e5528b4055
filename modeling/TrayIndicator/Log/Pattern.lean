import TrayIndicator.Text.Alphanumeric
import TrayIndicator.Text.Blank

/-!
# Patterns of field values

A rule of a log filter may ask that the value of a field matches a regular
expression. Such rules concern spans alone, of which the program marks none, so
all that counts is whether the pattern is well-formed: a filter with another is
no filter.

A pattern stands between braces and ends at the first closing one, so nothing
that needs braces of its own can be completed in it.
-/

namespace TrayIndicator.Pattern

/-- The flags that change what is well-formed. -/
structure Flags where
  /-- Are blanks and comments skipped? -/
  spaced : Bool
  /-- Is text matched by characters, not by bytes? -/
  byCharacter : Bool

/-- What an escape stands for. -/
inductive Atom where
  /-- One character, by its number. -/
  | literal (number : Nat)
  /-- A class; do all but a few ASCII characters belong to it? -/
  | class' (negated : Bool)
  /-- A class by a property of characters. -/
  | property
  /-- A place in the text. -/
  | place
  /-- The edge of a word. -/
  | wordEdge

/-- Skips blanks and comments; `inComment` tells where the source begins. -/
def skipBlanks : Bool → List Char → List Char
  | _, [] => []
  | true, c :: rest => skipBlanks (c != '\n') rest
  | false, c :: rest =>
    if Text.isBlankChar c then skipBlanks false rest
    else if c = '#' then skipBlanks true rest
    else c :: rest

/-- Skips what the flags let be skipped. -/
def skip (flags : Flags) (source : List Char) : List Char :=
  if flags.spaced then skipBlanks false source else source

/-- The value of a hexadecimal digit. -/
def hexDigit? (c : Char) : Option Nat :=
  if c.isDigit then some (c.toNat - 48)
  else if 'a' ≤ c ∧ c ≤ 'f' then some (c.toNat - 87)
  else if 'A' ≤ c ∧ c ≤ 'F' then some (c.toNat - 55)
  else none

/-- Reads a character by a fixed number of hexadecimal digits. -/
def byNumber? (flags : Flags) : Nat → Nat → List Char → Option (Atom × List Char)
  | 0, value, source => if value.isValidChar then some (.literal value, source) else none
  | digits + 1, value, source =>
    match skip flags source with
    | c :: rest => (hexDigit? c).bind fun digit => byNumber? flags digits (16 * value + digit) rest
    | [] => none

/-- The characters with a meaning of their own, which an escape takes away. -/
def metaCharacters : List Char := "\\.+*?()|[]\x7b\x7d^$#&-~".toList

/-- The letters that name a property of characters. -/
def propertyLetters : List Char := "CLMNPSZclmnpsz".toList

/-- The letters that stand for control characters. -/
def controlLetters : List (Char × Nat) := [
  ('a', 7), ('t', 9), ('n', 10), ('v', 11), ('f', 12), ('r', 13)]

/-- Reads an escape after its backslash. -/
def escape? (flags : Flags) : List Char → Option (Atom × List Char)
  | [] => none
  | 'x' :: rest => byNumber? flags 2 0 rest
  | 'u' :: rest => byNumber? flags 4 0 rest
  | 'U' :: rest => byNumber? flags 8 0 rest
  | c :: rest =>
    if c = 'p' ∨ c = 'P' then
      match skip flags rest with
      | letter :: after => if propertyLetters.contains letter then some (.property, after) else none
      | [] => none
    else if "dsw".toList.contains c then some (.class' false, rest)
    else if "DSW".toList.contains c then some (.class' true, rest)
    else if let some number := controlLetters.lookup c then some (.literal number, rest)
    else if c = 'A' ∨ c = 'z' then some (.place, rest)
    else if "bB<>".toList.contains c then
      if rest.head? = some '\x7b' then none else some (.wordEdge, rest)
    else if metaCharacters.contains c || (c.toNat < 0x80 && !c.isAlphanum) then
      some (.literal c.toNat, rest)
    else none

/-- May an escape be used with the flags? Edges of words are known in ASCII only,
and bytes that match must make up text. -/
def Atom.isAllowed (flags : Flags) : Atom → Bool
  | .literal number => flags.byCharacter || number < 0x80
  | .class' negated => flags.byCharacter || !negated
  | .property => flags.byCharacter
  | .place => true
  | .wordEdge => !flags.byCharacter

/-- The names of the classes that are written between colons. -/
def classNames : List String := [
  "alnum", "alpha", "ascii", "blank", "cntrl", "digit", "graph", "lower", "print", "punct",
  "space", "upper", "word", "xdigit"]

/-- Reads a class by its name, after the opening bracket. -/
def namedClass? : List Char → Option (List Char)
  | ':' :: rest =>
    let rest := if rest.head? = some '^' then rest.drop 1 else rest
    match rest.dropWhile (· != ':') with
    | ':' :: ']' :: after =>
      if classNames.contains (String.ofList (rest.takeWhile (· != ':'))) then some after else none
    | _ => none
  | _ => none

/-- Reads one end of a range in a class. -/
def classAtom? (flags : Flags) : List Char → Option (Atom × List Char)
  | [] => none
  | '\\' :: rest => escape? flags rest
  | c :: rest => some (.literal c.toNat, rest)

/-- May an atom stand alone in a class? -/
def Atom.isMember (flags : Flags) (atom : Atom) : Bool :=
  atom.isAllowed flags &&
    (match atom with
    | .place | .wordEdge => false
    | _ => true)

/-- Reads a member of a class: an atom, or a range of characters. A hyphen before
another or before the end is no range. -/
def classMember? (flags : Flags) (source : List Char) : Option (List Char) :=
  match classAtom? flags source with
  | none => none
  | some (first, rest) =>
    let alone : Option (List Char) := if first.isMember flags then some rest else none
    match skip flags rest with
    | '-' :: after =>
      match skip flags after with
      | [] => none
      | c :: second =>
        if c = ']' ∨ c = '-' then alone
        else
          match first, classAtom? flags (c :: second) with
          | .literal low, some (.literal high, rest) =>
            if low ≤ high && Atom.isAllowed flags (.literal high) then some rest else none
          | _, _ => none
    | _ => alone

/-- Reads the beginning of a class after its bracket: a negation, and hyphens or
a closing bracket that stand for themselves. -/
def classStart (flags : Flags) (source : List Char) : List Char :=
  let source := skip flags source
  let source := if source.head? = some '^' then skip flags (source.drop 1) else source
  if source.head? = some '-' then
    source.dropWhile fun c => c == '-' || (flags.spaced && Text.isBlankChar c)
  else if source.head? = some ']' then source.drop 1
  else source

/-- Is a class after its bracket negated? -/
def isNegated (flags : Flags) (source : List Char) : Bool := (skip flags source).head? = some '^'

/-- Reads `depth` classes within one another up to the end of the outermost.
`fuel` bounds the number of members. -/
def classRest? (flags : Flags) : Nat → Nat → List Char → Option (List Char)
  | 0, _, _ => none
  | fuel + 1, depth, source =>
    match skip flags source with
    | [] => none
    | ']' :: rest => if depth ≤ 1 then some rest else classRest? flags fuel (depth - 1) rest
    | '[' :: rest =>
      match namedClass? rest with
      | some after => classRest? flags fuel depth after
      | none =>
        if isNegated flags rest && !flags.byCharacter then none
        else classRest? flags fuel (depth + 1) (classStart flags rest)
    | '&' :: '&' :: rest => classRest? flags fuel depth rest
    | '-' :: '-' :: rest => classRest? flags fuel depth rest
    | '~' :: '~' :: rest => classRest? flags fuel depth rest
    | source => (classMember? flags source).bind (classRest? flags fuel depth)

/-- Reads a class after its bracket. -/
def class? (flags : Flags) (source : List Char) : Option (List Char) :=
  if isNegated flags source && !flags.byCharacter then none
  else classRest? flags (source.length + 1) 1 (classStart flags source)

/-- The flags that letters spell, each at most once; those after a hyphen are
taken away. -/
def flagsOf? (letters : List Char) (flags : Flags) : Option Flags :=
  if letters.all ("imsUuRx-".toList.contains ·) && letters.Nodup &&
      letters.getLast? != some '-' then
    let given := letters.takeWhile (· != '-')
    let taken := letters.dropWhile (· != '-')
    some ⟨(flags.spaced || given.contains 'x') && !taken.contains 'x',
      (flags.byCharacter || given.contains 'u') && !taken.contains 'u'⟩
  else none

/-- What begins with an opening parenthesis. -/
inductive Opening where
  /-- A group, with its name if it has one. -/
  | group (name : Option String)
  /-- A group with flags of its own. -/
  | flagged (flags : Flags)
  /-- Flags for the rest of the group around. -/
  | flags (flags : Flags)

/-- Is a text the name of a group? -/
def isGroupName : List Char → Bool
  | [] => false
  | first :: rest =>
    (first = '_' || (Text.isAlphanumeric first && !first.isDigit)) &&
      rest.all fun c => c = '_' || c = '.' || c = '[' || c = ']' || Text.isAlphanumeric c

/-- Reads the name of a group after its opening angle. -/
def groupName? (source : List Char) : Option (Opening × List Char) :=
  let name := source.takeWhile (· != '>')
  match source.dropWhile (· != '>') with
  | _ :: rest => if isGroupName name then some (.group (some (String.ofList name)), rest) else none
  | [] => none

/-- Reads what follows an opening parenthesis. Nothing looks ahead or behind. -/
def opening? (flags : Flags) (source : List Char) : Option (Opening × List Char) :=
  match skip flags source with
  | '?' :: 'P' :: '<' :: rest => groupName? rest
  | '?' :: '<' :: rest => groupName? rest
  | '?' :: rest =>
    let isEnd (c : Char) : Bool := c = ':' || c = ')'
    let letters := rest.takeWhile (!isEnd ·)
    match rest.dropWhile (!isEnd ·), flagsOf? letters flags with
    | ':' :: after, some changed => some (.flagged changed, after)
    | ')' :: after, some changed => if letters.isEmpty then none else some (.flags changed, after)
    | _, _ => none
  | rest => some (.group none, rest)

/-- Where a reader of a pattern is. -/
structure Scope where
  /-- The flags around each open group, the innermost first. -/
  around : List Flags
  /-- The flags here. -/
  flags : Flags
  /-- The names of groups so far. -/
  names : List String
  /-- Is there something before that a sign may repeat? -/
  repeatable : Bool

/-- Is a pattern well-formed from here on? `fuel` bounds the number of steps. -/
def isRegular : Nat → Scope → List Char → Bool
  | 0, _, _ => false
  | fuel + 1, scope, source =>
    let go (rest : List Char) : Bool := isRegular fuel { scope with repeatable := true } rest
    match skip scope.flags source with
    | [] => scope.around.isEmpty
    | '(' :: rest =>
      let enter (flags : Flags) (names : List String) (rest : List Char) : Bool :=
        isRegular fuel ⟨scope.flags :: scope.around, flags, names, false⟩ rest
      match opening? scope.flags rest with
      | some (.group none, rest) => enter scope.flags scope.names rest
      | some (.group (some name), rest) =>
        !scope.names.contains name && enter scope.flags (name :: scope.names) rest
      | some (.flagged flags, rest) => enter flags scope.names rest
      | some (.flags flags, rest) => isRegular fuel { scope with flags, repeatable := false } rest
      | none => false
    | ')' :: rest =>
      match scope.around with
      | flags :: around => isRegular fuel ⟨around, flags, scope.names, true⟩ rest
      | [] => false
    | '|' :: rest => isRegular fuel { scope with repeatable := false } rest
    | '[' :: rest => ((class? scope.flags rest).map go).getD false
    | '\x7b' :: _ => false
    | '\\' :: rest =>
      match escape? scope.flags rest with
      | some (atom, rest) => atom.isAllowed scope.flags && go rest
      | none => false
    | '.' :: rest => scope.flags.byCharacter && go rest
    | c :: rest =>
      if c = '?' ∨ c = '*' ∨ c = '+' then
        scope.repeatable && go (if rest.head? = some '?' then rest.drop 1 else rest)
      else go rest

/-- Does a text spell a number with binary floating point? -/
def isNumber (text : String) : Bool :=
  let unsigned := match text.toList with
    | '+' :: rest | '-' :: rest => rest
    | rest => rest
  let word := String.ofList (unsigned.map Char.toLower)
  let whole := unsigned.takeWhile Char.isDigit
  let rest := unsigned.dropWhile Char.isDigit
  let decimals := if rest.head? = some '.' then (rest.drop 1).takeWhile Char.isDigit else []
  let rest := if rest.head? = some '.' then (rest.drop 1).dropWhile Char.isDigit else rest
  let isExponent : List Char → Bool
    | [] => true
    | e :: '+' :: digits | e :: '-' :: digits =>
      (e = 'e' || e = 'E') && !digits.isEmpty && digits.all Char.isDigit
    | e :: digits => (e = 'e' || e = 'E') && !digits.isEmpty && digits.all Char.isDigit
  word = "inf" || word = "infinity" || word = "nan" ||
    (!(whole ++ decimals).isEmpty && isExponent rest)

/-- May a rule ask for the value? -/
def isPattern (text : String) : Bool :=
  isNumber text || isRegular (text.length + 1) ⟨[], ⟨false, true⟩, [], false⟩ text.toList

end TrayIndicator.Pattern
