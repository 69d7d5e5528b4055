import TrayIndicator.Text.Utf8

/-!
# Paths

A path is a list of bytes that the slash divides into steps. It is joined to
another without being normalised, and shown with its ill-formed pieces
replaced.
-/

namespace TrayIndicator

/-- A path: any bytes, slashes between the steps. -/
structure Path where
  /-- The bytes as they are handed to the system. -/
  bytes : List UInt8
  deriving DecidableEq, Repr, Inhabited

namespace Path

/-- The byte of the slash. -/
def slash : UInt8 := 0x2F

/-- The path that a text spells. -/
def ofText (text : String) : Path := ⟨Text.bytes text⟩

/-- The text that spells the path, if there is one. -/
def text? (path : Path) : Option String := Text.ofBytes? path.bytes

/-- The path as messages show it. -/
def shown (path : Path) : String := Text.ofBytesLossy path.bytes

/-- The empty path. -/
def empty : Path := ⟨[]⟩

/-- Does the path begin at the root? -/
def isAbsolute (path : Path) : Bool := path.bytes.head? == some slash

/-- Continues a path with another. An absolute one replaces it; an empty one
leaves a final slash. -/
def join (base rest : Path) : Path :=
  if rest.isAbsolute || base.bytes.isEmpty then rest
  else if base.bytes.getLast? == some slash then ⟨base.bytes ++ rest.bytes⟩
  else ⟨base.bytes ++ slash :: rest.bytes⟩

/-- Continues a path with a text. -/
def joinText (base : Path) (rest : String) : Path := base.join (ofText rest)

/-- The pieces between marks, empty ones included. -/
def splitAtMark (mark : UInt8) : List UInt8 → List (List UInt8)
  | [] => [[]]
  | byte :: rest =>
    if byte = mark then [] :: splitAtMark mark rest
    else
      match splitAtMark mark rest with
      | [] => [[byte]]
      | first :: others => (byte :: first) :: others

/-- The pieces between slashes, empty ones included. -/
def pieces (bytes : List UInt8) : List (List UInt8) := splitAtMark slash bytes

/-- The directories of a search path, which colons divide. An empty entry is an
empty path. -/
def searchEntries (bytes : List UInt8) : List Path := (splitAtMark 0x3A bytes).map Path.mk

/-- The step that stays where it is. -/
def dot : List UInt8 := [0x2E]

/-- The step to the directory above. -/
def dotDot : List UInt8 := [0x2E, 0x2E]

/-- The steps that count: empty pieces do not, nor does a dot, except where a
relative path begins with one. -/
def steps (path : Path) : List (List UInt8) :=
  let named := (pieces path.bytes).filter fun piece => !piece.isEmpty
  match named with
  | [] => []
  | first :: rest =>
    let later := rest.filter (· != dot)
    if first == dot && path.isAbsolute then later else first :: later

/-- The steps of a path joined by slashes, from the root if it is absolute. -/
def ofSteps (absolute : Bool) (steps : List (List UInt8)) : Path :=
  ⟨(if absolute then [slash] else []) ++ (steps.intersperse [slash]).flatten⟩

/-- A path joined to an absolute one is the absolute one. -/
theorem join_absolute {base rest : Path} (h : rest.isAbsolute = true) : base.join rest = rest := by
  simp [join, h]

end Path

end TrayIndicator
