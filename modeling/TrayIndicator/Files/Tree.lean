import TrayIndicator.IoError
import TrayIndicator.Path

/-!
# The tree of files

Files, directories and symbolic links stand at places: lists of names from
the root. A path is looked up step by step; links are followed up to the
system's limit. All operations are those of a user whom no permission bit
stops, except that a program needs some execute bit.
-/

namespace TrayIndicator.Files

/-- The name of an entry of a directory. -/
abbrev Name := List UInt8

/-- A place in the tree: the names from the root down. -/
abbrev Place := List Name

/-- What stands at a place. -/
inductive Node where
  /-- A regular file with its contents and its permission bits. -/
  | file (content : List UInt8) (mode : Nat)
  /-- A directory. -/
  | directory
  /-- A symbolic link to a path. -/
  | link (target : Path)
  deriving DecidableEq, Repr

/-- The tree: what stands where. The root directory is always there. -/
structure Tree where
  /-- The nodes with their places, the newest first. -/
  nodes : List (Place × Node)
  deriving Inhabited

/-- What stands at a place, if anything does. -/
def Tree.at? (tree : Tree) (place : Place) : Option Node :=
  if place.isEmpty then some .directory else tree.nodes.lookup place

/-- The tree with a node put at a place. -/
def Tree.put (tree : Tree) (place : Place) (node : Node) : Tree :=
  ⟨(place, node) :: tree.nodes.filter (·.1 != place)⟩

/-- The tree with nothing at a place. -/
def Tree.erase (tree : Tree) (place : Place) : Tree :=
  ⟨tree.nodes.filter (·.1 != place)⟩

/-- What was put at a place stands there. -/
theorem Tree.at?_put (tree : Tree) (place : Place) (node : Node) (h : place ≠ []) :
    (tree.put place node).at? place = some node := by
  simp [at?, put, h]

/-- Putting a node at one place changes no other. -/
theorem Tree.at?_put_of_ne (tree : Tree) {place other : Place} (node : Node) (h : other ≠ place) :
    (tree.put place node).at? other = tree.at? other := by
  have hl : ∀ nodes : List (Place × Node),
      List.lookup other (nodes.filter (·.1 != place)) = List.lookup other nodes := by
    intro nodes
    induction nodes with
    | nil => rfl
    | cons entry rest ih =>
      obtain ⟨at', node'⟩ := entry
      by_cases he : at' = place
      · subst he
        rw [List.filter_cons_of_neg (by simp), ih, List.lookup_cons]
        simp [beq_eq_false_iff_ne.mpr h]
      · rw [List.filter_cons_of_pos (by simp [he]), List.lookup_cons, List.lookup_cons, ih]
  unfold at? put
  split
  · rfl
  · simp only [List.lookup_cons, beq_eq_false_iff_ne.mpr h, hl]

/-- Links that may be followed on one lookup. -/
def linkLimit : Nat := 40

/-- Bytes that a name may have. -/
def nameLimit : Nat := 255

/-- A path must be shorter than this. -/
def pathLimit : Nat := 4096

/-- The outcome of a lookup that got as far as the last step. -/
inductive Found where
  /-- Something is there. -/
  | node (place : Place) (node : Node)
  /-- Nothing is there, but the directory that would hold it is. -/
  | vacant (place : Place)

/-- The steps of a path for a lookup; a final slash asks for a directory, as a
final dot does. -/
def lookupSteps (path : Path) : List Name :=
  let named := (Path.pieces path.bytes).filter fun piece => !piece.isEmpty
  if path.bytes.getLast? == some Path.slash && !named.isEmpty then named ++ [Path.dot] else named

/-- Follows steps from a directory. A link in the last step is followed only if
asked for. -/
def Tree.walk (tree : Tree) (followLast : Bool) (links : Nat) (here : Place) (steps : List Name) :
    Except IoError Found :=
  match steps with
  | [] =>
    match tree.at? here with
    | some node => .ok (.node here node)
    | none => .error .notFound
  | step :: rest =>
    match tree.at? here with
    | some .directory =>
      if nameLimit < step.length then .error .nameTooLong
      else if step == Path.dot then tree.walk followLast links here rest
      else if step == Path.dotDot then tree.walk followLast links here.dropLast rest
      else
        match tree.at? (here ++ [step]) with
        | none => if rest.isEmpty then .ok (.vacant (here ++ [step])) else .error .notFound
        | some (.link target) =>
          if rest.isEmpty && !followLast then .ok (.node (here ++ [step]) (.link target))
          else
            match links with
            | 0 => .error .linkLoop
            | links + 1 =>
              tree.walk followLast links (if target.isAbsolute then [] else here)
                (lookupSteps target ++ rest)
        | some _ => tree.walk followLast links (here ++ [step]) rest
    | some _ => .error .notDirectory
    | none => .error .notFound
termination_by (links, steps.length)

/-- Looks a path up from a working directory. -/
def Tree.lookup (tree : Tree) (followLast : Bool) (cwd : Place) (path : Path) :
    Except IoError Found :=
  if path.bytes.contains 0 then .error .zeroInPath
  else if path.bytes.isEmpty then .error .notFound
  else if pathLimit ≤ path.bytes.length then .error .nameTooLong
  else tree.walk followLast linkLimit (if path.isAbsolute then [] else cwd) (lookupSteps path)

/-- What a path leads to, links followed. -/
def Tree.find (tree : Tree) (cwd : Place) (path : Path) : Except IoError (Place × Node) :=
  match tree.lookup true cwd path with
  | .ok (.node place node) => .ok (place, node)
  | .ok (.vacant _) => .error .notFound
  | .error error => .error error

/-- Does the path lead anywhere? A lookup that fails for any reason counts as no. -/
def Tree.exists (tree : Tree) (cwd : Place) (path : Path) : Bool :=
  (tree.find cwd path).isOk

/-- Does the path lead to a directory? -/
def Tree.isDirectory (tree : Tree) (cwd : Place) (path : Path) : Bool :=
  match tree.find cwd path with
  | .ok (_, .directory) => true
  | _ => false

/-- The contents of the file that a path leads to. -/
def Tree.read (tree : Tree) (cwd : Place) (path : Path) : Except IoError (List UInt8) :=
  match tree.find cwd path with
  | .ok (_, .file content _) => .ok content
  | .ok _ => .error .isDirectory
  | .error error => .error error

/-- The text of the file that a path leads to. -/
def Tree.readText (tree : Tree) (cwd : Place) (path : Path) : Except IoError String :=
  match tree.read cwd path with
  | .ok content =>
    match Text.ofBytes? content with
    | some text => .ok text
    | none => .error .notText
  | .error error => .error error

/-- Does the path lead to a regular file with some execute bit? -/
def Tree.isProgram (tree : Tree) (cwd : Place) (path : Path) : Bool :=
  match tree.find cwd path with
  | .ok (_, .file _ mode) => mode &&& 0o111 != 0
  | _ => false

/-- A file that can be read is there. -/
theorem Tree.exists_of_read {tree : Tree} {cwd : Place} {path : Path} {content : List UInt8}
    (h : tree.read cwd path = .ok content) : tree.exists cwd path = true := by
  unfold read at h
  unfold Tree.exists
  split at h
  · next he => simp [he, Except.isOk, Except.toBool]
  · next he => simp [he, Except.isOk, Except.toBool]
  · exact absurd h (by simp)

/-- Makes one directory. -/
def Tree.makeDirectory (tree : Tree) (cwd : Place) (path : Path) : Except IoError Tree :=
  match tree.lookup false cwd path with
  | .ok (.vacant place) => .ok (tree.put place .directory)
  | .ok (.node _ _) => .error .alreadyExists
  | .error error => .error error

/-- Makes a directory and those above it, given the steps from the last to the
first. What stands there already may stay if it leads to a directory. -/
def Tree.makeDirectoriesUp (tree : Tree) (cwd : Place) (absolute : Bool) :
    List Name → Except IoError Tree
  | [] => .ok tree
  | last :: above =>
    let path := Path.ofSteps absolute (last :: above).reverse
    let once (tree : Tree) : Except IoError Tree :=
      match tree.makeDirectory cwd path with
      | .ok tree => .ok tree
      | .error error => if tree.isDirectory cwd path then .ok tree else .error error
    match tree.makeDirectory cwd path with
    | .ok tree => .ok tree
    | .error error =>
      if error.kind = .notFound then
        match makeDirectoriesUp tree cwd absolute above with
        | .ok tree => once tree
        | .error error => .error error
      else if tree.isDirectory cwd path then .ok tree
      else .error error

/-- Makes a directory and those above it as needed. A path that is too long is
refused as it is written, however few its steps. -/
def Tree.makeDirectories (tree : Tree) (cwd : Place) (path : Path) : Except IoError Tree :=
  if pathLimit ≤ path.bytes.length then .error .nameTooLong
  else tree.makeDirectoriesUp cwd path.isAbsolute path.steps.reverse

/-- Writes a whole file, made if needed, and returns the tree. -/
def Tree.write (tree : Tree) (cwd : Place) (path : Path) (content : List UInt8) :
    Except IoError Tree :=
  match tree.lookup true cwd path with
  | .ok (.vacant place) => .ok (tree.put place (.file content 0o644))
  | .ok (.node place (.file _ mode)) => .ok (tree.put place (.file content mode))
  | .ok (.node _ _) => .error .isDirectory
  | .error error => .error error

/-- Adds to the end of a file, made if needed, and returns the tree. -/
def Tree.append (tree : Tree) (cwd : Place) (path : Path) (content : List UInt8) :
    Except IoError Tree :=
  match tree.lookup true cwd path with
  | .ok (.vacant place) => .ok (tree.put place (.file content 0o644))
  | .ok (.node place (.file earlier mode)) => .ok (tree.put place (.file (earlier ++ content) mode))
  | .ok (.node _ _) => .error .isDirectory
  | .error error => .error error

/-- The tree with a node where a path leads, the directories above it made. A
path that leads nowhere changes nothing else. -/
def Tree.install (tree : Tree) (cwd : Place) (path : Path) (node : Node) : Tree :=
  let above := Path.ofSteps path.isAbsolute path.steps.dropLast
  let tree := (tree.makeDirectories cwd above).toOption.getD tree
  match tree.lookup false cwd path with
  | .ok (.vacant place) => tree.put place node
  | .ok (.node place _) => tree.put place node
  | .error _ => tree

/-- The names of the entries of the directory at a place, the oldest first. -/
def Tree.entries (tree : Tree) (place : Place) : List (Name × Node) :=
  tree.nodes.reverse.filterMap fun entry =>
    if entry.1.dropLast == place then entry.1.getLast?.map fun name => (name, entry.2) else none

end TrayIndicator.Files
