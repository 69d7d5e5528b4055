import TrayIndicator.Proofs.Files.Lookup

/-!
# What changes to a tree leave alone

Making directories fills vacant places only, and writing a file changes one place only. In
both cases directories and links stay, and files stay files. So a path that led to a file
leads there still, and holds what it held unless the file was written at its own place.
-/

namespace TrayIndicator.Files

open TrayIndicator.Path

namespace Tree

variable {earlier middle later tree : Tree}

/-- Does a tree keep the directories and links of another, and its files as files? -/
structure Keeps (earlier later : Tree) : Prop where
  /-- Directories stay. -/
  directory : ∀ {place}, earlier.at? place = some .directory → later.at? place = some .directory
  /-- Links stay. -/
  link : ∀ {place target},
    earlier.at? place = some (.link target) → later.at? place = some (.link target)
  /-- Files stay files. -/
  file : ∀ {place content mode}, earlier.at? place = some (.file content mode) →
    ∃ content mode, later.at? place = some (.file content mode)

/-- A tree keeps what it has. -/
theorem Keeps.refl (tree : Tree) : tree.Keeps tree :=
  ⟨fun h => h, fun h => h, fun h => ⟨_, _, h⟩⟩

/-- What is kept twice is kept. -/
theorem Keeps.trans (first : earlier.Keeps middle) (second : middle.Keeps later) :
    earlier.Keeps later where
  directory h := second.directory (first.directory h)
  link h := second.link (first.link h)
  file h := by
    obtain ⟨content, mode, hmiddle⟩ := first.file h
    exact second.file hmiddle

/-- Is a tree another one with directories at vacant places? -/
def Grows (earlier later : Tree) : Prop :=
  ∀ place, later.at? place = earlier.at? place ∨
    earlier.at? place = none ∧ later.at? place = some .directory

/-- A tree is itself with nothing added. -/
theorem Grows.refl (tree : Tree) : tree.Grows tree := fun _ => .inl rfl

/-- Directories may be added one after the other. -/
theorem Grows.trans (first : earlier.Grows middle) (second : middle.Grows later) :
    earlier.Grows later := by
  intro place
  rcases first place with hfirst | ⟨hvacant, hmade⟩
  · rw [← hfirst]
    exact second place
  · refine .inr ⟨hvacant, ?_⟩
    rcases second place with hsecond | ⟨hnone, -⟩
    · rw [hsecond, hmade]
    · rw [hmade] at hnone
      cases hnone

/-- Where something stands, nothing is added. -/
theorem Grows.at?_eq (h : earlier.Grows later) {place : Place} {node : Node}
    (hnode : earlier.at? place = some node) : later.at? place = some node := by
  rcases h place with hsame | ⟨hvacant, -⟩
  · rw [hsame, hnode]
  · rw [hnode] at hvacant
    cases hvacant

/-- A tree with directories added keeps what it has. -/
theorem Grows.keeps (h : earlier.Grows later) : earlier.Keeps later :=
  ⟨h.at?_eq, h.at?_eq, fun hfile => ⟨_, _, h.at?_eq hfile⟩⟩

/-- Is a tree another one with a file written at a place? -/
structure Writes (earlier : Tree) (place : Place) (content : List UInt8) (later : Tree) :
    Prop where
  /-- Nothing was there, or a file. -/
  before : earlier.at? place = none ∨
    ∃ content mode, earlier.at? place = some (.file content mode)
  /-- The file is there. -/
  written : ∃ mode, later.at? place = some (.file content mode)
  /-- No other place changes. -/
  others : ∀ other, other ≠ place → later.at? other = earlier.at? other

/-- A tree with a file written keeps what it has. -/
theorem Writes.keeps {place : Place} {content : List UInt8}
    (h : earlier.Writes place content later) : earlier.Keeps later := by
  have hother : ∀ {other node}, earlier.at? other = some node →
      (∀ content mode, node ≠ .file content mode) → later.at? other = some node := by
    intro other node hnode hnofile
    by_cases hplace : other = place
    · rw [hplace] at hnode
      rcases h.before with hnone | ⟨content, mode, hfile⟩
      · rw [hnode] at hnone
        cases hnone
      · rw [hnode] at hfile
        exact absurd (Option.some.inj hfile) (hnofile content mode)
    · rw [h.others other hplace, hnode]
  refine ⟨fun hnode => hother hnode nofun, fun hnode => hother hnode nofun, ?_⟩
  intro other content mode hfile
  by_cases hplace : other = place
  · obtain ⟨mode, hwritten⟩ := h.written
    exact ⟨_, _, by rw [hplace, hwritten]⟩
  · exact ⟨_, _, by rw [h.others other hplace, hfile]⟩

section Walks

variable {followLast : Bool} {links : Nat} {here place : Place} {steps : List Name}

/-- Steps that led to a place lead there still, if directories and links are kept and no
link has come to the place. -/
theorem walk_of_keeps (hkeeps : earlier.Keeps later) {found : Found}
    (h : earlier.walk followLast links here steps = .ok found) {now : Node}
    (hnow : later.at? found.place = some now) (hlink : ∀ target, now ≠ .link target) :
    later.walk followLast links here steps = .ok (.node found.place now) := by
  fun_induction walk earlier followLast links here steps with
  | case1 =>
    cases h
    dsimp only [Found.place] at hnow ⊢
    rw [walk, hnow]
  | case2 | case3 | case7 | case9 | case12 | case13 => cases h
  | case4 _ _ _ _ hhere hlength hdot ih =>
    rw [walk, hkeeps.directory hhere]
    simp only [hlength, hdot, if_true, if_false]
    exact ih h
  | case5 _ _ _ _ hhere hlength hdot hdotDot ih =>
    rw [walk, hkeeps.directory hhere]
    simp only [hlength, hdot, hdotDot, if_true, if_false]
    exact ih h
  | case6 _ here step rest hhere hlength hdot hdotDot _ hlast =>
    cases h
    dsimp only [Found.place] at hnow ⊢
    rw [walk_cons (hkeeps.directory hhere) hlength hdot hdotDot hnow hlink,
      List.isEmpty_iff.mp hlast, walk, hnow]
  | case8 _ here step rest _ _ _ _ target htarget =>
    cases h
    exact absurd (Option.some.inj (hnow.symm.trans (hkeeps.link htarget))) (hlink target)
  | case10 here step rest hhere hlength hdot hdotDot target htarget hfollow links ih =>
    rw [walk, hkeeps.directory hhere]
    simp only [hlength, hdot, hdotDot, if_false, hkeeps.link htarget, hfollow, Bool.false_eq_true]
    exact ih h
  | case11 _ here step rest hhere hlength hdot hdotDot node hnolink hnode ih =>
    have hkept : ∃ kept, later.at? (here ++ [step]) = some kept ∧
        ∀ target, kept ≠ .link target := by
      cases node with
      | link target => exact absurd rfl (hnolink target)
      | directory => exact ⟨.directory, hkeeps.directory hnode, by simp⟩
      | file content mode =>
        obtain ⟨content, mode, hfile⟩ := hkeeps.file hnode
        exact ⟨.file content mode, hfile, by simp⟩
    obtain ⟨kept, hat, hnokept⟩ := hkept
    rw [walk_cons (hkeeps.directory hhere) hlength hdot hdotDot hat hnokept]
    exact ih h

end Walks

section Paths

variable {followLast : Bool} {cwd place : Place} {path : Path} {content : List UInt8}

/-- A path that led to a place leads there still, if directories and links are kept and no
link has come to the place. -/
theorem lookup_of_keeps (hkeeps : earlier.Keeps later) {found : Found}
    (h : earlier.lookup followLast cwd path = .ok found) {now : Node}
    (hnow : later.at? found.place = some now) (hlink : ∀ target, now ≠ .link target) :
    later.lookup followLast cwd path = .ok (.node found.place now) := by
  have hsteps := lookup_eq_walk h
  rw [hsteps] at h ⊢
  exact walk_of_keeps hkeeps h hnow hlink

/-- A file that was found is found again, with what it holds then. -/
theorem find_of_keeps (hkeeps : earlier.Keeps later) {old : List UInt8} {mode : Nat}
    (h : earlier.find cwd path = .ok (place, .file old mode)) {now : Node}
    (hnow : later.at? place = some now) (hlink : ∀ target, now ≠ .link target) :
    later.find cwd path = .ok (place, now) := by
  rw [find_eq_ok_iff] at h ⊢
  exact lookup_of_keeps hkeeps h hnow hlink

/-- Making a directory adds it to the tree. -/
theorem makeDirectory_grows (h : tree.makeDirectory cwd path = .ok later) : tree.Grows later := by
  unfold makeDirectory at h
  split at h
  · next vacant hlookup =>
    cases h
    rw [lookup_eq_walk hlookup] at hlookup
    obtain ⟨hnone, hroot⟩ := at?_of_walk_vacant hlookup
    intro other
    by_cases hother : other = vacant
    · rw [hother]
      exact .inr ⟨hnone, at?_put tree vacant .directory hroot⟩
    · exact .inl (at?_put_of_ne tree .directory hother)
  · cases h
  · cases h

/-- A directory that is made or was there already leaves a tree with it added. -/
theorem grows_of_made_or_there
    (h : (match tree.makeDirectory cwd path with
      | .ok made => (.ok made : Except IoError Tree)
      | .error cause => if tree.isDirectory cwd path then .ok tree else .error cause) =
        .ok later) : tree.Grows later := by
  split at h
  · next made hmade =>
    cases h
    exact makeDirectory_grows hmade
  · split at h
    · cases h
      exact .refl _
    · cases h

/-- Making a directory and those above it adds them to the tree. -/
theorem makeDirectoriesUp_grows {absolute : Bool} {steps : List Name}
    (h : tree.makeDirectoriesUp cwd absolute steps = .ok later) : tree.Grows later := by
  induction steps generalizing later with
  | nil =>
    cases h
    exact .refl tree
  | cons last above ih =>
    rw [makeDirectoriesUp] at h
    split at h
    · next made hmade =>
      cases h
      exact makeDirectory_grows hmade
    · split at h
      · -- the directories above are made first
        split at h
        · next parents habove => exact (ih habove).trans (grows_of_made_or_there h)
        · cases h
      · split at h
        · cases h
          exact .refl tree
        · cases h

/-- Making directories adds them to the tree. -/
theorem makeDirectories_grows (h : tree.makeDirectories cwd path = .ok later) :
    tree.Grows later := by
  unfold makeDirectories at h
  split at h
  · cases h
  · exact makeDirectoriesUp_grows h

/-- A file is written where its path is looked up, if nothing or a file is there. -/
theorem exists_put_of_write (h : tree.write cwd path content = .ok later) :
    ∃ found mode, tree.lookup true cwd path = .ok found ∧ found.place ≠ [] ∧
      (tree.at? found.place = none ∨
        ∃ content mode, tree.at? found.place = some (.file content mode)) ∧
      later = tree.put found.place (.file content mode) := by
  unfold write at h
  split at h
  · next place hlookup =>
    cases h
    have hwalk := hlookup
    rw [lookup_eq_walk hlookup] at hwalk
    obtain ⟨hnone, hroot⟩ := at?_of_walk_vacant hwalk
    exact ⟨.vacant place, _, hlookup, hroot, .inl hnone, rfl⟩
  · next place old mode hlookup =>
    cases h
    have hfile : tree.at? place = some (.file old mode) :=
      at?_of_find (find_eq_ok_iff.mpr hlookup)
    have hroot : place ≠ [] := by
      rintro rfl
      cases hfile
    exact ⟨.node place (.file old mode), mode, hlookup, hroot, .inr ⟨old, mode, hfile⟩, rfl⟩
  · cases h
  · cases h

/-- A file that is written is written at one place, and its path leads there. -/
theorem exists_writes_of_write (h : tree.write cwd path content = .ok later) :
    ∃ place mode, tree.Writes place content later ∧
      later.find cwd path = .ok (place, .file content mode) := by
  obtain ⟨found, mode, hlookup, hroot, hbefore, rfl⟩ := exists_put_of_write h
  have hwritten := at?_put tree found.place (.file content mode) hroot
  have hwrites : tree.Writes found.place content (tree.put found.place (.file content mode)) :=
    ⟨hbefore, ⟨mode, hwritten⟩, fun other => at?_put_of_ne tree _⟩
  refine ⟨found.place, mode, hwrites, ?_⟩
  rw [find_eq_ok_iff]
  exact lookup_of_keeps hwrites.keeps hlookup hwritten nofun

/-- A file that was found is found again unchanged if directories are added. -/
theorem find_of_grows (hgrows : earlier.Grows later) {old : List UInt8} {mode : Nat}
    (h : earlier.find cwd path = .ok (place, .file old mode)) :
    later.find cwd path = .ok (place, .file old mode) :=
  find_of_keeps hgrows.keeps h (hgrows.at?_eq (at?_of_find h)) nofun

/-- A file that was found is found again when a file is written, and holds what it held
unless it is the one that is written. -/
theorem find_of_writes {written : Place} (hwrites : earlier.Writes written content later)
    {old : List UInt8} {mode : Nat} (h : earlier.find cwd path = .ok (place, .file old mode)) :
    ∃ mode, later.find cwd path =
      .ok (place, .file (if place = written then content else old) mode) := by
  by_cases hplace : place = written
  · obtain ⟨mode, hwritten⟩ := hwrites.written
    rw [if_pos hplace]
    exact ⟨mode, find_of_keeps hwrites.keeps h (by rw [hplace, hwritten]) nofun⟩
  · have hnow := hwrites.others place hplace
    rw [at?_of_find h] at hnow
    rw [if_neg hplace]
    exact ⟨mode, find_of_keeps hwrites.keeps h hnow nofun⟩

/-- A path of directories stays one. -/
theorem Descends.of_keeps (h : earlier.Descends path) (hkeeps : earlier.Keeps later) :
    later.Descends path :=
  { h with directories := fun place hplace => hkeeps.directory (h.directories place hplace) }

/-- A file can be written under a name in a directory, if nothing or a file has the name. -/
theorem Descends.exists_write (h : tree.Descends path) (cwd : Place) (content : List UInt8)
    {name : Name} (hname : isEntryName name = true)
    (hshort : (path.join ⟨name⟩).bytes.length < pathLimit)
    (hfree : tree.at? (named path.bytes ++ [name]) = none ∨
      ∃ content mode, tree.at? (named path.bytes ++ [name]) = some (.file content mode)) :
    ∃ later, tree.write cwd (path.join ⟨name⟩) content = .ok later ∧
      tree.Writes (named path.bytes ++ [name]) content later := by
  have hroot : named path.bytes ++ [name] ≠ [] := by simp
  have hput (mode : Nat) : tree.Writes (named path.bytes ++ [name]) content
      (tree.put (named path.bytes ++ [name]) (.file content mode)) :=
    ⟨hfree, ⟨mode, at?_put tree _ _ hroot⟩, fun other => at?_put_of_ne tree _⟩
  have hlink : ∀ target, tree.at? (named path.bytes ++ [name]) ≠ some (.link target) := by
    intro target hthere
    rcases hfree with hnone | ⟨old, mode, hfile⟩
    · rw [hthere] at hnone
      cases hnone
    · rw [hthere] at hfile
      cases hfile
  have hlookup := h.lookup_join hname hshort hlink true cwd
  rcases hfree with hnone | ⟨old, mode, hfile⟩
  · rw [hnone] at hlookup
    exact ⟨_, by rw [write, hlookup], hput 0o644⟩
  · rw [hfile] at hlookup
    exact ⟨_, by rw [write, hlookup], hput mode⟩

end Paths

end Tree

end TrayIndicator.Files
