import TrayIndicator.Proofs.Files.Lookup
import TrayIndicator.Settings.Load

/-!
# Settings files that are not found

The defaults stand in for a settings file wherever looking its path up fails, whatever the
reason. If nothing is there this is how it should be. But a path may also run through a file
or a directory that may not be searched, round in links, or be no path that the system takes;
the defaults stand in then too, without a word of the reason, which loading the file alone
would tell. Where the path leads to something, this is never passed over.

The lookup and the reading are two requests, so each may end in any way of its own. In a tree
of files, for a user whom no permission stops, they agree.
-/

namespace TrayIndicator

namespace Files

open TrayIndicator.Path

/-- The reasons for which a path cannot be followed by a user whom no permission stops. -/
def lookupFailures : List IoError :=
  [.notFound, .notDirectory, .nameTooLong, .linkLoop, .zeroInPath]

/-- Steps that cannot be followed fail for one of these reasons. -/
theorem Tree.walk_error_mem {tree : Tree} {followLast : Bool} {links : Nat} {here : Place}
    {steps : List Name} {cause : IoError}
    (h : tree.walk followLast links here steps = .error cause) : cause ∈ lookupFailures := by
  fun_induction Tree.walk tree followLast links here steps with
  | case1 | case6 | case8 => cases h
  | case2 | case3 | case7 | case9 | case12 | case13 =>
    cases h
    decide
  | case4 _ _ _ _ _ _ _ ih => exact ih h
  | case5 _ _ _ _ _ _ _ _ ih => exact ih h
  | case10 _ _ _ _ _ _ _ _ _ _ _ ih => exact ih h
  | case11 _ _ _ _ _ _ _ _ _ _ _ ih => exact ih h

/-- A path that cannot be followed fails for one of these reasons. -/
theorem Tree.find_error_mem {tree : Tree} {cwd : Place} {path : Path} {cause : IoError}
    (h : tree.find cwd path = .error cause) : cause ∈ lookupFailures := by
  unfold find at h
  split at h
  · cases h
  · cases h
    decide
  · next error hlookup =>
    cases h
    unfold lookup at hlookup
    split at hlookup
    · cases hlookup
      decide
    · split at hlookup
      · cases hlookup
        decide
      · split at hlookup
        · cases hlookup
          decide
        · exact walk_error_mem hlookup

end Files

namespace Settings

/-- Settings as they are loaded if the defaults stand in only where nothing is there: any other
failure of the lookup is told, like one of the reading. -/
def unlessMissing (path : Path) (look : Except IoError Unit) (reading : Except IoError String) :
    Except SettingsError Settings :=
  match look with
  | .error cause =>
    if cause = .notFound then .ok { default with path } else .error (.unreadable path cause)
  | .ok () => ofReading path reading

/-- The settings of a file, or the defaults only where nothing is there. -/
def loadUnlessMissing (world : World) (path : Path) : Except SettingsError Settings :=
  unlessMissing path (world.look path) (world.readText path)

section Outcomes

variable (path : Path) (look : Except IoError Unit) (reading : Except IoError String)

/-- A text that is read is parsed, and the settings are given their place. -/
theorem ofReading_ok (text : String) :
    ofReading path (.ok text) = (parse text).map fun settings => { settings with path } := by
  rw [ofReading]
  cases parse text <;> rfl

/-- Only a failure of the lookup for another reason than that nothing is there makes settings
different from what they should be. -/
theorem eq_unlessMissing_iff :
    (ofLookAndReading path look reading).1 = unlessMissing path look reading ↔
      ∀ cause, look = .error cause → cause = .notFound := by
  cases look with
  | ok done => simp [ofLookAndReading, unlessMissing]
  | error cause =>
    by_cases hmissing : cause = .notFound
    · simp [ofLookAndReading, unlessMissing, hmissing]
    · simp [ofLookAndReading, unlessMissing, hmissing]

end Outcomes

section Trees

variable {world : World} {path : Path}

/-- A lookup fails as the path does in the tree. -/
theorem look_eq_error_iff {cause : IoError} :
    world.look path = .error cause ↔ world.files.find world.here path = .error cause := by
  rw [World.look]
  cases world.files.find world.here path <;> simp [Except.map]

/-- A path that cannot be followed leads to no file to load, and the defaults stand in. -/
theorem load_of_find_error {cause : IoError}
    (h : world.files.find world.here path = .error cause) :
    loadFrom world path = .error (.unreadable path cause) ∧
      loadOrDefault world path = (.ok { default with path }, [absentEvent path]) := by
  constructor
  · simp only [loadFrom, ofReading, World.readText, Files.Tree.readText, Files.Tree.read, h]
  · rw [loadOrDefault, look_eq_error_iff.mpr h]
    rfl

/-- Where a path leads to something, that is loaded. -/
theorem loadOrDefault_of_find {found : Files.Place × Files.Node}
    (h : world.files.find world.here path = .ok found) :
    loadOrDefault world path = (loadFrom world path, []) := by
  have hlook : world.look path = .ok () := by
    rw [World.look, h]
    rfl
  rw [loadOrDefault, hlook]
  rfl

/-- A file is loaded if its bytes spell a text that is parsed. -/
theorem loadFrom_of_file {place : Files.Place} {content : List UInt8} {mode : Nat}
    (h : world.files.find world.here path = .ok (place, .file content mode)) :
    loadFrom world path =
      match Text.ofBytes? content with
      | some text => (parse text).map fun settings => { settings with path }
      | none => .error (.unreadable path .notText) := by
  simp only [loadFrom, World.readText, Files.Tree.readText, Files.Tree.read, h]
  cases Text.ofBytes? content with
  | none => rfl
  | some text => exact ofReading_ok path text

/-- What is no file cannot be loaded. -/
theorem loadFrom_of_no_file {place : Files.Place} {node : Files.Node}
    (h : world.files.find world.here path = .ok (place, node))
    (hnode : ∀ content mode, node ≠ .file content mode) :
    loadFrom world path = .error (.unreadable path .isDirectory) := by
  have hread : world.read path = .error .isDirectory := by
    rw [World.read, Files.Tree.read, h]
    cases node with
    | file content mode => exact absurd rfl (hnode content mode)
    | directory | link target => rfl
  rw [World.read] at hread
  rw [loadFrom, World.readText, Files.Tree.readText, hread]
  rfl

end Trees

/-- When the defaults stand in, for every path. Whatever a lookup and a reading end with, be it
that they are not permitted: the defaults stand in exactly where the lookup fails; a file that
cannot be read after that is an error with its reason, and one that can is parsed. The settings
are those of a load that tells every reason but that nothing is there exactly where the lookup
fails for no other one. In every tree of files a lookup fails for one of five reasons, with
which loading the file alone fails too, and else the file is parsed, or it is told why it
cannot be read. -/
theorem defaults_stand_in_where_lookup_fails (path : Path) :
    (∀ look reading,
      let loaded := ofLookAndReading path look reading
      (∀ cause, look = .error cause → loaded = (.ok { default with path }, [absentEvent path])) ∧
      (look = .ok () → ∀ cause, reading = .error cause →
        loaded = (.error (.unreadable path cause), [])) ∧
      (look = .ok () → ∀ text, reading = .ok text →
        loaded = ((parse text).map fun settings => { settings with path }, [])) ∧
      (loaded.1 = unlessMissing path look reading ↔
        ∀ cause, look = .error cause → cause = .notFound)) ∧
    ∀ world : World,
      (∀ cause, world.files.find world.here path = .error cause →
        cause ∈ Files.lookupFailures ∧
          loadOrDefault world path = (.ok { default with path }, [absentEvent path]) ∧
          loadFrom world path = .error (.unreadable path cause)) ∧
      (∀ place content mode,
        world.files.find world.here path = .ok (place, .file content mode) →
          loadOrDefault world path =
            (match Text.ofBytes? content with
              | some text => (parse text).map fun settings => { settings with path }
              | none => .error (.unreadable path .notText), [])) ∧
      (∀ place node, world.files.find world.here path = .ok (place, node) →
        (∀ content mode, node ≠ .file content mode) →
          loadOrDefault world path = (.error (.unreadable path .isDirectory), [])) ∧
      ((loadOrDefault world path).1 = loadUnlessMissing world path ↔
        ∀ cause, world.files.find world.here path = .error cause → cause = .notFound) := by
  constructor
  · intro look reading loaded
    refine ⟨?_, ?_, ?_, eq_unlessMissing_iff path look reading⟩
    · rintro cause rfl
      rfl
    · rintro rfl cause rfl
      rfl
    · rintro rfl text rfl
      exact congrArg (·, []) (ofReading_ok path text)
  · intro world
    refine ⟨?_, ?_, ?_, ?_⟩
    · intro cause hfind
      obtain ⟨hfrom, hdefault⟩ := load_of_find_error hfind
      exact ⟨Files.Tree.find_error_mem hfind, hdefault, hfrom⟩
    · intro place content mode hfind
      rw [loadOrDefault_of_find hfind, loadFrom_of_file hfind]
    · intro place node hfind hnode
      rw [loadOrDefault_of_find hfind, loadFrom_of_no_file hfind hnode]
    · rw [loadOrDefault, loadUnlessMissing, eq_unlessMissing_iff]
      simp only [look_eq_error_iff]

/-- The defaults stand in for a link that leads round, though something is there and loading
it fails for another reason than that nothing is. -/
theorem defaults_stand_in_for_link_loop :
    let path : Path := Path.ofText "/c"
    let world : World :=
      ⟨[], Path.ofText "/", ⟨[([Text.bytes "c"], .link path)]⟩, none, fun _ => none⟩
    world.files.find world.here path = .error .linkLoop ∧
      loadFrom world path = .error (.unreadable path .linkLoop) ∧
      loadUnlessMissing world path = .error (.unreadable path .linkLoop) ∧
      loadOrDefault world path = (.ok { default with path }, [absentEvent path]) := by
  intro path world
  have hentry : Files.isEntryName (Text.bytes "c") = true := by decide
  have hpath : path = ⟨Path.slash :: Text.bytes "c"⟩ := by decide
  have hlink : world.files.at? [Text.bytes "c"] = some (.link path) := rfl
  have hfind : world.files.find world.here path = .error .linkLoop := by
    rw [hpath] at hlink ⊢
    exact Files.Tree.find_self_link hentry hlink world.here
  obtain ⟨hfrom, hdefault⟩ := load_of_find_error hfind
  refine ⟨hfind, hfrom, ?_, hdefault⟩
  rw [loadUnlessMissing, look_eq_error_iff.mpr hfind]
  rfl

end Settings

end TrayIndicator
