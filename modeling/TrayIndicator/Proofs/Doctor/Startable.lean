import Mathlib
import TrayIndicator.Doctor
import TrayIndicator.Proofs.Files.Lookup
import TrayIndicator.Proofs.Machine.Search

/-!
# What the health check finds and what the tray starts

The health check and the launcher look for a program each in its own way. They look
at the same files unless a bare name has no search path or one with an entry for the
home directory, or a relative path has a working directory that is gone or makes it
too long. A program that is found is started then, unless it is a script whose
interpreter is missing, or a directory before it cannot be searched.
-/

namespace TrayIndicator

namespace Path

/-- The steps of a path are what it names, without the later dots. -/
theorem steps_of_named {path : Path} {first : List UInt8} {rest : List (List UInt8)}
    (h : named path.bytes = first :: rest) :
    path.steps = if first == dot && path.isAbsolute then rest.filter (· != dot)
      else first :: rest.filter (· != dot) := by
  have hpieces : (pieces path.bytes).filter (fun piece => !piece.isEmpty) = first :: rest := h
  simp only [steps, hpieces]

/-- A path without a slash has one step at most. -/
theorem length_steps_le {path : Path} (h : slash ∉ path.bytes) : path.steps.length ≤ 1 := by
  by_cases hbytes : path.bytes = []
  · have hnone : path.steps = [] := by
      rw [steps, hbytes]
      rfl
    rw [hnone]
    exact Nat.zero_le 1
  · have hnamed : named path.bytes = [path.bytes] := by
      rw [named, pieces_of_not_mem h]
      simp [hbytes]
    rw [steps_of_named hnamed]
    split <;> simp

/-- A path that names nothing before one of its slashes is absolute. -/
theorem isAbsolute_of_named_eq_nil {path : Path} {front last : List UInt8}
    (hbytes : path.bytes = front ++ slash :: last) (hnamed : named front = []) :
    path.isAbsolute = true := by
  cases front with
  | nil =>
    rw [isAbsolute, hbytes]
    rfl
  | cons byte front =>
    have habsolute : (⟨byte :: front⟩ : Path).isAbsolute = true := by
      rw [← Bool.not_eq_false]
      exact fun hrelative => named_ne_nil hrelative (List.cons_ne_nil _ _) hnamed
    rw [isAbsolute, hbytes]
    exact habsolute

/-- A path with a slash that asks for no directory has a step after the slash, and
has one before it or is absolute. -/
theorem two_le_length_steps {path : Path} (hslash : slash ∈ path.bytes)
    (hpath : ¬ path.AsksForDirectory) :
    2 ≤ (if path.isAbsolute then 1 else 0) + path.steps.length := by
  obtain ⟨last, hlast, hpiece, hwhole | ⟨front, hfront⟩⟩ := exists_last_piece path.bytes
  · exact absurd (hwhole ▸ hslash) hlast
  · rw [AsksForDirectory, hpiece, Option.some.injEq, Option.some.injEq, not_or] at hpath
    obtain ⟨hsome, hdot⟩ := hpath
    have hnamed : named path.bytes = named front ++ [last] := by
      have hone : named last = [last] := by
        rw [named, pieces_of_not_mem hlast]
        simp [hsome]
      rw [hfront, named_append, hone]
    cases hbefore : named front with
    | nil =>
      rw [hbefore] at hnamed
      rw [steps_of_named hnamed]
      simp [isAbsolute_of_named_eq_nil hfront hbefore, hdot]
    | cons first others =>
      have hkept : 1 ≤ ((others ++ [last]).filter (· != dot)).length := by
        rw [List.filter_append, List.length_append]
        simp [hdot]
      rw [hbefore, List.cons_append] at hnamed
      rw [steps_of_named hnamed]
      -- a first dot of an absolute path is no step
      by_cases hfirst : (first == dot && path.isAbsolute) = true
      · rw [if_pos hfirst, if_pos (Bool.and_eq_true_iff.mp hfirst).2]
        omega
      · rw [if_neg hfirst, List.length_cons]
        omega

end Path

namespace Doctor

open Machine

/-- Does the check look for a program where a start does? -/
structure LooksAlike (world : World) (program : String) : Prop where
  /-- A bare name has a search path, on which no entry stands for the home directory. -/
  searchPath : Path.slash ∉ Text.bytes program →
    ∃ entries, world.value? "PATH" = some entries ∧
      ∀ entry ∈ Path.searchEntries entries, expandEntry world.home? entry = entry
  /-- A relative path has a working directory that is there, and is not too long with
  it. -/
  place : Path.slash ∈ Text.bytes program → (Path.ofText program).isAbsolute = false →
    world.Grounded ∧ (world.cwd.join (Path.ofText program)).bytes.length < Files.pathLimit

section Paths

variable {world : World} {program : String}

/-- Every path that is tried asks for a directory if the name does. -/
theorem asksForDirectory_of_mem_tried (h : (Path.ofText program).AsksForDirectory) {path : Path}
    (hpath : path ∈ tried world (Text.bytes program)) : path.AsksForDirectory := by
  unfold tried at hpath
  split at hpath
  · rw [List.mem_singleton.mp hpath]
    exact h
  · obtain ⟨entry, -, rfl⟩ := List.mem_map.mp hpath
    exact h.join entry

/-- So does every path at which the check looks. -/
theorem asksForDirectory_of_mem_candidates (h : (Path.ofText program).AsksForDirectory)
    {path : Path} (hpath : path ∈ candidates world program) : path.AsksForDirectory := by
  simp only [candidates] at hpath
  by_cases hseveral : 1 < (if (Path.ofText program).isAbsolute then 1 else 0) +
      (Path.ofText program).steps.length
  · rw [if_pos hseveral] at hpath
    rw [List.mem_singleton.mp hpath]
    exact h.join world.cwd
  · rw [if_neg hseveral] at hpath
    cases hentries : world.value? "PATH" with
    | none =>
      rw [hentries] at hpath
      cases hpath
    | some entries =>
      rw [hentries] at hpath
      obtain ⟨entry, -, rfl⟩ := List.mem_map.mp hpath
      exact h.join _

/-- The check looks for a name with a slash from the working directory, unless the
name asks for a directory. -/
theorem candidates_of_slash (hslash : Path.slash ∈ Text.bytes program)
    (hname : ¬ (Path.ofText program).AsksForDirectory) :
    candidates world program = [world.cwd.join (Path.ofText program)] := by
  simp only [candidates]
  exact if_pos (Path.two_le_length_steps hslash hname)

/-- The check looks for a bare name in the entries of the search path, one that begins
with the sign for the home directory being continued from there. -/
theorem candidates_of_bare (hslash : Path.slash ∉ Text.bytes program) {entries : List UInt8}
    (hentries : world.value? "PATH" = some entries) :
    candidates world program = (Path.searchEntries entries).map fun entry =>
      (expandEntry world.home? entry).join (Path.ofText program) := by
  have hrelative : (Path.ofText program).isAbsolute = false := by
    rw [← Bool.not_eq_true]
    intro habsolute
    rw [Path.isAbsolute, beq_iff_eq] at habsolute
    exact hslash (List.mem_of_head? habsolute)
  have hsteps : (Path.ofText program).steps.length ≤ 1 := Path.length_steps_le hslash
  simp only [candidates, hrelative, hentries]
  exact if_neg (by simpa using hsteps)

/-- Unless the name asks for a directory, the check looks at the files that a start
tries, in the same order. -/
theorem exists_candidates_eq (h : LooksAlike world program)
    (hname : ¬ (Path.ofText program).AsksForDirectory) :
    ∃ shown : Path → Path,
      candidates world program = (tried world (Text.bytes program)).map shown ∧
        ∀ path ∈ tried world (Text.bytes program),
          world.files.find world.here (shown path) = world.files.find world.here path := by
  by_cases hslash : Path.slash ∈ Text.bytes program
  · have htried : tried world (Text.bytes program) = [Path.ofText program] := by
      rw [tried, if_pos (List.contains_iff_mem.mpr hslash)]
      rfl
    rw [htried, candidates_of_slash hslash hname]
    refine ⟨world.cwd.join, rfl, fun path hpath => ?_⟩
    rw [List.mem_singleton.mp hpath]
    cases hrelative : (Path.ofText program).isAbsolute with
    | true => rw [Path.join_absolute hrelative]
    | false =>
      obtain ⟨hgrounded, hlength⟩ := h.place hslash hrelative
      exact hgrounded.find_join hrelative (List.ne_nil_of_mem hslash) hlength
  · obtain ⟨entries, hentries, hliteral⟩ := h.searchPath hslash
    have htried : tried world (Text.bytes program) =
        (Path.searchEntries entries).map (·.join (Path.ofText program)) := by
      rw [tried, if_neg fun hmem => hslash (List.contains_iff_mem.mp hmem), hentries]
      rfl
    have hcandidates : candidates world program = tried world (Text.bytes program) := by
      rw [candidates_of_bare hslash hentries, htried]
      apply List.map_congr_left
      intro entry hentry
      rw [hliteral entry hentry]
    exact ⟨fun path => path, hcandidates.trans (List.map_id' _).symm, fun _ _ => rfl⟩

/-- A program is the same one at two paths that lead to the same. -/
theorem isProgram_congr {first second : Path}
    (h : world.files.find world.here first = world.files.find world.here second) :
    world.files.isProgram world.here first = world.files.isProgram world.here second := by
  rw [Files.Tree.isProgram, h, Files.Tree.isProgram]

/-- A name that is found asks for no directory. -/
theorem not_asksForDirectory_of_found {path : Path} (h : findProgram world program = some path) :
    ¬ (Path.ofText program).AsksForDirectory := by
  intro hasks
  have hprogram := isProgram_of_findProgram h
  have hmem : path ∈ candidates world program := List.mem_of_find?_eq_some h
  rw [Files.Tree.isProgram_of_asksForDirectory
    (asksForDirectory_of_mem_candidates hasks hmem)] at hprogram
  cases hprogram

/-- Nor does a name that starts a file. -/
theorem not_asksForDirectory_of_started {load : Loader} {arguments : List (List UInt8)}
    {path : Path} (h : startedFile? load world (Text.bytes program) arguments = some path) :
    ¬ (Path.ofText program).AsksForDirectory := by
  intro hasks
  obtain ⟨hmem, invocation, hinvoke⟩ := startedFile?_sound h
  have hprogram := isProgram_of_invoke hinvoke
  rw [Files.Tree.isProgram_of_asksForDirectory
    (asksForDirectory_of_mem_tried hasks hmem)] at hprogram
  cases hprogram

/-- A name that is found is not empty. -/
theorem bytes_ne_nil_of_found {path : Path} (h : findProgram world program = some path) :
    Text.bytes program ≠ [] := by
  intro hempty
  apply not_asksForDirectory_of_found h
  rw [Path.AsksForDirectory, Path.ofText, hempty]
  exact .inl rfl

/-- The check finds a program that a start can start. -/
theorem exists_found_of_started (h : LooksAlike world program) {load : Loader}
    {arguments : List (List UInt8)} {place : Path}
    (hstarted : startedFile? load world (Text.bytes program) arguments = some place) :
    ∃ path, findProgram world program = some path := by
  obtain ⟨hmem, invocation, hinvoke⟩ := startedFile?_sound hstarted
  obtain ⟨shown, hcandidates, hshown⟩ :=
    exists_candidates_eq h (not_asksForDirectory_of_started hstarted)
  rw [← Option.isSome_iff_exists, findProgram, hcandidates, List.find?_isSome]
  exact ⟨shown place, List.mem_map_of_mem hmem,
    (isProgram_congr (hshown place hmem)).trans (isProgram_of_invoke hinvoke)⟩

/-- The program that the check finds is the first one among the paths that a start
tries. -/
theorem exists_first_tried (h : LooksAlike world program) {path : Path}
    (hfound : findProgram world program = some path) :
    ∃ before place after, tried world (Text.bytes program) = before ++ place :: after ∧
      world.files.find world.here place = world.files.find world.here path ∧
      ∀ other ∈ before, world.files.isProgram world.here other = false := by
  obtain ⟨shown, hcandidates, hshown⟩ :=
    exists_candidates_eq h (not_asksForDirectory_of_found hfound)
  obtain ⟨-, front, back, hsplit, hfront⟩ := List.find?_eq_some_iff_append.mp hfound
  rw [hcandidates] at hsplit
  obtain ⟨before, rest, htried, rfl, hrest⟩ := List.map_eq_append_iff.mp hsplit
  obtain ⟨place, after, rfl, rfl, rfl⟩ := List.map_eq_cons_iff.mp hrest
  have hsame (other : Path) (hother : other ∈ before ++ place :: after) :=
    hshown other (htried ▸ hother)
  refine ⟨before, place, after, htried, (hsame place (by simp)).symm, fun other hother => ?_⟩
  have hmissed := hfront (shown other) (List.mem_map_of_mem hother)
  rw [Bool.not_eq_true'] at hmissed
  exact (isProgram_congr (hsame other (List.mem_append_left _ hother))).symm.trans hmissed

end Paths

/-- Where the check looks for a program as a start does, they agree. If the check does
not find it, no start succeeds. If the check finds it, the file is the first program
among the paths that a start tries. That one is started exactly if no path before it
ends the search and it can be run. If it decides the search, the program is not said
to be missing, and no other file is started. The loader of the machine may be any. -/
theorem found_program_starts (machine : Machine) (label program : String)
    (hlooks : LooksAlike machine.world program) :
    let world := machine.world
    let name := Text.bytes program
    let check := checkProgram world label program
    let answer := (Launcher.processes.start (.spawn program) machine).answer
    let load := machine.loader
    let started? := startedFile? load world name []
    (answer = .ok () ↔ ∃ started, started? = some started) ∧
      (check.status = .error → ∃ cause, answer = .error cause) ∧
      (check.status = .ok → ∃ path before place after,
        findProgram world program = some path ∧ check.detail = path.shown ∧
        tried world name = before ++ place :: after ∧
        (∀ other ∈ before, world.files.isProgram world.here other = false) ∧
        world.files.find world.here place = world.files.find world.here path ∧
        (started? = some place ↔ before.all (passedOver world) = true ∧
          ∃ invocation, invoke load world scriptLimit place [name] = .ok invocation) ∧
        (Decides load world [name] place →
          answer ≠ .error .notFound ∧ ∀ started, started? = some started → started = place)) := by
  intro world name check answer load started?
  have hanswer : answer = .ok () ↔ ∃ started, started? = some started :=
    processes_spawn_ok_iff machine program
  refine ⟨hanswer, ?_, ?_⟩
  · intro hstatus
    cases hresult : answer with
    | error cause => exact ⟨cause, rfl⟩
    | ok done =>
      obtain ⟨place, hplace⟩ := hanswer.mp hresult
      obtain ⟨path, hfound⟩ := exists_found_of_started hlooks hplace
      simp only [check, world, checkProgram, hfound] at hstatus
      cases hstatus
  · intro hstatus
    cases hfound : findProgram world program with
    | none =>
      simp only [check, world, checkProgram, hfound] at hstatus
      cases hstatus
    | some path =>
      obtain ⟨before, place, after, htried, hsame, hbefore⟩ := exists_first_tried hlooks hfound
      have hname : name ≠ [] := bytes_ne_nil_of_found hfound
      have hstarted : started? = startedAmong load world [name] (before ++ place :: after) := by
        rw [← htried]
        exact if_neg (by simpa using hname)
      have hdetail : check.detail = path.shown := by
        simp only [check, world, checkProgram, hfound]
      refine ⟨path, before, place, after, rfl, hdetail, htried, hbefore, hsame, ?_,
        fun hdecides => ⟨?_, ?_⟩⟩
      · rw [hstarted, startedAmong_eq_some_iff hbefore]
      · have hplace : place ∈ tried world name := by
          rw [htried]
          simp
        exact processes_spawn_ne_notFound machine program hname ⟨place, hplace, hdecides⟩
      · intro other hother
        rw [hstarted] at hother
        exact eq_of_startedAmong hbefore hdecides hother

/-- A file that the system runs: a header, one segment that is the whole file, and the code
that ends the process at once. -/
def endingProgram : List UInt8 :=
  -- mark, 64 bits, least byte first; type with fixed addresses; machine; version
  [0x7F, 0x45, 0x4C, 0x46, 2, 1, 1, 0, 0, 0, 0, 0, 0, 0, 0, 0, 2, 0, 0x3E, 0, 1, 0, 0, 0] ++
  -- entry point; where the segment is told of; no sections
  [0x78, 0, 0x40, 0, 0, 0, 0, 0, 0x40, 0, 0, 0, 0, 0, 0, 0, 0, 0, 0, 0, 0, 0, 0, 0] ++
  -- no flags; sizes of the header and of what tells of a segment; one segment
  [0, 0, 0, 0, 0x40, 0, 0x38, 0, 1, 0, 0, 0, 0, 0, 0, 0] ++
  -- a segment to load, to be read and run, from the start of the file
  [1, 0, 0, 0, 5, 0, 0, 0, 0, 0, 0, 0, 0, 0, 0, 0] ++
  -- its addresses, its sizes, its alignment
  [0, 0, 0x40, 0, 0, 0, 0, 0, 0, 0, 0x40, 0, 0, 0, 0, 0] ++
  [0x81, 0, 0, 0, 0, 0, 0, 0, 0x81, 0, 0, 0, 0, 0, 0, 0, 0, 0x10, 0, 0, 0, 0, 0, 0] ++
  -- the call that ends the process, with 0
  [0x31, 0xFF, 0xB8, 0x3C, 0, 0, 0, 0x0F, 0x05]

/-- A program in the machine's own code on the search path is found and started. -/
theorem found_program_starts_from_search_path :
    let files : Files.Tree :=
      ⟨[([Text.bytes "bin", Text.bytes "tool"], .file endingProgram 0o755),
        ([Text.bytes "bin"], .directory)]⟩
    let world : World :=
      ⟨[("PATH", Text.bytes "/bin")], Path.ofText "/", files, none, fun _ => none⟩
    let machine := Machine.start world false
    LooksAlike world "tool" ∧ (checkProgram world "Log opener" "tool").status = .ok ∧
      startedFile? machine.loader world (Text.bytes "tool") [] = some (Path.ofText "/bin/tool") ∧
      (Launcher.processes.start (.spawn "tool") machine).answer = .ok () := by
  intro files world machine
  have hlooks : LooksAlike world "tool" := by
    refine ⟨fun _ => ⟨_, rfl, by decide⟩, fun hslash => ?_⟩
    exact absurd hslash (by decide)
  have hstatus : (checkProgram world "Log opener" "tool").status = .ok := by cbv
  obtain ⟨hanswer, -, hfound⟩ := found_program_starts machine "Log opener" "tool" hlooks
  obtain ⟨path, before, place, after, -, -, htried, -, -, hstarts, -⟩ := hfound hstatus
  have hone : tried world (Text.bytes "tool") = [Path.ofText "/bin/tool"] := by decide
  have hplace : before = [] ∧ place = Path.ofText "/bin/tool" := by
    rcases List.append_eq_singleton_iff.mp (htried.symm.trans hone) with ⟨rfl, hfirst⟩ | ⟨-, hnone⟩
    · exact ⟨rfl, (List.cons.inj hfirst).1⟩
    · cases hnone
  obtain ⟨rfl, rfl⟩ := hplace
  have hstarted := hstarts.mpr ⟨rfl, _, by cbv⟩
  exact ⟨hlooks, hstatus, hstarted, hanswer.mpr ⟨_, hstarted⟩⟩

/-- The search path leads to the home directory: the check finds the program there,
and the start does not. -/
theorem entry_for_home_found_not_started :
    let tool := [Text.bytes "home", Text.bytes "bin", Text.bytes "tool"]
    let files : Files.Tree := ⟨[(tool, .file (Text.bytes "#!/bin/sh\n") 0o755),
      ([Text.bytes "home", Text.bytes "bin"], .directory), ([Text.bytes "home"], .directory)]⟩
    let world : World := ⟨[("PATH", Text.bytes "~/bin"), ("HOME", Text.bytes "/home")],
      Path.ofText "/", files, none, fun _ => none⟩
    checkProgram world "Companion GUI" "tool" = ⟨.ok, "Companion GUI", "/home/bin/tool"⟩ ∧
      (Launcher.processes.start (.spawn "tool") (Machine.start world false)).answer =
        .error .notFound := by
  constructor
  · cbv
  · cbv

end Doctor

end TrayIndicator
