import TrayIndicator.Machine.Processes
import TrayIndicator.Proofs.Files.Lookup

/-!
# Which file a start runs

A start tries paths one after the other: a name with a slash is a path itself, any
other is continued from every directory of the search path. The file of the first
path that can be run is started. A failure on the way ends the search unless it is
of a kind that the search passes over.

What the started program does is not looked at, nor how the system tells what it can run:
the loader may be any.
-/

namespace TrayIndicator.Machine

/-- The paths that a start tries, the first one first. -/
def tried (world : World) (name : List UInt8) : List Path :=
  if name.contains Path.slash then [⟨name⟩]
  else (Path.searchEntries ((world.value? "PATH").getD systemPath)).map (·.join ⟨name⟩)

/-- The path of the file that is started when paths are tried with some words. -/
def startedAmong (load : Loader) (world : World) (words : List (List UInt8)) :
    List Path → Option Path
  | [] => none
  | path :: paths =>
    match invoke load world scriptLimit path words with
    | .ok _ => some path
    | .error cause => if continuesSearch cause then startedAmong load world words paths else none

/-- The path of the file that a name starts with arguments, if it starts one. -/
def startedFile? (load : Loader) (world : World) (name : List UInt8)
    (arguments : List (List UInt8)) : Option Path :=
  if name.isEmpty then none else startedAmong load world (name :: arguments) (tried world name)

/-- Is a path passed over by a search? The file there cannot be run, for a reason
that does not end the search. -/
def passedOver (world : World) (path : Path) : Bool :=
  match openProgram world path with
  | .ok _ => false
  | .error cause => continuesSearch cause

/-- Does a path decide a search that gets to it? The file there can be run with the
words, or fails for a reason that ends the search. -/
def Decides (load : Loader) (world : World) (words : List (List UInt8)) (path : Path) : Prop :=
  ∀ cause, invoke load world scriptLimit path words = .error cause → continuesSearch cause = false

section Files

variable {load : Loader} {world : World} {path : Path}

/-- A file can be opened as a program exactly if it is one. -/
theorem exists_openProgram_iff :
    (∃ file, openProgram world path = .ok file) ↔
      world.files.isProgram world.here path = true := by
  unfold openProgram Files.Tree.isProgram
  cases world.files.find world.here path with
  | error cause => simp
  | ok found =>
    obtain ⟨place, node⟩ := found
    cases node with
    | file content mode =>
      by_cases hmode : mode &&& 0o111 = 0
      · simp [hmode]
      · simp [hmode]
    | directory | link target => simp

/-- What is run is a program. -/
theorem isProgram_of_invoke {scripts : Nat} {words : List (List UInt8)}
    {invocation : Invocation} (h : invoke load world scripts path words = .ok invocation) :
    world.files.isProgram world.here path = true := by
  rw [← exists_openProgram_iff]
  unfold invoke at h
  split at h
  · cases h
  · next hopened => exact ⟨_, hopened⟩

/-- What is no program fails as it is opened, with whatever words. -/
theorem exists_invoke_error (h : world.files.isProgram world.here path = false) :
    ∃ cause, openProgram world path = .error cause ∧
      ∀ load scripts words, invoke load world scripts path words = .error cause := by
  cases hopened : openProgram world path with
  | ok file =>
    rw [exists_openProgram_iff.mp ⟨file, hopened⟩] at h
    cases h
  | error cause =>
    refine ⟨cause, rfl, fun load scripts words => ?_⟩
    rw [invoke.eq_def, hopened]

end Files

section Search

variable {load : Loader} {world : World} {words : List (List UInt8)}

/-- The started file is one of those tried, and can be run. -/
theorem startedAmong_sound {paths : List Path} {path : Path}
    (h : startedAmong load world words paths = some path) :
    path ∈ paths ∧ ∃ invocation, invoke load world scriptLimit path words = .ok invocation := by
  induction paths with
  | nil => cases h
  | cons first paths ih =>
    rw [startedAmong] at h
    cases hfirst : invoke load world scriptLimit first words with
    | ok invocation =>
      simp only [hfirst, Option.some.injEq] at h
      subst h
      exact ⟨List.mem_cons_self, invocation, hfirst⟩
    | error cause =>
      simp only [hfirst] at h
      split at h
      · exact ⟨List.mem_cons_of_mem _ (ih h).1, (ih h).2⟩
      · cases h

/-- Paths that lead to no program are passed over, or end the search. -/
theorem startedAmong_append {before : List Path} (after : List Path)
    (hbefore : ∀ path ∈ before, world.files.isProgram world.here path = false) :
    startedAmong load world words (before ++ after) =
      if before.all (passedOver world) then startedAmong load world words after else none := by
  induction before with
  | nil => rfl
  | cons first before ih =>
    obtain ⟨cause, hopened, hfirst⟩ := exists_invoke_error (hbefore first List.mem_cons_self)
    have hrest := ih fun path hpath => hbefore path (List.mem_cons_of_mem _ hpath)
    rw [List.cons_append, startedAmong, hfirst]
    simp only [hrest, List.all_cons, passedOver, hopened]
    cases continuesSearch cause <;> simp

/-- The first program of a search is started exactly if the search gets to it and it
can be run. -/
theorem startedAmong_eq_some_iff {before after : List Path} {path : Path}
    (hbefore : ∀ other ∈ before, world.files.isProgram world.here other = false) :
    startedAmong load world words (before ++ path :: after) = some path ↔
      before.all (passedOver world) = true ∧
        ∃ invocation, invoke load world scriptLimit path words = .ok invocation := by
  rw [startedAmong_append _ hbefore]
  constructor
  · intro h
    split at h
    · next hpassed => exact ⟨hpassed, (startedAmong_sound h).2⟩
    · cases h
  · rintro ⟨hpassed, invocation, hinvoke⟩
    rw [if_pos hpassed, startedAmong, hinvoke]

/-- The first program of a search is the only one that can be started, if it decides
the search. -/
theorem eq_of_startedAmong {before after : List Path} {path started : Path}
    (hbefore : ∀ other ∈ before, world.files.isProgram world.here other = false)
    (hpath : Decides load world words path)
    (h : startedAmong load world words (before ++ path :: after) = some started) :
    started = path := by
  rw [startedAmong_append _ hbefore] at h
  split at h
  · rw [startedAmong] at h
    cases hinvoke : invoke load world scriptLimit path words with
    | ok invocation =>
      rw [hinvoke] at h
      exact (Option.some.inj h).symm
    | error cause =>
      simp [hinvoke, hpath cause hinvoke] at h
  · cases h

end Search

section Locate

variable (load : Loader) (world : World) (name : List UInt8) (arguments : List (List UInt8))

/-- A search finds the program of the file it starts. -/
theorem search_eq_ok_iff (entries : List Path) (cause : IoError) (invocation : Invocation) :
    search load world name arguments entries cause = .ok invocation ↔
      ∃ path,
        startedAmong load world (name :: arguments) (entries.map (·.join ⟨name⟩)) = some path ∧
          invoke load world scriptLimit path (name :: arguments) = .ok invocation := by
  induction entries generalizing cause with
  | nil => simp [search, startedAmong]
  | cons entry entries ih =>
    rw [search, List.map_cons, startedAmong]
    cases hinvoke : invoke load world scriptLimit (entry.join ⟨name⟩) (name :: arguments) with
    | ok found => simp [hinvoke]
    | error found =>
      dsimp only
      split
      · exact ih _
      · simp

/-- A search does not end with nothing found if one of the paths decides it. -/
theorem search_ne_notFound {entries : List Path} (cause : IoError)
    (h : ∃ entry ∈ entries, Decides load world (name :: arguments) (entry.join ⟨name⟩)) :
    search load world name arguments entries cause ≠ .error .notFound := by
  have hending {found : IoError} (hfound : ¬ continuesSearch found = true) :
      found ≠ .notFound := by
    rintro rfl
    exact hfound rfl
  induction entries generalizing cause with
  | nil => simp at h
  | cons entry entries ih =>
    rw [search]
    cases hinvoke : invoke load world scriptLimit (entry.join ⟨name⟩) (name :: arguments) with
    | ok invocation => simp
    | error found =>
      dsimp only
      split
      · next hcontinues =>
        obtain ⟨other, hother, hdecides⟩ := h
        rcases List.mem_cons.mp hother with rfl | hlater
        · rw [hdecides found hinvoke] at hcontinues
          cases hcontinues
        · exact ih _ ⟨other, hlater, hdecides⟩
      · next hends =>
        intro hnone
        exact hending hends (Except.error.inj hnone)

/-- A name is located exactly if it starts a file, and the program is that of the
file. -/
theorem locate_eq_ok_iff (invocation : Invocation) :
    locate load world name arguments = .ok invocation ↔
      ∃ path, startedFile? load world name arguments = some path ∧
        invoke load world scriptLimit path (name :: arguments) = .ok invocation := by
  unfold locate startedFile? tried
  split
  · simp
  · split
    · rw [startedAmong, startedAmong]
      cases hinvoke : invoke load world scriptLimit ⟨name⟩ (name :: arguments) with
      | ok found => simp [hinvoke]
      | error cause => simp
    · exact search_eq_ok_iff load world name arguments _ _ invocation

/-- A name is not said to be missing if one of the paths that are tried decides the
search. -/
theorem locate_ne_notFound (hname : name ≠ [])
    (h : ∃ path ∈ tried world name, Decides load world (name :: arguments) path) :
    locate load world name arguments ≠ .error .notFound := by
  unfold tried at h
  unfold locate
  rw [if_neg (by simpa using hname)]
  split at h
  · next hslash =>
    rw [if_pos hslash]
    obtain ⟨path, hpath, hdecides⟩ := h
    rw [List.mem_singleton.mp hpath] at hdecides
    intro hnone
    cases hdecides _ hnone
  · next hslash =>
    rw [if_neg hslash]
    apply search_ne_notFound
    obtain ⟨path, hpath, hdecides⟩ := h
    obtain ⟨entry, hentry, rfl⟩ := List.mem_map.mp hpath
    exact ⟨entry, hentry, hdecides⟩

variable {load world name arguments}

/-- Every path that is tried holds the bytes of the name. -/
theorem subset_of_mem_tried {path : Path} (hpath : path ∈ tried world name) :
    name ⊆ path.bytes := by
  unfold tried at hpath
  split at hpath
  · rw [List.mem_singleton.mp hpath]
    exact List.Subset.refl _
  · obtain ⟨entry, -, rfl⟩ := List.mem_map.mp hpath
    exact Path.subset_join entry ⟨name⟩

/-- The file that a name starts is one of those tried, and can be run. -/
theorem startedFile?_sound {path : Path} (h : startedFile? load world name arguments = some path) :
    path ∈ tried world name ∧
      ∃ invocation, invoke load world scriptLimit path (name :: arguments) = .ok invocation := by
  unfold startedFile? at h
  split at h
  · cases h
  · exact startedAmong_sound h

/-- A name that starts a file has no zero. -/
theorem not_mem_of_startedFile? {path : Path}
    (h : startedFile? load world name arguments = some path) : 0 ∉ name := by
  intro hzero
  obtain ⟨hpath, invocation, hinvoke⟩ := startedFile?_sound h
  have hprogram := isProgram_of_invoke hinvoke
  rw [Files.Tree.isProgram_of_zero (subset_of_mem_tried hpath hzero)] at hprogram
  cases hprogram

end Locate

section Spawn

variable (machine : Machine) (program : String)

/-- A request to start a program alone is granted exactly if its name is located, and
else fails as that does, unless the name has a zero. -/
theorem processes_spawn_answer :
    (Launcher.processes.start (.spawn program) machine).answer =
      if (Text.bytes program).contains 0 then .error .zeroInProgram
      else (locate machine.loader machine.world (Text.bytes program) []).map fun _ => () := by
  have hprocess : (machine.toHost.start (.spawn program)).1 =
      (machine.toHost.process (.spawn program)).map (·.number) := by
    rw [Host.start]
    cases machine.toHost.process (.spawn program) <;> rfl
  have hanswer : (Launcher.processes.start (.spawn program) machine).answer =
      (machine.toHost.start (.spawn program)).1.map fun _ => () := by
    simp only [Launcher.processes, Launcher.onSystem, Host.system]
    cases (machine.toHost.start (.spawn program)).1 <;> rfl
  rw [hanswer, hprocess, Host.process]
  simp only [Request.words, List.any_nil, Bool.or_false]
  split
  · rfl
  · rw [Image.of]
    cases locate machine.loader machine.world (Text.bytes program) [] <;> rfl

/-- A request to start a program alone does not fail as if it were missing if one of
the paths that are tried decides the search. -/
theorem processes_spawn_ne_notFound (hname : Text.bytes program ≠ [])
    (h : ∃ path ∈ tried machine.world (Text.bytes program),
      Decides machine.loader machine.world [Text.bytes program] path) :
    (Launcher.processes.start (.spawn program) machine).answer ≠ .error .notFound := by
  have hlocate := locate_ne_notFound machine.loader machine.world (Text.bytes program) [] hname h
  rw [processes_spawn_answer]
  split
  · exact fun hnone => nomatch hnone
  · cases hend : locate machine.loader machine.world (Text.bytes program) [] with
    | ok invocation => exact fun hnone => nomatch hnone
    | error cause =>
      rw [hend] at hlocate
      intro hnone
      exact hlocate (congrArg _ (Except.error.inj hnone))

/-- A request to start a program alone is granted exactly if the name starts a file. -/
theorem processes_spawn_ok_iff :
    (Launcher.processes.start (.spawn program) machine).answer = .ok () ↔
      ∃ path, startedFile? machine.loader machine.world (Text.bytes program) [] = some path := by
  rw [processes_spawn_answer]
  constructor
  · intro h
    split at h
    · cases h
    · cases hlocate : locate machine.loader machine.world (Text.bytes program) [] with
      | error cause =>
        rw [hlocate] at h
        cases h
      | ok invocation =>
        obtain ⟨path, hpath, -⟩ := (locate_eq_ok_iff _ _ _ _ _).mp hlocate
        exact ⟨path, hpath⟩
  · rintro ⟨path, hpath⟩
    obtain ⟨-, invocation, hinvoke⟩ := startedFile?_sound hpath
    have hlocate := (locate_eq_ok_iff _ _ _ _ invocation).mpr ⟨path, hpath, hinvoke⟩
    have hzero := not_mem_of_startedFile? hpath
    rw [if_neg fun hmem => hzero (List.contains_iff_mem.mp hmem), hlocate]
    rfl

end Spawn

end TrayIndicator.Machine
