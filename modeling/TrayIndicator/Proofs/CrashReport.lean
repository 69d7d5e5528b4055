import Mathlib.Data.List.Infix
import TrayIndicator.CrashReport
import TrayIndicator.Proofs.Calendar
import TrayIndicator.Proofs.Files.Changes
import TrayIndicator.Proofs.Text.AsciiBytes

/-!
# Which crash reports are kept

The file of a report is named after the second of the crash, and a file that is there is
emptied and written over. So a report that was saved stays as it is through all later panics
of other seconds, whatever they say and wherever they happen. It is lost to a later one of the
same second that is saved, and may be lost to one that is not: writing may fail after the file
was emptied, or the process may end on the way.

Reports are written one after the other here: what becomes of a file that two panics write at
the same time is not claimed. Their second is the same then, so no other report is concerned.
-/

namespace TrayIndicator.CrashReport

open Files TrayIndicator.Path

/-- A panic, with the seconds that its report and the report's file are dated with. -/
structure Panic where
  /-- What the panic said. -/
  message : String
  /-- Where it happened. -/
  location : String
  /-- How the program got there. -/
  backtrace : String
  /-- The second that the report tells. -/
  told : Nat
  /-- The second that the file is named after. -/
  filed : Nat

namespace Panic

/-- What is known of the crash. -/
def crash (panic : Panic) : Crash :=
  ⟨panic.message, panic.location, panic.backtrace, .ofSeconds panic.told panic.filed⟩

/-- The contents of the report. -/
def report (panic : Panic) : List UInt8 := Text.bytes (text panic.crash)

/-- The name of the report's file. -/
def file (panic : Panic) : List UInt8 := Text.bytes (fileName panic.crash.stamp)

/-- Where the report goes. -/
def path (panic : Panic) (world : World) : Path := world.logDirectory.join ⟨panic.file⟩

variable {first second : Panic} {world : World}

/-- The name of a report's file has digits and a few other characters. -/
theorem not_mem_fileName {c : Char} (hdigit : c.isDigit = false)
    (hother : c ∉ "crash_".toList ++ "_".toList ++ ".txt".toList) (panic : Panic) :
    c ∉ (fileName panic.crash.stamp).toList := by
  have hmark : c ∉ "".toList := List.not_mem_nil
  obtain ⟨hdate, htime⟩ := Calendar.not_mem_dateText_timeText hdigit hmark panic.filed
  simp only [List.mem_append, not_or] at hother
  obtain ⟨⟨hstart, hmiddle⟩, hend⟩ := hother
  simp only [fileName, crash, Stamp.ofSeconds, String.toList_append, List.mem_append, not_or]
  exact ⟨⟨hstart, ⟨hdate, hmiddle⟩, htime⟩, hend⟩

/-- The name of a report's file has no slash. -/
theorem slash_not_mem_file (panic : Panic) : slash ∉ panic.file := by
  rw [file, slash_eq, Text.asciiByte_mem_bytes_iff (by decide)]
  exact not_mem_fileName (by decide) (by decide) panic

/-- The name of a report's file has no zero. -/
theorem zero_not_mem_file (panic : Panic) : 0 ∉ panic.file := by
  have hzero : (0 : UInt8) = Text.asciiByte (Char.ofNat 0) := rfl
  rw [file, hzero, Text.asciiByte_mem_bytes_iff (by decide)]
  exact not_mem_fileName (by decide) (by decide) panic

/-- The name of a report's file begins with a letter. -/
theorem head?_file (panic : Panic) : panic.file.head? = some (Text.asciiByte 'c') := by
  rw [file, Text.head?_bytes_eq_some_iff (by decide), fileName, String.toList_append,
    String.toList_append]
  rfl

/-- The name of a report's file is neither empty nor a dot, nor two of them. -/
theorem file_ne (panic : Panic) : panic.file ≠ [] ∧ panic.file ≠ dot ∧ panic.file ≠ dotDot := by
  have hhead := panic.head?_file
  refine ⟨?_, ?_, ?_⟩
  · intro hfile
    rw [hfile] at hhead
    cases hhead
  · intro hfile
    rw [hfile] at hhead
    revert hhead
    decide
  · intro hfile
    rw [hfile] at hhead
    revert hhead
    decide

/-- A file can have the name, unless the year makes it too long. -/
theorem isEntryName_file {panic : Panic} (h : panic.file.length ≤ nameLimit) :
    isEntryName panic.file = true := by
  obtain ⟨hne, hdot, hdotDot⟩ := panic.file_ne
  exact isEntryName_iff.mpr
    ⟨hne, panic.slash_not_mem_file, panic.zero_not_mem_file, hdot, hdotDot, h⟩

/-- Files have the same name exactly if they are dated with the same second. -/
theorem file_eq_iff : first.file = second.file ↔ first.filed = second.filed := by
  constructor
  · intro h
    have hnames := congrArg String.toList (Text.bytes_injective h)
    simp only [fileName, String.toList_append, List.append_cancel_left_eq,
      List.append_cancel_right_eq] at hnames
    exact Calendar.dateTimeText_injective (String.toList_injective hnames)
  · intro h
    simp only [file, crash, Stamp.ofSeconds, fileName, h]

/-- Reports go to the same path exactly if their files are dated with the same second. -/
theorem path_eq_iff : first.path world = second.path world ↔ first.filed = second.filed := by
  rw [← file_eq_iff]
  constructor
  · intro h
    have hnames := join_injective (isAbsolute_name first.slash_not_mem_file)
      (isAbsolute_name second.slash_not_mem_file) h
    exact congrArg Path.bytes hnames
  · intro h
    rw [path, path, h]

/-- Reports that differ in the message at most are the same only if the message is. -/
theorem message_eq_of_report_eq (h : first.report = second.report)
    (htold : first.told = second.told) (hlocation : first.location = second.location)
    (hbacktrace : first.backtrace = second.backtrace) : first.message = second.message := by
  have htexts : text first.crash = text second.crash := Text.bytes_injective h
  have hshown : first.crash.stamp.shown = second.crash.stamp.shown := by
    rw [crash, crash, Stamp.ofSeconds, Stamp.ofSeconds, htold]
  have hplaces : first.crash.location = second.crash.location := hlocation
  have hways : first.crash.backtrace = second.crash.backtrace := hbacktrace
  unfold text at htexts
  rw [hshown, hplaces, hways] at htexts
  -- what follows the message is taken off part by part, and all that is before it at once
  iterate 5 rw [String.append_left_inj] at htexts
  rw [String.append_right_inj] at htexts
  exact htexts

end Panic

section Saving

variable {world next : World} {path other : Path} {place : Place} {content : List UInt8}
  {panic : Panic}

/-- Does a path lead to a file at a place, with the contents? -/
def Holds (world : World) (path : Path) (place : Place) (content : List UInt8) : Prop :=
  ∃ mode, world.files.find world.here path = .ok (place, .file content mode)

/-- The place that a path leads to, if it leads anywhere. -/
def placeOf? (world : World) (path : Path) : Option Place :=
  (world.files.find world.here path).toOption.map (·.1)

/-- A path with a place leads to something there. -/
theorem exists_find_of_placeOf? (h : placeOf? world path = some place) :
    ∃ node, world.files.find world.here path = .ok (place, node) := by
  unfold placeOf? at h
  cases hfind : world.files.find world.here path with
  | error cause =>
    rw [hfind] at h
    cases h
  | ok found =>
    rw [hfind] at h
    cases h
    exact ⟨found.2, rfl⟩

/-- A path that leads to a file leads to its place. -/
theorem Holds.placeOf? (h : Holds world path place content) :
    placeOf? world path = some place := by
  obtain ⟨mode, hfind⟩ := h
  rw [CrashReport.placeOf?, hfind]
  rfl

/-- A file that a path leads to can be read. -/
theorem Holds.read (h : Holds world path place content) : world.read path = .ok content := by
  obtain ⟨mode, hfind⟩ := h
  rw [World.read, Tree.read, hfind]

/-- A report is saved by making the log directory, if needed, and writing the report's file. -/
theorem write_crash (world : World) (panic : Panic) :
    write world panic.crash =
      match world.files.makeDirectories world.here world.logDirectory with
      | .error _ => none
      | .ok made =>
        match made.write world.here (panic.path world) panic.report with
        | .ok files => some (panic.path world, { world with files })
        | .error _ => none := by
  unfold write World.makeLogDirectory
  cases world.files.makeDirectories world.here world.logDirectory with
  | error cause => rfl
  | ok made => rfl

/-- Does a world become another one when bytes are written to a path? Directories may be added
first. -/
def Puts (world : World) (path : Path) (bytes : List UInt8) (next : World) : Prop :=
  ∃ made files, world.files.Grows made ∧ made.write world.here path bytes = .ok files ∧
    next = { world with files }

/-- What a report that is not saved may leave: directories, or also the beginning of the
report in its file, which was emptied before. -/
inductive Leaves (world : World) (panic : Panic) : World → Prop where
  /-- The file was not opened. -/
  | directories {files : Tree} (hgrows : world.files.Grows files) :
    Leaves world panic { world with files }
  /-- The file was opened, and some bytes or none were written. -/
  | beginning {count : Nat} {next : World}
    (hputs : Puts world (panic.path world) (panic.report.take count) next) :
    Leaves world panic next

/-- A report that is saved is put in its file as a whole. -/
theorem puts_of_saved (h : write world panic.crash = some (path, next)) :
    path = panic.path world ∧ Puts world path panic.report next := by
  rw [write_crash] at h
  split at h
  · cases h
  · next made hmade =>
    split at h
    · next files hfiles =>
      cases h
      exact ⟨rfl, made, files, Tree.makeDirectories_grows hmade, hfiles, rfl⟩
    · cases h

/-- Bytes that are put at a path do not move where reports go. -/
theorem Puts.path_eq (h : Puts world path content next) (panic : Panic) :
    panic.path next = panic.path world := by
  obtain ⟨made, files, -, -, rfl⟩ := h
  rfl

/-- Nor does what a report leaves that is not saved. -/
theorem Leaves.path_eq {unsaved : Panic} (h : Leaves world unsaved next) (panic : Panic) :
    panic.path next = panic.path world := by
  cases h with
  | directories hgrows => rfl
  | beginning hputs => exact hputs.path_eq panic

/-- Bytes that are put at a path are held there. -/
theorem Puts.exists_holds (h : Puts world path content next) :
    ∃ place, Holds next path place content := by
  obtain ⟨made, files, -, hfiles, rfl⟩ := h
  obtain ⟨written, mode, -, hfind⟩ := Tree.exists_writes_of_write hfiles
  exact ⟨written, mode, hfind⟩

/-- A file stays as it is when directories are added. -/
theorem Holds.grow (h : Holds world path place content) {files : Tree}
    (hgrows : world.files.Grows files) : Holds { world with files } path place content := by
  obtain ⟨mode, hfind⟩ := h
  exact ⟨mode, Tree.find_of_grows hgrows hfind⟩

/-- A file stays as it is when bytes are put at a path, unless this leads to its place. -/
theorem Holds.put (h : Holds world path place content) {bytes : List UInt8}
    (hputs : Puts world other bytes next) :
    ∃ written, Holds next other written bytes ∧
      Holds next path place (if place = written then bytes else content) := by
  obtain ⟨made, files, hgrows, hfiles, rfl⟩ := hputs
  obtain ⟨written, mode, hwrites, hfind⟩ := Tree.exists_writes_of_write hfiles
  obtain ⟨keptMode, hkept⟩ := h.grow hgrows
  exact ⟨written, ⟨mode, hfind⟩, Tree.find_of_writes hwrites hkept⟩

/-- Is the log directory there, with nothing but files in it? -/
structure Ready (world : World) : Prop where
  /-- The log directory is there. -/
  there : world.files.Descends world.logDirectory
  /-- What is in it are files. -/
  files : ∀ name, world.files.at? (named world.logDirectory.bytes ++ [name]) = none ∨
    ∃ content mode,
      world.files.at? (named world.logDirectory.bytes ++ [name]) = some (.file content mode)

/-- Is the path of a report one that the system takes? -/
def Panic.Fits (panic : Panic) (world : World) : Prop :=
  panic.file.length ≤ nameLimit ∧ (panic.path world).bytes.length < pathLimit

instance (panic : Panic) (world : World) : Decidable (panic.Fits world) :=
  inferInstanceAs (Decidable (_ ∧ _))

/-- The log directory has a name. -/
theorem logDirectory_bytes_ne_nil (world : World) : world.logDirectory.bytes ≠ [] := by
  have hname : Text.bytes "logs" ≠ [] := by decide
  have hsubset := subset_join world.dataDirectory (ofText "logs")
  exact fun hnone => hname (List.subset_nil.mp (hnone ▸ hsubset))

/-- Two reports have the same place exactly if their files are dated with the same second, where
the path of neither ends in a link. -/
theorem placeOf?_path_eq_iff {second : Panic}
    (hholds : Holds world (panic.path world) place content)
    (hlink : ¬ world.files.EndsInLink world.here (panic.path world))
    (hother : ¬ world.files.EndsInLink world.here (second.path world)) :
    placeOf? world (second.path world) = some place ↔ second.filed = panic.filed := by
  constructor
  · intro hplace
    obtain ⟨mode, hfind⟩ := hholds
    obtain ⟨node, hfound⟩ := exists_find_of_placeOf? hplace
    have hdirectory : world.logDirectory.bytes ≠ [] := logDirectory_bytes_ne_nil world
    obtain ⟨hne, hdot, hdotDot⟩ := panic.file_ne
    obtain ⟨hsecondNe, hsecondDot, hsecondDotDot⟩ := second.file_ne
    have hname := Tree.getLast?_of_find hdirectory hne panic.slash_not_mem_file hdot hdotDot
      hfind hlink
    have hsecondName := Tree.getLast?_of_find hdirectory hsecondNe second.slash_not_mem_file
      hsecondDot hsecondDotDot hfound hother
    rw [hname, Option.some.injEq] at hsecondName
    exact Panic.file_eq_iff.mp hsecondName.symm
  · intro hsecond
    rw [Panic.path_eq_iff.mpr hsecond]
    exact hholds.placeOf?

/-- Where the log directory is there, a report is saved, and the directory stays there. -/
theorem Ready.exists_save (h : Ready world) (hfits : panic.Fits world) :
    ∃ files, write world panic.crash = some (panic.path world, { world with files }) ∧
      Ready { world with files } := by
  obtain ⟨hname, hshort⟩ := hfits
  have hdirectory : world.logDirectory.bytes.length < pathLimit := by
    have hprefix := prefix_join (isAbsolute_name panic.slash_not_mem_file) world.logDirectory
    exact Nat.lt_of_le_of_lt hprefix.length_le hshort
  obtain ⟨files, hfiles, hwrites⟩ := h.there.exists_write world.here panic.report
    (Panic.isEntryName_file hname) hshort (h.files panic.file)
  have hwritten : world.files.write world.here (panic.path world) panic.report = .ok files := hfiles
  refine ⟨files, ?_, h.there.of_keeps hwrites.keeps, ?_⟩
  · rw [write_crash, h.there.makeDirectories hdirectory]
    dsimp only
    rw [hwritten]
  · intro name
    by_cases hname : name = panic.file
    · obtain ⟨mode, hfile⟩ := hwrites.written
      rw [hname]
      exact .inr ⟨panic.report, mode, hfile⟩
    · have hother : named world.logDirectory.bytes ++ [name] ≠
          named world.logDirectory.bytes ++ [panic.file] := by simpa using hname
      have hkept := hwrites.others _ hother
      have hbefore := h.files name
      rw [← hkept] at hbefore
      exact hbefore

/-- Where the log directory is there, no report's path ends in a link. -/
theorem Ready.not_endsInLink (h : Ready world) (hfits : panic.Fits world) :
    ¬ world.files.EndsInLink world.here (panic.path world) := by
  obtain ⟨hname, hshort⟩ := hfits
  have hfree := h.files panic.file
  have hnolink : ∀ target, world.files.at? (named world.logDirectory.bytes ++ [panic.file]) ≠
      some (.link target) := by
    intro target hlink
    rw [hlink] at hfree
    simp at hfree
  rintro ⟨place, target, hlookup⟩
  rw [Panic.path, h.there.lookup_join (Panic.isEntryName_file hname) hshort hnolink] at hlookup
  split at hlookup
  · next node hnode =>
    cases hlookup
    exact hnolink target hnode
  · cases hlookup

end Saving

section Histories

variable {first last world : World} {entries before after : List (Panic × Option Path)}
  {path : Path} {place : Place} {panic : Panic}

/-- What panics, one after the other, make of a world, each with the path at which its report
was saved, if it was. They may be panics of any threads and of several processes, if these are
started alike. A report may fail to be saved at any point and for any reason. -/
inductive History : World → List (Panic × Option Path) → World → Prop where
  /-- Nothing happens. -/
  | nil (world : World) : History world [] world
  /-- A report is saved. -/
  | saved {world next last : World} {panic : Panic} {path : Path}
    {later : List (Panic × Option Path)} (hsaved : write world panic.crash = some (path, next))
    (rest : History next later last) : History world ((panic, some path) :: later) last
  /-- A report is not saved. -/
  | unsaved {world next last : World} {panic : Panic} {later : List (Panic × Option Path)}
    (hleaves : Leaves world panic next) (rest : History next later last) :
    History world ((panic, none) :: later) last

/-- Whatever panics there are, they have a history. -/
theorem exists_history (world : World) (panics : List Panic) :
    ∃ entries last, entries.map (·.1) = panics ∧ History world entries last := by
  induction panics generalizing world with
  | nil => exact ⟨[], world, rfl, .nil world⟩
  | cons panic panics ih =>
    cases hwrite : write world panic.crash with
    | none =>
      obtain ⟨entries, last, rfl, hrest⟩ := ih world
      exact ⟨(panic, none) :: entries, last, rfl, .unsaved (.directories (.refl _)) hrest⟩
    | some saved =>
      obtain ⟨path, next⟩ := saved
      obtain ⟨entries, last, rfl, hrest⟩ := ih next
      exact ⟨(panic, some path) :: entries, last, rfl, .saved hwrite hrest⟩

/-- Where the log directory is there, all reports are saved, and it stays there. -/
theorem Ready.exists_history {panics : List Panic} (h : Ready world)
    (hfits : ∀ panic ∈ panics, panic.Fits world) :
    ∃ files, History world (panics.map fun panic => (panic, some (panic.path world)))
      { world with files } ∧ Ready { world with files } := by
  induction panics generalizing world with
  | nil => exact ⟨world.files, .nil world, h⟩
  | cons panic panics ih =>
    obtain ⟨files, hsaved, hready⟩ := h.exists_save (hfits panic List.mem_cons_self)
    obtain ⟨later, hrest, hlater⟩ := ih hready fun other hother =>
      hfits other (List.mem_cons_of_mem panic hother)
    exact ⟨later, .saved hsaved hrest, hlater⟩

/-- A history has a world in the middle, where one part of it ends and the other begins. -/
theorem History.divide (h : History first (before ++ after) last) :
    ∃ middle, History first before middle ∧ History middle after last := by
  induction before generalizing first with
  | nil => exact ⟨first, .nil first, h⟩
  | cons entry before ih =>
    cases h with
    | saved hsaved rest =>
      obtain ⟨middle, hbefore, hafter⟩ := ih rest
      exact ⟨middle, .saved hsaved hbefore, hafter⟩
    | unsaved hleaves rest =>
      obtain ⟨middle, hbefore, hafter⟩ := ih rest
      exact ⟨middle, .unsaved hleaves hbefore, hafter⟩

/-- A report goes to the same path before and after. -/
theorem History.path_eq (h : History world entries last) (panic : Panic) :
    panic.path last = panic.path world := by
  induction h with
  | nil => rfl
  | saved hsaved rest ih => exact ih.trans ((puts_of_saved hsaved).2.path_eq panic)
  | unsaved hleaves rest ih => exact ih.trans (hleaves.path_eq panic)

/-- All reports that are saved go to the log directory that the first one went to. -/
theorem History.saved_path_eq (h : History world entries last)
    (hmem : (panic, some path) ∈ entries) : path = panic.path world := by
  induction h with
  | nil => cases hmem
  | saved hsaved rest ih =>
    obtain ⟨hpath, hputs⟩ := puts_of_saved hsaved
    rcases List.mem_cons.mp hmem with hhead | hlater
    · cases hhead
      exact hpath
    · exact (ih hlater).trans (hputs.path_eq panic)
  | unsaved hleaves rest ih =>
    rcases List.mem_cons.mp hmem with hhead | hlater
    · cases hhead
    · exact (ih hlater).trans (hleaves.path_eq panic)

/-- The last one of some panics that is of a kind, with the path of its report, or the first
one if there is none. -/
def lastOf (kind : Panic → Bool) (first : Panic × Option Path)
    (later : List (Panic × Option Path)) : Panic × Option Path :=
  (later.filter fun entry => kind entry.1).getLastD first

/-- A panic of the kind is the last one so far. -/
theorem lastOf_cons (kind : Panic → Bool) (first entry : Panic × Option Path)
    (later : List (Panic × Option Path)) :
    lastOf kind first (entry :: later) =
      lastOf kind (if kind entry.1 = true then entry else first) later := by
  unfold lastOf
  rw [List.filter_cons]
  split
  · rw [List.getLastD_cons]
  · rfl

/-- Kinds that agree on the panics have the same last one. -/
theorem lastOf_congr {kind other : Panic → Bool} {first : Panic × Option Path}
    {later : List (Panic × Option Path)} (h : ∀ entry ∈ later, kind entry.1 = other entry.1) :
    lastOf kind first later = lastOf other first later := by
  rw [lastOf, List.filter_congr h, lastOf]

/-- Without later panics of a kind the first one stays. -/
theorem lastOf_of_none {kind : Panic → Bool} {first : Panic × Option Path}
    {later : List (Panic × Option Path)} (h : ∀ entry ∈ later, kind entry.1 = false) :
    lastOf kind first later = first := by
  have hnone : (later.filter fun entry => kind entry.1) = [] := by
    rw [List.filter_eq_nil_iff]
    intro entry hmem
    rw [h entry hmem]
    exact Bool.false_ne_true
  rw [lastOf, hnone]
  rfl

/-- Are these the contents that a panic leaves to its file? A report that was saved is there as
a whole; nothing is said of another one. -/
def Shows (entry : Panic × Option Path) (content : List UInt8) : Prop :=
  entry.2.isSome = true → content = entry.1.report

/-- What shows a panic whose report was saved is its report. -/
theorem Shows.eq_report {entry : Panic × Option Path} (h : Shows entry content)
    (hentry : entry = (panic, some path)) : content = panic.report := by
  subst hentry
  exact h rfl

/-- A report that is saved is shown. -/
theorem shows_saved (panic : Panic) (path : Path) : Shows (panic, some path) panic.report :=
  fun _ => rfl

/-- Whatever there is shows a panic whose report was not saved. -/
theorem shows_unsaved (panic : Panic) (content : List UInt8) : Shows (panic, none) content :=
  fun hsome => absurd hsome Bool.false_ne_true

/-- Where there is a file there is one in the end, whatever is in it. -/
theorem History.exists_holds (h : History world entries last)
    (hholds : Holds world path place content) : ∃ left, Holds last path place left := by
  induction h generalizing content with
  | nil => exact ⟨content, hholds⟩
  | saved hsaved rest ih =>
    obtain ⟨written, -, hpath⟩ := hholds.put (puts_of_saved hsaved).2
    exact ih hpath
  | unsaved hleaves rest ih =>
    cases hleaves with
    | directories hgrows => exact ih (hholds.grow hgrows)
    | beginning hputs =>
      obtain ⟨written, -, hpath⟩ := hholds.put hputs
      exact ih hpath

/-- What a file shows when a panic puts bytes in its own: they are the same file exactly if the
panic's path leads to the place in the end. -/
theorem Puts.exists_shows {newer : Panic} {saved? : Option Path} {bytes : List UInt8}
    (hputs : Puts world (newer.path world) bytes next) (rest : History next after last)
    (hnewer : Shows (newer, saved?) bytes) (hholds : Holds world path place content)
    {entry : Panic × Option Path} (hshows : Shows entry content) :
    ∃ shown, Holds next path place shown ∧
      Shows (if (placeOf? last (newer.path last) == some place) = true then (newer, saved?)
        else entry) shown := by
  obtain ⟨written, hother, hpath⟩ := hholds.put hputs
  -- the newer file is there in the end as well, so its path leads to its place then
  obtain ⟨left, hleft⟩ := rest.exists_holds hother
  have hsame : (placeOf? last (newer.path last) == some place) = true ↔ place = written := by
    rw [rest.path_eq newer, hputs.path_eq newer, hleft.placeOf?, beq_iff_eq, Option.some.injEq,
      eq_comm]
  refine ⟨_, hpath, ?_⟩
  by_cases hplace : place = written
  · rw [if_pos hplace, if_pos (hsame.mpr hplace)]
    exact hnewer
  · rw [if_neg hplace, if_neg fun h => hplace (hsame.mp h)]
    exact hshows

/-- At a place there is always a file again, and it shows what the last panic left whose path
leads there. -/
theorem History.holds (h : History world entries last) {entry : Panic × Option Path}
    (hholds : Holds world path place content) (hshows : Shows entry content) :
    ∃ left, Holds last path place left ∧
      Shows (lastOf (fun other => placeOf? last (other.path last) == some place) entry entries)
        left := by
  induction h generalizing content entry with
  | nil => exact ⟨content, hholds, hshows⟩
  | saved hsaved rest ih =>
    obtain ⟨rfl, hputs⟩ := puts_of_saved hsaved
    obtain ⟨shown, hshown, hentry⟩ := hputs.exists_shows rest (shows_saved _ _) hholds hshows
    rw [lastOf_cons]
    exact ih hshown hentry
  | unsaved hleaves rest ih =>
    rw [lastOf_cons]
    cases hleaves with
    | directories hgrows =>
      apply ih (hholds.grow hgrows)
      split
      · exact shows_unsaved _ content
      · exact hshows
    | beginning hputs =>
      obtain ⟨shown, hshown, hentry⟩ := hputs.exists_shows rest (shows_unsaved _ _) hholds hshows
      exact ih hshown hentry

/-- The file of a saved report is there in the end, and shows what the last panic left whose path
leads to the same place. -/
theorem History.exists_shows (h : History world ((panic, some path) :: after) last) :
    ∃ place left, Holds last path place left ∧
      Shows (lastOf (fun other => placeOf? last (other.path last) == some place)
        (panic, some path) after) left := by
  cases h with
  | saved hsaved rest =>
    obtain ⟨rfl, hputs⟩ := puts_of_saved hsaved
    obtain ⟨place, hholds⟩ := hputs.exists_holds
    obtain ⟨left, hleft, hshows⟩ := rest.holds hholds (shows_saved panic _)
    exact ⟨place, left, hleft, hshows⟩

/-- If no path ends in a link, the last panic of a place is the last one of its second. -/
theorem lastOf_place_eq {content : List UInt8} (hpath : path = panic.path last)
    (hholds : Holds last path place content) (first : Panic × Option Path)
    (hlink : ¬ last.files.EndsInLink last.here path)
    (hlinks : ∀ entry ∈ after, ¬ last.files.EndsInLink last.here (entry.1.path last)) :
    lastOf (fun later => placeOf? last (later.path last) == some place) first after =
      lastOf (fun later => later.filed == panic.filed) first after := by
  subst hpath
  apply lastOf_congr
  intro entry hmem
  rw [Bool.eq_iff_iff, beq_iff_eq, beq_iff_eq]
  exact placeOf?_path_eq_iff hholds hlink (hlinks entry hmem)

/-- Which report a path holds in the end, for every history of panics and every report that was
saved in it. Its file can be read. If the last panic whose path leads to the same place had its
report saved, it holds that report; and the paths of panics are the same exactly if their files
are dated with the same second. If no report's path ends in a link, no path but the same has the
same place: the file holds the last report of its second if that was saved, and the report
itself is kept where no later panic has its second. -/
theorem report_kept_until_same_second {first last : World}
    {before after : List (Panic × Option Path)} {panic : Panic} {path : Path}
    (h : History first (before ++ (panic, some path) :: after) last) :
    (∃ content, last.read path = .ok content) ∧
    (∀ kept other,
      lastOf (fun later => placeOf? last (later.path first) == placeOf? last path)
        (panic, some path) after = (kept, some other) → last.read path = .ok kept.report) ∧
    (∀ later other, (later, some other) ∈ (panic, some path) :: after →
      other = later.path first) ∧
    (∀ later : Panic, later.path first = path ↔ later.filed = panic.filed) ∧
    ((∀ later other, (later, other) ∈ (panic, some path) :: after →
        ¬ last.files.EndsInLink last.here (later.path first)) →
      (∀ kept other,
        lastOf (fun later => later.filed == panic.filed) (panic, some path) after =
          (kept, some other) → last.read path = .ok kept.report) ∧
      ((∀ later other, (later, other) ∈ after → later.filed ≠ panic.filed) →
        last.read path = .ok panic.report)) := by
  have hpaths (later : Panic) : later.path first = later.path last := (h.path_eq later).symm
  have hsaved : ∀ later other, (later, some other) ∈ (panic, some path) :: after →
      other = later.path first :=
    fun later other hmem => h.saved_path_eq (List.mem_append_right before hmem)
  have hpath : path = panic.path first := hsaved panic path List.mem_cons_self
  have hseconds : ∀ later : Panic, later.path first = path ↔ later.filed = panic.filed := by
    intro later
    rw [hpath]
    exact Panic.path_eq_iff
  obtain ⟨middle, -, hrest⟩ := h.divide
  obtain ⟨place, left, hleft, hshows⟩ := hrest.exists_shows
  have hread : last.read path = .ok left := hleft.read
  refine ⟨⟨left, hread⟩, fun kept other hkept => ?_, hsaved, hseconds, fun hlinks => ?_⟩
  · simp only [hpaths, hleft.placeOf?] at hkept
    rw [hread, hshows.eq_report hkept]
  · have hlink := hlinks panic _ List.mem_cons_self
    rw [← hpath] at hlink
    have hlinksAfter : ∀ entry ∈ after,
        ¬ last.files.EndsInLink last.here (entry.1.path last) := by
      intro entry hmem
      rw [← hpaths]
      exact hlinks entry.1 entry.2 (List.mem_cons_of_mem _ hmem)
    have hsame := lastOf_place_eq (hpath.trans (hpaths panic)) hleft (panic, some path) hlink
      hlinksAfter
    rw [hsame] at hshows
    refine ⟨fun kept other hkept => ?_, fun hothers => ?_⟩
    · rw [hread, hshows.eq_report hkept]
    · have hnone : ∀ entry ∈ after, (entry.1.filed == panic.filed) = false := by
        intro entry hmem
        rw [beq_eq_false_iff_ne]
        exact hothers entry.1 entry.2 hmem
      rw [hread, hshows.eq_report (lastOf_of_none hnone)]

/-- A world whose log directory is there and empty. -/
def emptyLogs : World where
  environment := [("HOME", Text.bytes "/"), ("XDG_DATA_HOME", Text.bytes "/")]
  cwd := Path.ofText "/"
  files := ⟨[([Text.bytes "syncrop", Text.bytes "logs"], .directory),
    ([Text.bytes "syncrop"], .directory)]⟩
  accountHome := none

/-- Reports can be saved there. -/
theorem ready_emptyLogs : Ready emptyLogs := by
  have hnames : named emptyLogs.logDirectory.bytes = [Text.bytes "syncrop", Text.bytes "logs"] := by
    decide
  have hdirectories : ∀ place ∈ (named emptyLogs.logDirectory.bytes).inits,
      emptyLogs.files.at? place = some .directory := by decide
  constructor
  · exact ⟨by decide, by decide, by decide, by decide, by decide,
      fun place hplace => hdirectories place ((List.mem_inits ..).mpr hplace)⟩
  · intro name
    rw [hnames]
    exact .inl rfl

/-- Two panics have a history there in which both reports are saved, with no link for either. -/
theorem exists_history_emptyLogs {cause effect : Panic} {path later : Path}
    (hpath : cause.path emptyLogs = path) (hlater : effect.path emptyLogs = later)
    (hcause : cause.Fits emptyLogs) (heffect : effect.Fits emptyLogs) :
    ∃ last, History emptyLogs [(cause, some path), (effect, some later)] last ∧
      ∀ panic other, (panic, other) ∈ [(cause, some path), (effect, some later)] →
        ¬ last.files.EndsInLink last.here (panic.path emptyLogs) := by
  have hfits : ∀ panic ∈ [cause, effect], panic.Fits emptyLogs :=
    List.forall_mem_cons.mpr ⟨hcause, List.forall_mem_singleton.mpr heffect⟩
  obtain ⟨files, hhistory, hready⟩ := ready_emptyLogs.exists_history hfits
  rw [← hpath, ← hlater]
  refine ⟨_, hhistory, fun panic other hmem => ?_⟩
  have hpanic : panic ∈ [cause, effect] := List.mem_map_of_mem (f := Prod.fst) hmem
  exact hready.not_endsInLink (hfits panic hpanic)

/-- The report of a panic is kept when another one follows in the next second. -/
theorem report_kept_through_next_second :
    let cause : Panic := ⟨"boom", "src/tray/mod.rs:1:1", "", 1704164645, 1704164645⟩
    let effect : Panic := ⟨"no tray", "src/tray/mod.rs:1:1", "", 1704164646, 1704164646⟩
    let path := Path.ofText "/syncrop/logs/crash_20240102_030405.txt"
    let later := Path.ofText "/syncrop/logs/crash_20240102_030406.txt"
    ∃ last, History emptyLogs [(cause, some path), (effect, some later)] last ∧
      last.read path = .ok cause.report := by
  intro cause effect path later
  have hpath : cause.path emptyLogs = path := by decide
  have hlater : effect.path emptyLogs = later := by decide
  obtain ⟨last, hhistory, hlinks⟩ :=
    exists_history_emptyLogs hpath hlater (by decide) (by decide)
  have hwhole : History emptyLogs ([] ++ (cause, some path) :: [(effect, some later)]) last :=
    hhistory
  obtain ⟨-, -, -, -, hkept⟩ := report_kept_until_same_second hwhole
  obtain ⟨-, hunlessSame⟩ := hkept hlinks
  refine ⟨last, hhistory, hunlessSame fun panic other hmem => ?_⟩
  cases List.mem_singleton.mp hmem
  decide

/-- The report of a panic is lost when another one follows in the same second. -/
theorem report_lost_in_same_second :
    let cause : Panic := ⟨"boom", "src/tray/mod.rs:1:1", "", 1704164645, 1704164645⟩
    let effect : Panic := ⟨"no tray", "src/tray/mod.rs:1:1", "", 1704164645, 1704164645⟩
    let path := Path.ofText "/syncrop/logs/crash_20240102_030405.txt"
    ∃ last, History emptyLogs [(cause, some path), (effect, some path)] last ∧
      last.read path = .ok effect.report ∧ effect.report ≠ cause.report := by
  intro cause effect path
  have hpath : cause.path emptyLogs = path := by decide
  have hsame : effect.path emptyLogs = path := by decide
  obtain ⟨last, hhistory, -⟩ := exists_history_emptyLogs hpath hsame (by decide) (by decide)
  refine ⟨last, hhistory, ?_, ?_⟩
  · obtain ⟨place, left, hleft, hshows⟩ := hhistory.exists_shows
    have hplace : placeOf? last (effect.path last) = some place := by
      rw [hhistory.path_eq, hsame, hleft.placeOf?]
    rw [lastOf_cons, hplace, beq_self_eq_true, if_pos rfl] at hshows
    rw [hleft.read, hshows rfl]
    rfl
  · intro hreports
    have hmessages := Panic.message_eq_of_report_eq hreports rfl rfl rfl
    revert hmessages
    decide

end Histories

end TrayIndicator.CrashReport
