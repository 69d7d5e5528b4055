import TrayIndicator.World

/-!
# Where paths lead

A path whose last piece is empty or a dot leads to directories only. A path from the
working directory leads where the path that continues the working directory leads,
if the working directory is there and the whole is not too long.
-/

namespace TrayIndicator

namespace Path

/-- The pieces between marks are those of a split list. -/
theorem splitAtMark_eq (mark : UInt8) (bytes : List UInt8) :
    splitAtMark mark bytes = bytes.splitOn mark := by
  induction bytes with
  | nil => rfl
  | cons byte bytes ih =>
    rw [splitAtMark, ih, List.splitOn_cons_eq_if_modifyHead]
    by_cases hmark : byte = mark
    · simp [hmark]
    · rw [if_neg hmark, if_neg (by simpa using hmark)]
      cases hrest : bytes.splitOn mark with
      | nil => exact absurd hrest (List.splitOn_ne_nil mark bytes)
      | cons first others => rfl

/-- A slash divides the pieces before it from those after it. -/
theorem pieces_append (before after : List UInt8) :
    pieces (before ++ slash :: after) = pieces before ++ pieces after := by
  simp only [pieces, splitAtMark_eq, List.splitOn_append_cons_self]

/-- Without a slash there is one piece. -/
theorem pieces_of_not_mem {bytes : List UInt8} (h : slash ∉ bytes) : pieces bytes = [bytes] := by
  rw [pieces, splitAtMark_eq, List.splitOn_eq_singleton h]

/-- The pieces that name something. -/
def named (bytes : List UInt8) : List (List UInt8) :=
  (pieces bytes).filter fun piece => !piece.isEmpty

/-- What is named before a slash comes first. -/
theorem named_append (before after : List UInt8) :
    named (before ++ slash :: after) = named before ++ named after := by
  rw [named, pieces_append, List.filter_append, named, named]

/-- A final slash names nothing. -/
theorem named_slash (before : List UInt8) : named (before ++ [slash]) = named before := by
  rw [named_append]
  exact List.append_nil _

/-- A relative path that is not empty names something. -/
theorem named_ne_nil {path : Path} (hrelative : path.isAbsolute = false)
    (hbytes : path.bytes ≠ []) : named path.bytes ≠ [] := by
  obtain ⟨bytes⟩ := path
  cases bytes with
  | nil => exact absurd rfl hbytes
  | cons byte bytes =>
    have hbyte : byte ≠ slash := by simpa [isAbsolute] using hrelative
    rw [named, pieces, splitAtMark, if_neg hbyte]
    cases splitAtMark slash bytes <;> simp

/-- Every path has a last piece, with nothing or a slash before it. -/
theorem exists_last_piece (bytes : List UInt8) :
    ∃ last, slash ∉ last ∧ (pieces bytes).getLast? = some last ∧
      (bytes = last ∨ ∃ front, bytes = front ++ slash :: last) := by
  have hsplit : ∃ last, slash ∉ last ∧
      (bytes = last ∨ ∃ front, bytes = front ++ slash :: last) := by
    induction bytes with
    | nil => exact ⟨[], List.not_mem_nil, .inl rfl⟩
    | cons byte bytes ih =>
      obtain ⟨last, hlast, rfl | ⟨front, rfl⟩⟩ := ih
      · by_cases hbyte : byte = slash
        · exact ⟨bytes, hlast, .inr ⟨[], by rw [hbyte]; rfl⟩⟩
        · refine ⟨byte :: bytes, ?_, .inl rfl⟩
          rw [List.mem_cons, not_or]
          exact ⟨Ne.symm hbyte, hlast⟩
      · exact ⟨last, hlast, .inr ⟨byte :: front, rfl⟩⟩
  obtain ⟨last, hlast, hbytes⟩ := hsplit
  refine ⟨last, hlast, ?_, hbytes⟩
  rcases hbytes with rfl | ⟨front, rfl⟩
  · rw [pieces_of_not_mem hlast]
    rfl
  · rw [pieces_append, pieces_of_not_mem hlast, List.getLast?_concat]

/-- What continues a path with a relative one comes after a slash, and what is named
before that is what the path names. -/
theorem exists_join_bytes {base rest : Path} (hrest : rest.isAbsolute = false)
    (hbase : base.bytes ≠ []) :
    ∃ front, (base.join rest).bytes = front ++ slash :: rest.bytes ∧ front ⊆ base.bytes ∧
      named front = named base.bytes := by
  have hempty : base.bytes.isEmpty = false := List.isEmpty_eq_false_iff.mpr hbase
  by_cases hslash : base.bytes.getLast? = some slash
  · obtain ⟨front, hfront⟩ := List.getLast?_eq_some_iff.mp hslash
    refine ⟨front, ?_, ?_, ?_⟩
    · simp [join, hrest, hfront]
    · rw [hfront]
      exact List.subset_append_left front [slash]
    · rw [hfront, named_slash]
  · refine ⟨base.bytes, ?_, List.Subset.refl _, rfl⟩
    simp [join, hrest, hempty, hslash]

/-- What a relative path names comes after what the path that it continues names. -/
theorem named_join {base rest : Path} (hrest : rest.isAbsolute = false)
    (hbase : base.bytes ≠ []) :
    named (base.join rest).bytes = named base.bytes ++ named rest.bytes := by
  obtain ⟨front, hjoin, -, hfront⟩ := exists_join_bytes hrest hbase
  rw [hjoin, named_append, hfront]

/-- A path that is continued with a relative one stays as it is written. -/
theorem prefix_join {rest : Path} (hrest : rest.isAbsolute = false) (base : Path) :
    base.bytes <+: (base.join rest).bytes := by
  unfold join
  split
  · next hreplaced =>
    rw [hrest, Bool.false_or, List.isEmpty_iff] at hreplaced
    rw [hreplaced]
    exact List.nil_prefix
  · split
    · exact List.prefix_append _ _
    · exact List.prefix_append _ _

/-- An absolute path is not empty. -/
theorem bytes_ne_nil {path : Path} (h : path.isAbsolute = true) : path.bytes ≠ [] := by
  intro hnone
  rw [isAbsolute, hnone] at h
  cases h

/-- What continues an absolute path is absolute. -/
theorem isAbsolute_join {base : Path} (h : base.isAbsolute = true) (rest : Path) :
    (base.join rest).isAbsolute = true := by
  cases hrest : rest.isAbsolute with
  | true => rw [join_absolute hrest, hrest]
  | false =>
    have hbase := bytes_ne_nil h
    rw [isAbsolute, beq_iff_eq] at h
    unfold join
    split
    · next hother =>
      rw [hrest, List.isEmpty_eq_false_iff.mpr hbase] at hother
      cases hother
    · split
      · rw [isAbsolute, List.head?_append, h, Option.some_or, beq_self_eq_true]
      · rw [isAbsolute, List.head?_append, h, Option.some_or, beq_self_eq_true]

/-- The bytes of a continuation stay. -/
theorem subset_join (base rest : Path) : rest.bytes ⊆ (base.join rest).bytes := by
  unfold join
  split
  · exact List.Subset.refl _
  · split
    · exact List.subset_append_right _ _
    · exact fun byte hbyte => List.mem_append_right _ (List.mem_cons_of_mem _ hbyte)

/-- What continues a path that is not empty is not empty. -/
theorem join_bytes_ne_nil {base : Path} (h : base.bytes ≠ []) (rest : Path) :
    (base.join rest).bytes ≠ [] := by
  cases hrest : rest.isAbsolute with
  | true =>
    rw [join_absolute hrest]
    exact bytes_ne_nil hrest
  | false =>
    intro hnone
    have hprefix := prefix_join hrest base
    rw [hnone, List.prefix_nil] at hprefix
    exact h hprefix

/-- A zero in what continues a path without one is a zero in the continuation. -/
theorem zero_mem_join_iff {base rest : Path} (hrest : rest.isAbsolute = false)
    (hbase : base.bytes ≠ []) (hzero : 0 ∉ base.bytes) :
    0 ∈ (base.join rest).bytes ↔ 0 ∈ rest.bytes := by
  obtain ⟨front, hjoin, hfront, -⟩ := exists_join_bytes hrest hbase
  have hnone : 0 ∉ front := fun hmem => hzero (hfront hmem)
  rw [hjoin]
  simp [hnone, slash]

/-- A path that is continued with relative ones tells them apart. -/
theorem join_injective {base first second : Path} (hfirst : first.isAbsolute = false)
    (hsecond : second.isAbsolute = false) (h : base.join first = base.join second) :
    first = second := by
  obtain ⟨first⟩ := first
  obtain ⟨second⟩ := second
  simp only [join, hfirst, hsecond, Bool.false_or] at h
  split at h
  · exact h
  · split at h
    · rw [mk.injEq, List.append_cancel_left_eq] at h
      rw [h]
    · rw [mk.injEq, List.append_cancel_left_eq, List.cons.injEq] at h
      rw [h.2]

/-- Does a path ask for a directory? Its last piece is empty or a dot then. -/
def AsksForDirectory (path : Path) : Prop :=
  (pieces path.bytes).getLast? = some [] ∨ (pieces path.bytes).getLast? = some dot

/-- What continues a path asks for a directory if the continuation does. -/
theorem AsksForDirectory.join {rest : Path} (h : rest.AsksForDirectory) (base : Path) :
    (base.join rest).AsksForDirectory := by
  cases hrest : rest.isAbsolute with
  | true => rwa [join_absolute hrest]
  | false =>
    by_cases hbase : base.bytes = []
    · have hjoin : base.join rest = rest := by simp [Path.join, hrest, hbase]
      rwa [hjoin]
    · obtain ⟨front, hbytes, -, -⟩ := exists_join_bytes hrest hbase
      have hlast : (pieces (base.join rest).bytes).getLast? = (pieces rest.bytes).getLast? := by
        obtain ⟨last, -, hpiece, -⟩ := exists_last_piece rest.bytes
        rw [hbytes, pieces_append, List.getLast?_append, hpiece, Option.some_or]
      rwa [AsksForDirectory, hlast]

end Path

namespace Files

open TrayIndicator.Path

/-- The steps of a lookup: what the path names, and a dot for a final slash. -/
theorem lookupSteps_eq (path : Path) :
    lookupSteps path =
      if path.bytes.getLast? == some slash && !(named path.bytes).isEmpty then
        named path.bytes ++ [dot]
      else named path.bytes := rfl

/-- A path that asks for a directory has a dot as its last step, or no step at all
from the root. -/
theorem lookupSteps_of_asksForDirectory {path : Path} (h : path.AsksForDirectory)
    (hbytes : path.bytes ≠ []) :
    (lookupSteps path).getLast? = some dot ∨
      lookupSteps path = [] ∧ path.isAbsolute = true := by
  obtain ⟨last, hlast, hpiece, hsplit⟩ := exists_last_piece path.bytes
  rw [AsksForDirectory, hpiece, Option.some.injEq, Option.some.injEq] at h
  rw [lookupSteps_eq]
  rcases h with rfl | rfl
  · rcases hsplit with hnone | ⟨front, hfront⟩
    · exact absurd hnone hbytes
    · have hslash : path.bytes.getLast? = some slash := by
        rw [hfront, List.getLast?_concat]
      by_cases hnamed : named path.bytes = []
      · right
        cases habsolute : path.isAbsolute with
        | true => simp [hnamed]
        | false => exact absurd hnamed (named_ne_nil habsolute hbytes)
      · left
        simp [hslash, hnamed]
  · left
    rcases hsplit with hwhole | ⟨front, hfront⟩
    · rw [hwhole]
      decide
    · have hlastByte : path.bytes.getLast? = some 0x2E := by
        rw [hfront, dot, List.append_cons, List.getLast?_concat]
      have hdot : named dot = [dot] := by decide
      have hnamed : named path.bytes = named front ++ [dot] := by
        rw [hfront, named_append, hdot]
      rw [hlastByte, hnamed]
      simp [slash]

/-- Before a last step stand other steps, unless it is alone. -/
theorem getLast?_rest {step last : Name} {rest : List Name}
    (hsteps : (step :: rest).getLast? = some last) (hstep : ¬ (step == last) = true) :
    rest.getLast? = some last := by
  rw [List.getLast?_cons] at hsteps
  cases hrest : rest.getLast? with
  | none =>
    rw [hrest] at hsteps
    exact absurd (beq_iff_eq.mpr (Option.some.inj hsteps)) hstep
  | some other =>
    rw [hrest] at hsteps
    exact hsteps

/-- Steps that end in a dot lead to directories only. -/
theorem Tree.walk_of_final_dot {tree : Tree} {followLast : Bool} {links : Nat} {here : Place}
    {steps : List Name} (hsteps : steps.getLast? = some dot) {place : Place} {node : Node}
    (h : tree.walk followLast links here steps = .ok (.node place node)) : node = .directory := by
  fun_induction Tree.walk tree followLast links here steps with
  | case1 | case2 => cases hsteps
  | case3 | case6 | case7 | case9 | case12 | case13 => cases h
  | case4 links here step rest hhere _ _ ih =>
    cases rest with
    | nil =>
      rw [Tree.walk, hhere] at h
      cases h
      rfl
    | cons next rest => exact ih (by rwa [List.getLast?_cons_cons] at hsteps) h
  | case5 links here step rest _ _ hdot _ ih => exact ih (getLast?_rest hsteps hdot) h
  | case8 links here step rest _ _ hdot _ _ _ hlast =>
    -- a dot is still to come, so the link is not the last step
    have hrest := getLast?_rest hsteps hdot
    rw [Bool.and_eq_true, List.isEmpty_iff] at hlast
    rw [hlast.1] at hrest
    cases hrest
  | case10 here step rest _ _ hdot _ target _ _ links ih =>
    refine ih ?_ (by simpa using h)
    rw [List.getLast?_append, getLast?_rest hsteps hdot, Option.some_or]
  | case11 links here step rest _ _ hdot _ _ _ _ ih => exact ih (getLast?_rest hsteps hdot) h

/-- A path that asks for a directory leads to nothing else. -/
theorem Tree.find_of_asksForDirectory {tree : Tree} {cwd : Place} {path : Path}
    (hpath : path.AsksForDirectory) {place : Place} {node : Node}
    (h : tree.find cwd path = .ok (place, node)) : node = .directory := by
  have hlookup : tree.lookup true cwd path = .ok (.node place node) := by
    unfold find at h
    split at h
    · next hfound =>
      cases h
      exact hfound
    · cases h
    · cases h
  unfold lookup at hlookup
  split at hlookup
  · cases hlookup
  · split at hlookup
    · cases hlookup
    · next hbytes =>
      split at hlookup
      · cases hlookup
      · rw [List.isEmpty_iff] at hbytes
        rcases lookupSteps_of_asksForDirectory hpath hbytes with hdot | ⟨hroot, habsolute⟩
        · exact walk_of_final_dot hdot hlookup
        · rw [hroot, if_pos habsolute, walk] at hlookup
          cases hlookup
          rfl

/-- A path that asks for a directory leads to no program. -/
theorem Tree.isProgram_of_asksForDirectory {path : Path} (h : path.AsksForDirectory)
    (tree : Tree) (cwd : Place) : tree.isProgram cwd path = false := by
  unfold isProgram
  split
  · next hfound => cases find_of_asksForDirectory h hfound
  · rfl

/-- A path with a zero leads nowhere. -/
theorem Tree.isProgram_of_zero {path : Path} (h : 0 ∈ path.bytes) (tree : Tree) (cwd : Place) :
    tree.isProgram cwd path = false := by
  have hzero : path.bytes.contains 0 = true := List.contains_iff_mem.mpr h
  rw [isProgram, find, lookup, if_pos hzero]

/-- Names of directories are walked through. -/
theorem Tree.walk_directories {tree : Tree} (followLast : Bool) (links : Nat)
    {here : Place} {names : List Name} (rest : List Name)
    (hplain : ∀ name ∈ names, name.length ≤ nameLimit ∧ name ≠ dot ∧ name ≠ dotDot)
    (hdirectories : ∀ before, before <+: names → tree.at? (here ++ before) = some .directory) :
    tree.walk followLast links here (names ++ rest) =
      tree.walk followLast links (here ++ names) rest := by
  induction names generalizing here with
  | nil => rw [List.nil_append, List.append_nil]
  | cons name names ih =>
    have hhere : tree.at? here = some .directory := by
      simpa using hdirectories [] (List.nil_prefix)
    have hnext : tree.at? (here ++ [name]) = some .directory :=
      hdirectories [name] (by simp)
    obtain ⟨hlength, hdot, hdotDot⟩ := hplain name List.mem_cons_self
    have hstep : tree.walk followLast links here (name :: (names ++ rest)) =
        tree.walk followLast links (here ++ [name]) (names ++ rest) := by
      rw [walk]
      simp [hhere, hnext, Nat.not_lt.mpr hlength, hdot, hdotDot]
    rw [List.cons_append, hstep, ih, List.append_assoc, List.singleton_append]
    · exact fun other hother => hplain other (List.mem_cons_of_mem _ hother)
    · intro before hbefore
      rw [List.append_assoc, List.singleton_append]
      exact hdirectories (name :: before) (List.cons_prefix_cons.mpr ⟨rfl, hbefore⟩)

/-- The place that a lookup got to. -/
def Found.place : Found → Place
  | .node place _ => place
  | .vacant place => place

section Walks

variable {tree : Tree} {followLast : Bool} {links : Nat} {here cwd place : Place}
  {steps : List Name} {path : Path}

namespace Tree

/-- What steps lead to stands where they lead. -/
theorem at?_of_walk {node : Node}
    (h : tree.walk followLast links here steps = .ok (.node place node)) :
    tree.at? place = some node := by
  fun_induction walk tree followLast links here steps with
  | case1 _ _ node hnode =>
    cases h
    exact hnode
  | case2 | case3 | case6 | case7 | case9 | case12 | case13 => cases h
  | case4 _ _ _ _ _ _ _ ih => exact ih h
  | case5 _ _ _ _ _ _ _ _ ih => exact ih h
  | case8 _ _ _ _ _ _ _ _ target hlink =>
    cases h
    exact hlink
  | case10 _ _ _ _ _ _ _ _ _ _ _ ih => exact ih h
  | case11 _ _ _ _ _ _ _ _ _ _ _ ih => exact ih h

/-- Where steps lead to nothing, nothing stands, and it is not the root. -/
theorem at?_of_walk_vacant
    (h : tree.walk followLast links here steps = .ok (.vacant place)) :
    tree.at? place = none ∧ place ≠ [] := by
  fun_induction walk tree followLast links here steps with
  | case6 _ here step _ _ _ _ _ hnone =>
    cases h
    exact ⟨hnone, by simp⟩
  | case1 | case2 | case3 | case7 | case8 | case9 | case12 | case13 => cases h
  | case4 _ _ _ _ _ _ _ ih => exact ih h
  | case5 _ _ _ _ _ _ _ _ ih => exact ih h
  | case10 _ _ _ _ _ _ _ _ _ _ _ ih => exact ih h
  | case11 _ _ _ _ _ _ _ _ _ _ _ ih => exact ih h

/-- A step to what is no link is a step. -/
theorem walk_cons {step : Name} {rest : List Name} (hhere : tree.at? here = some .directory)
    (hlength : ¬ nameLimit < step.length) (hdot : ¬ (step == dot) = true)
    (hdotDot : ¬ (step == dotDot) = true) {node : Node}
    (hnode : tree.at? (here ++ [step]) = some node) (hlink : ∀ target, node ≠ .link target) :
    tree.walk followLast links here (step :: rest) =
      tree.walk followLast links (here ++ [step]) rest := by
  rw [walk, hhere]
  simp only [hlength, hdot, hdotDot, if_false, Bool.false_eq_true, hnode]

/-- A path that was looked up in one tree is looked up by its steps in every tree. -/
theorem lookup_eq_walk {found : Found} (h : tree.lookup followLast cwd path = .ok found)
    (other : Tree) (follow : Bool) :
    other.lookup follow cwd path =
      other.walk follow linkLimit (if path.isAbsolute then [] else cwd) (lookupSteps path) := by
  unfold lookup at h ⊢
  split at h
  · cases h
  · next hzero =>
    split at h
    · cases h
    · next hempty =>
      split at h
      · cases h
      · next hlength => rw [if_neg hzero, if_neg hempty, if_neg hlength]

/-- A file is found where its path is looked up. -/
theorem find_eq_ok_iff {node : Node} :
    tree.find cwd path = .ok (place, node) ↔
      tree.lookup true cwd path = .ok (.node place node) := by
  unfold find
  cases tree.lookup true cwd path with
  | error cause => simp
  | ok found => cases found <;> simp

/-- What is found stands where it is found. -/
theorem at?_of_find {node : Node} (h : tree.find cwd path = .ok (place, node)) :
    tree.at? place = some node := by
  rw [find_eq_ok_iff] at h
  rw [lookup_eq_walk h] at h
  exact at?_of_walk h

/-- Steps whose last is a name lead to a place of that name, unless a link stands there. -/
theorem getLast?_of_walk {name : Name} (hdot : name ≠ dot) (hdotDot : name ≠ dotDot)
    (hsteps : steps.getLast? = some name) (hfollow : followLast = true) {found : Found}
    (h : tree.walk followLast links here steps = .ok found)
    (hlink : ∀ place target, tree.walk false links here steps ≠ .ok (.node place (.link target))) :
    found.place.getLast? = some name := by
  have hnot {step other : Name} (hstep : (step == other) = true) (hname : name ≠ other) :
      ¬ (step == name) = true := by
    rw [beq_iff_eq] at hstep ⊢
    exact fun heq => hname (heq.symm.trans hstep)
  fun_induction walk tree followLast links here steps with
  | case1 | case2 => cases hsteps
  | case3 | case7 | case9 | case12 | case13 => cases h
  | case4 links here step rest hhere hlength hstep ih =>
    refine ih (getLast?_rest hsteps (hnot hstep hdot)) h ?_
    rw [walk, hhere] at hlink
    simpa only [hlength, hstep, if_true, if_false] using hlink
  | case5 links here step rest hhere hlength hnodot hstep ih =>
    refine ih (getLast?_rest hsteps (hnot hstep hdotDot)) h ?_
    rw [walk, hhere] at hlink
    simpa only [hlength, hnodot, hstep, if_true, if_false, Bool.false_eq_true] using hlink
  | case6 links here step rest _ _ _ _ _ hlast =>
    cases h
    rw [List.isEmpty_iff.mp hlast, List.getLast?_singleton] at hsteps
    rw [Found.place, List.getLast?_concat, hsteps]
  | case8 links here step rest _ _ _ _ target _ hnofollow =>
    rw [hfollow, Bool.not_true, Bool.and_false] at hnofollow
    cases hnofollow
  | case10 here step rest hhere hlength hnodot hnodotDot target htarget _ links ih =>
    -- were the link the last step, it would itself stand at the place
    have hrest : rest ≠ [] := by
      rintro rfl
      apply hlink (here ++ [step]) target
      rw [walk, hhere]
      simp only [hlength, hnodot, hnodotDot, htarget, if_false, List.isEmpty_nil, Bool.not_false,
        Bool.and_true, if_true, Bool.false_eq_true]
    have hlast : rest.getLast? = some name := by
      rwa [List.getLast?_cons_of_ne_nil hrest] at hsteps
    refine ih ?_ h ?_
    · rw [List.getLast?_append, hlast, Option.some_or]
    · rw [walk, hhere] at hlink
      simpa only [hlength, hnodot, hnodotDot, htarget, if_false, dite_eq_ite,
        List.isEmpty_eq_false_iff.mpr hrest, Bool.false_and, Bool.false_eq_true] using hlink
  | case11 links here step rest hhere hlength hnodot hnodotDot node hnolink hnode ih =>
    cases rest with
    | nil =>
      rw [walk, hnode] at h
      cases h
      rw [List.getLast?_singleton] at hsteps
      rw [Found.place, List.getLast?_concat, hsteps]
    | cons next rest =>
      rw [List.getLast?_cons_cons] at hsteps
      refine ih hsteps h ?_
      rwa [walk_cons hhere hlength hnodot hnodotDot hnode hnolink] at hlink

end Tree

end Walks

section Entries

/-- Can the bytes name an entry of a directory? -/
def isEntryName (name : Name) : Bool :=
  !name.isEmpty && !name.contains slash && !name.contains 0 && name != dot && name != dotDot &&
    name.length ≤ nameLimit

/-- What such a name is. -/
theorem isEntryName_iff {name : Name} : isEntryName name = true ↔
    name ≠ [] ∧ slash ∉ name ∧ 0 ∉ name ∧ name ≠ dot ∧ name ≠ dotDot ∧
      name.length ≤ nameLimit := by
  simp [isEntryName, and_assoc]

/-- A name without a slash is one step. -/
theorem named_name {name : Name} (hne : name ≠ []) (hslash : slash ∉ name) :
    named name = [name] := by
  rw [named, pieces_of_not_mem hslash, List.filter_cons_of_pos (by simpa using hne),
    List.filter_nil]

/-- A name without a slash is a relative path. -/
theorem isAbsolute_name {name : Name} (hslash : slash ∉ name) :
    (Path.mk name).isAbsolute = false := by
  rw [isAbsolute, beq_eq_false_iff_ne]
  exact fun hhead => hslash (List.mem_of_head? hhead)

/-- A path that is continued with a name has the name as its last step. -/
theorem lookupSteps_join_name {name : Name} (hne : name ≠ []) (hslash : slash ∉ name)
    {base : Path} (hbase : base.bytes ≠ []) :
    lookupSteps (base.join ⟨name⟩) = named base.bytes ++ [name] := by
  have hrelative := isAbsolute_name hslash
  obtain ⟨front, hjoin, -, -⟩ := exists_join_bytes hrelative hbase
  have hlast : (base.join ⟨name⟩).bytes.getLast? ≠ some slash := by
    rw [hjoin, List.getLast?_append, List.getLast?_cons]
    cases hend : name.getLast? with
    | none => exact absurd (List.getLast?_eq_none_iff.mp hend) hne
    | some last =>
      intro heq
      rw [Option.getD_some, Option.some_or, Option.some.injEq] at heq
      exact hslash (heq ▸ List.mem_of_getLast? hend)
  rw [lookupSteps_eq, named_join hrelative hbase, named_name hne hslash, if_neg (by simp [hlast])]

/-- Does a path end in a link? -/
def Tree.EndsInLink (tree : Tree) (cwd : Place) (path : Path) : Prop :=
  ∃ place target, tree.lookup false cwd path = .ok (.node place (.link target))

/-- A path that is continued with a name leads to a place of that name, unless it ends in a
link. -/
theorem Tree.getLast?_of_find {tree : Tree} {cwd place : Place} {node : Node} {base : Path}
    (hbase : base.bytes ≠ []) {name : Name} (hne : name ≠ []) (hslash : slash ∉ name)
    (hdot : name ≠ dot) (hdotDot : name ≠ dotDot)
    (h : tree.find cwd (base.join ⟨name⟩) = .ok (place, node))
    (hlink : ¬ tree.EndsInLink cwd (base.join ⟨name⟩)) : place.getLast? = some name := by
  rw [find_eq_ok_iff] at h
  have hsteps : (lookupSteps (base.join ⟨name⟩)).getLast? = some name := by
    rw [lookupSteps_join_name hne hslash hbase, List.getLast?_concat]
  have hwalk := lookup_eq_walk h
  rw [hwalk] at h
  refine getLast?_of_walk hdot hdotDot hsteps rfl h fun place target hfound => ?_
  exact hlink ⟨place, target, by rw [hwalk, hfound]⟩

/-- The path of an entry of the root has one step. -/
theorem lookupSteps_below_root {name : Name} (h : isEntryName name = true) :
    lookupSteps ⟨slash :: name⟩ = [name] := by
  obtain ⟨hne, hslash, -⟩ := isEntryName_iff.mp h
  have hjoin : (Path.mk [slash]).join ⟨name⟩ = ⟨slash :: name⟩ := by
    simp [join, isAbsolute_name hslash]
  rw [← hjoin]
  exact lookupSteps_join_name hne hslash (List.cons_ne_nil slash [])

/-- The path of an entry of the root is looked up in one step. -/
theorem Tree.lookup_below_root (tree : Tree) (cwd : Place) {name : Name}
    (h : isEntryName name = true) :
    tree.lookup true cwd ⟨slash :: name⟩ = tree.walk true linkLimit [] [name] := by
  obtain ⟨-, -, hzero, -, -, hlength⟩ := isEntryName_iff.mp h
  have hnozero : (slash :: name).contains 0 = false := by
    rw [List.contains_cons, Bool.or_eq_false_iff]
    exact ⟨by decide, by simpa using hzero⟩
  have hshort : ¬ pathLimit ≤ (slash :: name).length := by
    rw [List.length_cons, pathLimit]
    rw [nameLimit] at hlength
    omega
  have habsolute : (Path.mk (slash :: name)).isAbsolute = true := rfl
  rw [lookup, hnozero, if_neg Bool.false_ne_true, if_neg (by simp), if_neg hshort, habsolute,
    if_pos rfl, lookupSteps_below_root h]

/-- A name leads from a directory to what stands there under it, unless that is a link. -/
theorem Tree.walk_name {tree : Tree} {here : Place} (hhere : tree.at? here = some .directory)
    {name : Name} (h : isEntryName name = true)
    (hlink : ∀ target, tree.at? (here ++ [name]) ≠ some (.link target)) (followLast : Bool)
    (links : Nat) :
    tree.walk followLast links here [name] =
      match tree.at? (here ++ [name]) with
      | some node => .ok (.node (here ++ [name]) node)
      | none => .ok (.vacant (here ++ [name])) := by
  obtain ⟨-, -, -, hdot, hdotDot, hlength⟩ := isEntryName_iff.mp h
  rw [walk, hhere]
  simp only [Nat.not_lt.mpr hlength, if_false, beq_eq_false_iff_ne.mpr hdot,
    beq_eq_false_iff_ne.mpr hdotDot, Bool.false_eq_true]
  cases hnode : tree.at? (here ++ [name]) with
  | none => rfl
  | some node =>
    cases node with
    | file content mode => simp [walk, hnode]
    | directory => simp [walk, hnode]
    | link target => exact absurd hnode (hlink target)

/-- The path of an entry of the root leads to what stands there, unless that is a link. -/
theorem Tree.find_below_root (tree : Tree) (cwd : Place) {name : Name}
    (h : isEntryName name = true) (hlink : ∀ target, tree.at? [name] ≠ some (.link target)) :
    tree.find cwd ⟨slash :: name⟩ =
      match tree.at? [name] with
      | some node => .ok ([name], node)
      | none => .error .notFound := by
  have hroot : tree.at? [] = some .directory := rfl
  rw [find, lookup_below_root tree cwd h, walk_name hroot h hlink, List.nil_append]
  cases tree.at? [name] with
  | none => rfl
  | some node => rfl

/-- A link to itself is followed until the limit is reached. -/
theorem Tree.find_self_link {tree : Tree} {name : Name} (h : isEntryName name = true)
    (hlink : tree.at? [name] = some (.link ⟨slash :: name⟩)) (cwd : Place) :
    tree.find cwd ⟨slash :: name⟩ = .error .linkLoop := by
  obtain ⟨-, -, -, hdot, hdotDot, hlength⟩ := isEntryName_iff.mp h
  have hroot : tree.at? [] = some .directory := rfl
  have hround : ∀ links, tree.walk true links [] [name] = .error .linkLoop := by
    intro links
    induction links with
    | zero =>
      rw [walk]
      simp [hroot, hlink, hdot, hdotDot, Nat.not_lt.mpr hlength]
    | succ links ih =>
      rw [walk]
      simp [hroot, hlink, hdot, hdotDot, Nat.not_lt.mpr hlength, lookupSteps_below_root h,
        isAbsolute, ih]
  rw [find, lookup_below_root tree cwd h, hround]

end Entries

/-- Is a path written from the root, by the names of directories that are there? -/
structure Tree.Descends (tree : Tree) (path : Path) : Prop where
  /-- It begins at the root. -/
  absolute : path.isAbsolute = true
  /-- It has no byte that a path cannot have. -/
  noZero : 0 ∉ path.bytes
  /-- It is written by its names alone. -/
  plain : lookupSteps path = named path.bytes
  /-- It is what its steps are written as. -/
  written : ofSteps path.isAbsolute path.steps = path
  /-- Its names are names of entries. -/
  names : ∀ name ∈ named path.bytes, name.length ≤ nameLimit ∧ name ≠ dot ∧ name ≠ dotDot
  /-- Its names lead through directories. -/
  directories : ∀ place, place <+: named path.bytes → tree.at? place = some .directory

namespace Tree.Descends

variable {tree : Tree} {path : Path}

/-- The path is looked up where its names say. -/
theorem lookup (h : tree.Descends path) (hshort : path.bytes.length < pathLimit)
    (followLast : Bool) (cwd : Place) :
    tree.lookup followLast cwd path = .ok (.node (named path.bytes) .directory) := by
  have hzero : path.bytes.contains 0 = false := by simpa using h.noZero
  have hempty : path.bytes.isEmpty = false :=
    List.isEmpty_eq_false_iff.mpr (bytes_ne_nil h.absolute)
  have hdirectory := h.directories _ (List.prefix_refl _)
  have hwalk : tree.walk followLast linkLimit [] (named path.bytes ++ []) =
      tree.walk followLast linkLimit (named path.bytes) [] :=
    walk_directories followLast linkLimit [] h.names h.directories
  rw [List.append_nil, walk, hdirectory] at hwalk
  rw [Tree.lookup, hzero, hempty, h.absolute, h.plain, if_neg Bool.false_ne_true,
    if_neg Bool.false_ne_true, if_neg (Nat.not_le.mpr hshort), if_pos rfl, hwalk]

/-- A name that continues the path is looked up in the path's directory. -/
theorem lookup_join (h : tree.Descends path) {name : Name} (hname : isEntryName name = true)
    (hshort : (path.join ⟨name⟩).bytes.length < pathLimit)
    (hlink : ∀ target, tree.at? (named path.bytes ++ [name]) ≠ some (.link target))
    (followLast : Bool) (cwd : Place) :
    tree.lookup followLast cwd (path.join ⟨name⟩) =
      match tree.at? (named path.bytes ++ [name]) with
      | some node => .ok (.node (named path.bytes ++ [name]) node)
      | none => .ok (.vacant (named path.bytes ++ [name])) := by
  obtain ⟨hne, hslash, hnozero, -⟩ := isEntryName_iff.mp hname
  have hbase := bytes_ne_nil h.absolute
  have hzero : (path.join ⟨name⟩).bytes.contains 0 = false := by
    rw [← Bool.not_eq_true, List.contains_iff_mem,
      zero_mem_join_iff (isAbsolute_name hslash) hbase h.noZero]
    exact hnozero
  have hempty : (path.join ⟨name⟩).bytes.isEmpty = false :=
    List.isEmpty_eq_false_iff.mpr (join_bytes_ne_nil hbase _)
  have hdirectory := h.directories _ (List.prefix_refl _)
  have hwalk : tree.walk followLast linkLimit [] (named path.bytes ++ [name]) =
      tree.walk followLast linkLimit (named path.bytes) [name] :=
    walk_directories followLast linkLimit [name] h.names h.directories
  rw [walk_name hdirectory hname hlink] at hwalk
  rw [Tree.lookup, hzero, hempty, isAbsolute_join h.absolute,
    lookupSteps_join_name hne hslash hbase, if_neg Bool.false_ne_true,
    if_neg Bool.false_ne_true, if_neg (Nat.not_le.mpr hshort), if_pos rfl, hwalk]

/-- Nothing is made where the path's directory is there. -/
theorem makeDirectories (h : tree.Descends path) (hshort : path.bytes.length < pathLimit)
    (cwd : Place) : tree.makeDirectories cwd path = .ok tree := by
  have hthere : tree.makeDirectory cwd path = .error .alreadyExists := by
    rw [makeDirectory, h.lookup hshort]
  have hdirectory : tree.isDirectory cwd path = true := by
    rw [isDirectory, find, h.lookup hshort]
  have hkind : ¬ IoError.alreadyExists.kind = .notFound := by decide
  rw [Tree.makeDirectories, if_neg (Nat.not_le.mpr hshort)]
  cases hsteps : path.steps.reverse with
  | nil => rfl
  | cons last above =>
    have hwritten : ofSteps path.isAbsolute (last :: above).reverse = path := by
      rw [← hsteps, List.reverse_reverse, h.written]
    rw [makeDirectoriesUp, hwritten, hthere]
    simp only [hkind, hdirectory, if_true, if_false]

end Tree.Descends

end Files

/-- Is the working directory there? Then it is written from the root, each step once,
without dots and without a final slash. -/
structure World.Grounded (world : World) : Prop where
  /-- It begins at the root. -/
  absolute : world.cwd.isAbsolute = true
  /-- It has no byte that a path cannot have. -/
  noZero : 0 ∉ world.cwd.bytes
  /-- It is written by its names alone. -/
  plain : Files.lookupSteps world.cwd = world.here
  /-- Its names are names of entries. -/
  names : ∀ name ∈ world.here,
    name.length ≤ Files.nameLimit ∧ name ≠ Path.dot ∧ name ≠ Path.dotDot
  /-- Its steps lead through directories. -/
  directories : ∀ place, place <+: world.here → world.files.at? place = some .directory

namespace World.Grounded

open Files TrayIndicator.Path

variable {world : World}

/-- The working directory names its place. -/
theorem named_cwd (h : world.Grounded) : named world.cwd.bytes = world.here := by
  have hplain := h.plain
  rw [lookupSteps_eq] at hplain
  split at hplain
  · -- a final slash would leave a dot among the names
    have hdot : dot ∈ world.here := by
      rw [← hplain]
      exact List.mem_append_right _ (List.mem_singleton_self dot)
    exact absurd rfl (h.names dot hdot).2.1
  · exact hplain

/-- The steps of a path that continues the working directory come after its place. -/
theorem lookupSteps_join (h : world.Grounded) {path : Path}
    (hrelative : path.isAbsolute = false) (hbytes : path.bytes ≠ []) :
    lookupSteps (world.cwd.join path) = world.here ++ lookupSteps path := by
  obtain ⟨front, hjoin, -, -⟩ := exists_join_bytes hrelative (bytes_ne_nil h.absolute)
  have hnamed : named (world.cwd.join path).bytes = world.here ++ named path.bytes := by
    rw [named_join hrelative (bytes_ne_nil h.absolute), h.named_cwd]
  have hlast : (world.cwd.join path).bytes.getLast? = path.bytes.getLast? := by
    rw [hjoin, List.getLast?_append, List.getLast?_cons]
    cases hend : path.bytes.getLast? with
    | none => exact absurd (List.getLast?_eq_none_iff.mp hend) hbytes
    | some last => rfl
  have hsome := named_ne_nil hrelative hbytes
  rw [lookupSteps_eq, lookupSteps_eq, hnamed, hlast]
  by_cases hslash : path.bytes.getLast? = some slash
  · simp [hslash, hsome]
  · simp [hslash]

/-- A relative path leads where the path that continues the working directory leads,
unless the latter is too long. -/
theorem find_join (h : world.Grounded) {path : Path} (hrelative : path.isAbsolute = false)
    (hbytes : path.bytes ≠ []) (hlength : (world.cwd.join path).bytes.length < pathLimit) :
    world.files.find world.here (world.cwd.join path) = world.files.find world.here path := by
  have hcwd := bytes_ne_nil h.absolute
  have hzero : (world.cwd.join path).bytes.contains 0 = path.bytes.contains 0 := by
    rw [Bool.eq_iff_iff, List.contains_iff_mem, List.contains_iff_mem]
    exact zero_mem_join_iff hrelative hcwd h.noZero
  have hshort : path.bytes.length < pathLimit := by
    obtain ⟨front, hjoin, -, -⟩ := exists_join_bytes hrelative hcwd
    rw [hjoin, List.length_append, List.length_cons] at hlength
    omega
  have hwalk : world.files.walk true linkLimit [] (lookupSteps (world.cwd.join path)) =
      world.files.walk true linkLimit world.here (lookupSteps path) := by
    rw [h.lookupSteps_join hrelative hbytes]
    exact Tree.walk_directories true linkLimit (lookupSteps path) h.names h.directories
  have hsome := join_bytes_ne_nil hcwd path
  have hlookup : world.files.lookup true world.here (world.cwd.join path) =
      world.files.lookup true world.here path := by
    simp only [Tree.lookup, hzero, List.isEmpty_eq_false_iff.mpr hbytes,
      List.isEmpty_eq_false_iff.mpr hsome, Nat.not_le.mpr hshort, Nat.not_le.mpr hlength,
      isAbsolute_join h.absolute, hrelative, hwalk, if_true, if_false, Bool.false_eq_true]
  rw [Tree.find, Tree.find, hlookup]

end World.Grounded

end TrayIndicator
