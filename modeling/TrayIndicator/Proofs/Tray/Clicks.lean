import Mathlib.Data.List.DropRight
import Mathlib.Data.List.Induction
import TrayIndicator.Proofs.Tray.Passes

/-!
# What clicks count as

The reason of a click follows from the clicks before it. A release of the left button
counts unless the button was clicked twice since its last release, and no other click
concerns it: one thing only is remembered, and only the left button changes it.

So a click is lost where the release of a double click never arrived. It is the next
one, whenever that comes, and it is the only one.
-/

namespace TrayIndicator.Tray

namespace Click

/-- The button of a click. -/
def button : Click → Button
  | .press button => button
  | .release button => button
  | .doubleClick button => button

/-- Does a click concern what a release of the left button counts as? -/
def isHeeded (click : Click) : Bool := click = .release .left || click = .doubleClick .left

end Click

/-- The clicks since the left button was last released, or since the start. -/
def sinceRelease (earlier : List Click) : List Click :=
  earlier.rtakeWhile (· ≠ .release .left)

/-- The reason of a click that comes after others. -/
def reasonAfter (earlier : List Click) : Click → Option Activation
  | .release .left => if .doubleClick .left ∈ sinceRelease earlier then none else some .trigger
  | .release .right => some .context
  | .release .middle => some .middleClick
  | .doubleClick .left => some .doubleClick
  | _ => none

/-- The reasons of the releases of the left button, in order. -/
def leftReasons (filter : ClickFilter) (clicks : List Click) : List (Option Activation) :=
  ((clicks.zip (filter.reasons clicks)).filter (·.1 = .release .left)).map (·.2)

/-- What a user does with the left button. -/
inductive LeftGesture where
  /-- A click. -/
  | single
  /-- Two clicks in a row. -/
  | double
  deriving DecidableEq, Repr

/-- The clicks that a gesture arrives as. -/
def LeftGesture.clicks : LeftGesture → List Click
  | .single => [.press .left, .release .left]
  | .double => [.press .left, .release .left, .doubleClick .left, .release .left]

/-- Was every double click of the left button released? -/
def ReleasesArrived (history : List Click) : Prop :=
  ∀ before after, history = before ++ .doubleClick .left :: after → .release .left ∈ after

section History

theorem sinceRelease_concat (earlier : List Click) (click : Click) :
    sinceRelease (earlier ++ [click]) =
      if click = .release .left then [] else sinceRelease earlier ++ [click] := by
  rw [sinceRelease, List.rtakeWhile_concat]
  by_cases hrelease : click = .release .left <;> simp [hrelease, sinceRelease]

/-- Clicks without a release come on top of those since the last one. -/
theorem sinceRelease_append {later : List Click} (h : .release .left ∉ later)
    (earlier : List Click) : sinceRelease (earlier ++ later) = sinceRelease earlier ++ later := by
  induction later using List.reverseRecOn with
  | nil => rw [List.append_nil, List.append_nil]
  | append_singleton later click ih =>
    rw [List.mem_append, not_or, List.mem_singleton] at h
    rw [← List.append_assoc, sinceRelease_concat, if_neg (Ne.symm h.2), ih h.1, List.append_assoc]

/-- Every double click was released exactly if there was none since the last release. -/
theorem releasesArrived_iff (history : List Click) :
    ReleasesArrived history ↔ .doubleClick .left ∉ sinceRelease history := by
  rw [← not_iff_not, not_not]
  constructor
  · intro hlost
    simp only [ReleasesArrived, not_forall] at hlost
    obtain ⟨before, after, rfl, hafter⟩ := hlost
    have hlater : Click.release .left ∉ Click.doubleClick .left :: after := by simpa using hafter
    rw [sinceRelease_append hlater]
    exact List.mem_append_right _ List.mem_cons_self
  · intro hmem harrived
    obtain ⟨between, after, hsplit⟩ := List.append_of_mem hmem
    have hhistory : history = history.rdropWhile (· ≠ .release .left) ++ between ++
        .doubleClick .left :: after := by
      rw [List.append_assoc, ← hsplit, sinceRelease, List.rdropWhile_append_rtakeWhile]
    have hreleased : Click.release .left ∈ sinceRelease history := by
      rw [hsplit]
      exact List.mem_append_right _ (List.mem_cons_of_mem _ (harrived _ _ hhistory))
    simpa using List.mem_rtakeWhile_imp hreleased

end History

namespace ClickFilter

variable (filter : ClickFilter)

@[simp]
theorem after_nil : filter.after [] = filter := rfl

theorem after_cons (click : Click) (clicks : List Click) :
    filter.after (click :: clicks) = (filter.step click).2.after clicks := rfl

theorem after_append (clicks later : List Click) :
    filter.after (clicks ++ later) = (filter.after clicks).after later := List.foldl_append

/-- The reason at a place is that of its click, by what is remembered of the clicks
before it. -/
theorem getElem?_reasons (clicks : List Click) (place : Nat) :
    (filter.reasons clicks)[place]? =
      clicks[place]?.map fun click => ((filter.after (clicks.take place)).step click).1 := by
  induction clicks generalizing filter place with
  | nil => rfl
  | cons click clicks ih =>
    cases place with
    | zero => rfl
    | succ place => exact ih (filter.step click).2 place

/-- Later clicks are answered by what is remembered of the earlier ones. -/
theorem reasons_append (clicks later : List Click) :
    filter.reasons (clicks ++ later) =
      filter.reasons clicks ++ (filter.after clicks).reasons later := by
  induction clicks generalizing filter with
  | nil => rfl
  | cons click clicks ih =>
    rw [List.cons_append, reasons, reasons, ih, after_cons, List.cons_append]

/-- Nothing is remembered after a release of the left button. -/
theorem step_release_left : (filter.step (.release .left)).2 = start := by
  rw [step]
  split <;> rfl

/-- A release is swallowed exactly if there was a double click since the last one. -/
theorem start_after_swallowsRelease (earlier : List Click) :
    (start.after earlier).swallowsRelease = true ↔
      .doubleClick .left ∈ sinceRelease earlier := by
  induction earlier using List.reverseRecOn with
  | nil => simp [start, sinceRelease]
  | append_singleton earlier click ih =>
    rw [after_append, after_cons, after_nil, sinceRelease_concat]
    cases click with
    | press button => simpa [step] using ih
    | release button =>
      cases button with
      | left =>
        rw [if_pos rfl, step]
        split <;> simp
      | right | middle => simpa [step] using ih
    | doubleClick button =>
      cases button with
      | left => simp [step]
      | right | middle => simpa [step] using ih

/-- What a click counts as after others. -/
theorem start_after_step (earlier : List Click) (click : Click) :
    ((start.after earlier).step click).1 = reasonAfter earlier click := by
  cases click with
  | press button => rfl
  | release button =>
    cases button with
    | left =>
      simp only [step, reasonAfter, ← start_after_swallowsRelease]
      split <;> rfl
    | right | middle => rfl
  | doubleClick button => cases button <;> rfl

/-- A click that is not heeded changes nothing that is remembered. -/
theorem step_of_not_isHeeded {click : Click} (h : click.isHeeded = false) :
    (filter.step click).2 = filter := by
  cases click with
  | press button => rfl
  | release button | doubleClick button =>
    cases button with
    | left => cases h
    | right | middle => rfl

end ClickFilter

section LeftButton

variable (filter : ClickFilter)

theorem leftReasons_cons (click : Click) (clicks : List Click) :
    leftReasons filter (click :: clicks) =
      (if click = .release .left then [(filter.step click).1] else []) ++
        leftReasons (filter.step click).2 clicks := by
  by_cases hrelease : click = .release .left <;>
    simp [leftReasons, ClickFilter.reasons, hrelease]

/-- The releases of the left button count as they do without any clicks that are not
heeded. -/
theorem leftReasons_filter {kept : Click → Bool} (hkept : ∀ click, click.isHeeded → kept click)
    (clicks : List Click) :
    leftReasons filter (clicks.filter kept) = leftReasons filter clicks := by
  induction clicks generalizing filter with
  | nil => rfl
  | cons click clicks ih =>
    by_cases hclick : kept click = true
    · rw [List.filter_cons_of_pos hclick, leftReasons_cons, leftReasons_cons, ih]
    · have hheeded : click.isHeeded = false := by
        rw [← Bool.not_eq_true]
        exact fun h => hclick (hkept click h)
      have hrelease : click ≠ .release .left := by
        rintro rfl
        cases hheeded
      rw [List.filter_cons_of_neg hclick, leftReasons_cons, if_neg hrelease,
        filter.step_of_not_isHeeded hheeded, ih, List.nil_append]

/-- Only releases of the left button count as a single primary click. -/
theorem count_trigger_reasons (clicks : List Click) :
    (filter.reasons clicks).count (some .trigger) =
      (leftReasons filter clicks).count (some .trigger) := by
  induction clicks generalizing filter with
  | nil => rfl
  | cons click clicks ih =>
    rw [ClickFilter.reasons, leftReasons_cons, List.count_append, ← ih]
    by_cases hrelease : click = .release .left
    · rw [if_pos hrelease, ← List.count_append, List.singleton_append]
    · have hreason : (filter.step click).1 ≠ some .trigger := by
        cases click with
        | press button => simp [ClickFilter.step]
        | release button =>
          cases button with
          | left => exact absurd rfl hrelease
          | right | middle => simp [ClickFilter.step]
        | doubleClick button => cases button <;> simp [ClickFilter.step]
      rw [if_neg hrelease, List.count_cons_of_ne hreason, List.count_nil, Nat.zero_add]

/-- A whole gesture counts once and leaves nothing to remember. -/
theorem leftReasons_gesture (gesture : LeftGesture) (clicks : List Click) :
    (leftReasons .start (gesture.clicks ++ clicks)).count (some .trigger) =
      1 + (leftReasons .start clicks).count (some .trigger) := by
  cases gesture <;>
    simp [LeftGesture.clicks, leftReasons_cons, ClickFilter.step, ClickFilter.start, Nat.add_comm]

/-- So do gestures one after the other. -/
theorem leftReasons_gestures (gestures : List LeftGesture) :
    (leftReasons .start (gestures.flatMap LeftGesture.clicks)).count (some .trigger) =
      gestures.length := by
  induction gestures with
  | nil => rfl
  | cons gesture gestures ih =>
    rw [List.flatMap_cons, leftReasons_gesture, ih, List.length_cons, Nat.add_comm]

end LeftButton

section Streams

/-- What every click counts as, in every stream. Its reason is the one that the clicks
before it give. Clicks that are not heeded can come in or stay away anywhere without
any release of the left button counting differently. Whole gestures of the left button
count once each, whatever the other buttons do meanwhile. -/
theorem clicks_count_by_history :
    (∀ (clicks : List Click) (place : Nat),
      (ClickFilter.start.reasons clicks)[place]? =
        clicks[place]?.map (reasonAfter (clicks.take place))) ∧
    (∀ clicks others : List Click,
      clicks.filter Click.isHeeded = others.filter Click.isHeeded →
        leftReasons .start clicks = leftReasons .start others) ∧
    ∀ (clicks : List Click) (gestures : List LeftGesture),
      clicks.filter (·.button = .left) = gestures.flatMap LeftGesture.clicks →
        (ClickFilter.start.reasons clicks).count (some .trigger) = gestures.length := by
  refine ⟨fun clicks place => ?_, fun clicks others hsame => ?_, fun clicks gestures hleft => ?_⟩
  · rw [ClickFilter.getElem?_reasons]
    simp only [ClickFilter.start_after_step]
  · rw [← leftReasons_filter .start (fun _ h => h) clicks, hsame,
      leftReasons_filter .start fun _ h => h]
  · have hkept (click : Click) (hheeded : click.isHeeded = true) :
        decide (click.button = .left) = true := by
      rcases (Bool.or_eq_true _ _).mp hheeded with hclick | hclick <;>
        rw [of_decide_eq_true hclick] <;> rfl
    rw [count_trigger_reasons, ← leftReasons_filter .start hkept, hleft, leftReasons_gestures]

/-- A double click and a click, with the other buttons busy in between, count twice. -/
theorem clicks_count_by_history_among_buttons :
    let clicks : List Click := [.press .left, .press .middle, .release .left, .doubleClick .right,
      .doubleClick .left, .release .right, .release .left, .press .left, .release .middle,
      .release .left]
    let others : List Click := [.release .left, .press .right, .doubleClick .left, .release .left,
      .release .left]
    let gestures := [LeftGesture.double, .single]
    clicks.filter Click.isHeeded = others.filter Click.isHeeded ∧
      leftReasons .start clicks = leftReasons .start others ∧
      clicks.filter (·.button = .left) = gestures.flatMap LeftGesture.clicks ∧
      (ClickFilter.start.reasons clicks).count (some .trigger) = 2 := by
  intro clicks others gestures
  have hsame : clicks.filter Click.isHeeded = others.filter Click.isHeeded := by decide
  have hleft : clicks.filter (·.button = .left) = gestures.flatMap LeftGesture.clicks := by decide
  obtain ⟨-, hequal, hcount⟩ := clicks_count_by_history
  exact ⟨hsame, hequal clicks others hsame, hleft, hcount clicks gestures hleft⟩

/-- A click of the left button counts exactly if every double click before it was
released. If one was not, the click is swallowed in its place. After the click all
clicks count as they do from the start, so that no further one is lost. -/
theorem click_counts_iff_releases_arrived (history : List Click) {between : List Click}
    (hrelease : .release .left ∉ between) (hdouble : .doubleClick .left ∉ between)
    (later : List Click) :
    let made := history ++ .press .left :: between
    let reasons := ClickFilter.start.reasons (made ++ .release .left :: later)
    (reasons[made.length]? = some (some .trigger) ↔ ReleasesArrived history) ∧
      (reasons[made.length]? = some none ↔ ¬ ReleasesArrived history) ∧
      reasons.drop (made.length + 1) = ClickFilter.start.reasons later := by
  intro made reasons
  have hsince : .doubleClick .left ∈ sinceRelease made ↔
      .doubleClick .left ∈ sinceRelease history := by
    have hpress : Click.release .left ∉ Click.press .left :: between := by simpa using hrelease
    rw [sinceRelease_append hpress, List.mem_append]
    simp [hdouble]
  have hreasons : reasons = ClickFilter.start.reasons made ++
      reasonAfter made (.release .left) :: ClickFilter.start.reasons later := by
    rw [← ClickFilter.start_after_step]
    nth_rewrite 3 [← (ClickFilter.start.after made).step_release_left]
    exact ClickFilter.start.reasons_append made (.release .left :: later)
  have hlength : (ClickFilter.start.reasons made).length = made.length :=
    ClickFilter.start.reasons_length made
  have hreason : reasons[made.length]? = some (reasonAfter made (.release .left)) := by
    rw [hreasons, List.getElem?_append_right hlength.le, hlength, Nat.sub_self,
      List.getElem?_cons_zero]
  rw [hreason, reasonAfter, releasesArrived_iff, ← hsince]
  refine ⟨?_, ?_, ?_⟩
  · by_cases hlost : .doubleClick .left ∈ sinceRelease made <;> simp [hlost]
  · by_cases hlost : .doubleClick .left ∈ sinceRelease made <;> simp [hlost]
  · rw [hreasons, ← hlength, List.drop_append, List.drop_of_length_le (Nat.le_succ _),
      Nat.add_sub_cancel_left, List.nil_append, List.drop_one, List.tail_cons]

/-- A click after a double click that was released counts, with the other buttons busy
in between. -/
theorem click_counts_iff_releases_arrived_after_double_click :
    let history : List Click :=
      [.press .left, .release .left, .doubleClick .left, .release .left, .press .right]
    let between : List Click := [.release .right, .doubleClick .middle]
    ReleasesArrived history ∧
      (ClickFilter.start.reasons
        (history ++ .press .left :: between ++ [.release .left]))[8]? = some (some .trigger) := by
  intro history between
  have harrived : ReleasesArrived history := (releasesArrived_iff history).mpr (by decide)
  have hcounts := (click_counts_iff_releases_arrived history
    (show .release .left ∉ between by decide) (show .doubleClick .left ∉ between by decide) []).1
  exact ⟨harrived, hcounts.mpr harrived⟩

/-- The pointer leaves the icon before the second click of a double click is released:
the click after it is swallowed. -/
theorem click_after_lost_release_swallowed :
    let history : List Click := [.press .left, .release .left, .doubleClick .left]
    ClickFilter.start.reasons (history ++ [.press .left, .release .left]) =
      [none, some .trigger, some .doubleClick, none, none] := rfl

end Streams

end TrayIndicator.Tray
