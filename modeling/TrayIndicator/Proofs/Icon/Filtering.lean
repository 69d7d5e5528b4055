import Mathlib.Data.List.MinMax
import TrayIndicator.Icon.Png.Filter

/-!
# Rows that were filtered are rebuilt

The rows of an image are filtered one by one, each by any of the filters: every byte
gives way to its difference to what the format predicts from its neighbours in the
image. Rebuilding such rows gives back the image.

The filter is described by places of the image and not by how rows are rebuilt.
Nothing is said of which filter suits a row.
-/

namespace TrayIndicator.Icon.Png

/-- The number of a filter in a file. -/
def Filter.number : Filter → UInt8
  | .none => 0
  | .left => 1
  | .above => 2
  | .average => 3
  | .paeth => 4

/-- A filter is found by its number. -/
theorem Filter.ofNumber?_number (filter : Filter) : ofNumber? filter.number = some filter := by
  cases filter <;> rfl

section Prediction

/-- What the format predicts from the neighbours, in whole numbers. The last filter
takes the neighbour nearest to `left + above - corner`, and of equally near ones the
first. -/
def Filter.predicted (filter : Filter) (left above corner : ℕ) : ℕ :=
  match filter with
  | .none => 0
  | .left => left
  | .above => above
  | .average => (left + above) / 2
  | .paeth =>
    ([left, above, corner].argmin fun neighbour : ℕ =>
      ((left : ℤ) + above - corner - neighbour).natAbs).getD 0

/-- The least of three values by a measure, the first of equal ones. -/
theorem getD_argmin_three (measure : ℕ → ℕ) (first second third : ℕ) :
    ([first, second, third].argmin measure).getD 0 =
      if measure first ≤ measure second ∧ measure first ≤ measure third then first
      else if measure second ≤ measure third then second
      else third := by
  have hlast : [second, third].argmin measure =
      if measure third < measure second then some third else some second := rfl
  rw [List.argmin_cons, hlast]
  by_cases hthird : measure third < measure second
  · rw [if_pos hthird]
    dsimp only
    by_cases hfirst : measure third < measure first
    · rw [if_pos hfirst, if_neg (by omega), if_neg (by omega)]
      rfl
    · rw [if_neg hfirst, if_pos (by omega)]
      rfl
  · rw [if_neg hthird]
    dsimp only
    by_cases hfirst : measure second < measure first
    · rw [if_pos hfirst, if_neg (by omega), if_pos (by omega)]
      rfl
    · rw [if_neg hfirst, if_pos (by omega)]
      rfl

/-- A filter predicts what the format does. -/
theorem Filter.toNat_predict (filter : Filter) (left above corner : UInt8) :
    (filter.predict left above corner).toNat =
      filter.predicted left.toNat above.toNat corner.toNat := by
  cases filter with
  | none | left | above => rfl
  | average =>
    have hleft := left.toNat_lt
    have habove := above.toNat_lt
    rw [predict, predicted, Nat.toUInt8_eq, UInt8.toNat_ofNat']
    omega
  | paeth =>
    rw [predict, predicted, getD_argmin_three, nearest]
    dsimp only
    split
    · rfl
    · split <;> rfl

end Prediction

section Rows

variable (filter : Filter) (stride : ℕ) (above row : List UInt8)

/-- The byte of a row that stands one pixel before a place; zero where the row begins. -/
def pixelBefore (stride : ℕ) (row : List UInt8) (place : ℕ) : UInt8 :=
  if place < stride then 0 else row.getD (place - stride) 0

/-- The byte of a filtered row at a place: the difference to what is predicted from the
byte before, the one above and the one above that before. -/
def filteredByte (place : ℕ) : UInt8 :=
  row.getD place 0 - UInt8.ofNat (filter.predicted (pixelBefore stride row place).toNat
    (above.getD place 0).toNat (pixelBefore stride above place).toNat)

/-- A row as it is filtered below another. -/
def filteredRow : List UInt8 := (List.range row.length).map (filteredByte filter stride above row)

/-- A filtered row is as long as the row. -/
theorem length_filteredRow : (filteredRow filter stride above row).length = row.length := by
  rw [filteredRow, List.length_map, List.length_range]

/-- The bytes of a row from one pixel before a place up to that place. -/
def lastPixel (stride : ℕ) (row : List UInt8) (place : ℕ) : List UInt8 :=
  (List.range' place stride).map (pixelBefore stride row)

/-- No pixel stands before the first. -/
theorem lastPixel_zero (stride : ℕ) (row : List UInt8) :
    lastPixel stride row 0 = List.replicate stride 0 := by
  have hzero : ∀ place ∈ List.range' 0 stride, pixelBefore stride row place = 0 := by
    intro place hplace
    have hlt : place < stride := by simpa using hplace
    rw [pixelBefore, if_pos hlt]
  rw [lastPixel, List.map_congr_left hzero, List.map_const', List.length_range']

variable {stride}

/-- The oldest byte of the last pixel is the one before. -/
theorem headD_lastPixel (hstride : 0 < stride) (place : ℕ) :
    (lastPixel stride row place).headD 0 = pixelBefore stride row place := by
  obtain ⟨rest, rfl⟩ := Nat.exists_eq_succ_of_ne_zero hstride.ne'
  rfl

/-- Taking in the byte at a place moves the last pixel on. -/
theorem tail_lastPixel (hstride : 0 < stride) (place : ℕ) :
    (lastPixel stride row place).tail ++ [row.getD place 0] = lastPixel stride row (place + 1) := by
  obtain ⟨rest, rfl⟩ := Nat.exists_eq_succ_of_ne_zero hstride.ne'
  have hlast : pixelBefore (rest + 1) row (place + 1 + rest) = row.getD place 0 := by
    have hplace : place + 1 + rest - (rest + 1) = place := by omega
    rw [pixelBefore, if_neg (by omega), hplace]
  rw [lastPixel, List.range'_succ, List.map_cons, List.tail_cons, lastPixel,
    List.range'_1_concat, List.map_append, List.map_singleton, hlast]

/-- From any place on a filtered row is rebuilt to the row, given the pixels before. -/
theorem rebuild_from (hstride : 0 < stride) (count place : ℕ) (hrow : place + count = row.length) :
    rebuild filter (lastPixel stride row place) (lastPixel stride above place)
      (above.drop place) ((List.range' place count).map (filteredByte filter stride above row)) =
        row.drop place := by
  -- what is carried along is the last pixel of the row and of the one above
  induction count generalizing place with
  | zero =>
    have hdone : row.drop place = [] := List.drop_of_length_le (by omega)
    rw [hdone]
    rfl
  | succ count ih =>
    have hplace : place < row.length := by omega
    have habove : (above.drop place).headD 0 = above.getD place 0 := by
      rw [List.headD_eq_head?_getD, List.head?_drop, List.getD_eq_getElem?_getD]
    have hpredict : filter.predict (pixelBefore stride row place) (above.getD place 0)
        (pixelBefore stride above place) =
          UInt8.ofNat (filter.predicted (pixelBefore stride row place).toNat
            (above.getD place 0).toNat (pixelBefore stride above place).toNat) := by
      rw [← Filter.toNat_predict, UInt8.ofNat_toNat]
    have hvalue : filteredByte filter stride above row place +
        filter.predict (pixelBefore stride row place) (above.getD place 0)
          (pixelBefore stride above place) = row.getD place 0 := by
      rw [hpredict, filteredByte, UInt8.sub_add_cancel]
    have hbyte : row.getD place 0 = row[place] := by
      rw [List.getD_eq_getElem?_getD, List.getElem?_eq_getElem hplace, Option.getD_some]
    rw [List.range'_succ, List.map_cons, rebuild]
    rw [headD_lastPixel row hstride, headD_lastPixel above hstride, habove, hvalue,
      tail_lastPixel row hstride, tail_lastPixel above hstride, List.tail_drop,
      ih (place + 1) (by omega), hbyte, List.drop_eq_getElem_cons hplace]

/-- A filtered row is rebuilt to the row. -/
theorem rebuild_filteredRow (hstride : 0 < stride) :
    rebuild filter (List.replicate stride 0) (List.replicate stride 0) above
      (filteredRow filter stride above row) = row := by
  have hrebuilt := rebuild_from filter above row hstride row.length 0 (Nat.zero_add _)
  rwa [lastPixel_zero, lastPixel_zero, List.drop_zero, List.drop_zero,
    ← List.range_eq_range'] at hrebuilt

end Rows

section Images

variable (filters : ℕ → Filter) {stride size : ℕ} (rows : ℕ → List UInt8)

/-- The row above a row of an image; there is none above the first. -/
def rowAbove (rows : ℕ → List UInt8) (index : ℕ) : List UInt8 :=
  if index = 0 then [] else rows (index - 1)

/-- A row of an image as it stands in a file: the number of its filter, and the row
filtered below the one above. -/
def storedRow (stride : ℕ) (index : ℕ) : List UInt8 :=
  (filters index).number ::
    filteredRow (filters index) stride (rowAbove rows index) (rows index)

/-- From any row on the rows of an image are rebuilt, given the row above. -/
theorem unfilter_from (hstride : 0 < stride) (count index : ℕ)
    (hsize : ∀ other, index ≤ other → other < index + count → (rows other).length = size)
    (rest : List UInt8) :
    unfilter stride size count (rowAbove rows index)
      ((List.range' index count).flatMap (storedRow filters rows stride) ++ rest) =
        some ((List.range' index count).map rows, rest) := by
  induction count generalizing index with
  | zero => rfl
  | succ count ih =>
    have hfirst : (rows index).length = size := hsize index (Nat.le_refl _) (by omega)
    have hlater := ih (index + 1) fun other hle hlt => hsize other (by omega) (by omega)
    have habove : rowAbove rows (index + 1) = rows index := rfl
    generalize hdata : (List.range' (index + 1) count).flatMap (storedRow filters rows stride) ++
      rest = data at hlater
    have hfiltered : (filteredRow (filters index) stride (rowAbove rows index)
        (rows index)).length = size := by
      rw [length_filteredRow, hfirst]
    rw [List.range'_succ, List.flatMap_cons, List.append_assoc, hdata, storedRow,
      List.cons_append, unfilter]
    simp only [Filter.ofNumber?_number]
    rw [List.take_append_of_le_length hfiltered.ge, List.take_of_length_le hfiltered.le,
      if_pos hfiltered, rebuild_filteredRow _ _ _ hstride, List.drop_left' hfiltered, ← habove,
      hlater]
    rfl

/-- The rows of an image are rebuilt, whichever filters were taken for them. -/
theorem unfilter_storedRows (hstride : 0 < stride) (count : ℕ)
    (hsize : ∀ index < count, (rows index).length = size) (rest : List UInt8) :
    unfilter stride size count []
      ((List.range count).flatMap (storedRow filters rows stride) ++ rest) =
        some ((List.range count).map rows, rest) := by
  have hrebuilt := unfilter_from filters rows hstride count 0
    (fun other _ hlt => hsize other (by omega)) rest
  rwa [← List.range_eq_range'] at hrebuilt

end Images

end TrayIndicator.Icon.Png
