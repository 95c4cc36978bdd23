import HazeServer.Text.Position

/-! # The position of an offset

An offset counts the characters before a place in a text. Its position is told without cutting the text
into lines: the line is the number of line ends that are finished by then, and the character counts the
code units since the last of them. A carriage return and the line feed that follows it are finished
together. Locating the position in the lines of the text leads back to the offset, unless it parts
such a pair.
-/

namespace HazeServer

namespace Text

/-- Whether an offset parts a carriage return from the line feed that belongs to it. -/
def partsReturn (text : List Char) : Nat → Bool
  | 0 => false
  | before + 1 => text[before]? = some '\r' ∧ text[before + 1]? = some '\n'

/-- Whether a line end is finished at an offset. -/
def finishesLine (text : List Char) : Nat → Bool
  | 0 => false
  | before + 1 => text[before]?.any isLineEnd && !partsReturn text (before + 1)

/-- The offsets, up to a given one, at which line ends are finished. -/
def finishedLines (text : List Char) (offset : Nat) : List Nat :=
  (List.range (offset + 1)).filter (finishesLine text)

/-- The offset at which the line of an offset starts. -/
def lineStart (text : List Char) (offset : Nat) : Nat :=
  (finishedLines text offset).getLast?.getD 0

/-- The position of an offset. -/
def positionAt (encoding : Encoding) (text : List Char) (offset : Nat) : Position where
  line := (finishedLines text offset).length
  character := encoding.size ((text.take offset).drop (lineStart text offset))

/-- The offset of a place in the lines of a text; a place beyond its line is at the end of it. -/
def Place.offset (cut : List (List Char)) (place : Place) : Nat :=
  (cut.take place.line).flatten.length + min place.column (cut[place.line]?.getD []).length

section Units

variable (encoding : Encoding)

theorem Encoding.units_pos (c : Char) : 0 < encoding.units c := by
  cases encoding with
  | utf8 => exact c.utf8Size_pos
  | utf16 =>
    simp only [units]
    split <;> decide
  | utf32 => exact Nat.one_pos

@[simp] theorem Encoding.size_cons (c : Char) (text : List Char) :
    encoding.size (c :: text) = encoding.units c + encoding.size text := rfl

theorem Encoding.length_le_size (text : List Char) : text.length ≤ encoding.size text := by
  induction text with
  | nil => exact Nat.le_refl 0
  | cons c rest step =>
    have positive := encoding.units_pos c
    rw [List.length_cons, size_cons]
    omega

/-- The units of the first character are covered by that character. -/
theorem Encoding.covering_cons (target : Nat) (c : Char) (text : List Char) :
    encoding.covering (encoding.units c + target) (c :: text) = encoding.covering target text + 1 := by
  have positive := encoding.units_pos c
  rw [covering, if_neg (by omega), Nat.add_sub_cancel_left]

theorem columnOf_zero (line : List Char) : columnOf encoding line 0 = 0 := by
  simp only [columnOf, gt_iff_lt, Nat.not_lt_zero, if_false]
  cases withShortEnd line <;> rfl

private theorem withShortEnd_cons {c : Char} (ordinary : c ≠ '\r') (line : List Char) :
    withShortEnd (c :: line) = c :: withShortEnd line := by
  rw [withShortEnd]
  rintro rest rfl _
  exact ordinary rfl

private theorem withShortEnd_ne_nil {line : List Char} (filled : line ≠ []) : withShortEnd line ≠ [] := by
  fun_cases withShortEnd line with
  | case1 => exact absurd rfl filled
  | case2 => simp
  | case3 => simp

/-- A character before a line moves what is in the line by one. The rest of the line must not be empty
if the column lies beyond it, since that column goes back by a unit. -/
theorem columnOf_cons {c : Char} (ordinary : c ≠ '\r') {line : List Char} {character : Nat}
    (filled : line ≠ [] ∨ character = 0) :
    columnOf encoding (c :: line) (encoding.units c + character) =
      columnOf encoding line character + 1 := by
  simp only [columnOf, withShortEnd_cons ordinary, Encoding.size_cons]
  have total : 0 < encoding.size (withShortEnd line) ∨ character = 0 := by
    refine filled.imp_left fun filled => ?_
    have shown := encoding.length_le_size (withShortEnd line)
    have some := List.length_pos_iff.mpr (withShortEnd_ne_nil filled)
    omega
  generalize encoding.size (withShortEnd line) = size at total ⊢
  have moved : (if encoding.units c + character > encoding.units c + size then
      encoding.units c + size - 1 else encoding.units c + character) =
      encoding.units c + if character > size then size - 1 else character := by
    split <;> split <;> omega
  rw [moved, encoding.covering_cons]

end Units

section Positions

variable (encoding : Encoding) (c : Char) (rest : List Char) (offset : Nat)

private theorem partsReturn_tail {c : Char} {rest : List Char} {offset : Nat}
    (whole : partsReturn (c :: rest) (offset + 1) = false) : partsReturn rest offset = false := by
  cases offset with
  | zero => rfl
  | succ before => exact whole

theorem finishesLine_one :
    finishesLine (c :: rest) 1 = (isLineEnd c && !(c = '\r' ∧ rest.head? = some '\n' : Bool)) := by
  simp [finishesLine, partsReturn, List.head?_eq_getElem?]

private theorem finishedLines_eq (text : List Char) :
    finishedLines text offset =
      ((List.range offset).filter fun before => finishesLine text (before + 1)).map Nat.succ := by
  rw [finishedLines, List.range_succ_eq_map, List.filter_cons_of_neg Bool.false_ne_true, List.filter_map]
  rfl

/-- The line ends of a text are that of its first character, if it is one, and those of the rest. -/
theorem finishedLines_cons :
    finishedLines (c :: rest) (offset + 1) =
      (if finishesLine (c :: rest) 1 then [1] else []) ++ (finishedLines rest offset).map Nat.succ := by
  have later : (List.range offset).filter
      ((fun before => finishesLine (c :: rest) (before + 1)) ∘ Nat.succ) =
      (List.range offset).filter fun before => finishesLine rest (before + 1) := rfl
  rw [finishedLines_eq, List.range_succ_eq_map, List.filter_cons, List.filter_map, later,
    ← finishedLines_eq]
  split <;> rfl

@[simp] theorem positionAt_zero (text : List Char) : positionAt encoding text 0 = ⟨0, 0⟩ := rfl

/-- A character before a text moves the positions in its first line by the units of the character,
unless it ends a line itself. -/
theorem positionAt_cons :
    positionAt encoding (c :: rest) (offset + 1) =
      if finishesLine (c :: rest) 1 then
        ⟨(positionAt encoding rest offset).line + 1, (positionAt encoding rest offset).character⟩
      else if (positionAt encoding rest offset).line = 0 then
        ⟨0, encoding.units c + (positionAt encoding rest offset).character⟩
      else positionAt encoding rest offset := by
  simp only [positionAt, lineStart, finishedLines_cons, List.length_append, List.length_map,
    List.getLast?_append, List.getLast?_map, List.take_succ_cons, List.length_eq_zero_iff]
  cases last : (finishedLines rest offset).getLast? with
  | some start =>
    have filled : finishedLines rest offset ≠ [] := by
      rintro none
      rw [none] at last
      cases last
    rw [if_neg filled]
    split <;> simp [Nat.add_comm]
  | none =>
    rw [List.getLast?_eq_none_iff.mp last]
    split <;> simp

end Positions

section Locating

variable (encoding : Encoding)

private theorem ne_nil_of_mem_lines {text line : List Char} (member : line ∈ lines text) : line ≠ [] := by
  fun_induction lines text generalizing line with
  | case1 => cases member
  | case2 rest step =>
    rcases List.mem_cons.mp member with rfl | later
    · simp
    · exact step later
  | case3 c rest _ ends step =>
    rcases List.mem_cons.mp member with rfl | later
    · simp
    · exact step later
  | case4 c rest _ ends none step =>
    rw [List.mem_singleton.mp member]
    simp
  | case5 c rest _ ends first more some step =>
    rcases List.mem_cons.mp member with rfl | later
    · simp
    · exact step (some ▸ List.mem_cons_of_mem _ later)

theorem lines_eq_nil {text : List Char} : lines text = [] ↔ text = [] := by
  constructor
  · intro none
    rw [← flatten_lines text, none]
    rfl
  · rintro rfl
    rfl

theorem line_locate (cut : List (List Char)) (position : Position) :
    (locate encoding cut position).line = min position.line (cut.length - 1) := by
  unfold locate
  cases found : cut[position.line]? with
  | some line =>
    have within := (List.getElem?_eq_some_iff.mp found).1
    simp only
    omega
  | none =>
    have beyond := List.getElem?_eq_none_iff.mp found
    cases last : cut.getLast? with
    | some line =>
      simp only
      omega
    | none =>
      rw [List.getLast?_eq_none_iff.mp last]
      simp

theorem locate_first (line : List Char) (more : List (List Char)) (character : Nat) :
    locate encoding (line :: more) ⟨0, character⟩ = ⟨0, columnOf encoding line character⟩ := rfl

/-- The places in later lines do not depend on the first line. -/
theorem locate_later (line : List Char) {more : List (List Char)} (filled : more ≠ [])
    (number character : Nat) :
    locate encoding (line :: more) ⟨number + 1, character⟩ =
      ⟨(locate encoding more ⟨number, character⟩).line + 1,
        (locate encoding more ⟨number, character⟩).column⟩ := by
  have length := List.length_pos_iff.mpr filled
  unfold locate
  simp only [List.getElem?_cons_succ]
  cases more[number]? with
  | some found => rfl
  | none =>
    rw [List.getLast?_cons_of_ne_nil filled]
    cases last : more.getLast? with
    | none => exact absurd (List.getLast?_eq_none_iff.mp last) filled
    | some found =>
      simp only [List.length_cons, Place.mk.injEq, and_true]
      omega

theorem locate_beyond (line : List Char) (number character : Nat) :
    locate encoding [line] ⟨number + 1, character⟩ = ⟨0, encoding.size line⟩ := rfl

theorem offset_first (line : List Char) (more : List (List Char)) (column : Nat) :
    Place.offset (line :: more) ⟨0, column⟩ = min column line.length := by
  simp [Place.offset]

theorem offset_later (line : List Char) (more : List (List Char)) (number column : Nat) :
    Place.offset (line :: more) ⟨number + 1, column⟩ =
      line.length + Place.offset more ⟨number, column⟩ := by
  simp [Place.offset, Nat.add_assoc]

/-- After a line that is finished, a place is as far beyond it as it is in the rest. -/
theorem offset_locate_after (line rest : List Char) {offset : Nat} (within : offset ≤ rest.length)
    (located : rest ≠ [] →
      (locate encoding (lines rest) (positionAt encoding rest offset)).offset (lines rest) = offset) :
    (locate encoding (line :: lines rest)
      ⟨(positionAt encoding rest offset).line + 1, (positionAt encoding rest offset).character⟩).offset
        (line :: lines rest) = line.length + offset := by
  by_cases empty : rest = []
  · subst empty
    have size := encoding.length_le_size line
    have start : offset = 0 := Nat.le_zero.mp within
    subst start
    change (locate encoding [line] ⟨_ + 1, _⟩).offset [line] = _
    rw [locate_beyond, offset_first]
    omega
  · rw [locate_later encoding line (fun none => empty (lines_eq_nil.mp none)), offset_later]
    exact congrArg (line.length + ·) (located empty)

private theorem offset_locate_start (cut : List (List Char)) :
    (locate encoding cut ⟨0, 0⟩).offset cut = 0 := by
  cases cut with
  | nil => rfl
  | cons line more =>
    rw [locate_first, columnOf_zero, offset_first]
    exact Nat.zero_min _

private theorem positionAt_return (rest : List Char) (offset : Nat) :
    positionAt encoding ('\r' :: '\n' :: rest) (offset + 2) =
      ⟨(positionAt encoding rest offset).line + 1, (positionAt encoding rest offset).character⟩ := by
  have unfinished : finishesLine ('\r' :: '\n' :: rest) 1 = false := rfl
  have finished : finishesLine ('\n' :: rest) 1 = true := rfl
  rw [positionAt_cons, unfinished, positionAt_cons, finished]
  rfl

private theorem finishesLine_of_isLineEnd {c : Char} {rest : List Char} (ends : isLineEnd c = true)
    (single : ∀ more, c = '\r' → rest = '\n' :: more → False) : finishesLine (c :: rest) 1 = true := by
  rw [finishesLine_one, ends]
  cases rest with
  | nil => simp
  | cons next more =>
    simp only [List.head?_cons, Option.some.injEq, Bool.true_and, Bool.not_eq_true', decide_eq_false_iff_not]
    rintro ⟨rfl, rfl⟩
    exact single more rfl rfl

private theorem ordinary_of_not_isLineEnd {c : Char} (ends : ¬ isLineEnd c = true) : c ≠ '\r' := by
  rintro rfl
  exact ends rfl

/-- A character before the first line moves every place by one. -/
theorem offset_locate_joined {c : Char} (ordinary : c ≠ '\r') {line : List Char} (filled : line ≠ [])
    (more : List (List Char)) (position : Position) :
    (locate encoding ((c :: line) :: more)
      (if position.line = 0 then ⟨0, encoding.units c + position.character⟩ else position)).offset
        ((c :: line) :: more) =
      (locate encoding (line :: more) position).offset (line :: more) + 1 := by
  obtain ⟨number, character⟩ := position
  dsimp only
  cases number with
  | zero =>
    rw [if_pos rfl, locate_first, locate_first, columnOf_cons encoding ordinary (.inl filled),
      offset_first, offset_first, List.length_cons]
    omega
  | succ number =>
    rw [if_neg (Nat.succ_ne_zero number)]
    cases more with
    | nil =>
      have size := encoding.length_le_size line
      have longer := encoding.length_le_size (c :: line)
      rw [locate_beyond, locate_beyond, offset_first, offset_first]
      rw [List.length_cons] at longer ⊢
      omega
    | cons next others =>
      rw [locate_later encoding _ (List.cons_ne_nil next others),
        locate_later encoding _ (List.cons_ne_nil next others), offset_later, offset_later, List.length_cons]
      omega

/-- The position of an offset is located at that offset. -/
theorem offset_locate_positionAt {text : List Char} {offset : Nat} (filled : text ≠ [])
    (within : offset ≤ text.length) (whole : partsReturn text offset = false) :
    (locate encoding (lines text) (positionAt encoding text offset)).offset (lines text) = offset := by
  -- the induction is on how the text is cut; an offset in the rest is one that parts no pair there
  fun_induction lines text generalizing offset with
  | case1 => exact absurd rfl filled
  | case2 rest step =>
    rcases offset with _ | _ | before
    · exact offset_locate_start encoding _
    · cases whole
    · have inside : before ≤ rest.length := Nat.le_of_succ_le_succ (Nat.le_of_succ_le_succ within)
      have kept := partsReturn_tail (partsReturn_tail whole)
      rw [positionAt_return, offset_locate_after encoding _ rest inside fun some => step some inside kept]
      exact Nat.add_comm 2 before
  | case3 c rest single ends step =>
    cases offset with
    | zero => exact offset_locate_start encoding _
    | succ before =>
      have inside : before ≤ rest.length := Nat.le_of_succ_le_succ within
      have kept := partsReturn_tail whole
      rw [positionAt_cons, finishesLine_of_isLineEnd ends single]
      exact (offset_locate_after encoding [c] rest inside fun some => step some inside kept).trans
        (Nat.add_comm 1 before)
  | case4 c rest single ends none step =>
    rw [lines_eq_nil.mp none] at within ⊢
    cases offset with
    | zero => exact offset_locate_start encoding _
    | succ before =>
      have start : before = 0 := Nat.le_zero.mp (Nat.le_of_succ_le_succ within)
      have place : locate encoding [[c]] (positionAt encoding [c] 1) = ⟨0, 1⟩ := by
        rw [positionAt_cons, finishesLine_one, Bool.eq_false_iff.mpr ends, positionAt_zero]
        change locate encoding [[c]] ⟨0, encoding.units c + 0⟩ = _
        rw [locate_first, columnOf_cons encoding (ordinary_of_not_isLineEnd ends) (.inr rfl), columnOf_zero]
      rw [start, place]
      rfl
  | case5 c rest single ends line more some step =>
    cases offset with
    | zero => exact offset_locate_start encoding _
    | succ before =>
      have inside : before ≤ rest.length := Nat.le_of_succ_le_succ within
      have kept := partsReturn_tail whole
      have filled : rest ≠ [] := by
        rintro rfl
        cases some
      have located := step filled inside kept
      have long : line ≠ [] := ne_nil_of_mem_lines (some ▸ List.mem_cons_self)
      rw [positionAt_cons, finishesLine_one, Bool.eq_false_iff.mpr ends, Bool.false_and,
        if_neg Bool.false_ne_true, offset_locate_joined encoding (ordinary_of_not_isLineEnd ends) long,
        ← some, located]

end Locating

end Text

end HazeServer
