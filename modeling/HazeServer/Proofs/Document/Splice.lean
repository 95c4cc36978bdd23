import HazeServer.Proofs.Document.History
import HazeServer.Proofs.Text.Offset
import HazeServer.Text.Edit

/-! # Edits are splices

An edit between the positions of two offsets puts the new text in the place of the characters between
them, whatever the line ends and the units of the encoding. Several edits in one change are made one
after the other, each in the text that the one before it leaves, and so the store holds the text with
all of them made.
-/

namespace HazeServer

namespace Text

section Replacing

variable (start stop : Place) (new : List Char)

private theorem take_offset_first (line : List Char) (more : List (List Char)) (column : Nat) :
    (line ++ more.flatten).take (Place.offset (line :: more) ⟨0, column⟩) = line.take column := by
  rw [offset_first, List.take_append_of_le_length (Nat.min_le_right ..), ← List.take_eq_take_min]

theorem drop_offset_first (line : List Char) (more : List (List Char)) (column : Nat) :
    (line ++ more.flatten).drop (Place.offset (line :: more) ⟨0, column⟩) =
      line.drop column ++ more.flatten := by
  rw [offset_first, List.drop_append_of_le_length (Nat.min_le_right ..), ← List.drop_eq_drop_min]

theorem replaceBetween_after (index : Nat) (after : stop.line < index) (cut : List (List Char)) :
    replaceBetween start stop new index cut = cut.flatten := by
  induction cut generalizing index with
  | nil => rfl
  | cons line more step =>
    rw [replaceBetween, if_pos (.inr after), step (index + 1) (by omega), List.flatten_cons]

/-- From the line after the start on, what is left begins at the stop. -/
theorem replaceBetween_inside (index number : Nat) (cut : List (List Char))
    (inside : start.line < index) (here : stop.line = index + number) (within : number < cut.length) :
    replaceBetween start stop new index cut =
      cut.flatten.drop (Place.offset cut ⟨number, stop.column⟩) := by
  induction cut generalizing index number with
  | nil => cases within
  | cons line more step =>
    rw [replaceBetween, if_neg (by omega), if_neg (by omega), List.nil_append, List.flatten_cons]
    cases number with
    | zero =>
      rw [if_pos (by omega), replaceBetween_after start stop new _ (by omega), drop_offset_first]
    | succ number =>
      rw [if_neg (by omega), List.nil_append, offset_later, List.drop_length_add_append]
      exact step (index + 1) number (by omega) (by omega) (Nat.lt_of_succ_lt_succ within)

/-- Replacing between two places is a splice at their offsets. -/
theorem replaceBetween_eq (index first last : Nat) (cut : List (List Char))
    (begins : start.line = index + first) (ends : stop.line = index + last) (ordered : first ≤ last)
    (within : last < cut.length) :
    replaceBetween start stop new index cut =
      cut.flatten.take (Place.offset cut ⟨first, start.column⟩) ++ new ++
        cut.flatten.drop (Place.offset cut ⟨last, stop.column⟩) := by
  induction cut generalizing index first last with
  | nil => cases within
  | cons line more step =>
    rw [replaceBetween, List.flatten_cons]
    match first, last with
    | 0, 0 =>
      rw [if_neg (by omega), if_pos (by omega), if_pos (by omega),
        replaceBetween_after start stop new _ (by omega), take_offset_first, drop_offset_first]
      simp only [List.append_assoc]
    | 0, last + 1 =>
      rw [if_neg (by omega), if_pos (by omega), if_neg (by omega), List.append_nil, take_offset_first,
        offset_later, List.drop_length_add_append]
      congr 1
      exact replaceBetween_inside start stop new _ last more (by omega) (by omega)
        (Nat.lt_of_succ_lt_succ within)
    | first + 1, last + 1 =>
      rw [if_pos (.inl (by omega)), offset_later, offset_later, List.take_length_add_append,
        List.drop_length_add_append, List.append_assoc, List.append_assoc, ← List.append_assoc _ new]
      congr 1
      exact step (index + 1) first last (by omega) (by omega) (by omega) (Nat.lt_of_succ_lt_succ within)

end Replacing

private theorem line_positionAt_le (encoding : Encoding) (text : List Char) {first last : Nat}
    (ordered : first ≤ last) :
    (positionAt encoding text first).line ≤ (positionAt encoding text last).line :=
  ((List.range_sublist.mpr (Nat.succ_le_succ ordered)).filter _).length_le

/-- Replacing between the positions of two offsets replaces the characters between the offsets. -/
theorem replaceRange_positionAt (encoding : Encoding) {text : List Char} {first last : Nat}
    (ordered : first ≤ last) (within : last ≤ text.length) (begins : partsReturn text first = false)
    (ends : partsReturn text last = false) (new : List Char) :
    replaceRange encoding ⟨positionAt encoding text first, positionAt encoding text last⟩ new text =
      text.take first ++ new ++ text.drop last := by
  by_cases empty : text = []
  · subst empty
    simp [replaceRange, lines]
  · have cut : lines text ≠ [] := fun none => empty (lines_eq_nil.mp none)
    have some := List.length_pos_iff.mpr cut
    have begun := offset_locate_positionAt encoding empty (Nat.le_trans ordered within) begins
    have ended := offset_locate_positionAt encoding empty within ends
    have lines_le := line_positionAt_le encoding text ordered
    have start := line_locate encoding (lines text) (positionAt encoding text first)
    have stop := line_locate encoding (lines text) (positionAt encoding text last)
    have spliced := replaceBetween_eq (locate encoding (lines text) (positionAt encoding text first))
      (locate encoding (lines text) (positionAt encoding text last)) new 0 _ _ (lines text)
      (Nat.zero_add _).symm (Nat.zero_add _).symm (by omega) (by omega)
    rw [begun, ended, flatten_lines] at spliced
    rw [← spliced, replaceRange]
    split
    · next none => exact absurd none cut
    · rfl

/-- Edits that splice: each goes from the position of an offset to that of another one in the text that
the edits before it leave, and parts no carriage return from its line feed. -/
inductive Splices (encoding : Encoding) : List Char → List Edit → List Char → Prop where
  | done (text : List Char) : Splices encoding text [] text
  | next {text : List Char} (first last : Nat) (new : String) {edits : List Edit} {result : List Char}
      (ordered : first ≤ last) (within : last ≤ text.length)
      (begins : partsReturn text first = false) (ends : partsReturn text last = false)
      (others : Splices encoding (text.take first ++ new.toList ++ text.drop last) edits result) :
      Splices encoding text
        (.part ⟨positionAt encoding text first, positionAt encoding text last⟩ new :: edits) result

private theorem Splices.applyEdits {encoding : Encoding} {text result : List Char} {edits : List Edit}
    (splices : Splices encoding text edits result) :
    Text.applyEdits encoding (String.ofList text) edits = String.ofList result := by
  induction splices with
  | done => rfl
  | next first last new ordered within begins ends others step =>
    rw [Text.applyEdits, List.foldl_cons, Edit.apply, String.toList_ofList,
      replaceRange_positionAt encoding ordered within begins ends]
    exact step

end Text

namespace Store

/-- A change that splices is made as it is meant, in the encoding of the store or else in utf-16. -/
theorem changes_splice (encoding : Option Text.Encoding) (calls : List StoreCall) {uri : String}
    {document : Document} (held : (Store.applyAll { encoding } calls).get? uri = some document)
    {version : Json} (accepted : document.accepts version = .ok true) {edits : List Text.Edit}
    {result : List Char}
    (splices : Text.Splices (encoding.getD .utf16) document.text.toList edits result) :
    ∃ later made, (Store.applyAll { encoding } calls).changed uri version edits = .ok (later, some made) ∧
      later.get? uri = some made ∧ made.version = version ∧ made.text.toList = result := by
  have follows := follows_applyAll encoding calls
  have counted : document.encoding = encoding.getD .utf16 := by
    have recorded := follows.records uri
    rw [held] at recorded
    obtain ⟨course, _, same⟩ := Option.map_eq_some_iff.mp recorded.symm
    rw [← same]
    rfl
  refine ⟨_, _, changed_of_accepts held accepted edits, get?_updated_self _ uri _, rfl, ?_⟩
  have made := splices.applyEdits
  rw [String.ofList_toList, ← counted] at made
  exact (congrArg String.toList made).trans String.toList_ofList

/-- What follows a character of two units is replaced from its carriage return on, and a line is begun at
the end that this leaves. -/
theorem twoEdits_splice :
    ∃ later made,
      (Store.applyAll {} [.opening "file:///a.hz" "a😀\r\nb\u2028" (some 1) .null]).changed
          "file:///a.hz" (.int 2) [.part ⟨⟨0, 3⟩, ⟨2, 0⟩⟩ "é\n", .part ⟨⟨1, 0⟩, ⟨1, 0⟩⟩ "Z"] =
          .ok (later, some made) ∧
        later.get? "file:///a.hz" = some made ∧ made.version = .int 2 ∧
        made.text.toList = "a😀é\nZ".toList := by
  refine changes_splice none [.opening "file:///a.hz" "a😀\r\nb\u2028" (some 1) .null] rfl rfl ?_
  refine .next 2 6 "é\n" (by decide) (by decide) rfl rfl ?_
  refine .next 4 4 "Z" (by decide) (by decide) rfl rfl ?_
  exact .done _

end Store

end HazeServer
