import Storekeeper.Product.Fields
import Storekeeper.Proofs.Table
import Storekeeper.Proofs.Text.Lowering

/-!
# Fields of a message

* `parseFields_line`: characters that are neither breaks nor blanks, and in lower case already, pass
  through the reading of a message as they are, so that a message of one line gives the field that it
  shows.
* `fieldLines`: what a message gives line by line; `mem_fieldLines` says that what is read comes from a line.
* `parseFields_isLine`: whatever the message, each value that it gives is one line that is not empty and
  has no blanks at its ends.
-/

namespace Storekeeper

/-- A line that is cut at its first colon gives what stands before it and after it. -/
theorem fieldOfLine?_cut {key value : List Char} (noColon : ':' ∉ key) :
    fieldOfLine? (key ++ ':' :: value) =
      if Text.lowerChars (Text.trim key) = [] ∨ Text.trim value = [] then none
      else some (String.ofList (Text.lowerChars (Text.trim key)), String.ofList (Text.trim value)) := by
  have other : ∀ c ∈ key, (c != ':') = true := by
    intro c member
    rw [bne_iff_ne]
    rintro rfl
    exact noColon member
  have after : (key ++ ':' :: value).dropWhile (· != ':') = ':' :: value := by
    rw [List.dropWhile_append_of_pos other]
    rfl
  have before : (key ++ ':' :: value).takeWhile (· != ':') = key := by
    rw [List.takeWhile_append_of_pos other, List.takeWhile_cons_of_neg (by simp), List.append_nil]
  unfold fieldOfLine?
  rw [after, before]
  simp

theorem fieldOfLine?_noColon {line : List Char} (noColon : ':' ∉ line) : fieldOfLine? line = none := by
  have none : line.dropWhile (· != ':') = [] := by
    rw [List.dropWhile_eq_nil_iff]
    intro c member
    rw [bne_iff_ne]
    rintro rfl
    exact noColon member
  unfold fieldOfLine?
  rw [none]

theorem fieldOfLine?_eq_some {line : List Char} {field : String × String} :
    fieldOfLine? line = some field ↔ ∃ key value, line = key ++ ':' :: value ∧ ':' ∉ key ∧
      Text.lowerChars (Text.trim key) ≠ [] ∧ Text.trim value ≠ [] ∧
      field = (String.ofList (Text.lowerChars (Text.trim key)), String.ofList (Text.trim value)) := by
  constructor
  · intro found
    by_cases colon : ':' ∈ line
    · obtain ⟨key, value, whole, noColon⟩ := List.eq_append_cons_of_mem colon
      rw [whole, fieldOfLine?_cut noColon] at found
      split at found
      · cases found
      · rename_i given
        obtain ⟨keyed, valued⟩ := not_or.mp given
        exact ⟨key, value, whole, noColon, keyed, valued, (Option.some.inj found).symm⟩
    · rw [fieldOfLine?_noColon colon] at found
      cases found
  · rintro ⟨key, value, rfl, noColon, keyed, valued, rfl⟩
    rw [fieldOfLine?_cut noColon, if_neg (not_or.mpr ⟨keyed, valued⟩)]

/-- A text of one line gives one field. -/
theorem parseFields_line {key value : List Char}
    (noBreak : ∀ c ∈ key ++ ':' :: value, Text.isBreak c = false) (noColon : ':' ∉ key)
    (keyed : Text.lowerChars (Text.trim key) ≠ []) (valued : Text.trim value ≠ []) :
    parseFields (String.ofList (key ++ ':' :: value)) =
      [(String.ofList (Text.lowerChars (Text.trim key)), String.ofList (Text.trim value))] := by
  have field := fieldOfLine?_eq_some.mpr ⟨key, value, rfl, noColon, keyed, valued, rfl⟩
  unfold parseFields
  rw [String.toList_ofList, Text.lines_of_noBreak noBreak (by simp)]
  simp [field, Table.put]

/-- What a line gives as the value of a field is a line itself. -/
theorem fieldOfLine?_isLine {line : List Char} (noBreak : ∀ c ∈ line, Text.isBreak c = false)
    {field : String × String} (found : fieldOfLine? line = some field) : Text.IsLine field.2 := by
  obtain ⟨key, value, rfl, -, -, valued, rfl⟩ := fieldOfLine?_eq_some.mp found
  refine ⟨fun empty => valued (String.ofList_eq_empty_iff.mp empty), ?_, fun c member => ?_⟩
  · unfold Text.strip
    rw [String.toList_ofList, Text.trim_trim]
  · rw [String.toList_ofList] at member
    exact noBreak c (List.mem_append_right _ (List.mem_cons_of_mem _ (Text.mem_of_mem_trim member)))

/-! ## A message line by line -/

/-- The fields that a text gives line by line, in their order. -/
def fieldLines (text : String) : Table String :=
  (Text.lines text.toList).filterMap fieldOfLine?

theorem parseFields_eq (text : String) : parseFields text = Table.overlay [] (fieldLines text) :=
  rfl

theorem fieldLines_given {text : String} {field : String × String} (member : field ∈ fieldLines text) :
    ∃ line, (∀ c ∈ line, Text.isBreak c = false) ∧ fieldOfLine? line = some field := by
  obtain ⟨line, isLine, gives⟩ := List.mem_filterMap.mp member
  exact ⟨line, Text.lines_noBreak line isLine, gives⟩

theorem fieldLines_row {line : String} (row : Text.IsRow line) :
    fieldLines line = (fieldOfLine? line.toList).toList := by
  unfold fieldLines
  by_cases empty : line.toList = []
  · rw [empty]
    rfl
  · rw [Text.lines_of_noBreak row empty]
    cases given : fieldOfLine? line.toList <;> simp [given]

/-- No name is given twice by what is read of a message. -/
theorem parseFields_nodup (text : String) : (parseFields text).names.Nodup :=
  Table.nodup_overlay Table.nodup_nil _

theorem mem_fieldLines {text key value : String} (found : (parseFields text).get? key = some value) :
    (key, value) ∈ fieldLines text := by
  rw [parseFields_eq] at found
  exact (Table.get?_overlay_some found).resolve_right nofun

/-- Each value that a message gives is one line that is not empty, without blanks at its ends. -/
theorem parseFields_isLine {text key value : String}
    (found : (parseFields text).get? key = some value) : Text.IsLine value := by
  obtain ⟨line, noBreak, gives⟩ := fieldLines_given (mem_fieldLines found)
  exact fieldOfLine?_isLine noBreak gives

end Storekeeper
