import Storekeeper.Proofs.Product.Joining
import Storekeeper.Proofs.Text.Lowering

/-!
# Fields shown and read again

Fields are shown as lines `key: value`.  What can be shown so that it is read again as it was is exactly what
is ever read: keys without a colon, in lower case, and keys and values of one line each, not empty and without
blanks at their ends.

* `fieldLines_listing`: fields that can be shown are read as they were shown, one by one.
* `fieldOfLine?_isKey`: what a line gives as a key can be shown.  That this is so rests on what lowering
  leaves of a text and does not bring into it (`Text.lowerChars_lowerChars`, `Text.trim_lowerChars`).
* `parseFields_listing`: showing and reading, in both directions.
-/

namespace Storekeeper

/-! ## What can be shown -/

/-- The text can be shown as a key: it is one line without a colon that is not empty, has no blanks at its
ends and is in lower case. -/
structure IsKey (key : String) : Prop where
  some : key ≠ ""
  noColon : ':' ∉ key.toList
  noBreak : Text.IsRow key
  stripped : Text.strip key = key
  lowered : Text.lower key = key

instance (key : String) : Decidable (IsKey key) :=
  decidable_of_iff
    (key ≠ "" ∧ ':' ∉ key.toList ∧ Text.IsRow key ∧ Text.strip key = key ∧ Text.lower key = key)
    ⟨fun ⟨given, noColon, noBreak, stripped, lowered⟩ => ⟨given, noColon, noBreak, stripped, lowered⟩,
      fun key => ⟨key.some, key.noColon, key.noBreak, key.stripped, key.lowered⟩⟩

/-- The fields have different keys, and all of them can be shown. -/
structure Table.IsNormal (fields : Table String) : Prop where
  distinct : fields.names.Nodup
  keys : ∀ field ∈ fields, IsKey field.1
  values : ∀ field ∈ fields, Text.IsLine field.2

instance (fields : Table String) : Decidable fields.IsNormal :=
  decidable_of_iff
    (fields.names.Nodup ∧ (∀ field ∈ fields, IsKey field.1) ∧ ∀ field ∈ fields, Text.IsLine field.2)
    ⟨fun ⟨distinct, keys, values⟩ => ⟨distinct, keys, values⟩,
      fun normal => ⟨normal.distinct, normal.keys, normal.values⟩⟩

/-- The line that shows a field. -/
def fieldLine (field : String × String) : String :=
  field.1 ++ ": " ++ field.2

/-- The lines that show some fields, joined in their order. -/
def Table.listing (fields : Table String) : String :=
  "\n".intercalate (fields.map fieldLine)

/-! ## What is shown is read -/

theorem gives_fieldLine {field : String × String} (key : IsKey field.1) (value : Text.IsLine field.2) :
    Gives (fieldLine field) field.1 field.2 where
  cut := by
    refine ⟨field.1, " " ++ field.2, ?_, key.noColon, ?_, ?_⟩
    · unfold fieldLine
      rw [String.append_assoc, String.append_assoc]
      rfl
    · rw [key.stripped, key.lowered]
    · rw [Text.strip_blank, value.stripped]
  keyed := key.some
  valued := value.some

theorem isRow_fieldLine {field : String × String} (key : IsKey field.1) (value : Text.IsLine field.2) :
    Text.IsRow (fieldLine field) := by
  intro c member
  unfold fieldLine at member
  rw [String.toList_append, String.toList_append, List.mem_append, List.mem_append] at member
  rcases member with (before | mark) | after
  · exact key.noBreak c before
  · have clear : Text.IsRow ": " := by decide
    exact clear c mark
  · exact value.noBreak c after

/-- Fields that can be shown are read as they were shown. -/
theorem fieldLines_listing {fields : Table String} (normal : fields.IsNormal) :
    fieldLines fields.listing = fields := by
  have single : ∀ field ∈ fields, fieldLines (fieldLine field) = [field] := by
    intro field member
    have key := normal.keys field member
    have value := normal.values field member
    rw [fieldLines_row (isRow_fieldLine key value),
      fieldOfLine?_eq_some_iff.mpr (gives_fieldLine key value)]
    rfl
  unfold Table.listing
  rw [fieldLines_intercalate, List.flatMap_map, List.flatMap_congr single]
  exact List.flatMap_singleton' fields

theorem parseFields_listing_self {fields : Table String} (normal : fields.IsNormal) :
    parseFields fields.listing = fields := by
  rw [parseFields_eq, fieldLines_listing normal]
  exact Table.overlay_eq_append normal.distinct

theorem Table.IsNormal.perm {fields order : Table String} (normal : fields.IsNormal)
    (shuffled : order.Perm fields) : order.IsNormal where
  distinct := (shuffled.map Prod.fst).nodup_iff.mpr normal.distinct
  keys := fun field member => normal.keys field (shuffled.mem_iff.mp member)
  values := fun field member => normal.values field (shuffled.mem_iff.mp member)

/-! ## What is read can be shown -/

/-- What a line gives as the key of a field can be shown as one. -/
theorem fieldOfLine?_isKey {line : List Char} (noBreak : ∀ c ∈ line, Text.isBreak c = false)
    {field : String × String} (found : fieldOfLine? line = some field) : IsKey field.1 := by
  obtain ⟨key, value, rfl, noColon, keyed, -, rfl⟩ := fieldOfLine?_eq_some.mp found
  have inner : ∀ c ∈ Text.trim key, Text.isBreak c = false :=
    fun c member => noBreak c (List.mem_append_left _ (Text.mem_of_mem_trim member))
  refine ⟨fun empty => keyed (String.ofList_eq_empty_iff.mp empty), ?_, fun c member => ?_, ?_, ?_⟩
  · rw [String.toList_ofList]
    exact Text.noColon_lowerChars fun member => noColon (Text.mem_of_mem_trim member)
  · rw [String.toList_ofList] at member
    exact Text.noBreak_lowerChars inner c member
  · unfold Text.strip
    rw [String.toList_ofList, Text.trim_lowerChars (Text.trim_trim key)]
  · unfold Text.lower
    rw [String.toList_ofList, Text.lowerChars_lowerChars]

theorem parseFields_isNormal (text : String) : (parseFields text).IsNormal := by
  have given : ∀ field ∈ parseFields text, ∃ line,
      (∀ c ∈ line, Text.isBreak c = false) ∧ fieldOfLine? line = some field :=
    fun field member => fieldLines_given (mem_fieldLines (Table.get?_of_mem (parseFields_nodup text) member))
  refine ⟨parseFields_nodup text, fun field member => ?_, fun field member => ?_⟩
  · obtain ⟨line, noBreak, gives⟩ := given field member
    exact fieldOfLine?_isKey noBreak gives
  · obtain ⟨line, noBreak, gives⟩ := given field member
    exact fieldOfLine?_isLine noBreak gives

/-- **Showing and reading.**  Fields that can be shown are read again as they were from the lines that show
them, in whatever order these are joined; and all that is ever read can be shown, so that to show it and to
read it again changes nothing. -/
theorem parseFields_listing {fields order : Table String} (normal : fields.IsNormal)
    (shuffled : order.Perm fields) :
    (parseFields order.listing = order ∧
      ∀ key, (parseFields order.listing).get? key = fields.get? key) ∧
      ∀ text, (parseFields text).IsNormal ∧
        parseFields (parseFields text).listing = parseFields text := by
  have read := parseFields_listing_self (normal.perm shuffled)
  refine ⟨⟨read, fun key => ?_⟩, fun text => ⟨parseFields_isNormal text,
    parseFields_listing_self (parseFields_isNormal text)⟩⟩
  rw [read, Table.get?_perm normal.distinct shuffled]

/-- Colons and inner blanks in a value, a key that ends with a final sigma, in the other order. -/
theorem parseFields_listing_sigma :
    let fields := [("price", "5: or  6"), ("όνομας", "Λ\u200B")]
    let order := [("όνομας", "Λ\u200B"), ("price", "5: or  6")]
    Table.IsNormal fields ∧ order.Perm fields ∧ parseFields (Table.listing order) = order ∧
      parseFields (parseFields "ΌΝΟΜΑΣ : Λ\u200B\u00A0").listing = parseFields "ΌΝΟΜΑΣ : Λ\u200B\u00A0" := by
  intro fields order
  have normal : Table.IsNormal fields := by decide +kernel
  have shuffled : order.Perm fields := List.Perm.swap ..
  obtain ⟨⟨read, -⟩, again⟩ := parseFields_listing normal shuffled
  exact ⟨normal, shuffled, read, (again _).2⟩

end Storekeeper
