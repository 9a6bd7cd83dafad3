import Storekeeper.Proofs.Product.Supply

/-!
# Messages joined

Two messages that are joined by a line feed give what both give, the second over the first, whatever breaks
they end with: a carriage return at the end of the first one and the line feed are one break, and any other
break at the end leaves an empty line, which gives nothing.

* `parseFields_join`: what joined messages give; their lines are those of both (`Text.filterMap_lines_join`), and
  what they give is put over each other in any grouping (`Table.overlay_overlay`).
* `parseFields_joined`: this for any number of messages, and what lines give for a key.
* `mergeFields_joined`: a product takes up one message or two to the same effect.
-/

namespace Storekeeper

/-! ## Fields of joined messages -/

theorem fieldLines_join (first second : String) :
    fieldLines (first ++ "\n" ++ second) = fieldLines first ++ fieldLines second := by
  unfold fieldLines
  have characters : (first ++ "\n" ++ second).toList = first.toList ++ '\n' :: second.toList := by
    simp
  rw [characters]
  exact Text.filterMap_lines_join rfl _ _

/-- What joined messages give is what both give, the second over the first. -/
theorem parseFields_join (first second : String) : parseFields (first ++ "\n" ++ second) =
    (parseFields first).overlay (parseFields second) := by
  calc parseFields (first ++ "\n" ++ second)
      = Table.overlay [] (fieldLines first ++ fieldLines second) := by
        rw [parseFields_eq, fieldLines_join]
    _ = (parseFields first).overlay (fieldLines second) := Table.overlay_append ..
    _ = (parseFields first).overlay (parseFields second) :=
        (Table.overlay_overlay Table.nodup_nil ..).symm

theorem supplied?_join (first second key : String) : supplied? (first ++ "\n" ++ second) key =
    (supplied? second key <|> supplied? first key) := by
  rw [supplied?_eq, fieldLines_join, List.reverse_append, Table.get?_append]
  rfl

/-- Any number of messages may be joined. -/
theorem fieldLines_intercalate (texts : List String) :
    fieldLines ("\n".intercalate texts) = texts.flatMap fieldLines := by
  induction texts with
  | nil => rfl
  | cons text rest ih =>
    cases rest with
    | nil => simp
    | cons next rest =>
      rw [String.intercalate_cons_cons, fieldLines_join, ih]
      rfl

/-- Of messages that are joined, the last one that supplies a value counts. -/
theorem supplied?_intercalate (texts : List String) (key : String) :
    supplied? ("\n".intercalate texts) key = texts.reverse.findSome? (supplied? · key) := by
  rw [supplied?_eq, fieldLines_intercalate, List.reverse_flatMap, Table.get?_flatMap]
  rfl

/-! ## Fields line by line -/

/-- A line gives a value for a key: the key is what stands before its first colon, in lower case, and the
value is what stands after it, both without the blanks at their ends and not empty. -/
structure Gives (line key value : String) : Prop where
  cut : ∃ before after : String, line = before ++ ":" ++ after ∧ ':' ∉ before.toList ∧
    key = Text.lower (Text.strip before) ∧ value = Text.strip after
  keyed : key ≠ ""
  valued : value ≠ ""

theorem fieldOfLine?_eq_some_iff {line key value : String} :
    fieldOfLine? line.toList = some (key, value) ↔ Gives line key value := by
  rw [fieldOfLine?_eq_some]
  constructor
  · rintro ⟨before, after, whole, noColon, keyed, valued, same⟩
    obtain ⟨rfl, rfl⟩ := Prod.mk.inj same
    refine ⟨⟨String.ofList before, String.ofList after, ?_, ?_, ?_, ?_⟩, ?_, ?_⟩
    · apply String.toList_inj.mp
      simp [whole]
    · rwa [String.toList_ofList]
    · simp [Text.lower, Text.strip]
    · simp [Text.strip]
    · exact fun empty => keyed (String.ofList_eq_empty_iff.mp empty)
    · exact fun empty => valued (String.ofList_eq_empty_iff.mp empty)
  · rintro ⟨⟨before, after, rfl, noColon, rfl, rfl⟩, keyed, valued⟩
    refine ⟨before.toList, after.toList, by simp, noColon, ?_, ?_, ?_⟩
    · rintro empty
      exact keyed (by simp [Text.lower, Text.strip, empty])
    · rintro empty
      exact valued (by simp [Text.strip, empty])
    · simp [Text.lower, Text.strip]

/-- A line supplies what it gives. -/
theorem supplied?_row {line key value : String} (row : Text.IsRow line) :
    supplied? line key = some value ↔ Gives line key value := by
  rw [supplied?_eq, fieldLines_row row, ← fieldOfLine?_eq_some_iff]
  cases fieldOfLine? line.toList with
  | none => simp
  | some field =>
    obtain ⟨name, given⟩ := field
    by_cases same : name = key <;> simp [Table.get?_cons, same]

/-- **Messages joined.**  What two messages give that are joined by a line feed is what both give, the second
over the first, whatever they consist of and whatever breaks they end with; of any number of messages the last
one counts that gives a value for a key, and of any lines the last one that has this key and a value. -/
theorem parseFields_joined {lines : List String} (rows : ∀ line ∈ lines, Text.IsRow line) :
    (∀ first second : String,
      parseFields (first ++ "\n" ++ second) = (parseFields first).overlay (parseFields second) ∧
        ∀ key, (parseFields (first ++ "\n" ++ second)).get? key =
          ((parseFields second).get? key <|> (parseFields first).get? key)) ∧
      (∀ (texts : List String) (key : String), (parseFields ("\n".intercalate texts)).get? key =
        texts.reverse.findSome? fun text => (parseFields text).get? key) ∧
      ∀ key value : String, (parseFields ("\n".intercalate lines)).get? key = some value ↔
        ∃ earlier line later, lines = earlier ++ line :: later ∧ Gives line key value ∧
          ∀ other ∈ later, ∀ value, ¬Gives other key value := by
  simp only [parseFields_get?]
  refine ⟨fun first second => ⟨parseFields_join first second, supplied?_join first second⟩,
    supplied?_intercalate, fun key value => ?_⟩
  have silent : ∀ line ∈ lines, supplied? line key = none ↔ ∀ value, ¬Gives line key value := by
    intro line member
    simp only [Option.eq_none_iff_forall_ne_some, Ne, supplied?_row (rows line member)]
  rw [supplied?_intercalate, List.findSome?_eq_some_iff]
  constructor
  · rintro ⟨later, line, earlier, whole, gives, none⟩
    have parts : lines = earlier.reverse ++ line :: later.reverse := by
      rw [← List.reverse_reverse lines, whole]
      simp
    have member : line ∈ lines := by simp [parts]
    refine ⟨earlier.reverse, line, later.reverse, parts,
      (supplied?_row (rows line member)).mp gives, fun other among => ?_⟩
    have inside : other ∈ lines := by
      rw [parts]
      exact List.mem_append_right _ (List.mem_cons_of_mem _ among)
    exact (silent other inside).mp (none other (List.mem_reverse.mp among))
  · rintro ⟨earlier, line, later, rfl, gives, none⟩
    have member : line ∈ earlier ++ line :: later := by simp
    refine ⟨later.reverse, line, earlier.reverse, by simp,
      (supplied?_row (rows line member)).mpr gives, fun other among => ?_⟩
    have after : other ∈ later := List.mem_reverse.mp among
    have inside : other ∈ earlier ++ line :: later :=
      List.mem_append_right _ (List.mem_cons_of_mem _ after)
    exact (silent other inside).mpr (none other after)

/-- Of the lines with one name in several spellings the last one counts that has a value. -/
theorem parseFields_joined_spellings :
    let lines := ["Name : Lamp", "PRICE: 5", "a line", "NAME: Lamp: 5\t", "name:  "]
    (∀ line ∈ lines, Text.IsRow line) ∧
      (parseFields ("\n".intercalate lines)).get? "name" = some "Lamp: 5" ∧
      (parseFields ("Name: Lamp\r" ++ "\n" ++ "name: Bead")).get? "name" = some "Bead" := by
  intro lines
  have rows : ∀ line ∈ lines, Text.IsRow line := by decide +kernel
  obtain ⟨two, -, each⟩ := parseFields_joined rows
  refine ⟨rows, (each "name" "Lamp: 5").mpr ?_, ?_⟩
  · refine ⟨["Name : Lamp", "PRICE: 5", "a line"], "NAME: Lamp: 5\t", ["name:  "], rfl, ?_, ?_⟩
    · exact ⟨⟨"NAME", " Lamp: 5\t", by decide, by decide, by decide, by decide⟩, by decide, by decide⟩
    · intro other among value gives
      obtain rfl := List.mem_singleton.mp among
      have nothing : fieldOfLine? "name:  ".toList = none := by decide +kernel
      cases nothing.symm.trans (fieldOfLine?_eq_some_iff.mpr gives)
  · rw [(two "Name: Lamp\r" "name: Bead").2 "name"]
    decide +kernel

/-! ## A product that takes up one message or two -/

section Merge

variable {messages : Messages} {existing other : StagedProduct} {first second : String} {merged : Merged}

theorem suppliedStock?_join (first second : String) : suppliedStock? (first ++ "\n" ++ second) =
    ((supplied? second "stock" <|> supplied? first "stock") <|>
      (supplied? second "quantity" <|> supplied? first "quantity")) := by
  unfold suppliedStock?
  rw [supplied?_join, supplied?_join]

/-- The second message gives the stock as a quantity only, after the first one has given it under its own
name. -/
structure Shadows (first second : String) : Prop where
  named : ∃ value, (parseFields first).get? "stock" = some value
  counted : ∃ value, (parseFields second).get? "quantity" = some value
  unnamed : (parseFields second).get? "stock" = none

/-- Unless the name of the stock shadows it, the stock of joined messages is that of the second one if this
one gives any. -/
theorem suppliedStock?_of_not_shadows (apart : ¬Shadows first second) :
    suppliedStock? (first ++ "\n" ++ second) = (suppliedStock? second <|> suppliedStock? first) := by
  rw [suppliedStock?_join]
  unfold suppliedStock?
  cases named : supplied? second "stock" with
  | some value => rfl
  | none =>
    cases counted : supplied? second "quantity" with
    | none => simp
    | some value =>
      have missing : supplied? first "stock" = none := by
        rw [Option.eq_none_iff_forall_ne_some]
        intro given found
        simp only [← parseFields_get?] at found counted named
        exact apart ⟨⟨given, found⟩, ⟨value, counted⟩, named⟩
      simp [missing]

/-- Where the later value is valid, it does not matter whether the earlier one was read before. -/
theorem bind_orElse_of_valid {α β : Type} {later earlier : Option α} {reading : α → Option β}
    {old : Option β} (valid : ∀ value, later = some value → ∃ found, reading value = some found) :
    ((later <|> earlier).bind reading <|> old) =
      (later.bind reading <|> (earlier.bind reading <|> old)) := by
  cases later with
  | none => simp
  | some value =>
    obtain ⟨found, reads⟩ := valid value rfl
    simp [reads]

theorem StagedProduct.withText_join (p : StagedProduct) (valid : SuppliesValid second)
    (apart : ¬Shadows first second) :
    p.withText (first ++ "\n" ++ second) = (p.withText first).withText second := by
  unfold withText
  rw [supplied?_join, supplied?_join, supplied?_join, suppliedStock?_of_not_shadows apart,
    bind_orElse_of_valid valid.price, bind_orElse_of_valid valid.stock]
  simp [Option.or_assoc]

/-- A merge succeeds exactly if the stock is not given with too many digits. -/
theorem mergeFields_isOk (messages : Messages) (existing : StagedProduct) {fields : Table String} :
    (∃ merged, mergeFields messages existing fields = .ok merged) ↔
      ∀ value, stockField? fields = some value → ¬IsOverlong value := by
  cases outcome : mergeFields messages existing fields with
  | ok merged =>
    refine iff_of_true ⟨merged, rfl⟩ fun value given overlong => ?_
    have failed : mergeFields messages existing fields = .error .integerTooLong :=
      mergeFields_error.mpr ⟨rfl, value, given, overlong⟩
    rw [outcome] at failed
    cases failed
  | error failure =>
    obtain ⟨-, value, given, overlong⟩ := mergeFields_error.mp outcome
    exact iff_of_false nofun fun short => short value given overlong

/-- **One message or two.**  A product takes up two messages that are joined as it takes up one after the
other, if there is nothing to complain about in the second one, whatever product it is merged into, and if this
one does not give as a quantity the stock that the first one gives under its own name.  The first one may give
whatever it wants, but no stock count with too many digits. -/
theorem mergeFields_joined (existing : StagedProduct) (apart : ¬Shadows first second)
    (merges : mergeFields messages other (parseFields second) = .ok merged) (clean : merged.errors = [])
    (short : ∀ value, stockField? (parseFields first) = some value → ¬IsOverlong value) :
    ∃ once after twice,
      mergeFields messages existing (parseFields (first ++ "\n" ++ second)) = .ok once ∧
        mergeFields messages existing (parseFields first) = .ok after ∧
        mergeFields messages after.product (parseFields second) = .ok twice ∧
        once.product = twice.product := by
  have valid : SuppliesValid second := by
    have nothing : rejections messages (parseFields second) = [] := (mergeFields_ok merges).2.symm.trans clean
    exact rejections_eq_nil.mp nothing
  have shortLater : ∀ value, stockField? (parseFields second) = some value → ¬IsOverlong value :=
    (mergeFields_isOk messages other).mp ⟨merged, merges⟩
  have shortJoined : ∀ value, stockField? (parseFields (first ++ "\n" ++ second)) = some value →
      ¬IsOverlong value := by
    intro value given
    rw [stockField?_parseFields, suppliedStock?_of_not_shadows apart, Option.orElse_eq_orElse,
      Option.orElse_eq_or, Option.or_eq_some_iff] at given
    simp only [stockField?_parseFields] at short shortLater
    rcases given with later | ⟨-, earlier⟩
    · exact shortLater value later
    · exact short value earlier
  obtain ⟨once, whole⟩ := (mergeFields_isOk messages existing).mpr shortJoined
  obtain ⟨after, start⟩ := (mergeFields_isOk messages existing).mpr short
  obtain ⟨twice, rest⟩ := (mergeFields_isOk messages after.product).mpr shortLater
  refine ⟨once, after, twice, whole, start, rest, ?_⟩
  calc once.product
      = existing.withText (first ++ "\n" ++ second) := by
        rw [(mergeFields_ok whole).1, StagedProduct.accepting_parseFields]
    _ = (existing.withText first).withText second := existing.withText_join valid apart
    _ = twice.product := by
        rw [(mergeFields_ok rest).1, (mergeFields_ok start).1, StagedProduct.accepting_parseFields,
          StagedProduct.accepting_parseFields]

/-- A quantity that is corrected by a stock, after a price that is not accepted. -/
theorem mergeFields_joined_corrected :
    let existing : StagedProduct := ⟨some "Bead", none, some 3, none, none⟩
    let first := "Name: Lamp\nPrice: five\nQuantity: 4\r"
    let second := "stock: 7\nPrice: 5"
    ¬Shadows first second ∧
      (∃ merged, mergeFields defaultMessages .empty (parseFields second) = .ok merged ∧ merged.errors = []) ∧
      ∃ once after twice,
        mergeFields defaultMessages existing (parseFields (first ++ "\n" ++ second)) = .ok once ∧
          mergeFields defaultMessages existing (parseFields first) = .ok after ∧
          mergeFields defaultMessages after.product (parseFields second) = .ok twice ∧
          once.product = twice.product := by
  intro existing first second
  have unnamed : (parseFields first).get? "stock" = none := by decide +kernel
  have apart : ¬Shadows first second := by
    rintro ⟨⟨value, named⟩, -, -⟩
    cases unnamed.symm.trans named
  have short : ∀ text count, stockField? (parseFields text) = some count →
      (dropPlus count.toList).length ≤ 4300 →
        ∀ value, stockField? (parseFields text) = some value → ¬IsOverlong value := by
    intro text count given few value found overlong
    cases given.symm.trans found
    exact absurd overlong.tooMany (Nat.not_lt.mpr few)
  obtain ⟨merged, merges⟩ := (mergeFields_isOk defaultMessages .empty).mpr
    (short second "7" (by decide +kernel) (by decide))
  have clean : merged.errors = [] := (mergeFields_ok merges).2.trans (by decide +kernel)
  exact ⟨apart, ⟨merged, merges, clean⟩, mergeFields_joined existing apart merges clean
    (short first "4" (by decide +kernel) (by decide))⟩

/-- Where the name of the stock shadows the quantity, the order counts. -/
example : Shadows "Stock: 1" "Quantity: 2" ∧
    (mergeFields [] .empty (parseFields ("Stock: 1" ++ "\n" ++ "Quantity: 2"))).map (·.product.stock) =
      .ok (some 1) ∧
    (mergeFields [] { StagedProduct.empty with stock := some 1 } (parseFields "Quantity: 2")).map
      (·.product.stock) = .ok (some 2) :=
  ⟨⟨⟨"1", by decide⟩, ⟨"2", by decide⟩, by decide⟩, rfl, rfl⟩

end Merge

end Storekeeper
