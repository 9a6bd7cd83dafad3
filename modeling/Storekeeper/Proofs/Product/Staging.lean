import Storekeeper.Dialogue.Run
import Storekeeper.Proofs.Checked.Reading
import Storekeeper.Proofs.Table

/-!
# What is staged is found again

A product or an image that has been put into a context is what is read from it later, and merging
fields into a product replaces exactly what they give a valid value for.

* `StagedProduct.ofContext_toContext`, `StagedImage.ofContext_toContext`: what was put in comes out;
  only an image without an address is lost, and none without an address is ever found
  (`StagedImage.url_ne_empty`).
* `mergeFields_ok` says what a product is after a merge, and `mergeFields_error` when there is no
  product: a stock count with too many digits is the only failure.
-/

namespace Storekeeper

namespace Checked

/-- A text that has to be there is there. -/
theorem required_text {members : Table Json} {name text : String}
    (read : required members [name] Checked.text = .ok text) : members.get? name = some (.str text) := by
  obtain ⟨value, found, read⟩ := required_ok read
  cases value with
  | str s =>
    cases read
    exact found
  | _ => cases read

end Checked

namespace StagedProduct

theorem get?_member {α : Type} (name other : String) (encode : α → Json) (value? : Option α) :
    Table.get? (member name encode value?) other =
      if name = other then value?.map encode else none := by
  cases value? with
  | none => simp [member]
  | some value => simp [member, Table.get?_cons]

/-- The members of a staged product, as it is kept in a context. -/
def members (p : StagedProduct) : Table Json :=
  member "name" .str p.name ++ member "price" .num p.price ++ member "stock" .int p.stock ++
    member "description" .str p.description ++ member "sku" .str p.sku

theorem members_get? (p : StagedProduct) :
    p.members.get? "name" = p.name.map .str ∧ p.members.get? "price" = p.price.map .num ∧
      p.members.get? "stock" = p.stock.map .int ∧
      p.members.get? "description" = p.description.map .str ∧
      p.members.get? "sku" = p.sku.map .str := by
  simp [members, Table.get?_append, get?_member]

theorem ofContext_toContext (p : StagedProduct) : ofContext (some p.toContext) = .ok p := by
  obtain ⟨name, price, stock, description, sku⟩ := p.members_get?
  have reads : read (.obj p.members) = .ok p := by
    unfold read Checked.record
    dsimp only
    rw [Checked.optionalMember_written name fun _ => rfl,
      Checked.optionalMember_written price fun _ => rfl,
      Checked.optionalMember_written stock fun _ => rfl,
      Checked.optionalMember_written description fun _ => rfl,
      Checked.optionalMember_written sku fun _ => rfl]
    rfl
  change ofContext (some (.obj p.members)) = .ok p
  unfold ofContext
  simp only [reads]

end StagedProduct

namespace StagedImage

/-- The members of a staged image, as it is kept in a context. -/
def members (image : StagedImage) : Table Json :=
  ("url", .str image.url) :: (image.mimeType.map fun mime => ("mimeType", Json.str mime)).toList

/-- The image that was put into a context is the one that is found there, unless it has no
address. -/
theorem ofContext_toContext (image : StagedImage) :
    ofContext (some image.toContext) = .ok ((some image).filter (!·.url.isEmpty)) := by
  have address : Json.getD image.members "url" = .str image.url := by
    simp [members, Json.getD, Table.get?_cons]
  have reads : read (.obj image.members) = .ok image := by
    obtain ⟨url, mimeType⟩ := image
    cases mimeType <;> rfl
  change ofContext (some (.obj image.members)) = _
  simp only [ofContext, address, reads]
  cases void : image.url.isEmpty <;> simp [Json.isVoid, void, Option.filter]

/-- An image that is found in a context has an address. -/
theorem url_ne_empty {held? : Option Json} {image : StagedImage}
    (found : ofContext held? = .ok (some image)) : image.url ≠ "" := by
  unfold ofContext at found
  split at found
  · rename_i members
    split at found
    · cases found
    · rename_i given
      split at found
      · rename_i reads
        cases found
        obtain ⟨make, mimeType, start, -, same⟩ := Checked.seq_ok reads
        obtain ⟨url, address, rfl⟩ := Checked.map_ok start
        subst same
        intro empty
        apply given
        unfold Json.getD
        rw [Checked.required_text address]
        change url = "" at empty
        rw [empty]
        rfl
      · cases found
  · cases found

end StagedImage

/-! ## What a merge accepts -/

section Merge

/-- The name that fields give, if it is one. -/
def acceptedName? (fields : Table String) : Option String :=
  ((fields.get? "name").map Text.strip).filter (!·.isEmpty)

/-- The price that fields give, if it is one. -/
def acceptedPrice? (fields : Table String) : Option Decimal.Binary64 :=
  (fields.get? "price").bind parsePrice

/-- The stock count that fields give, if it is one. -/
def acceptedStock? (fields : Table String) : Option Int :=
  (stockField? fields).bind fun value => (parseStock value).toOption.join

/-- The product with every value that fields give and that is accepted. -/
def StagedProduct.accepting (p : StagedProduct) (fields : Table String) : StagedProduct where
  name := acceptedName? fields <|> p.name
  price := acceptedPrice? fields <|> p.price
  stock := acceptedStock? fields <|> p.stock
  description := fields.get? "description" <|> p.description
  sku := p.sku

/-- The complaint about a value that is given and not accepted. -/
def complaintAbout {α : Type} (given : Option String) (accepted : Option α) (text : String) :
    List String :=
  if given.isSome && accepted.isNone then [text] else []

/-- The complaints about the values that fields give and that are not accepted. -/
def rejections (messages : Messages) (fields : Table String) : List String :=
  complaintAbout (fields.get? "name") (acceptedName? fields)
      (messages.get "validation_error_name") ++
    complaintAbout (fields.get? "price") (acceptedPrice? fields)
      (messages.get "validation_error_price") ++
    complaintAbout (stockField? fields) (acceptedStock? fields)
      (messages.get "validation_error_stock")

/-- The value is written like a stock count, but with more digits than are read. -/
structure IsOverlong (value : String) : Prop where
  digits : (dropPlus value.toList).all Text.isAsciiDigit = true
  tooMany : 4300 < (dropPlus value.toList).length

theorem parseStock_error {value : String} {failure : Failure} :
    parseStock value = .error failure ↔ failure = .integerTooLong ∧ IsOverlong value := by
  have parsed : parseStock value =
      if (dropPlus value.toList).isEmpty || !(dropPlus value.toList).all Text.isAsciiDigit then
        .ok none
      else if 4300 < (dropPlus value.toList).length then .error .integerTooLong
      else .ok (some (Text.ofDigits ((dropPlus value.toList).filterMap Text.asciiDigit?))) := rfl
  rw [parsed]
  constructor
  · intro failed
    split at failed
    · cases failed
    · rename_i digits
      split at failed
      · rename_i tooMany
        cases failed
        simp only [Bool.or_eq_true, Bool.not_eq_true', not_or, Bool.not_eq_false] at digits
        exact ⟨rfl, digits.2, tooMany⟩
      · cases failed
  · rintro ⟨rfl, digits, tooMany⟩
    have present : (dropPlus value.toList).isEmpty = false := by
      rw [List.isEmpty_eq_false_iff]
      intro none
      rw [none] at tooMany
      cases tooMany
    simp [present, digits, tooMany]

variable {messages : Messages} {existing : StagedProduct} {fields : Table String}
  {m merged : Merged}

theorem mergeName_eq : mergeName messages fields m =
    { product := { m.product with name := acceptedName? fields <|> m.product.name }
      errors := m.errors ++ complaintAbout (fields.get? "name") (acceptedName? fields)
        (messages.get "validation_error_name") } := by
  unfold mergeName acceptedName?
  cases fields.get? "name" with
  | none => simp [complaintAbout]
  | some value =>
    cases blank : (Text.strip value).isEmpty <;> simp [blank, Option.filter, complaintAbout]

theorem mergePrice_eq : mergePrice messages fields m =
    { product := { m.product with price := acceptedPrice? fields <|> m.product.price }
      errors := m.errors ++ complaintAbout (fields.get? "price") (acceptedPrice? fields)
        (messages.get "validation_error_price") } := by
  unfold mergePrice acceptedPrice?
  cases fields.get? "price" with
  | none => simp [complaintAbout]
  | some value => cases parsed : parsePrice value <;> simp [parsed, complaintAbout]

theorem mergeDescription_eq : mergeDescription fields m =
    { m with product := { m.product with
        description := fields.get? "description" <|> m.product.description } } := by
  unfold mergeDescription
  cases fields.get? "description" <;> rfl

theorem mergeStock_ok (done : mergeStock messages fields m = .ok merged) : merged =
    { product := { m.product with stock := acceptedStock? fields <|> m.product.stock }
      errors := m.errors ++ complaintAbout (stockField? fields) (acceptedStock? fields)
        (messages.get "validation_error_stock") } := by
  unfold mergeStock at done
  unfold acceptedStock?
  cases given : stockField? fields with
  | none =>
    rw [given] at done
    cases done
    simp [complaintAbout]
  | some value =>
    rw [given] at done
    cases parsed : parseStock value with
    | error failure =>
      simp only [parsed] at done
      cases done
    | ok stock? =>
      simp only [parsed] at done
      cases stock? <;> cases done <;> simp [parsed, Except.toOption, complaintAbout]

theorem mergeStock_error {failure : Failure} : mergeStock messages fields m = .error failure ↔
    failure = .integerTooLong ∧ ∃ value, stockField? fields = some value ∧ IsOverlong value := by
  unfold mergeStock
  cases given : stockField? fields with
  | none => simp
  | some value =>
    have reduced : ∀ other, some value = some other ∧ IsOverlong other ↔
        value = other ∧ IsOverlong other := by simp
    simp only [reduced, exists_eq_left', ← parseStock_error]
    cases parseStock value with
    | error other => simp [Bind.bind, Except.bind]
    | ok stock? => cases stock? <;> simp [Bind.bind, Except.bind, Pure.pure, Except.pure]

theorem mergeFields_eq (messages : Messages) (existing : StagedProduct) (fields : Table String) :
    mergeFields messages existing fields =
      (mergeStock messages fields
        (mergePrice messages fields (mergeName messages fields ⟨existing, []⟩))).map
          (mergeDescription fields) := by
  change (mergeStock _ _ _).bind (fun m => .ok (mergeDescription fields m)) = _
  cases mergeStock messages fields
    (mergePrice messages fields (mergeName messages fields ⟨existing, []⟩)) <;> rfl

/-- A merge puts in what is accepted, and complains about what is given and not accepted. -/
theorem mergeFields_ok (done : mergeFields messages existing fields = .ok merged) :
    merged.product = existing.accepting fields ∧ merged.errors = rejections messages fields := by
  rw [mergeFields_eq] at done
  cases counted : mergeStock messages fields
      (mergePrice messages fields (mergeName messages fields ⟨existing, []⟩)) with
  | error failure =>
    rw [counted] at done
    cases done
  | ok m =>
    rw [counted] at done
    cases done
    rw [mergeDescription_eq, mergeStock_ok counted, mergePrice_eq, mergeName_eq]
    exact ⟨rfl, by simp [rejections]⟩

/-- A merge fails only because of a stock count with too many digits. -/
theorem mergeFields_error {failure : Failure} :
    mergeFields messages existing fields = .error failure ↔
      failure = .integerTooLong ∧ ∃ value, stockField? fields = some value ∧ IsOverlong value := by
  rw [mergeFields_eq, ← mergeStock_error]
  cases mergeStock messages fields
      (mergePrice messages fields (mergeName messages fields ⟨existing, []⟩)) with
  | error other => simp [Except.map]
  | ok m => simp [Except.map]

end Merge

end Storekeeper
