import Storekeeper.Proofs.Product.Fields
import Storekeeper.Proofs.Product.Staging

/-!
# What texts supply for a product

A text supplies for a key what its last line with this key gives.  A product that takes up texts, one after the
other, has of each field the last valid value that one of them supplies, and keeps what it had where none does.

* `parseFields_get?`: the fields of a message are what it supplies.
* `StagedProduct.accepting_parseFields`: merging a message is taking up what it supplies, and
  `rejections_eq_nil` says when there is nothing to complain about.
* `StagedProduct.withTexts_cons`: texts may be taken up one after the other.
-/

namespace Storekeeper

/-- The value that the last line of a text with a key gives. -/
def supplied? (text key : String) : Option String :=
  Table.get? ((Text.lines text.toList).filterMap fieldOfLine?).reverse key

theorem supplied?_eq (text key : String) : supplied? text key = Table.get? (fieldLines text).reverse key :=
  rfl

/-- The value that a text supplies for the stock: under its own name, or else as a quantity. -/
def suppliedStock? (text : String) : Option String :=
  supplied? text "stock" <|> supplied? text "quantity"

/-- The stock count that a value writes. -/
def countOf? (value : String) : Option Int :=
  (parseStock value).toOption.join

/-- A text supplies no value that is not valid for what it is supplied for.  A name is valid whatever it is. -/
structure SuppliesValid (text : String) : Prop where
  price : ∀ value, supplied? text "price" = some value → ∃ price, parsePrice value = some price
  stock : ∀ value, suppliedStock? text = some value → ∃ stock, countOf? value = some stock

namespace StagedProduct

/-- The product with every valid value that a text supplies. -/
def withText (p : StagedProduct) (text : String) : StagedProduct where
  name := supplied? text "name" <|> p.name
  price := (supplied? text "price").bind parsePrice <|> p.price
  stock := (suppliedStock? text).bind countOf? <|> p.stock
  description := supplied? text "description" <|> p.description
  sku := p.sku

/-- The product with the last valid value that some texts supply, field by field. -/
def withTexts (p : StagedProduct) (texts : List String) : StagedProduct where
  name := (texts.reverse.findSome? fun text => supplied? text "name") <|> p.name
  price := (texts.reverse.findSome? fun text => (supplied? text "price").bind parsePrice) <|> p.price
  stock := (texts.reverse.findSome? fun text => (suppliedStock? text).bind countOf?) <|> p.stock
  description := (texts.reverse.findSome? fun text => supplied? text "description") <|> p.description
  sku := p.sku

/-- What a text supplies stands back behind what later ones do. -/
theorem withTexts_cons (p : StagedProduct) (text : String) (texts : List String) :
    p.withTexts (text :: texts) = (p.withText text).withTexts texts := by
  simp [withTexts, withText, List.findSome?_append, Option.or_assoc]

end StagedProduct

section Merge

variable {messages : Messages} {text : String}

theorem parseFields_get? (text key : String) : (parseFields text).get? key = supplied? text key := by
  rw [parseFields_eq, Table.get?_overlay, Table.get?_nil, supplied?_eq]
  simp

theorem stockField?_parseFields (text : String) : stockField? (parseFields text) = suppliedStock? text := by
  unfold stockField? suppliedStock?
  rw [parseFields_get?, parseFields_get?]

/-- A name that a text supplies is accepted, since it is not empty. -/
theorem acceptedName?_parseFields (text : String) :
    acceptedName? (parseFields text) = supplied? text "name" := by
  unfold acceptedName?
  rw [← parseFields_get?]
  cases given : (parseFields text).get? "name" with
  | none => rfl
  | some value =>
    obtain ⟨some, stripped, -⟩ := parseFields_isLine given
    simp [stripped, Option.filter, some]

/-- Merging the fields of a message is taking up what it supplies. -/
theorem StagedProduct.accepting_parseFields (p : StagedProduct) (text : String) :
    p.accepting (parseFields text) = p.withText text := by
  unfold accepting acceptedPrice? acceptedStock?
  rw [acceptedName?_parseFields, stockField?_parseFields, parseFields_get?, parseFields_get?]
  rfl

theorem complaintAbout_eq_nil {α : Type} {given : Option String} {accepted : Option α} :
    complaintAbout given accepted text = [] ↔
      ∀ value, given = some value → ∃ found, accepted = some found := by
  unfold complaintAbout
  cases given <;> cases accepted <;> simp

/-- There is nothing to complain about exactly if all that a message supplies is valid. -/
theorem rejections_eq_nil : rejections messages (parseFields text) = [] ↔ SuppliesValid text := by
  unfold rejections acceptedPrice? acceptedStock?
  rw [acceptedName?_parseFields, stockField?_parseFields, parseFields_get?, parseFields_get?]
  simp only [List.append_eq_nil_iff, complaintAbout_eq_nil]
  constructor
  · rintro ⟨⟨-, price⟩, stock⟩
    refine ⟨fun value given => ?_, fun value given => ?_⟩
    · obtain ⟨found, accepted⟩ := price value given
      exact ⟨found, by simpa [given] using accepted⟩
    · obtain ⟨found, accepted⟩ := stock value given
      exact ⟨found, by simpa [given, countOf?] using accepted⟩
  · rintro ⟨price, stock⟩
    refine ⟨⟨fun value given => ⟨value, given⟩, fun value given => ?_⟩, fun value given => ?_⟩
    · obtain ⟨found, accepted⟩ := price value given
      exact ⟨found, by simp [given, accepted]⟩
    · obtain ⟨found, accepted⟩ := stock value given
      exact ⟨found, by simpa [given, countOf?] using accepted⟩

end Merge

end Storekeeper
