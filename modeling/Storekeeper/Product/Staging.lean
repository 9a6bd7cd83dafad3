import Storekeeper.Product.Basic
import Storekeeper.Product.Price
import Storekeeper.Messages.Basic
import Storekeeper.Checked.Scalar
import Storekeeper.Checked.Record

/-!
# Staging a product

A message's fields are merged into the product collected so far: a valid value replaces the old
one, an invalid one is reported and changes nothing.  Between messages the product is kept as a
JSON object in the conversation's context.
-/

namespace Storekeeper

open Storekeeper.Decimal

namespace StagedProduct

/-- A product from the document it was kept in. -/
def read : Json → Checked StagedProduct :=
  Checked.record "StagedProduct" fun members =>
    StagedProduct.mk
      <$> Checked.optionalMember members ["name"] none (Checked.nullable Checked.text)
      <*> Checked.optionalMember members ["price"] none (Checked.nullable Checked.number)
      <*> Checked.optionalMember members ["stock"] none (Checked.nullable Checked.integer)
      <*> Checked.optionalMember members ["description"] none (Checked.nullable Checked.text)
      <*> Checked.optionalMember members ["sku"] none (Checked.nullable Checked.text)

/-- The product kept in a context; anything but an object is the empty product. -/
def ofContext : Option Json → Except Failure StagedProduct
  | some (.obj members) =>
    match read (.obj members) with
    | .ok product => .ok product
    | .flawed flaws => .error (.invalid flaws)
  | _ => .ok empty

/-- A member with a value, or none. -/
def member {α : Type} (name : String) (encode : α → Json) : Option α → List (String × Json)
  | some value => [(name, encode value)]
  | none => []

/-- The product as it is kept in a context: what is known of it. -/
def toContext (p : StagedProduct) : Json :=
  .obj (member "name" .str p.name ++ member "price" .num p.price ++ member "stock" .int p.stock ++
    member "description" .str p.description ++ member "sku" .str p.sku)

end StagedProduct

/-- A product after a merge, and the messages about the values that were not accepted. -/
structure Merged where
  product : StagedProduct
  errors : List String
  deriving DecidableEq, Repr

/-- The field that gives the stock: `stock`, or else `quantity`. -/
def stockField? (fields : Table String) : Option String :=
  fields.get? "stock" <|> fields.get? "quantity"

/-- The product with a name, or the complaint about it. -/
def mergeName (messages : Messages) (fields : Table String) (m : Merged) : Merged :=
  match fields.get? "name" with
  | none => m
  | some value =>
    let name := Text.strip value
    if name.isEmpty then { m with errors := m.errors ++ [messages.get "validation_error_name"] }
    else { m with product := { m.product with name := some name } }

/-- The product with a price, or the complaint about it. -/
def mergePrice (messages : Messages) (fields : Table String) (m : Merged) : Merged :=
  match fields.get? "price" with
  | none => m
  | some value =>
    match parsePrice value with
    | some price => { m with product := { m.product with price := some price } }
    | none => { m with errors := m.errors ++ [messages.get "validation_error_price"] }

/-- The product with a stock count, or the complaint about it. -/
def mergeStock (messages : Messages) (fields : Table String) (m : Merged) :
    Except Failure Merged :=
  match stockField? fields with
  | none => .ok m
  | some value => do
    match ← parseStock value with
    | some stock => return { m with product := { m.product with stock := some stock } }
    | none => return { m with errors := m.errors ++ [messages.get "validation_error_stock"] }

/-- The product with a description. -/
def mergeDescription (fields : Table String) (m : Merged) : Merged :=
  match fields.get? "description" with
  | none => m
  | some value => { m with product := { m.product with description := some value } }

/-- A product with a message's fields merged into it. -/
def mergeFields (messages : Messages) (existing : StagedProduct) (fields : Table String) :
    Except Failure Merged := do
  let m := mergePrice messages fields (mergeName messages fields ⟨existing, []⟩)
  let m ← mergeStock messages fields m
  return mergeDescription fields m

namespace StagedProduct

/-- The names of what is still needed. -/
def missing (p : StagedProduct) : List String :=
  (if p.name.isNone then ["name"] else []) ++ (if p.price.isNone then ["price"] else []) ++
    (if p.stock.isNone then ["stock"] else [])

/-- How a needed field is asked for. -/
def fieldExample : String → String
  | "name" => "Name: Product Name"
  | "price" => "Price: 29.99"
  | "stock" => "Stock: 10"
  | _ => ""

/-- What is known of the product, a line for each field. -/
def knownLines (p : StagedProduct) : List String :=
  ((p.name.filter (!·.isEmpty)).map ("✓ Name: " ++ ·)).toList ++
    (p.price.map fun price => "✓ Price: " ++ formatPrice price).toList ++
    (p.stock.map fun stock => "✓ Stock: " ++ toString stock).toList ++
    ((p.description.filter (!·.isEmpty)).map ("✓ Description: " ++ ·)).toList

/-- The answer to an incomplete product: complaints first, then what is known, then what is
needed. -/
def prompt (p : StagedProduct) (errors : List String) (messages : Messages) : String :=
  let known := p.knownLines
  let needed := p.missing.map fieldExample
  "\n\n".intercalate
    ((if errors.isEmpty then [] else ["⚠️ " ++ "\n⚠️ ".intercalate errors]) ++
      (if known.isEmpty then []
        else [messages.render "add_product_current_values"
          [("current_values", "\n".intercalate known)]]) ++
      (if needed.isEmpty then []
        else [messages.render "add_product_missing_fields"
          [("missing_fields", "\n".intercalate needed)]]))

end StagedProduct

end Storekeeper
