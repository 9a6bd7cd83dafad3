import Storekeeper.Product.Basic
import Storekeeper.Failure
import Storekeeper.Checked.Scalar
import Storekeeper.Checked.Record
import Storekeeper.Json.Printer
import Storekeeper.Json.Reader
import Storekeeper.Text.Markup

/-!
# Products as the catalog lists them

An entry of the catalog is any JSON value.  `Product.ofEntry` builds the product that an object
describes; an object that describes none is skipped, which is the answer `none`.  A value that is
no object, or an identifier that is an infinity, is a failure.
-/

namespace Storekeeper

open Storekeeper.Text

/-- The integer that a text writes in the digits of any script, blanks around it allowed. -/
def integerOfAnyScript? (s : String) : Option Int :=
  let (negative, cs) := Decimal.takeSign (trim s.toList)
  match Checked.groupedDigits? decimalDigit? cs with
  | none => none
  | some digits =>
    if Json.digitLimit < digits.length then none
    else
      let n : Int := ofDigits digits
      some (if negative then -n else n)

namespace Product

/-- The identifier that a value gives, if it gives one; an infinity is out of range. -/
def idOf : Json → Except Failure (Option Int)
  | .int n => .ok (some n)
  | .bool b => .ok (some (if b then 1 else 0))
  | .num x =>
    match x with
    | .infinite _ => .error .outOfRange
    | x => .ok x.truncate?
  | .str s => .ok (integerOfAnyScript? s)
  | _ => .ok none

/-- A text of an entry; a value that counts as nothing gives the default. -/
def textOf (members : Table Json) (name default : String) : Option String :=
  ((Json.getD members name).orElse (.str default)).str?

/-- A price of an entry, as it is displayed; a value that counts as nothing gives no text. -/
def priceOf (members : Table Json) (name : String) : String :=
  ((Json.getD members name).orElse (.str "")).display

/-- The description of an entry as plain text. -/
def descriptionOf (members : Table Json) : Option String := do
  let markup ← textOf members "description" ""
  let cs := dropTags markup.toList
  if hasLongNumber Json.digitLimit cs then none else return String.ofList (plain markup.toList)

/-- The product that the members of an entry describe with an identifier. -/
def ofMembers? (members : Table Json) (id : Int) (description : String) : Option Product := do
  let name ← textOf members "name" "No Name"
  let slug ← textOf members "slug" ""
  let permalink ← textOf members "permalink" ""
  let stockStatus ← textOf members "stock_status" ""
  let stockQuantity ←
    (Checked.nullable Checked.integer (Json.getD members "stock_quantity")).value?
  let status ← textOf members "status" ""
  let sku ← textOf members "sku" ""
  return { id, name, slug, permalink, price := priceOf members "price",
           regularPrice := priceOf members "regular_price", stockStatus, stockQuantity, status,
           description, sku }

/-- The product that an entry of the catalog describes, if it describes one. -/
def ofEntry : Json → Except Failure (Option Product)
  | .obj members =>
    match descriptionOf members with
    | none => .ok none
    | some description =>
      match Table.get? members "id" with
      | none => .ok none
      | some id => do
        match ← idOf id with
        | none => return none
        | some id => return ofMembers? members id description
  | _ => .error .noSuchMember

/-- A product from a document that gives its members by name. -/
def read : Json → Checked Product :=
  Checked.record "Product" fun members =>
    let text (name : String) := Checked.optionalMember members [name] "" Checked.text
    Product.mk
      <$> Checked.required members ["id"] Checked.integer
      <*> Checked.required members ["name"] Checked.text
      <*> text "slug"
      <*> text "permalink"
      <*> text "price"
      <*> text "regular_price"
      <*> text "stock_status"
      <*> Checked.optionalMember members ["stock_quantity"] none (Checked.nullable Checked.integer)
      <*> text "status"
      <*> text "description"
      <*> text "sku"

/-- A product as a document. -/
def toJson (p : Product) : Json :=
  .obj
    [("id", .int p.id), ("name", .str p.name), ("slug", .str p.slug),
     ("permalink", .str p.permalink), ("price", .str p.price),
     ("regular_price", .str p.regularPrice), ("stock_status", .str p.stockStatus),
     ("stock_quantity", (p.stockQuantity.map Json.int).getD .null), ("status", .str p.status),
     ("description", .str p.description), ("sku", .str p.sku)]

end Product

/-- An image of a product to be created. -/
def ProductImage.read : Json → Checked ProductImage :=
  Checked.record "ProductImage" fun members =>
    ProductImage.mk
      <$> Checked.required members ["src"] Checked.text
      <*> Checked.optionalMember members ["name"] none (Checked.nullable Checked.text)

/-- A product to be created. -/
def NewProduct.read : Json → Checked NewProduct :=
  Checked.record "CreateProductInput" fun members =>
    NewProduct.mk
      <$> Checked.required members ["name"] Checked.text
      <*> Checked.required members ["regular_price"] Checked.text
      <*> Checked.required members ["stock_quantity"] Checked.integer
      <*> Checked.optionalMember members ["description"] none (Checked.nullable Checked.text)
      <*> Checked.required members ["sku"] Checked.text
      <*> Checked.optionalMember members ["images"] [] (Checked.list ProductImage.read)

end Storekeeper
