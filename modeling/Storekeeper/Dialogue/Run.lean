import Storekeeper.Dialogue.Assistant
import Storekeeper.Product.Staging
import Storekeeper.Product.Price

/-!
# Running an action

An action asks the catalog and answers with a text; whatever the catalog does, there is an answer.
Only a context that holds something else than the records it should hold makes an action fail, and
then nothing has been asked.
-/

namespace Storekeeper

/-- The entry of a context with the product that is being collected. -/
def productKey : String :=
  "productData"

/-- The entry of a context with the image for the product. -/
def imageKey : String :=
  "productImage"

/-- The key of a question whose answer is read as the fields of a product. -/
def productInputKey : String :=
  "productInput"

namespace StagedImage

/-- An image from the document it was kept in. -/
def read : Json → Checked StagedImage :=
  Checked.record "StagedImage" fun members =>
    StagedImage.mk
      <$> Checked.required members ["url"] Checked.text
      <*> Checked.optionalMember members ["mimeType", "mime_type"] none
        (Checked.nullable Checked.text)

/-- The image kept in a context; one without an address is no image. -/
def ofContext : Option Json → Except Failure (Option StagedImage)
  | some (.obj members) =>
    if (Json.getD members "url").isVoid then .ok none
    else
      match read (.obj members) with
      | .ok image => .ok (some image)
      | .flawed flaws => .error (.invalid flaws)
  | _ => .ok none

/-- The image as it is kept in a context. -/
def toContext (image : StagedImage) : Json :=
  .obj (("url", .str image.url) ::
    (image.mimeType.map fun mime => ("mimeType", Json.str mime)).toList)

end StagedImage

/-- The order for a complete product, still without a stock keeping unit and an image; `none` if the
product is not complete. -/
def StagedProduct.draft? (p : StagedProduct) : Option NewProduct :=
  match p.name, p.price, p.stock with
  | some name, some price, some stock =>
    some
      { name, regularPrice := formatPrice price, stockQuantity := stock,
        description := p.description, sku := "", images := [] }
  | _, _, _ => none

/-- The order with its stock keeping unit and perhaps an image, which is called like the product. -/
def NewProduct.complete (draft : NewProduct) (sku : String) (image : Option StagedImage) :
    NewProduct :=
  { draft with sku, images := (image.map fun image => ⟨image.url, some draft.name⟩).toList }

/-- The key of the message that explains a failure of the catalog. -/
def Failure.explanation : Failure → String
  | .catalog _ _ code =>
    match code with
    | .networkError => "error_network"
    | .unauthorized => "error_unauthorized"
    | .forbidden => "error_forbidden"
    | .notFound => "error_not_found"
    | .duplicateSku => "error_duplicate_sku"
    | .invalidData => "error_invalid_data"
    | .imageUploadError => "error_image_upload"
    | .serverError => "error_server"
    | .unknown => "error_unknown"
  | _ => "error_unknown"

/-- The lines of a list of products, numbered. -/
def productLines (products : List Product) : List String :=
  products.zipIdx.map fun (product, n) =>
    toString (n + 1) ++ ". " ++ product.name ++ " - " ++ product.price ++ " (" ++
      product.stockStatus ++ ")"

namespace Assistant

/-- What is said when an action fails: that it did, and why. -/
def complaint (a : Assistant) (key : String) (failure : Failure) : String :=
  a.messages.get key ++ "\n\n" ++ a.messages.get failure.explanation

/-- What is said about a list of products. -/
def listing (a : Assistant) (products : List Product) : String :=
  if products.isEmpty then a.messages.get "list_products_empty"
  else
    a.messages.render "list_products_header" [("count", toString products.length)] ++ "\n\n" ++
      "\n".intercalate (productLines products)

/-- Lists the products of the catalog. -/
def listProducts (a : Assistant) : Turn String := do
  if a.hasCatalog then
    match ← Turn.askProducts a.listLimit with
    | .error failure =>
      Turn.count .listProducts .error
      return a.complaint "list_products_error" failure
    | .ok products =>
      Turn.count .listProducts .success
      return a.listing products
  else
    Turn.count .listProducts .notConfigured
    return a.messages.get "catalog_not_configured"

/-- Creates the product that is kept in a context, for which there is an order.  Its stock keeping
unit is a fresh identifier, which is kept with the product until it has been created. -/
def createProduct (a : Assistant) (context : Table Json) (product : StagedProduct)
    (draft : NewProduct) : Turn (Table Json × String) := do
  let sku ← Turn.askIdentifier
  let context := context.put productKey { product with sku := some sku }.toContext
  let image ← Turn.ofExcept (StagedImage.ofContext (context.get? imageKey))
  match ← Turn.askCreation (draft.complete sku image) with
  | .error failure =>
    Turn.count .addProduct .error
    return (context, a.complaint "add_product_error" failure)
  | .ok created =>
    Turn.count .addProduct .success
    return ((context.erase productKey).erase imageKey,
      a.messages.render "add_product_received"
        [("name", created.name), ("permalink", created.permalink)])

/-- Creates the product that is kept in a context, if it is complete. -/
def addProduct (a : Assistant) (context : Table Json) : Turn (Table Json × String) := do
  let product ← Turn.ofExcept (StagedProduct.ofContext (context.get? productKey))
  match product.draft? with
  | none =>
    Turn.count .addProduct .incomplete
    return (context, a.messages.get "product_data_incomplete")
  | some draft =>
    if a.hasCatalog then a.createProduct context product draft
    else
      Turn.count .addProduct .notConfigured
      return (context, a.messages.get "catalog_not_configured")

/-- Runs an action: the context afterwards, and what is said about it. -/
def runAction (a : Assistant) (action : Action) (context : Table Json) :
    Turn (Table Json × String) :=
  match action with
  | .listProducts => do
    let text ← a.listProducts
    return (context, text)
  | .addProduct => a.addProduct context

end Assistant

end Storekeeper
