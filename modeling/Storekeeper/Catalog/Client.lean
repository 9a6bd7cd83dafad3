import Storekeeper.Http.Guarded
import Storekeeper.Catalog.Classify
import Storekeeper.Product.Listing
import Storekeeper.Tally
import Storekeeper.Text.Base64
import Storekeeper.Text.Blank

/-!
# The catalog's client

The catalog is reached over HTTP behind a circuit breaker.  Reading is tried up to three times,
writing once.  Every request is counted with how it ended.
-/

namespace Storekeeper.Catalog

/-- What is asked of the catalog. -/
inductive Operation where
  | list
  | find
  | create
  deriving DecidableEq, Repr

/-- What an operation does, in words. -/
def Operation.phrase : Operation → String
  | list => "fetching products"
  | find => "fetching product by SKU"
  | create => "creating product"

/-- A request that has ended: with a code if it failed. -/
structure Request where
  operation : Operation
  failure : Option CatalogCode
  deriving DecidableEq, Repr

/-- The name of how a request ended. -/
def Request.status (request : Request) : String :=
  match request.failure with
  | none => "success"
  | some code => code.name

/-- The client of a catalog. -/
structure Client where
  apiUrl : String
  authorization : String
  breaker : Breaker
  requests : Tally Request

/-- The milliseconds that are waited before a request is repeated. -/
def retryWaits : List Nat :=
  [2000, 4000]

/-- An image as it is sent to the catalog. -/
def imageBody (image : ProductImage) : Json :=
  .obj (("src", .str image.src) :: (image.name.map fun name => ("name", Json.str name)).toList)

/-- A product as it is sent to the catalog to be created: a simple one with managed stock. -/
def productBody (product : NewProduct) : Json :=
  .obj
    ([("name", .str product.name), ("type", .str "simple"),
      ("regular_price", .str product.regularPrice),
      ("description", .str (product.description.getD "")), ("manage_stock", .bool true),
      ("stock_quantity", .int product.stockQuantity), ("sku", .str product.sku)] ++
      (if product.images.isEmpty then []
        else [("images", .arr (product.images.map imageBody))]))

namespace Client

variable {σ : Type}

/-- The authorization of a user with a password. -/
def basicAuthorization (user password : String) : String :=
  "Basic " ++ String.ofList
    (Text.base64 ((Text.utf8Bytes (user ++ ":" ++ password)).map UInt8.toNat))

/-- A client of the store at an address. -/
def new (storeUrl key secret : String) : Client :=
  { apiUrl := Text.stripEnd '/' storeUrl ++ "/wp-json/wc/v3"
    authorization := basicAuthorization key secret
    breaker := .standard "woocommerce"
    requests := [] }

/-- The call that is made for an operation. -/
def call (client : Client) (method : Method) (path : String) : Call :=
  { method, url := client.apiUrl ++ path, authorization := some client.authorization }

/-- Sends a call: one that only reads is repeated when sending fails. -/
def send (network : Network σ) (client : Client) (call : Call) (s : σ) : Guarded × Client × σ :=
  let waits := if call.method = .get then retryWaits else []
  let (result, breaker, s) := Breaker.sendPatiently network call waits client.breaker s
  (result, { client with breaker }, s)

/-- A request counts as ended, with a code if it failed. -/
def counted (client : Client) (operation : Operation) (failure : Option CatalogCode) : Client :=
  { client with requests := client.requests.count ⟨operation, failure⟩ }

/-- A request fails with a code. -/
def failed (client : Client) (operation : Operation) (message : String) (status : Option Int)
    (code : CatalogCode) : Except Failure Json × Client :=
  (.error (.catalog message status code), client.counted operation (some code))

/-- What a response with a status says. -/
def understand (client : Client) (operation : Operation) (status : Int) (body : Text.Bytes) :
    Except Failure Json × Client :=
  if refusedStatus ≤ status then
    match refusal status (Text.utf8Lossy body) operation.phrase with
    | .error failure => (.error failure, client)
    | .ok refusal => client.failed operation refusal.message (some status) refusal.code
  else
    match Json.readBody body with
    | .error _ => client.failed operation "Failed to parse WooCommerce response" none .unknown
    | .ok value => (.ok value, client.counted operation none)

/-- What comes of a request. -/
def conclude (client : Client) (operation : Operation) : Guarded → Except Failure Json × Client
  | .refused =>
    client.failed operation ("Store temporarily unavailable while " ++ operation.phrase) none
      .networkError
  | .sent (.fault cause) =>
    if cause.isTransport then
      client.failed operation ("Network error while " ++ operation.phrase) none .networkError
    else (.error (.raised cause), client)
  | .sent (.response status body) => client.understand operation status body

/-- Makes a request: the JSON value of the response. -/
def request (network : Network σ) (client : Client) (operation : Operation) (call : Call) (s : σ) :
    Except Failure Json × Client × σ :=
  let (result, client, s) := client.send network call s
  let (answer, client) := client.conclude operation result
  (answer, client, s)

/-- The items that a value is walked through by; a value that counts as nothing has none. -/
def itemsOf (value : Json) : Except Failure (List Json) :=
  if value.isVoid then .ok []
  else
    match value with
    | .arr items => .ok items
    | .obj members => .ok (members.map fun member => .str member.1)
    | .str s => .ok (s.toList.map fun c => .str (String.singleton c))
    | _ => .error .unsupported

/-- The first item of a value; a value that counts as nothing has none. -/
def firstOf (value : Json) : Except Failure (Option Json) :=
  if value.isVoid then .ok none
  else
    match value with
    | .arr items => .ok items.head?
    | .obj _ => .error .noEntry
    | .str s => .ok (s.toList.head?.map fun c => .str (String.singleton c))
    | _ => .error .unsupported

/-- The products that a value lists; entries that describe none are skipped. -/
def productsOf (value : Json) : Except Failure (List Product) := do
  let items ← itemsOf value
  let products ← items.mapM Product.ofEntry
  return products.filterMap id

/-- The first product that a value lists. -/
def productOf (value : Json) : Except Failure (Option Product) := do
  match ← firstOf value with
  | some entry => Product.ofEntry entry
  | none => return none

/-- The product that a value describes after it was created. -/
def createdOf (value : Json) : Except Failure Product := do
  let product ←
    match value with
    | .obj members => Product.ofEntry (.obj members)
    | _ => pure none
  match product with
  | some product => return product
  | none => .error (.catalog "WooCommerce returned an unexpected product payload" none .unknown)

/-- Asks for the first products. -/
def listProducts (network : Network σ) (client : Client) (limit : Int) (s : σ) :
    Except Failure (List Product) × Client × σ :=
  let call := { client.call .get "/products" with params := some [("per_page", .int limit)] }
  let (answer, client, s) := client.request network .list call s
  (answer.bind productsOf, client, s)

/-- Asks for the product with a stock keeping unit. -/
def findProduct (network : Network σ) (client : Client) (sku : String) (s : σ) :
    Except Failure (Option Product) × Client × σ :=
  let call := { client.call .get "/products" with params := some [("sku", .str sku)] }
  let (answer, client, s) := client.request network .find call s
  (answer.bind productOf, client, s)

/-- Creates a product. -/
def createProduct (network : Network σ) (client : Client) (product : NewProduct) (s : σ) :
    Except Failure Product × Client × σ :=
  let call := { client.call .post "/products" with body := some (productBody product) }
  let (answer, client, s) := client.request network .create call s
  (answer.bind createdOf, client, s)

end Client

end Storekeeper.Catalog
