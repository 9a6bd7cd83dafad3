import Storekeeper.Failure
import Storekeeper.Json.Printer
import Storekeeper.Json.Reader
import Storekeeper.Text.Case
import Storekeeper.Text.Replace

/-!
# Classifying a refused request

A refused request is classified by its status first and then by the members `code` and `message`
of its body, if the body is a JSON object.  Both members are searched as they are found: a search
that a value does not allow is a failure of the classification itself.
-/

namespace Storekeeper.Catalog

/-- Whether a value holds a text: as a part of a text, an item of an array or a name in an
object.  No other value can be searched. -/
def holds (part : String) : Json → Except Failure Bool
  | .str s => .ok (Text.contains s part)
  | .arr items => .ok (items.any fun item => item.str? == some part)
  | .obj members => .ok (Table.has members part)
  | _ => .error .unsupported

/-- Whether a value is one of some texts; an array or an object cannot be looked up. -/
def isOneOf (texts : List String) : Json → Except Failure Bool
  | .str s => .ok (texts.contains s)
  | .arr _ => .error .unsupported
  | .obj _ => .error .unsupported
  | _ => .ok false

/-- Whether a text holds another in lower case; only a text can be lowered. -/
def holdsLowered (part : String) : Json → Except Failure Bool
  | .str s => .ok (Text.contains (Text.lower s) part)
  | _ => .error .noSuchMember

/-- The codes of a refused image. -/
def imageCodes : List String :=
  ["woocommerce_product_image_upload_error", "woocommerce_product_invalid_image_id"]

/-- The codes of refused data. -/
def invalidDataCodes : List String :=
  ["rest_invalid_param", "woocommerce_rest_invalid_product"]

/-- The class that the members of a body say, if they say one. -/
def classOfMembers (members : Table Json) : Except Failure (Option CatalogCode) := do
  let code := (Json.getD members "code").orElse (.str "")
  let message := (Json.getD members "message").orElse (.str "")
  if code.str? == some "product_invalid_sku" then return some .duplicateSku
  if ← holds "SKU" message then return some .duplicateSku
  if ← isOneOf imageCodes code then return some .imageUploadError
  if ← holdsLowered "image" message then return some .imageUploadError
  if ← isOneOf invalidDataCodes code then return some .invalidData
  return none

/-- The JSON value of a body, if it is one. -/
def bodyValue? (body : List Char) : Option Json :=
  (Json.read body).toOption

/-- The class of a refusal that its status does not say. -/
def classOfBody (status : Int) (body : Option Json) : Except Failure CatalogCode := do
  let said ←
    match body with
    | some (.obj members) => classOfMembers members
    | _ => pure none
  return said.getD (if status = 400 then .invalidData else .unknown)

/-- The class of a refused request. -/
def classify (status : Int) (body : List Char) : Except Failure CatalogCode :=
  if status = 401 then .ok .unauthorized
  else if status = 403 then .ok .forbidden
  else if status = 404 then .ok .notFound
  else if 500 ≤ status then .ok .serverError
  else classOfBody status (bodyValue? body)

/-- What a refusal says: its message, or that the operation failed. -/
def refusalText (body : Option Json) (operation : String) : String :=
  let message :=
    match body with
    | some (.obj members) => Json.getD members "message"
    | _ => .null
  if message.isVoid then operation ++ " failed" else message.display

/-- A refused request: what is said about it, and its class. -/
structure Refusal where
  message : String
  code : CatalogCode
  deriving DecidableEq, Repr

/-- What a refused request was refused for. -/
def refusal (status : Int) (body : List Char) (operation : String) : Except Failure Refusal := do
  let code ← classify status body
  return { message := refusalText (bodyValue? body) operation, code }

end Storekeeper.Catalog
