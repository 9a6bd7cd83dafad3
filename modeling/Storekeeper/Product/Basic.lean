import Storekeeper.Decimal.Binary64

/-!
# Products

A product as the catalog describes it, a product to be created there, and a product that is being
put together over several messages.
-/

namespace Storekeeper

open Storekeeper.Decimal

/-- A product of the catalog. -/
structure Product where
  id : Int
  name : String
  slug : String
  permalink : String
  price : String
  regularPrice : String
  stockStatus : String
  stockQuantity : Option Int
  status : String
  description : String
  sku : String
  deriving DecidableEq, Repr

/-- An image of a product: where it lies and what it is called. -/
structure ProductImage where
  src : String
  name : Option String
  deriving DecidableEq, Repr

/-- A product to be created. -/
structure NewProduct where
  name : String
  regularPrice : String
  stockQuantity : Int
  description : Option String
  sku : String
  images : List ProductImage
  deriving DecidableEq, Repr

/-- A product that is being collected: what has been accepted so far. -/
structure StagedProduct where
  name : Option String
  price : Option Binary64
  stock : Option Int
  description : Option String
  sku : Option String
  deriving DecidableEq, Repr

namespace StagedProduct

/-- The product of which nothing is known. -/
def empty : StagedProduct :=
  ⟨none, none, none, none, none⟩

/-- Whether everything that a product needs is there. -/
def isComplete (p : StagedProduct) : Bool :=
  p.name.isSome && p.price.isSome && p.stock.isSome

end StagedProduct

/-- An image that is kept until its product is created. -/
structure StagedImage where
  url : String
  mimeType : Option String
  deriving DecidableEq, Repr

end Storekeeper
