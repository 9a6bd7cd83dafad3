import Storekeeper.Table

/-!
# The built-in messages

The wording of everything the assistant says, by key.  A name in braces is a placeholder.
-/

namespace Storekeeper

/-- The built-in messages. -/
def defaultMessages : Table String :=
  [("welcome", "👋 Welcome to the shop assistant!"),
   ("intent_prompt",
    "What would you like to do?\n" ++
      "\n1️⃣ List products\n" ++
      "2️⃣ Add a new product\n" ++
      "3️⃣ Done"),
   ("invalid_choice", "Sorry, I didn't understand that. Please pick one of the options."),
   ("goodbye", "👋 All done. Send the trigger code again whenever you need me."),
   ("list_products_header", "📦 *Products (\x7bcount\x7d):*"),
   ("list_products_empty", "No products found in your store."),
   ("list_products_error", "❌ Could not fetch the product list."),
   ("catalog_not_configured", "[WooCommerce not configured]"),
   ("product_data_incomplete", "[Product data incomplete]"),
   ("add_product_prompt",
    "Let's add a new product! 🛍️\n" ++
      "\nReply with the details, one per line:\n" ++
      "Name: Product Name\n" ++
      "Price: 29.99\n" ++
      "Stock: 10\n" ++
      "Description: (optional)\n" ++
      "\nSend *stop* at any time to cancel."),
   ("add_product_current_values", "Current values:\n\x7bcurrent_values\x7d"),
   ("add_product_missing_fields", "Please provide the missing fields:\n\n\x7bmissing_fields\x7d"),
   ("add_product_cancelled", "Product creation cancelled."),
   ("add_product_image_prompt",
    "📷 Now send a product image, or send *skip* to continue without one."),
   ("add_product_image_received", "Image received!"),
   ("add_product_image_skipped", "No image added."),
   ("add_product_image_invalid", "Please send an image, or type *skip* to continue without one."),
   ("add_product_received", "✅ Product \"\x7bname\x7d\" added successfully!\n\x7bpermalink\x7d"),
   ("add_product_error", "❌ Failed to add the product."),
   ("validation_error_name", "Name must not be empty"),
   ("validation_error_price", "Price must be a valid number greater than 0 (e.g., 29.99)"),
   ("validation_error_stock", "Stock must be a whole number, 0 or more (e.g., 10)"),
   ("error_network", "The store could not be reached. Please try again later."),
   ("error_unauthorized", "The store rejected our credentials. Please check the API keys."),
   ("error_forbidden", "The store API keys do not have permission for this operation."),
   ("error_not_found", "The store API endpoint was not found. Please check the store URL."),
   ("error_duplicate_sku", "A product with this SKU already exists."),
   ("error_invalid_data", "The store rejected the product data."),
   ("error_image_upload", "Could not upload the product image. The image URL may be invalid."),
   ("error_server", "The store returned a server error. Please try again later."),
   ("error_unknown", "An unexpected error occurred.")]

end Storekeeper
