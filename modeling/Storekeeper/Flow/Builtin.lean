import Storekeeper.Flow.Basic

/-!
# The built-in flow

A greeting that leads to a menu; the menu lists the products, takes the details of a new product
and an image of it, or ends the conversation.
-/

namespace Storekeeper.Flow

/-- The step with the menu, to which a cancelled question returns. -/
def recoveryStep : String :=
  "awaiting_intent"

/-- The flow that is used when no other is given. -/
def builtin : Flow where
  id := "shop_update"
  initialStep := "awaiting_trigger"
  timeoutSeconds := 300
  steps :=
    [("awaiting_trigger",
      .trigger
        { onMatch := { next := "awaiting_intent", message := some "welcome" }
          otherwiseHandled := false }),
     ("awaiting_intent",
      .choice
        { message := "intent_prompt"
          choices :=
            [{ id := "list", label := "List Products", aliases := ["1", "list", "list products"] },
             { id := "add", label := "Add New Product", aliases := ["2", "add", "add product"] },
             { id := "done", label := "Done", aliases := ["3", "exit", "bye"] }]
          transitions :=
            [("list", { next := "list_products", message := none }),
             ("add", { next := "add_product", message := none }),
             ("done", { next := "session_closed", message := none })]
          invalidMessage := "invalid_choice"
          invalidNext := "awaiting_intent" }),
     ("list_products", .action { action := .listProducts, next := "awaiting_intent" }),
     ("add_product",
      .input
        { message := "add_product_prompt"
          contextKey := "productInput"
          next := "awaiting_product_image" }),
     ("awaiting_product_image",
      .image
        { message := "add_product_image_prompt"
          contextKey := "productImage"
          next := "process_add_product"
          optional := true
          skipKeyword := some "skip" }),
     ("process_add_product", .action { action := .addProduct, next := "awaiting_intent" }),
     ("session_closed", .terminal { message := some "goodbye" })]

end Storekeeper.Flow
