import Storekeeper.Dialogue.Run
import Storekeeper.Proofs.Dialogue.Course

/-!
# Courses of an action

The ways in which an action of a flow can go, one constructor for each, with all that is asked,
counted and said on the way.  Whatever the catalog does an action is counted once, and only a context
that does not hold what it should makes it fail.
-/

namespace Storekeeper

open Turn

namespace Assistant

variable {a : Assistant} {context : Table Json} {deeds : List Deed}

/-- The ways in which listing the products can go. -/
inductive Lists (a : Assistant) : List Deed → String → Prop
  | notConfigured : a.hasCatalog = false →
    Lists a [.counted ⟨.listProducts, .notConfigured⟩] (a.messages.get "catalog_not_configured")
  | refused (failure : Failure) : a.hasCatalog = true →
    Lists a [.listed a.listLimit (.error failure), .counted ⟨.listProducts, .error⟩]
      (a.complaint "list_products_error" failure)
  | listed (products : List Product) : a.hasCatalog = true →
    Lists a [.listed a.listLimit (.ok products), .counted ⟨.listProducts, .success⟩]
      (a.listing products)

/-- The context with a product that has been given its stock keeping unit. -/
def withSku (context : Table Json) (product : StagedProduct) (sku : String) : Table Json :=
  context.put productKey { product with sku := some sku }.toContext

/-- The ways in which creating the product that a context keeps can go. -/
inductive Adds (a : Assistant) (context : Table Json) :
    List Deed → Except Failure (Table Json × String) → Prop
  | unreadable {failure : Failure} :
    StagedProduct.ofContext (context.get? productKey) = .error failure →
    Adds a context [] (.error failure)
  | incomplete {product : StagedProduct} :
    StagedProduct.ofContext (context.get? productKey) = .ok product → product.draft? = none →
    Adds a context [.counted ⟨.addProduct, .incomplete⟩]
      (.ok (context, a.messages.get "product_data_incomplete"))
  | notConfigured {product : StagedProduct} {draft : NewProduct} :
    StagedProduct.ofContext (context.get? productKey) = .ok product →
    product.draft? = some draft → a.hasCatalog = false →
    Adds a context [.counted ⟨.addProduct, .notConfigured⟩]
      (.ok (context, a.messages.get "catalog_not_configured"))
  | imageUnreadable {product : StagedProduct} {draft : NewProduct} {failure : Failure}
    (sku : String) :
    StagedProduct.ofContext (context.get? productKey) = .ok product →
    product.draft? = some draft → a.hasCatalog = true →
    StagedImage.ofContext ((withSku context product sku).get? imageKey) = .error failure →
    Adds a context [.identified sku] (.error failure)
  | refused {product : StagedProduct} {draft : NewProduct} {image : Option StagedImage}
    (sku : String) (failure : Failure) :
    StagedProduct.ofContext (context.get? productKey) = .ok product →
    product.draft? = some draft → a.hasCatalog = true →
    StagedImage.ofContext ((withSku context product sku).get? imageKey) = .ok image →
    Adds a context
      [.identified sku, .created (draft.complete sku image) (.error failure),
        .counted ⟨.addProduct, .error⟩]
      (.ok (withSku context product sku, a.complaint "add_product_error" failure))
  | created {product : StagedProduct} {draft : NewProduct} {image : Option StagedImage}
    (sku : String) (made : Product) :
    StagedProduct.ofContext (context.get? productKey) = .ok product →
    product.draft? = some draft → a.hasCatalog = true →
    StagedImage.ofContext ((withSku context product sku).get? imageKey) = .ok image →
    Adds a context
      [.identified sku, .created (draft.complete sku image) (.ok made),
        .counted ⟨.addProduct, .success⟩]
      (.ok (((withSku context product sku).erase productKey).erase imageKey,
        a.messages.render "add_product_received"
          [("name", made.name), ("permalink", made.permalink)]))

/-- The ways in which an action can go. -/
inductive Acts (a : Assistant) (context : Table Json) :
    Action → List Deed → Except Failure (Table Json × String) → Prop
  | lists {deeds : List Deed} {text : String} : a.Lists deeds text →
    Acts a context .listProducts deeds (.ok (context, text))
  | adds {deeds : List Deed} {out : Except Failure (Table Json × String)} :
    a.Adds context deeds out → Acts a context .addProduct deeds out

theorem lists_of_goes {out : Except Failure String} (course : a.listProducts.Goes deeds out) :
    ∃ text, out = .ok text ∧ a.Lists deeds text := by
  unfold listProducts at course
  split at course
  · rename_i configured
    cases course with
    | @list _ _ answer _ _ course =>
      cases answer with
      | error failure =>
        cases course with
        | note course =>
          cases course
          exact ⟨_, rfl, .refused failure configured⟩
      | ok products =>
        cases course with
        | note course =>
          cases course
          exact ⟨_, rfl, .listed products configured⟩
  · rename_i missing
    cases course with
    | note course =>
      cases course
      exact ⟨_, rfl, .notConfigured (by simpa using missing)⟩

theorem adds_of_goes {out : Except Failure (Table Json × String)}
    (course : (a.addProduct context).Goes deeds out) : a.Adds context deeds out := by
  unfold addProduct at course
  cases kept : StagedProduct.ofContext (context.get? productKey) with
  | error failure =>
    rw [kept] at course
    cases course
    exact .unreadable kept
  | ok product =>
    rw [kept] at course
    dsimp only [Turn.ofExcept, Bind.bind, Turn.bind] at course
    cases drafted : product.draft? with
    | none =>
      rw [drafted] at course
      cases course with
      | note course =>
        cases course
        exact .incomplete kept drafted
    | some draft =>
      rw [drafted] at course
      by_cases configured : a.hasCatalog = true
      · simp only [configured, if_true] at course
        cases course with
        | @identify _ sku _ _ course =>
          change Goes ((ofExcept (StagedImage.ofContext ((withSku context product sku).get?
            imageKey))).bind _) _ out at course
          cases pictured : StagedImage.ofContext ((withSku context product sku).get? imageKey) with
          | error failure =>
            rw [pictured] at course
            cases course
            exact .imageUnreadable sku kept drafted configured pictured
          | ok image =>
            rw [pictured] at course
            cases course with
            | @create _ _ answer _ _ course =>
              cases answer with
              | error failure =>
                cases course with
                | note course =>
                  cases course
                  exact .refused sku failure kept drafted configured pictured
              | ok made =>
                cases course with
                | note course =>
                  cases course
                  exact .created sku made kept drafted configured pictured
      · simp only [configured] at course
        cases course with
        | note course =>
          cases course
          exact .notConfigured kept drafted (by simpa using configured)

theorem acts_of_goes {action : Action} {out : Except Failure (Table Json × String)}
    (course : (a.runAction action context).Goes deeds out) : a.Acts context action deeds out := by
  cases action with
  | listProducts =>
    rcases goes_bind course with ⟨failure, failed, same⟩ | ⟨text, first, second, left, right, rfl⟩
    · obtain ⟨text, impossible, -⟩ := lists_of_goes failed
      cases impossible
    · obtain ⟨_, same, listed⟩ := lists_of_goes left
      cases same
      cases right
      rw [List.append_nil]
      exact .lists listed
  | addProduct => exact .adds (adds_of_goes course)

theorem Acts.alarms {action : Action} {out : Except Failure (Table Json × String)}
    (acts : a.Acts context action deeds out) : deeds.filterMap Deed.alarm? = [] := by
  cases acts with
  | lists lists => cases lists <;> rfl
  | adds adds => cases adds <;> rfl

/-- An action that does not fail is counted once. -/
theorem Acts.counted_once {action : Action} {result : Table Json × String}
    (acts : a.Acts context action deeds (.ok result)) :
    (deeds.filterMap Deed.run?).length = 1 := by
  cases acts with
  | lists lists => cases lists <;> rfl
  | adds adds => cases adds <;> rfl

end Assistant

end Storekeeper
