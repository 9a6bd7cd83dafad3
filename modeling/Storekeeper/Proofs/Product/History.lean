import Mathlib.Data.List.Induction
import Storekeeper.Proofs.Dialogue.Course
import Storekeeper.Proofs.Product.Staging

/-!
# What a conversation has collected

`Moment` is what bears on the product of a conversation, and `latest` the last value that a history of
moments gives since the last one that clears.

* `Provenance` says of a product to be created that it is made of the latest values, and
  `Provenance.suppliedAgain` that these have been given since any moment that clears.
* `Reflects` says of a context that it keeps what its history has collected; there is a lemma for each
  way in which a moment changes a context.
-/

namespace Storekeeper

/-- Something that bears on the product of a conversation. -/
inductive Moment where
  /-- The trigger opens the conversation. -/
  | opened
  /-- A question is cancelled. -/
  | cancelled
  /-- A question for a product is answered with fields. -/
  | answered (fields : Table String)
  /-- An image for the product is received. -/
  | pictured (image : StagedImage)
  /-- The catalog has been asked to create a product. -/
  | created (creation : Creation)

namespace Moment

/-- Whether what has been collected is forgotten: a creation that fails clears nothing. -/
def clears : Moment → Bool
  | opened => true
  | cancelled => true
  | created creation => creation.answer.isOk
  | _ => false

/-- The name that is accepted. -/
def name? : Moment → Option String
  | answered fields => acceptedName? fields
  | _ => none

/-- The price that is accepted. -/
def price? : Moment → Option Decimal.Binary64
  | answered fields => acceptedPrice? fields
  | _ => none

/-- The stock count that is accepted. -/
def stock? : Moment → Option Int
  | answered fields => acceptedStock? fields
  | _ => none

/-- The description that is given. -/
def description? : Moment → Option String
  | answered fields => fields.get? "description"
  | _ => none

/-- The image that is received. -/
def image? : Moment → Option StagedImage
  | pictured image => some image
  | _ => none

end Moment

section History

variable {α : Type}

/-- The last value that a history gives since the last moment that clears. -/
def latest (given : Moment → Option α) (history : List Moment) : Option α :=
  (history.reverse.takeWhile fun moment => !moment.clears).findSome? given

theorem latest_of_clears (given : Moment → Option α) (history : List Moment) {moment : Moment}
    (clears : moment.clears = true) : latest given (history ++ [moment]) = none := by
  simp [latest, clears]

theorem latest_of_not_clears (given : Moment → Option α) (history : List Moment) {moment : Moment}
    (goesOn : moment.clears = false) :
    latest given (history ++ [moment]) = (given moment <|> latest given history) := by
  unfold latest
  rw [List.reverse_append, List.reverse_singleton, List.singleton_append,
    List.takeWhile_cons_of_pos (by simp [goesOn]), List.findSome?_cons]
  cases given moment <;> rfl

/-- What is latest has been given by a moment after which nothing clears and nothing newer is given. -/
theorem latest_eq_some {given : Moment → Option α} {history : List Moment} {value : α}
    (found : latest given history = some value) :
    ∃ before moment since, history = before ++ moment :: since ∧ given moment = some value ∧
      moment.clears = false ∧ ∀ later ∈ since, later.clears = false ∧ given later = none := by
  induction history using List.reverseRecOn with
  | nil => cases found
  | append_singleton history last ih =>
    cases ends : last.clears with
    | true =>
      rw [latest_of_clears _ _ ends] at found
      cases found
    | false =>
      rw [latest_of_not_clears _ _ ends] at found
      cases gives : given last with
      | some newer =>
        rw [gives] at found
        cases found
        exact ⟨history, last, [], rfl, gives, ends, nofun⟩
      | none =>
        rw [gives] at found
        obtain ⟨before, moment, since, rfl, gave, goesOn, quiet⟩ := ih found
        refine ⟨before, moment, since ++ [last], by simp, gave, goesOn, fun later member => ?_⟩
        rcases List.mem_append.mp member with inside | isLast
        · exact quiet later inside
        · cases List.mem_singleton.mp isLast
          exact ⟨ends, gives⟩

/-- What a moment gives stays the latest while nothing clears and nothing newer is given. -/
theorem latest_append {given : Moment → Option α} {history since : List Moment}
    (quiet : ∀ later ∈ since, later.clears = false ∧ given later = none) :
    latest given (history ++ since) = latest given history := by
  induction since using List.reverseRecOn with
  | nil => rw [List.append_nil]
  | append_singleton since last ih =>
    obtain ⟨goesOn, none⟩ := quiet last (List.mem_append_right _ (List.mem_singleton_self last))
    have before := ih fun later member => quiet later (List.mem_append_left _ member)
    rw [← List.append_assoc, latest_of_not_clears _ _ goesOn, none, before]
    rfl

/-- What is latest has been given after every moment that clears. -/
theorem given_since {given : Moment → Option α} {before since : List Moment} {moment : Moment}
    (clears : moment.clears = true) {value : α}
    (found : latest given (before ++ moment :: since) = some value) :
    ∃ later ∈ since, given later = some value := by
  induction since using List.reverseRecOn with
  | nil =>
    rw [latest_of_clears given before clears] at found
    cases found
  | append_singleton since last ih =>
    rw [← List.cons_append, ← List.append_assoc] at found
    cases ends : last.clears with
    | true =>
      rw [latest_of_clears _ _ ends] at found
      cases found
    | false =>
      rw [latest_of_not_clears _ _ ends] at found
      cases gives : given last with
      | some other =>
        rw [gives] at found
        cases found
        exact ⟨last, List.mem_append_right _ (List.mem_singleton_self last), gives⟩
      | none =>
        rw [gives] at found
        obtain ⟨later, member, gave⟩ := ih found
        exact ⟨later, List.mem_append_left _ member, gave⟩

end History

/-- The product is made of what a history gives since the last moment that clears. -/
structure Provenance (history : List Moment) (product : NewProduct) : Prop where
  name : latest Moment.name? history = some product.name
  price : ∃ price, latest Moment.price? history = some price ∧
    product.regularPrice = formatPrice price
  stock : latest Moment.stock? history = some product.stockQuantity
  description : product.description = latest Moment.description? history
  images : product.images = (((latest Moment.image? history).filter (!·.url.isEmpty)).map
    fun image => ProductImage.mk image.url (some product.name)).toList

/-- A name, a price and a stock count have been accepted. -/
structure SuppliedAgain (since : List Moment) : Prop where
  name : ∃ moment ∈ since, moment.name?.isSome
  price : ∃ moment ∈ since, moment.price?.isSome
  stock : ∃ moment ∈ since, moment.stock?.isSome

/-- What is made of a history has been supplied since any moment that clears. -/
theorem Provenance.suppliedAgain {before since : List Moment} {moment : Moment}
    {product : NewProduct} (provenance : Provenance (before ++ moment :: since) product)
    (clears : moment.clears = true) : SuppliedAgain since := by
  obtain ⟨price, priced, -⟩ := provenance.price
  obtain ⟨names, named, name⟩ := given_since clears provenance.name
  obtain ⟨prices, pricing, price⟩ := given_since clears priced
  obtain ⟨stocks, stocking, stock⟩ := given_since clears provenance.stock
  exact ⟨⟨names, named, by rw [name]; rfl⟩, ⟨prices, pricing, by rw [price]; rfl⟩,
    ⟨stocks, stocking, by rw [stock]; rfl⟩⟩

/-- The product that a history has collected, with a stock keeping unit. -/
def collected (history : List Moment) (sku : Option String) : StagedProduct where
  name := latest Moment.name? history
  price := latest Moment.price? history
  stock := latest Moment.stock? history
  description := latest Moment.description? history
  sku := sku

theorem collected_of_not_clears (history : List Moment) (sku : Option String) {moment : Moment}
    (goesOn : moment.clears = false) :
    collected (history ++ [moment]) sku =
      { name := moment.name? <|> latest Moment.name? history
        price := moment.price? <|> latest Moment.price? history
        stock := moment.stock? <|> latest Moment.stock? history
        description := moment.description? <|> latest Moment.description? history
        sku := sku } := by
  simp only [collected, latest_of_not_clears _ history goesOn]

/-- A context keeps what its history has collected. -/
structure Reflects (history : List Moment) (context : Table Json) : Prop where
  product : ∃ sku, StagedProduct.ofContext (context.get? productKey) = .ok (collected history sku)
  image : StagedImage.ofContext (context.get? imageKey) =
    .ok ((latest Moment.image? history).filter (!·.url.isEmpty))

namespace Reflects

variable {history : List Moment} {context : Table Json} {moment : Moment}

/-- After a moment that clears, a context without a product and an image keeps what is known. -/
theorem of_clears (clears : moment.clears = true) (noProduct : context.get? productKey = none)
    (noImage : context.get? imageKey = none) : Reflects (history ++ [moment]) context where
  product := by
    refine ⟨none, ?_⟩
    simp only [noProduct, collected, latest_of_clears _ history clears]
    rfl
  image := by
    rw [noImage, latest_of_clears _ history clears]
    rfl

theorem put_product (reflects : Reflects history context) (goesOn : moment.clears = false)
    (noImage : moment.image? = none) {p : StagedProduct} {sku : Option String}
    (same : p = collected (history ++ [moment]) sku) :
    Reflects (history ++ [moment]) (context.put productKey p.toContext) where
  product := by
    rw [Table.get?_put_self, StagedProduct.ofContext_toContext, same]
    exact ⟨sku, rfl⟩
  image := by
    rw [Table.get?_put_of_ne _ _ (by decide), latest_of_not_clears _ _ goesOn, noImage]
    exact reflects.image

theorem put_image (reflects : Reflects history context) (image : StagedImage) :
    Reflects (history ++ [.pictured image]) (context.put imageKey image.toContext) where
  product := by
    have goesOn : (Moment.pictured image).clears = false := rfl
    simp only [collected_of_not_clears history _ goesOn]
    rw [Table.get?_put_of_ne _ _ (by decide)]
    exact reflects.product
  image := by
    rw [Table.get?_put_self, StagedImage.ofContext_toContext, latest_of_not_clears _ _ rfl]
    rfl

theorem put_other (reflects : Reflects history context) {key : String} (value : Json)
    (notProduct : key ≠ productKey) (notImage : key ≠ imageKey) :
    Reflects history (context.put key value) where
  product := by
    rw [Table.get?_put_of_ne _ _ notProduct]
    exact reflects.product
  image := by
    rw [Table.get?_put_of_ne _ _ notImage]
    exact reflects.image

/-- A product that fields are merged into has collected them. -/
theorem merge {messages : Messages} {existing : StagedProduct} {fields : Table String}
    {merged : Merged} (reflects : Reflects history context)
    (held : StagedProduct.ofContext (context.get? productKey) = .ok existing)
    (done : mergeFields messages existing fields = .ok merged) :
    Reflects (history ++ [.answered fields]) (context.put productKey merged.product.toContext) := by
  obtain ⟨sku, kept⟩ := reflects.product
  rw [kept] at held
  cases held
  have same : merged.product = collected (history ++ [.answered fields]) sku := by
    rw [(mergeFields_ok done).1, collected_of_not_clears _ _ (by rfl)]
    rfl
  exact reflects.put_product rfl rfl same

end Reflects

end Storekeeper
