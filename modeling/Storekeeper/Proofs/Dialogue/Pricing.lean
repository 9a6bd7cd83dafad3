import Storekeeper.Proofs.Dialogue.Collecting
import Storekeeper.Proofs.Product.Price

/-!
# The prices of created products

Every price that is collected has been accepted, so that what is said of an accepted price that is written
and read again holds of every product that the catalog is asked to create.
-/

namespace Storekeeper

open Storekeeper.Decimal

/-- The price of the product, if it has one, has been accepted. -/
def StagedProduct.Priced (p : StagedProduct) : Prop :=
  ∀ price, p.price = some price → ∃ value, parsePrice value = some price

theorem StagedProduct.priced_lasting : Lasting Priced where
  empty := by
    intro price given
    cases given
  accepts := by
    intro p text priced price given
    change (acceptedPrice? (parseFields text) <|> p.price) = some price at given
    cases accepted : acceptedPrice? (parseFields text) with
    | none =>
      rw [accepted] at given
      exact priced price given
    | some newer =>
      rw [accepted] at given
      cases given
      obtain ⟨value, -, parsed⟩ := Option.bind_eq_some_iff.mp accepted
      exact ⟨value, parsed⟩
  named := fun _ _ priced => priced

theorem regularPrice_of_madeOf {product : NewProduct} (made : MadeOf StagedProduct.Priced product) :
    ∃ value price, parsePrice value = some price ∧ product.regularPrice = formatPrice price := by
  obtain ⟨p, draft, sku, image, priced, drafted, rfl⟩ := made
  unfold StagedProduct.draft? at drafted
  split at drafted
  · rename_i name price stock _ given _
    cases drafted
    obtain ⟨value, parsed⟩ := priced price given
    exact ⟨value, price, parsed, rfl⟩
  · cases drafted

/-- What becomes of an accepted price when it is written: one of more than half a hundredth is accepted
again, as the number nearest to its hundredths, and any other is written as a zero, which is not. -/
def WrittenAs (price : Binary64) (text : String) : Prop :=
  (HasHundredths price → parsePrice text = some (toHundredths price)) ∧
    (¬HasHundredths price → text = "0" ∧ parsePrice text = none)

theorem writtenAs_formatPrice {value : String} {price : Binary64}
    (parsed : parsePrice value = some price) : WrittenAs price (formatPrice price) := by
  refine ⟨parsePrice_formatPrice parsed, fun hasNone => ?_⟩
  rw [formatPrice_zero parsed hasNone]
  exact ⟨rfl, parsePrice_zero⟩

/-- **Prices of created products.**  Over any flow and after any events at a new desk, each product that
a turn asks the catalog to create has the price that is written of an accepted one.  What is written of
an accepted price, there and anywhere, is accepted as a number greater than zero exactly if the price is
more than half a hundredth. -/
theorem Desk.creation_price {σ : Type} (a : Assistant) (world : World σ) (timeout horizon : Time)
    (events : List (Event σ)) (chat : String) (content : Inbound) (s : σ) :
    let desk := (Desk.new ⟨timeout, horizon, []⟩).afterAll world a events
    (∀ value price, parsePrice value = some price → WrittenAs price (formatPrice price)) ∧
    ∀ creation ∈ creations (desk.deeds world a chat content s),
      ∃ value price, parsePrice value = some price ∧
        creation.product.regularPrice = formatPrice price ∧
        WrittenAs price creation.product.regularPrice := by
  intro desk
  refine ⟨fun value price parsed => writtenAs_formatPrice parsed, fun creation member => ?_⟩
  have collects : desk.Holds (Collects StagedProduct.Priced) :=
    afterAll_collects StagedProduct.priced_lasting (.empty timeout horizon) (.new timeout horizon)
      events
  have made : AllMadeOf StagedProduct.Priced (desk.deeds world a chat content s) :=
    creations_collected StagedProduct.priced_lasting collects chat content s
  obtain ⟨value, price, parsed, written⟩ := regularPrice_of_madeOf (made creation member)
  exact ⟨value, price, parsed, written, written ▸ writtenAs_formatPrice parsed⟩

/-- A tenth of a hundredth is accepted and reaches the catalog as a zero, which is not. -/
theorem Desk.creation_price_vanishes :
    let a : Assistant := ⟨.builtin, defaultMessages, none, true, 8, 10⟩
    let events : List (Event Time) :=
      [.message "c" (.text "hi") 0, .message "c" (.text "add") 1,
       .message "c" (.text "Name: Bead\nPrice: 0.001\nStock: 1") 2]
    let desk := (Desk.new ⟨1000, 10000, []⟩).afterAll .bare a events
    (parsePrice "0.001").isSome = true ∧
      (creations (desk.deeds .bare a "c" (.text "skip") 3)).map
        (fun creation => creation.product.regularPrice) = ["0"] ∧
      parsePrice "0" = none := by
  decide +kernel

end Storekeeper
