import Storekeeper.Proofs.Dialogue.Collecting
import Storekeeper.Proofs.Product.Price

/-!
# What the catalog is asked to create

The place in which a product is collected may also be used for the answers to other questions, and for
images.  Whatever is written there, a product that is well formed can be read from it.

* `StagedProduct.WellFormed` is kept by every message and every action, so that it holds of every product
  that is kept (`StagedProduct.wellFormed_lasting`).
* `Orderly` says of what is done in a row that each product is asked for with at most one image, and under
  an identifier that was asked for just before; `Desk.record` is all that is done over some events.
* `Desk.staged_records` is the result for every list of events at a new desk.
-/

namespace Storekeeper

open Storekeeper.Decimal

/-! ## Products that are collected -/

/-- What is known of the product can be asked of the catalog: name and description are lines, the price
is a finite number greater than zero, and the stock count is no less than zero. -/
structure StagedProduct.WellFormed (p : StagedProduct) : Prop where
  name : ∀ name, p.name = some name → Text.IsLine name
  price : ∀ price, p.price = some price →
    price.isFinite = true ∧ (Binary64.finite false 0).less price = true
  stock : ∀ stock, p.stock = some stock → 0 ≤ stock
  description : ∀ description, p.description = some description → Text.IsLine description

section Accepted

variable {fields : Table String} {text : String}

theorem acceptedName?_isLine {name : String}
    (accepted : acceptedName? (parseFields text) = some name) : Text.IsLine name := by
  obtain ⟨stripped, -⟩ := Option.filter_eq_some_iff.mp accepted
  obtain ⟨value, given, rfl⟩ := Option.map_eq_some_iff.mp stripped
  have isLine := parseFields_isLine given
  rw [isLine.stripped]
  exact isLine

theorem acceptedPrice?_positive {price : Binary64} (accepted : acceptedPrice? fields = some price) :
    price.isFinite = true ∧ (Binary64.finite false 0).less price = true := by
  obtain ⟨value, -, parsed⟩ := Option.bind_eq_some_iff.mp accepted
  obtain ⟨units, rfl, something, -⟩ := parsePrice_some parsed
  exact ⟨rfl, decide_eq_true (Int.natCast_pos.mpr (Nat.pos_of_ne_zero something))⟩

theorem parseStock_nonneg {value : String} {stock : Int}
    (parsed : parseStock value = .ok (some stock)) : 0 ≤ stock := by
  unfold parseStock at parsed
  dsimp only at parsed
  split at parsed
  · cases parsed
  · split at parsed
    · cases parsed
    · cases parsed
      exact Int.natCast_nonneg _

theorem acceptedStock?_nonneg {stock : Int} (accepted : acceptedStock? fields = some stock) :
    0 ≤ stock := by
  obtain ⟨value, -, counted⟩ := Option.bind_eq_some_iff.mp accepted
  cases parsed : parseStock value with
  | error failure =>
    rw [parsed] at counted
    cases counted
  | ok stock? =>
    rw [parsed] at counted
    change stock? = some stock at counted
    rw [counted] at parsed
    exact parseStock_nonneg parsed

/-- A value that is accepted replaces the one before. -/
theorem of_accepted {α : Type} {Q : α → Prop} {accepted? before? : Option α} {value : α}
    (newer : ∀ value, accepted? = some value → Q value)
    (older : ∀ value, before? = some value → Q value)
    (given : (accepted? <|> before?) = some value) : Q value := by
  cases found : accepted? with
  | none =>
    rw [found] at given
    exact older value given
  | some other =>
    rw [found] at given
    cases given
    exact newer value found

end Accepted

theorem StagedProduct.wellFormed_lasting : Lasting WellFormed where
  empty := ⟨nofun, nofun, nofun, nofun⟩
  accepts := by
    intro p text formed
    exact {
      name := fun _ => of_accepted (fun _ => acceptedName?_isLine) formed.name
      price := fun _ => of_accepted (fun _ => acceptedPrice?_positive) formed.price
      stock := fun _ => of_accepted (fun _ => acceptedStock?_nonneg) formed.stock
      description := fun _ => of_accepted (fun _ => parseFields_isLine) formed.description }
  named := fun _ _ formed => ⟨formed.name, formed.price, formed.stock, formed.description⟩

/-! ## Products that are asked for -/

/-- The product has at most one image; it has an address and is called like the product. -/
structure NewProduct.Pictured (product : NewProduct) : Prop where
  single : product.images.length ≤ 1
  images : ∀ image ∈ product.images, image.src ≠ "" ∧ image.name = some product.name

theorem NewProduct.complete_pictured (draft : NewProduct) (sku : String) {held? : Option Json}
    {image? : Option StagedImage} (found : StagedImage.ofContext held? = .ok image?) :
    (draft.complete sku image?).Pictured := by
  cases image? with
  | none => exact ⟨Nat.zero_le 1, nofun⟩
  | some image =>
    refine ⟨Nat.le_refl 1, fun shown member => ?_⟩
    cases List.mem_singleton.mp member
    exact ⟨StagedImage.url_ne_empty found, rfl⟩

/-- The product has a name that is a line and a stock count no less than zero, and at most one image that
is called like it. -/
structure NewProduct.WellFormed (product : NewProduct) : Prop where
  name : Text.IsLine product.name
  stock : 0 ≤ product.stockQuantity
  pictured : product.Pictured

theorem NewProduct.wellFormed_of_madeOf {product : NewProduct}
    (made : MadeOf StagedProduct.WellFormed product) (pictured : product.Pictured) :
    product.WellFormed := by
  obtain ⟨p, draft, sku, image, formed, drafted, rfl⟩ := made
  unfold StagedProduct.draft? at drafted
  split at drafted
  · rename_i name price stock named _ stocked
    cases drafted
    exact ⟨formed.name name named, formed.stock stock stocked, pictured⟩
  · cases drafted

/-- The identifier that a deed asks for. -/
def Deed.issued? : Deed → Option String
  | identified sku => some sku
  | _ => none

/-- The identifiers that are asked for on the way. -/
def issued (deeds : List Deed) : List String :=
  deeds.filterMap Deed.issued?

/-- The stock keeping units of the products that are asked for on the way. -/
def ordered (deeds : List Deed) : List String :=
  (creations deeds).map fun creation => creation.product.sku

/-- Each product is asked for with at most one image, and under an identifier of its own among those that
have been asked for. -/
structure Orderly (deeds : List Deed) : Prop where
  pictured : ∀ creation ∈ creations deeds, creation.product.Pictured
  fresh : (ordered deeds).Sublist (issued deeds)

namespace Orderly

theorem of_nothing {deeds : List Deed} (nothing : creations deeds = []) : Orderly deeds where
  pictured := by
    rw [nothing]
    nofun
  fresh := by
    unfold ordered
    rw [nothing]
    exact List.nil_sublist _

theorem append {first second : List Deed} (left : Orderly first) (right : Orderly second) :
    Orderly (first ++ second) where
  pictured := by
    intro creation member
    rw [creations, List.filterMap_append, List.mem_append] at member
    rcases member with here | later
    · exact left.pictured creation here
    · exact right.pictured creation later
  fresh := by
    unfold ordered issued creations
    rw [List.filterMap_append, List.filterMap_append, List.map_append]
    exact left.fresh.append right.fresh

end Orderly

namespace Assistant

variable {a : Assistant} {opened : Except Failure Session} {chat name : String} {hops : Nat}
  {session? : Option Session} {content : Inbound} {arrival : Arrival} {deeds : List Deed}
  {out : Except Failure Decision} {context : Table Json}

/-- An action asks for at most one product, with the image that is found and under the identifier that
it has just got. -/
theorem Acts.orderly {action : Action} {result : Except Failure (Table Json × String)}
    (acts : a.Acts context action deeds result) : Orderly deeds := by
  cases acts with
  | lists lists => cases lists <;> exact .of_nothing rfl
  | adds adds =>
    cases adds with
    | @refused product draft image sku failure kept drafted configured pictured =>
      refine ⟨fun creation member => ?_, List.Sublist.refl [sku]⟩
      cases List.mem_singleton.mp member
      exact draft.complete_pictured sku pictured
    | @created product draft image sku made kept drafted configured pictured =>
      refine ⟨fun creation member => ?_, List.Sublist.refl [sku]⟩
      cases List.mem_singleton.mp member
      exact draft.complete_pictured sku pictured
    | _ => exact .of_nothing rfl

theorem Enters.orderly (enters : a.Enters hops name arrival deeds out) : Orderly deeds := by
  induction enters with
  | failed _ acts => exact acts.orderly
  | onward _ acts _ ih => exact acts.orderly.append ih
  | _ => exact .of_nothing rfl

theorem Answers.orderly (answers : a.Answers opened chat session? content deeds out) :
    Orderly deeds := by
  rcases answers with settles | ⟨name, arrival, leads, enters⟩
  · cases settles <;> exact .of_nothing rfl
  · exact enters.orderly

end Assistant

/-! ## At a desk -/

/-- A world whose state is the time, in which the time makes each identifier another one. -/
def World.numbered : World Time where
  toSurroundings :=
    { World.bare.toSurroundings with identifier := fun now => ("SKU" ++ toString now, now + 1) }
  now := World.bare.now

namespace Desk

variable {σ : Type} {world : World σ} {a : Assistant} {desk : Desk}

/-- What is done in the turn of an event. -/
def doings (world : World σ) (a : Assistant) (desk : Desk) : Event σ → List Deed
  | .message chat content s => desk.deeds world a chat content s
  | .sweep _ => []

/-- All that is done in the turns of some events, one after the other. -/
def record (world : World σ) (a : Assistant) : Desk → List (Event σ) → List Deed
  | _, [] => []
  | desk, event :: events =>
    desk.doings world a event ++ record world a (desk.after world a event) events

theorem record_orderly (world : World σ) (a : Assistant) (desk : Desk) (events : List (Event σ)) :
    Orderly (desk.record world a events) := by
  induction events generalizing desk with
  | nil => exact .of_nothing rfl
  | cons event events ih =>
    have here : Orderly (desk.doings world a event) := by
      cases event with
      | message chat content s => exact (process_answers world a desk chat content s).orderly
      | sweep s => exact .of_nothing rfl
    exact here.append (ih (desk.after world a event))

/-- Whatever is created over some events is made of products with a lasting property. -/
theorem record_collected {P : StagedProduct → Prop} (lasting : StagedProduct.Lasting P)
    (filed : desk.store.Filed) (collects : desk.Holds (Collects P)) (events : List (Event σ)) :
    AllMadeOf P (desk.record world a events) := by
  induction events generalizing desk with
  | nil => exact .of_nothing rfl
  | cons event events ih =>
    have here : AllMadeOf P (desk.doings world a event) := by
      cases event with
      | message chat content s => exact creations_collected lasting collects chat content s
      | sweep s => exact .of_nothing rfl
    have next : (desk.after world a event).Holds (Collects P) :=
      afterAll_collects lasting filed collects [event]
    exact here.append (ih (after_filed filed event) next)

/-- **Staged records.**  Over any flow, and after any events at a new desk, a well-formed product can be
read from each stored session.  Each product that the catalog is asked to create has a name of one line, a
stock count no less than zero and at most one image, with an address and called like the product; and no
two of them have one stock keeping unit, if no identifier is issued twice. -/
theorem staged_records (a : Assistant) (world : World σ) (timeout horizon : Time)
    (events : List (Event σ)) :
    let start := Desk.new ⟨timeout, horizon, []⟩
    let done := start.record world a events
    (∀ chat session, (start.afterAll world a events).store.sessions.get? chat = some session →
      ∃ p, StagedProduct.ofContext (session.context.get? productKey) = .ok p ∧ p.WellFormed) ∧
    (∀ creation ∈ creations done, creation.product.WellFormed) ∧
    ((issued done).Nodup → (ordered done).Nodup) := by
  intro start done
  have lasting := StagedProduct.wellFormed_lasting
  have filed : start.store.Filed := .empty timeout horizon
  have orderly : Orderly done := record_orderly world a start events
  refine ⟨fun chat session found => ?_, fun creation member => ?_, fun distinct => ?_⟩
  · have readable : (start.afterAll world a events).IsReadable :=
      afterAll_readable filed (fun chat session found => by cases found) events
    have collects : (start.afterAll world a events).Holds (Collects StagedProduct.WellFormed) :=
      afterAll_collects lasting filed (.new timeout horizon) events
    obtain ⟨p, held⟩ := (readable chat session found).product
    exact ⟨p, held, collects chat session found p held⟩
  · have made : AllMadeOf StagedProduct.WellFormed done :=
      record_collected lasting filed (.new timeout horizon) events
    exact NewProduct.wellFormed_of_madeOf (made creation member) (orderly.pictured creation member)
  · exact distinct.sublist orderly.fresh

/-- Two chats create a product each, the second one while the first is being put together, and each gets
an identifier of its own. -/
theorem staged_records_numbered :
    let a : Assistant := ⟨.builtin, defaultMessages, none, true, 8, 10⟩
    let events : List (Event Time) :=
      [.message "c" (.text "hi") 0, .message "c" (.text "add") 1,
       .message "c" (.text "Name: Lamp\nPrice: 5\nStock: 1") 2, .message "d" (.text "hi") 3,
       .message "d" (.text "add") 4, .message "d" (.text "Name: Bead \nPrice: 2\nQuantity: 7") 5,
       .message "c" (.image "https://example.org/lamp.png" none) 6, .message "d" (.text "skip") 8]
    let done := (Desk.new ⟨1000, 10000, []⟩).record .numbered a events
    issued done = ["SKU6", "SKU8"] ∧ ordered done = ["SKU6", "SKU8"] ∧ (ordered done).Nodup := by
  intro a events done
  have identifiers : issued done = ["SKU6", "SKU8"] := by decide +kernel
  have units : ordered done = ["SKU6", "SKU8"] := by decide +kernel
  refine ⟨identifiers, units, (staged_records a .numbered 1000 10000 events).2.2 ?_⟩
  change (issued done).Nodup
  rw [identifiers]
  decide

end Desk

end Storekeeper
