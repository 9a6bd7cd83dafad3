import Storekeeper.Proofs.Dialogue.Failing
import Storekeeper.Proofs.Dialogue.Provenance

/-!
# What holds of every collected product

A product is collected by what messages give of it and what an action notes in it, in the place that a
flow may also use for other answers.

* `StagedProduct.Lasting`: a property that begins with nothing known and that neither takes away.
* `Desk.afterAll_collects`: such a property holds of every product that is kept after any events, over
  every flow.
* `Desk.creations_collected`: whatever is to be created is made of a product with the property.
-/

namespace Storekeeper

variable {P : StagedProduct → Prop}

/-- A property of collected products that no message and no action takes away. -/
structure StagedProduct.Lasting (P : StagedProduct → Prop) : Prop where
  empty : P .empty
  accepts : ∀ p text, P p → P (p.accepting (parseFields text))
  named : ∀ p sku, P p → P { p with sku := some sku }

/-- The product that a context keeps has the property, if one can be read. -/
def Collects (P : StagedProduct → Prop) (context : Table Json) : Prop :=
  ∀ p, StagedProduct.ofContext (context.get? productKey) = .ok p → P p

/-- The product is made of a collected one with the property. -/
def MadeOf (P : StagedProduct → Prop) (product : NewProduct) : Prop :=
  ∃ p draft sku image, P p ∧ p.draft? = some draft ∧ product = draft.complete sku image

/-- Everything that is created on the way is made of products with the property. -/
def AllMadeOf (P : StagedProduct → Prop) (deeds : List Deed) : Prop :=
  ∀ creation ∈ creations deeds, MadeOf P creation.product

theorem AllMadeOf.of_nothing {deeds : List Deed} (nothing : creations deeds = []) : AllMadeOf P deeds := by
  intro creation member
  rw [nothing] at member
  cases member

theorem AllMadeOf.append {first second : List Deed} (left : AllMadeOf P first)
    (right : AllMadeOf P second) : AllMadeOf P (first ++ second) := by
  intro creation member
  have joined : creations (first ++ second) = creations first ++ creations second :=
    List.filterMap_append
  rw [joined] at member
  rcases List.mem_append.mp member with here | later
  · exact left creation here
  · exact right creation later

namespace Collects

variable {context : Table Json}

/-- A context in which nothing is known of a product. -/
theorem of_none (lasting : StagedProduct.Lasting P) (none : context.get? productKey = none) :
    Collects P context := by
  intro p held
  rw [none] at held
  cases held
  exact lasting.empty

theorem put (collects : Collects P context) (key : String) {value : Json}
    (product : ∀ p, StagedProduct.ofContext (some value) = .ok p → P p) :
    Collects P (context.put key value) := by
  intro p held
  by_cases same : key = productKey
  · rw [same, Table.get?_put_self] at held
    exact product p held
  · rw [Table.get?_put_of_ne _ _ same] at held
    exact collects p held

/-- A text in the place of the product is read as a product of which nothing is known. -/
theorem put_text (collects : Collects P context) (lasting : StagedProduct.Lasting P)
    (key text : String) : Collects P (context.put key (.str text)) := by
  refine collects.put key fun p held => ?_
  cases held
  exact lasting.empty

theorem put_image (collects : Collects P context) (lasting : StagedProduct.Lasting P)
    (key : String) (image : StagedImage) : Collects P (context.put key image.toContext) := by
  refine collects.put key fun p held => ?_
  have unknown : StagedProduct.ofContext (some image.toContext) = .ok .empty := by
    obtain ⟨url, mimeType⟩ := image
    cases mimeType <;> rfl
  rw [unknown] at held
  cases held
  exact lasting.empty

theorem put_product (collects : Collects P context) {p : StagedProduct} (has : P p) :
    Collects P (context.put productKey p.toContext) := by
  refine collects.put productKey fun q held => ?_
  rw [p.ofContext_toContext] at held
  cases held
  exact has

end Collects

namespace Assistant

variable {a : Assistant} {opened : Except Failure Session} {chat name : String} {hops : Nat}
  {session? : Option Session} {content : Inbound} {arrival : Arrival} {deeds : List Deed}
  {out : Except Failure Decision} {context : Table Json}

/-- What an action creates is made of the product that the context keeps, and the context afterwards
keeps one with the property. -/
theorem Acts.collects (lasting : StagedProduct.Lasting P) (collects : Collects P context)
    {action : Action} {result : Except Failure (Table Json × String)}
    (acts : a.Acts context action deeds result) :
    AllMadeOf P deeds ∧ ∀ after text, result = .ok (after, text) → Collects P after := by
  have unchanged : ∀ {said : String} after text,
      (.ok (context, said) : Except Failure (Table Json × String)) = .ok (after, text) →
        Collects P after := by
    rintro said after text ⟨⟩
    exact collects
  cases acts with
  | lists lists =>
    have nothing : creations deeds = [] := by cases lists <;> rfl
    exact ⟨.of_nothing nothing, unchanged⟩
  | adds adds =>
    have withSku : ∀ product sku, P product → Collects P (withSku context product sku) :=
      fun product sku has => collects.put_product (lasting.named product sku has)
    cases adds with
    | unreadable failed => exact ⟨.of_nothing rfl, nofun⟩
    | incomplete kept undrafted => exact ⟨.of_nothing rfl, unchanged⟩
    | notConfigured kept drafted missing => exact ⟨.of_nothing rfl, unchanged⟩
    | imageUnreadable sku kept drafted configured failed => exact ⟨.of_nothing rfl, nofun⟩
    | @refused product draft image sku failure kept drafted configured pictured =>
      have has := collects product kept
      constructor
      · intro creation member
        cases List.mem_singleton.mp member
        exact ⟨product, draft, sku, image, has, drafted, rfl⟩
      · rintro after text ⟨⟩
        exact withSku product sku has
    | @created product draft image sku made kept drafted configured pictured =>
      have has := collects product kept
      constructor
      · intro creation member
        cases List.mem_singleton.mp member
        exact ⟨product, draft, sku, image, has, drafted, rfl⟩
      · rintro after text ⟨⟩
        exact .of_none lasting (erased_both _).1

/-- The course creates what is made of products with the property, and a session that it keeps collects
one. -/
structure Gathers (P : StagedProduct → Prop) (deeds : List Deed) (out : Except Failure Decision) :
    Prop where
  made : AllMadeOf P deeds
  kept : ∀ session, keptBy out = some session → Collects P session.context

theorem Gathers.of_quiet (nothing : creations deeds = []) (none : keptBy out = none) :
    Gathers P deeds out where
  made := .of_nothing nothing
  kept := by
    intro session keeps
    rw [none] at keeps
    cases keeps

theorem Gathers.of_keep (nothing : creations deeds = []) {reply : Reply} {session : Session}
    (collects : Collects P session.context) :
    Gathers P deeds (.ok ⟨reply, .keep session⟩) where
  made := .of_nothing nothing
  kept := by
    rintro _ ⟨⟩
    exact collects

theorem Enters.gathers (lasting : StagedProduct.Lasting P) (enters : a.Enters hops name arrival deeds out)
    (collects : Collects P arrival.session.context) : Gathers P deeds out := by
  induction enters with
  | missing _ => exact .of_quiet rfl rfl
  | ended _ => exact .of_quiet rfl rfl
  | menu _ => exact .of_keep rfl collects
  | prompt _ _ => exact .of_keep rfl collects
  | limit _ => exact .of_keep rfl collects
  | failed _ acts => exact ⟨(acts.collects lasting collects).1, nofun⟩
  | @onward hops name arrival step first second context text out found acts _ ih =>
    obtain ⟨made, after⟩ := acts.collects lasting collects
    have rest : Gathers P second out := ih (after context text rfl)
    exact ⟨made.append rest.made, rest.kept⟩

theorem Leads.collects (lasting : StagedProduct.Lasting P)
    (leads : a.Leads opened session? content name arrival)
    (known : ∀ session, session? = some session → Collects P session.context)
    (opens : ∀ session, opened = .ok session → session.context = []) :
    Collects P arrival.session.context := by
  cases leads with
  | opened _ _ opening =>
    rw [opens _ opening]
    exact .of_none lasting rfl
  | chosen _ _ _ => exact known _ rfl
  | cancelled _ _ _ => exact .of_none lasting (forgotten _ _).1
  | answered _ _ _ => exact (known _ rfl).put_text lasting _ _
  | completed gives held merge whole complete =>
    obtain ⟨-, -, ⟨text, -, rfl⟩, -⟩ := gives
    have collects := known _ rfl
    refine collects.put_product ?_
    rw [(mergeFields_ok merge).1]
    exact lasting.accepts _ text (collects _ held)
  | pictured _ => exact (known _ rfl).put_image lasting _ _
  | skipped _ _ _ => exact known _ rfl
  | resumed _ _ => exact known _ rfl

theorem Settles.gathers (lasting : StagedProduct.Lasting P)
    (settles : a.Settles opened chat session? content deeds out)
    (known : ∀ session, session? = some session → Collects P session.context) :
    Gathers P deeds out := by
  cases settles with
  | toMenu _ _ _ =>
    have collects := known _ rfl
    exact .of_keep rfl collects
  | toStep _ _ _ =>
    have collects := known _ rfl
    exact .of_keep rfl collects
  | incomplete gives held merge _ =>
    obtain ⟨-, -, ⟨text, -, rfl⟩, -⟩ := gives
    have collects := known _ rfl
    refine .of_keep rfl (collects.put_product ?_)
    rw [(mergeFields_ok merge).1]
    exact lasting.accepts _ text (collects _ held)
  | _ => exact .of_quiet rfl rfl

/-- An answer creates what is made of products with the property and keeps one with it. -/
theorem Answers.gathers (lasting : StagedProduct.Lasting P)
    (answers : a.Answers opened chat session? content deeds out)
    (known : ∀ session, session? = some session → Collects P session.context)
    (opens : ∀ session, opened = .ok session → session.context = []) : Gathers P deeds out := by
  rcases answers with settles | ⟨name, arrival, leads, enters⟩
  · exact settles.gathers lasting known
  · exact enters.gathers lasting (leads.collects lasting known opens)

end Assistant

namespace Desk

variable {σ : Type} {world : World σ} {a : Assistant} {desk : Desk}

/-- After any events every product that is kept has a lasting property. -/
theorem afterAll_collects (lasting : StagedProduct.Lasting P) (filed : desk.store.Filed)
    (collects : desk.Holds (Collects P)) (events : List (Event σ)) :
    (desk.afterAll world a events).Holds (Collects P) := by
  have retains : a.Retains (Collects P) := by
    intro opened chat session? content deeds out session answers known opens keeps
    exact (answers.gathers lasting known opens).kept session keeps
  exact afterAll_holds retains filed collects events

/-- Whatever a turn creates is made of a product with a lasting property. -/
theorem creations_collected (lasting : StagedProduct.Lasting P) (collects : desk.Holds (Collects P))
    (chat : String) (content : Inbound) (s : σ) :
    AllMadeOf P (desk.deeds world a chat content s) :=
  ((process_answers world a desk chat content s).gathers lasting (collects.live (world.now s) chat)
    fun _ opens => opening_context opens).made

end Desk

end Storekeeper
