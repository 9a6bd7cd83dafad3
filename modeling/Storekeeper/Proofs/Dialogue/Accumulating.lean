import Storekeeper.Proofs.Dialogue.Chaining
import Storekeeper.Proofs.Product.Supply

/-!
# Collecting a product over several messages

A question for the fields of a product is asked until the product is complete and nothing that the last text
supplied was turned down.  Each text adds what it validly supplies to what is known, and nothing else of the
conversation changes.

* `Session.Carries` compares a session with one that keeps a product in the place of its own.
* `Desk.process_merges`: a text that is answered is merged, and either leads on or leaves the conversation at
  the question.
* `Desk.Fills` is a run in which a chat keeps answering the question, and `Desk.Fills.carries` says what the
  conversation knows after it.
* `Desk.product_accumulates` puts both together for every reachable desk.
-/

namespace Storekeeper

/-- A session is another one that keeps a product in the place of its own. -/
structure Session.Carries (session : Session) (product : StagedProduct) (other : Session) : Prop where
  chat : other.chat = session.chat
  step : other.step = session.step
  product : StagedProduct.ofContext (other.context.get? productKey) = .ok product
  rest : ∀ name, name ≠ productKey → other.context.get? name = session.context.get? name

namespace Session

variable {session other third : Session} {product latest : StagedProduct}

theorem carries_keeping (session : Session) (product : StagedProduct) :
    session.Carries product (session.keeping productKey product.toContext) where
  chat := rfl
  step := rfl
  product := by
    change StagedProduct.ofContext ((session.context.put productKey product.toContext).get? productKey) = _
    rw [Table.get?_put_self]
    exact product.ofContext_toContext
  rest := fun _ different => Table.get?_put_of_ne _ _ (Ne.symm different)

theorem Carries.trans (first : session.Carries product other) (second : other.Carries latest third) :
    session.Carries latest third where
  chat := second.chat.trans first.chat
  step := second.step.trans first.step
  product := second.product
  rest := fun name different => (second.rest name different).trans (first.rest name different)

/-- When a session was written does not matter. -/
theorem Carries.written (carries : session.Carries product other) (updated expires : Time) :
    session.Carries product { other with updated, expires } :=
  ⟨carries.chat, carries.step, carries.product, carries.rest⟩

end Session

namespace Assistant

variable {a : Assistant} {opened : Except Failure Session} {chat name : String} {session : Session}
  {step : InputStep} {message : Inbound} {fields : Table String} {known : StagedProduct} {merged : Merged}
  {arrival : Arrival}

/-- A text that gives fields leads on only with a product that is complete, and without complaints. -/
theorem Leads.of_gives (gives : a.GivesFields session message step fields)
    (leads : a.Leads opened (some session) message name arrival) :
    ∃ known merged, StagedProduct.ofContext (session.context.get? productKey) = .ok known ∧
      mergeFields a.messages known fields = .ok merged ∧
      (merged.errors.isEmpty && merged.product.isComplete) = true := by
  obtain ⟨found, key, ⟨text, rfl, rfl⟩, goesOn⟩ := gives
  cases leads with
  | opened trigger _ _ => cases trigger with | parked other => cases found.symm.trans other
  | chosen other _ _ => cases found.symm.trans other
  | cancelled _ cancels _ => cases goesOn.symm.trans cancels
  | answered other _ notFields =>
    cases found.symm.trans other
    exact absurd key notFields
  | completed gives held merging clean complete =>
    obtain ⟨_, _, ⟨_, ⟨⟩, rfl⟩, _⟩ := gives
    exact ⟨_, _, held, merging, by rw [clean, complete]; rfl⟩
  | skipped other _ _ => cases found.symm.trans other
  | resumed other goes =>
    cases found.symm.trans other
    cases goes

theorem respond_fields {text : String} (gives : a.GivesFields session (.text text) step (parseFields text))
    (opened : Except Failure Session) (chat : String) :
    a.respond opened (some session) chat (.text text) = a.atProductInput session step text := by
  obtain ⟨found, key, -, goesOn⟩ := gives
  simp only [respond, found, atStep, atInput, goesOn, key, if_true]
  rfl

/-- Unless the product is complete and there is nothing to complain about, the question is asked again, and what
has been merged is kept. -/
theorem productInput_stays {text : String}
    (held : StagedProduct.ofContext (session.context.get? productKey) = .ok known)
    (merging : mergeFields a.messages known (parseFields text) = .ok merged)
    (stays : (merged.errors.isEmpty && merged.product.isComplete) = false) :
    a.atProductInput session step text =
      .done ⟨{ handled := true, response := some (merged.product.prompt merged.errors a.messages) },
        .keep (session.keeping productKey merged.product.toContext)⟩ := by
  unfold atProductInput
  rw [held]
  change (Turn.ofExcept (mergeFields a.messages known (parseFields text))).bind _ = _
  rw [merging]
  change (if (merged.errors.isEmpty && merged.product.isComplete) = true then _ else _) = _
  rw [stays]
  rfl

/-- A text whose merge fails has no answer. -/
theorem productInput_fails {text : String} {failure : Failure}
    (held : StagedProduct.ofContext (session.context.get? productKey) = .ok known)
    (merging : mergeFields a.messages known (parseFields text) = .error failure) :
    a.atProductInput session step text = .fail failure := by
  unfold atProductInput
  rw [held]
  change (Turn.ofExcept (mergeFields a.messages known (parseFields text))).bind _ = _
  rw [merging]
  rfl

end Assistant

namespace Desk

variable {σ : Type} {world : World σ} {a : Assistant} {desk : Desk} {chat text : String} {s : σ}
  {session found : Session} {step : InputStep} {known : StagedProduct} {reply : Reply}

/-- The turn of a text makes a product of the one that a session keeps.  If it is complete and the text supplies
nothing that is not valid, the turn leads to the step after the question and is the entry of this step, with a
session that keeps the product; otherwise it leads nowhere, the question is asked again, and such a session is
stored. -/
structure Merges (world : World σ) (a : Assistant) (desk : Desk) (chat text : String) (s : σ)
    (session : Session) (step : InputStep) (product : StagedProduct) : Prop where
  enters : product.isComplete = true ∧ SuppliesValid text → ∃ carrying, session.Carries product carrying ∧
    desk.Leads world a chat (.text text) s step.next ⟨carrying, none, none⟩ ∧
    desk.response a (world.now s) chat (.text text) = a.enter carrying step.next none none
  stays : ¬(product.isComplete = true ∧ SuppliesValid text) →
    (∀ name arrival, ¬desk.Leads world a chat (.text text) s name arrival) ∧
    (∃ errors, desk.response a (world.now s) chat (.text text) =
      .done ⟨{ handled := true, response := some (product.prompt errors a.messages) },
        .keep (session.keeping productKey product.toContext)⟩) ∧
    ∃ kept, (desk.after world a (.message chat (.text text) s)).store.sessions.get? chat = some kept ∧
      session.Carries product kept

/-- A text that is answered at a question for the fields of a product is merged. -/
theorem process_merges (filed : desk.store.Filed) (alive : desk.live (world.now s) chat = some session)
    (asked : a.flow.step? session.step = some (.input step)) (key : step.contextKey = productInputKey)
    (goesOn : (Inbound.text text).isCancel = false)
    (held : StagedProduct.ofContext (session.context.get? productKey) = .ok known)
    (replied : (desk.process world a chat (.text text) s).1 = .ok reply) :
    desk.Merges world a chat text s session step (known.withText text) := by
  have gives : a.GivesFields session (.text text) step (parseFields text) :=
    ⟨asked, key, ⟨text, rfl, rfl⟩, goesOn⟩
  have turn : desk.response a (world.now s) chat (.text text) = a.atProductInput session step text := by
    unfold response
    rw [alive]
    exact Assistant.respond_fields gives _ chat
  obtain ⟨write, decided⟩ := decision_of_reply replied
  cases merging : mergeFields a.messages known (parseFields text) with
  | error failure =>
    unfold decision at decided
    rw [turn, Assistant.productInput_fails held merging] at decided
    cases decided
  | ok merged =>
    obtain ⟨product, errors⟩ := mergeFields_ok merging
    rw [StagedProduct.accepting_parseFields] at product
    have ready : (merged.errors.isEmpty && merged.product.isComplete) = true ↔
        (known.withText text).isComplete = true ∧ SuppliesValid text := by
      rw [Bool.and_eq_true, errors, product, List.isEmpty_iff, rejections_eq_nil, and_comm]
    refine ⟨fun done => ?_, fun unfinished => ?_⟩
    · obtain ⟨clean, complete⟩ := (Bool.and_eq_true _ _).mp (ready.mpr done)
      have leads : desk.Leads world a chat (.text text) s step.next
          ⟨session.keeping productKey (known.withText text).toContext, none, none⟩ := by
        unfold Desk.Leads
        rw [alive, ← product]
        exact .completed gives held merging clean complete
      exact ⟨_, session.carries_keeping (known.withText text), leads, Assistant.Leads.respond_eq leads chat⟩
    · have stays : (merged.errors.isEmpty && merged.product.isComplete) = false :=
        Bool.eq_false_iff.mpr fun done => unfinished (ready.mp done)
      have again : desk.response a (world.now s) chat (.text text) =
          .done ⟨{ handled := true, response := some (merged.product.prompt merged.errors a.messages) },
            .keep (session.keeping productKey merged.product.toContext)⟩ :=
        turn.trans (Assistant.productInput_stays held merging stays)
      refine ⟨fun name arrival leads => ?_, ⟨merged.errors, product ▸ again⟩, ?_⟩
      · unfold Desk.Leads at leads
        rw [alive] at leads
        obtain ⟨_, _, held', merging', done⟩ := leads.of_gives gives
        cases held.symm.trans held'
        cases merging.symm.trans merging'
        exact unfinished (ready.mp done)
      · have kept : desk.decision world a chat (.text text) s =
            .ok ⟨{ handled := true, response := some (merged.product.prompt merged.errors a.messages) },
              .keep (session.keeping productKey merged.product.toContext)⟩ := by
          unfold decision
          rw [again]
          rfl
        cases decided.symm.trans kept
        refine ⟨_, process_of_keep filed replied kept, ?_⟩
        rw [← product]
        exact (session.carries_keeping merged.product).written _ _

/-- Over some events, a chat answers the question at which it stands with texts, one after the other: none of
them cancels the question, the turns reply, and none of them leads on.  Other events are left out of account. -/
inductive Fills (world : World σ) (a : Assistant) (chat : String) :
    Desk → List (Event σ) → List String → Prop
  | nil {desk : Desk} : Fills world a chat desk [] []
  | aside {desk : Desk} {event : Event σ} {events : List (Event σ)} {texts : List String} :
    event.isOf chat = false → Fills world a chat (desk.after world a event) events texts →
    Fills world a chat desk (event :: events) texts
  | text {desk : Desk} {session : Session} {text : String} {s : σ} {reply : Reply}
    {events : List (Event σ)} {texts : List String} :
    desk.live (world.now s) chat = some session → (Inbound.text text).isCancel = false →
    (desk.process world a chat (.text text) s).1 = .ok reply →
    (∀ name arrival, ¬desk.Leads world a chat (.text text) s name arrival) →
    Fills world a chat (desk.after world a (.message chat (.text text) s)) events texts →
    Fills world a chat desk (.message chat (.text text) s :: events) (text :: texts)

/-- After a run in which a chat keeps answering the question for the fields of a product, its session is the one
before, with the last valid values that its texts have supplied. -/
theorem Fills.carries {events : List (Event σ)} {texts : List String}
    (fills : Fills world a chat desk events texts) (filed : desk.store.Filed)
    (asked : a.flow.step? session.step = some (.input step)) (key : step.contextKey = productInputKey)
    (carries : ∀ found, desk.store.sessions.get? chat = some found → session.Carries known found) :
    ∀ found, (desk.afterAll world a events).store.sessions.get? chat = some found →
      session.Carries (known.withTexts texts) found := by
  induction fills generalizing known with
  | nil => exact carries
  | @aside desk event events texts aside _ ih =>
    exact ih (after_filed filed event) fun found stored => carries found (stored_of_aside filed aside stored)
  | @text desk here text s reply events texts alive goesOn replied leadsNowhere _ ih =>
    have before : session.Carries known here := carries here (Store.stored_of_live alive)
    have merges := process_merges filed alive (before.step ▸ asked) key goesOn before.product replied
    have unfinished : ¬((known.withText text).isComplete = true ∧ SuppliesValid text) := by
      intro done
      obtain ⟨carrying, -, leads, -⟩ := merges.enters done
      exact leadsNowhere _ _ leads
    obtain ⟨-, -, kept, stored, after⟩ := merges.stays unfinished
    rw [StagedProduct.withTexts_cons]
    refine ih (process_filed filed) fun found again => ?_
    cases stored.symm.trans again
    exact before.trans after

/-- **A product accumulates.**  After any events at a new desk, over any flow, let a chat's session stand at a
question for the fields of a product.  However many texts the chat then answers it with, none of them leading on,
the session changes in the product alone, which has of each field the last valid value that one of the texts
supplied, or what was known before; the next text that is answered is merged into this product, and leads on
exactly if the product is then complete and the text supplies nothing that is not valid. -/
theorem product_accumulates (a : Assistant) (world : World σ) (timeout horizon : Time)
    (events : List (Event σ)) (chat : String) :
    let desk := (Desk.new ⟨timeout, horizon, []⟩).afterAll world a events
    ∀ session step, desk.store.sessions.get? chat = some session →
      a.flow.step? session.step = some (.input step) → step.contextKey = productInputKey →
      ∃ known, StagedProduct.ofContext (session.context.get? productKey) = .ok known ∧
        ∀ more texts, Fills world a chat desk more texts →
          ∀ found text s reply, (desk.afterAll world a more).live (world.now s) chat = some found →
            (Inbound.text text).isCancel = false →
            ((desk.afterAll world a more).process world a chat (.text text) s).1 = .ok reply →
            session.Carries (known.withTexts texts) found ∧
              (desk.afterAll world a more).Merges world a chat text s found step
                ((known.withTexts texts).withText text) := by
  intro desk session step stored asked key
  have filed : desk.store.Filed := afterAll_filed (.empty timeout horizon) events
  have readable : desk.IsReadable :=
    afterAll_readable (.empty timeout horizon) (fun chat session found => by cases found) events
  obtain ⟨known, held⟩ := (readable chat session stored).product
  refine ⟨known, held, fun more texts fills found text s reply alive goesOn replied => ?_⟩
  have start : ∀ other, desk.store.sessions.get? chat = some other → session.Carries known other := by
    intro other again
    cases stored.symm.trans again
    exact ⟨rfl, rfl, held, fun _ _ => rfl⟩
  have carries := fills.carries filed asked key start found (Store.stored_of_live alive)
  exact ⟨carries, process_merges (afterAll_filed filed more) alive (carries.step ▸ asked) key goesOn
    carries.product replied⟩

/-- A lamp is described in two texts, while another chat writes.  With the second it is complete, but another price
is turned down: the first price stays, and so does the conversation. -/
theorem product_accumulates_lamp :
    let a : Assistant := ⟨.builtin, defaultMessages, none, true, 3, 20⟩
    let desk := (Desk.new ⟨10, 1000, []⟩).afterAll .bare a
      [.message "c" (.text "hi") 0, .message "c" (.text "add") 1]
    let reached := desk.afterAll .bare a
      [.message "c" (.text "Name: Lamp\nPrice: 5") 2, .message "d" (.text "hi") 3]
    let next := reached.after .bare a (.message "c" (.text "Price: free\nQuantity: 7") 4)
    ∃ kept five, next.store.sessions.get? "c" = some kept ∧ kept.step = "add_product" ∧
      parsePrice "5" = some five ∧ StagedProduct.ofContext (kept.context.get? productKey) =
        .ok ⟨some "Lamp", some five, some 7, none, none⟩ := by
  intro a desk reached next
  obtain ⟨session, step, alive, asked, key, stands, fresh⟩ : ∃ session step,
      desk.live (World.bare.now 2) "c" = some session ∧
        a.flow.step? session.step = some (.input step) ∧ step.contextKey = productInputKey ∧
        session.step = "add_product" ∧ session.context = [] := ⟨_, _, rfl, rfl, rfl, rfl, rfl⟩
  have answered : ∀ {reply : Except Failure Reply}, reply.isOk = true → ∃ told, reply = .ok told := by
    rintro (failure | told) isOk
    · cases isOk
    · exact ⟨told, rfl⟩
  -- The first text leads nowhere, since there is no stock yet.
  have empty : StagedProduct.ofContext (session.context.get? productKey) = .ok .empty := by rw [fresh]; rfl
  obtain ⟨told, replied⟩ : ∃ told,
      (desk.process .bare a "c" (.text "Name: Lamp\nPrice: 5") 2).1 = .ok told :=
    answered (by decide +kernel)
  have merges := process_merges (afterAll_filed (.empty 10 1000) _) alive asked key (by decide +kernel) empty
    replied
  have unfinished : (StagedProduct.empty.withText "Name: Lamp\nPrice: 5").isComplete = false := by
    decide +kernel
  have nowhere := (merges.stays fun done => Bool.noConfusion (unfinished.symm.trans done.1)).1
  have fills : Fills .bare a "c" desk
      [.message "c" (.text "Name: Lamp\nPrice: 5") 2, .message "d" (.text "hi") 3]
      ["Name: Lamp\nPrice: 5"] := .text alive (by decide +kernel) replied nowhere (.aside rfl .nil)
  -- The second completes the lamp, and is asked again because of its price.
  obtain ⟨found, alive'⟩ : ∃ found, reached.live (World.bare.now 4) "c" = some found :=
    Option.isSome_iff_exists.mp (by decide +kernel)
  obtain ⟨told', replied'⟩ : ∃ told,
      (reached.process .bare a "c" (.text "Price: free\nQuantity: 7") 4).1 = .ok told :=
    answered (by decide +kernel)
  obtain ⟨known, held, accumulates⟩ := product_accumulates a .bare 10 1000 _ "c" session step
    (Store.stored_of_live alive) asked key
  cases empty.symm.trans held
  obtain ⟨carries, merges'⟩ := accumulates _ _ fills found _ 4 told' alive' (by decide +kernel) replied'
  have invalid : ¬SuppliesValid "Price: free\nQuantity: 7" := by
    intro valid
    obtain ⟨price, parsed⟩ := valid.price "free" (by decide +kernel)
    have unpriced : parsePrice "free" = none := by decide +kernel
    cases unpriced.symm.trans parsed
  obtain ⟨-, -, kept, stored, keeps⟩ := merges'.stays fun done => invalid done.2
  obtain ⟨five, isFive⟩ : ∃ five, parsePrice "5" = some five :=
    Option.isSome_iff_exists.mp (by decide +kernel)
  refine ⟨kept, five, ?_, keeps.step.trans (carries.step.trans stands), isFive, ?_⟩
  · dsimp only [next, reached, desk]
    exact stored
  · rw [keeps.product, ← isFive]
    exact congrArg Except.ok (by decide +kernel)

end Desk

end Storekeeper
