import Storekeeper.Proofs.Dialogue.Event
import Storekeeper.Proofs.Product.History

/-!
# Where a created product comes from

Whatever is asked of the catalog has been said in the conversation: a product that is to be created
is made of the last values that were accepted since the conversation was last cleared.

* `Assistant.Enters.accounts` and `Assistant.Answers.accounts`: every course of a turn accounts for what
  it creates, and the session that it keeps reflects the history with the turn.
* `Desk.past` is the history of a chat over some events; `Desk.afterAll_remembers` carries what every
  answer keeps up of a history and a session to any events, and so the stored session of the chat
  reflects its history (`Desk.afterAll_recalls`).
* `Desk.creation_provenance` is the result for every turn after any events at a new desk.
-/

namespace Storekeeper

/-! ## Courses of a turn -/

/-- The creations that are asked for on the way. -/
def creations (deeds : List Deed) : List Creation :=
  deeds.filterMap Deed.creation?

/-- A history with creations after it. -/
def withCreations (history : List Moment) (made : List Creation) : List Moment :=
  history ++ made.map .created

theorem withCreations_append (history : List Moment) (first second : List Creation) :
    withCreations history (first ++ second) = withCreations (withCreations history first) second := by
  simp [withCreations]

/-- Each of some creations is made of what the history before it gives. -/
def AllProven (history : List Moment) (made : List Creation) : Prop :=
  ∀ done creation rest, made = done ++ creation :: rest →
    Provenance (withCreations history done) creation.product

theorem AllProven.nil (history : List Moment) : AllProven history [] := by
  intro done creation rest split
  cases done <;> cases split

theorem AllProven.singleton {history : List Moment} {creation : Creation}
    (proven : Provenance history creation.product) : AllProven history [creation] := by
  intro done other rest split
  cases done with
  | nil =>
    cases split
    simpa [withCreations] using proven
  | cons head tail => simp at split

theorem AllProven.append {history : List Moment} {first second : List Creation}
    (left : AllProven history first) (right : AllProven (withCreations history first) second) :
    AllProven history (first ++ second) := by
  intro done creation rest split
  rcases List.append_eq_append_iff.mp split with ⟨more, rfl, later⟩ | ⟨more, earlier, later⟩
  · rw [withCreations_append]
    exact right more creation rest later
  · cases more with
    | nil =>
      rw [List.append_nil] at earlier
      subst earlier
      have here := right [] creation rest later.symm
      simpa [withCreations] using here
    | cons head tail =>
      cases later
      exact left done creation tail earlier

namespace Assistant

variable {a : Assistant} {opened : Except Failure Session} {chat name : String} {hops : Nat}
  {session? : Option Session} {content : Inbound} {arrival : Arrival} {deeds : List Deed}
  {out : Except Failure Decision} {history : List Moment} {context : Table Json}

/-- The product that is ordered is what the history has collected. -/
theorem provenance_of_draft {sku : Option String} {draft : NewProduct} (fresh : String)
    (drafted : (collected history sku).draft? = some draft) :
    Provenance history (draft.complete fresh
      ((latest Moment.image? history).filter (!·.url.isEmpty))) := by
  unfold StagedProduct.draft? collected at drafted
  dsimp only at drafted
  split at drafted
  · rename_i name price stock named priced stocked
    cases drafted
    exact ⟨named, ⟨price, priced, rfl⟩, stocked, rfl, rfl⟩
  · cases drafted

theorem image_of_withSku (reflects : Reflects history context) (product : StagedProduct)
    (sku : String) : StagedImage.ofContext ((withSku context product sku).get? imageKey) =
      .ok ((latest Moment.image? history).filter (!·.url.isEmpty)) := by
  unfold withSku
  rw [Table.get?_put_of_ne _ _ (by decide)]
  exact reflects.image

/-- A context that has lost its product and its image has neither. -/
theorem erased_both (context : Table Json) :
    ((context.erase productKey).erase imageKey).get? productKey = none ∧
      ((context.erase productKey).erase imageKey).get? imageKey = none := by
  refine ⟨?_, Table.get?_erase_self _ _⟩
  rw [Table.get?_erase_of_ne _ (by decide)]
  exact Table.get?_erase_self _ _

/-- Adding a product never fails on a context that reflects its history.  What is created is proven,
and the context afterwards reflects the history with what has been created. -/
theorem Adds.reflects (reflects : Reflects history context)
    {result : Except Failure (Table Json × String)} (adds : a.Adds context deeds result) :
    AllProven history (creations deeds) ∧ ∃ after text, result = .ok (after, text) ∧
      Reflects (withCreations history (creations deeds)) after := by
  obtain ⟨old, held⟩ := reflects.product
  have unchanged : Reflects (withCreations history []) context := by
    simpa [withCreations] using reflects
  cases adds with
  | unreadable failed =>
    rw [held] at failed
    cases failed
  | incomplete kept undrafted => exact ⟨.nil history, _, _, rfl, unchanged⟩
  | notConfigured kept drafted missing => exact ⟨.nil history, _, _, rfl, unchanged⟩
  | imageUnreadable sku kept drafted configured failed =>
    rw [image_of_withSku reflects] at failed
    cases failed
  | @refused product draft image sku failure kept drafted configured pictured =>
    rw [held] at kept
    cases kept
    rw [image_of_withSku reflects] at pictured
    cases pictured
    refine ⟨.singleton (provenance_of_draft sku drafted), _, _, rfl, ?_⟩
    -- A refused creation clears nothing and gives nothing: only the stock keeping unit is new.
    have same : ∀ product, { collected history old with sku := some sku } =
        collected (history ++ [.created ⟨product, .error failure⟩]) (some sku) := by
      intro product
      rw [collected_of_not_clears _ _ (by rfl)]
      rfl
    exact reflects.put_product rfl rfl (same _)
  | @created product draft image sku made kept drafted configured pictured =>
    rw [held] at kept
    cases kept
    rw [image_of_withSku reflects] at pictured
    cases pictured
    refine ⟨.singleton (provenance_of_draft sku drafted), _, _, rfl, ?_⟩
    obtain ⟨noProduct, noImage⟩ := erased_both (withSku context (collected history old) sku)
    exact .of_clears rfl noProduct noImage

/-- An action never fails on a context that reflects its history. -/
theorem Acts.reflects (reflects : Reflects history context) {action : Action}
    {result : Except Failure (Table Json × String)} (acts : a.Acts context action deeds result) :
    AllProven history (creations deeds) ∧ ∃ after text, result = .ok (after, text) ∧
      Reflects (withCreations history (creations deeds)) after := by
  cases acts with
  | @lists _ text lists =>
    have none : creations deeds = [] := by cases lists <;> rfl
    rw [none]
    exact ⟨.nil history, context, text, rfl, by simpa [withCreations] using reflects⟩
  | adds adds => exact adds.reflects reflects

/-- What a course of a turn has to do with the history: the creations on the way are proven, and the
session that is kept reflects the history with them. -/
structure Accounts (a : Assistant) (history : List Moment) (deeds : List Deed)
    (out : Except Failure Decision) : Prop where
  proven : AllProven history (creations deeds)
  kept : ∀ session, keptBy out = some session →
    Reflects (withCreations history (creations deeds)) session.context

theorem Accounts.of_quiet (nothing : creations deeds = []) (none : keptBy out = none) :
    a.Accounts history deeds out where
  proven := by
    rw [nothing]
    exact .nil history
  kept := by
    intro session keeps
    rw [none] at keeps
    cases keeps

theorem Accounts.of_keep (none : creations deeds = []) {reply : Reply} {session : Session}
    (reflects : Reflects history session.context) :
    a.Accounts history deeds (.ok ⟨reply, .keep session⟩) where
  proven := by
    rw [none]
    exact .nil history
  kept := by
    intro _ keeps
    cases keeps
    simpa [none, withCreations] using reflects

/-- Entering a step of a sound flow accounts for what is created on the way, and it comes to a
decision about the session. -/
theorem Enters.accounts (sound : a.flow.Sound) (enters : a.Enters hops name arrival deeds out)
    (target : ∃ step, a.flow.step? name = some step)
    (reflects : Reflects history arrival.session.context) :
    a.Accounts history deeds out ∧ leavesStore out = false ∧ ∃ decision, out = .ok decision := by
  induction enters generalizing history with
  | missing absent =>
    obtain ⟨step, found⟩ := target
    rw [absent] at found
    cases found
  | ended _ => exact ⟨.of_quiet rfl rfl, rfl, _, rfl⟩
  | menu _ => exact ⟨.of_keep rfl reflects, rfl, _, rfl⟩
  | prompt _ _ => exact ⟨.of_keep rfl reflects, rfl, _, rfl⟩
  | limit _ => exact ⟨.of_keep rfl reflects, rfl, _, rfl⟩
  | failed _ acts =>
    obtain ⟨-, after, text, impossible, -⟩ := acts.reflects reflects
    cases impossible
  | @onward hops name arrival step first second context text out found acts _ ih =>
    obtain ⟨proven, after, said, same, reflected⟩ := acts.reflects reflects
    cases same
    obtain ⟨rest, decides⟩ := ih (sound.actionNext found) reflected
    have joined : creations (first ++ second) = creations first ++ creations second :=
      List.filterMap_append
    refine ⟨⟨?_, ?_⟩, decides⟩
    · rw [joined]
      exact proven.append rest.proven
    · intro session keeps
      rw [joined, withCreations_append]
      exact rest.kept session keeps

/-- The step that answers: the one at which the session stands, or without a session the first. -/
def answering? (a : Assistant) : Option Session → Option Step
  | some session => a.flow.step? session.step
  | none => a.flow.step? a.flow.initialStep

/-- What a message at a step is to the product of its conversation: it opens the conversation, cancels
a question, answers a question for a product or brings an image of one. -/
def momentAt (a : Assistant) (step : Step) (message : Inbound) : Option Moment :=
  match step with
  | .trigger _ => if a.isTriggered message then some .opened else none
  | .input step =>
    if message.isCancel then some .cancelled
    else
      match message with
      | .text content =>
        if step.contextKey = productInputKey then some (.answered (parseFields content)) else none
      | .image _ _ => none
  | .image step =>
    if message.isCancel then some .cancelled
    else
      match message with
      | .text _ => none
      | .image url mimeType =>
        if step.contextKey = imageKey then some (.pictured ⟨url, mimeType⟩) else none
  | _ => none

/-- What a message is to the product of its conversation. -/
def moment? (a : Assistant) (session? : Option Session) (message : Inbound) : Option Moment :=
  (a.answering? session?).bind (a.momentAt · message)

end Assistant

/-- Whether a step that asks, for a text or for an image, keeps the answer elsewhere than where the
product is, and a text elsewhere than where the image of the product is. -/
def Step.keepsApart : Step → Bool
  | .input step => step.contextKey != productKey && step.contextKey != imageKey
  | .image step => step.contextKey != productKey
  | _ => true

/-- No question of the flow is kept where the product is, or the image of the product in place of an
image. -/
def Flow.KeepsApart (flow : Flow) : Prop :=
  ∀ entry ∈ flow.steps, entry.2.keepsApart = true

instance (flow : Flow) : Decidable flow.KeepsApart :=
  inferInstanceAs (Decidable (∀ entry ∈ flow.steps, entry.2.keepsApart = true))

namespace Flow.KeepsApart

variable {flow : Flow} {name : String}

theorem input (apart : flow.KeepsApart) {step : InputStep}
    (found : flow.step? name = some (.input step)) :
    step.contextKey ≠ productKey ∧ step.contextKey ≠ imageKey := by
  have keeps := apart _ (Table.mem_of_get? found)
  simpa [Step.keepsApart] using keeps

theorem image (apart : flow.KeepsApart) {step : ImageStep}
    (found : flow.step? name = some (.image step)) : step.contextKey ≠ productKey := by
  have keeps := apart _ (Table.mem_of_get? found)
  simpa [Step.keepsApart] using keeps

end Flow.KeepsApart

namespace Assistant

variable {a : Assistant} {opened : Except Failure Session} {chat name : String} {hops : Nat}
  {session? : Option Session} {content : Inbound} {arrival : Arrival} {deeds : List Deed}
  {out : Except Failure Decision} {history : List Moment} {context : Table Json}

theorem moment?_of_atTrigger {step : TriggerStep} (trigger : a.AtTrigger session? step) :
    a.moment? session? content = if a.isTriggered content then some .opened else none := by
  cases trigger with
  | start found => simp [moment?, momentAt, answering?, found]
  | parked found => simp [moment?, momentAt, answering?, found]

theorem moment?_of_cancel {session : Session} {key : String} (asked : a.AsksFor session key)
    (cancels : content.isCancel = true) : a.moment? (some session) content = some .cancelled := by
  cases content with
  | image url mimeType => cases cancels
  | text content =>
    cases asked with
    | input found => simp [moment?, momentAt, answering?, found, cancels]
    | image found => simp [moment?, momentAt, answering?, found, cancels]

theorem moment?_of_gives {session : Session} {step : InputStep} {fields : Table String}
    (gives : a.GivesFields session content step fields) :
    a.moment? (some session) content = some (.answered fields) := by
  obtain ⟨found, key, ⟨text, rfl, rfl⟩, goesOn⟩ := gives
  simp [moment?, momentAt, answering?, found, key, goesOn]

theorem moment?_of_menu {session : Session} {step : ChoiceStep}
    (found : a.flow.step? session.step = some (.choice step)) :
    a.moment? (some session) content = none := by
  simp [moment?, momentAt, answering?, found]

theorem moment?_of_answer {session : Session} {step : InputStep} {text : String}
    (found : a.flow.step? session.step = some (.input step))
    (goesOn : (Inbound.text text).isCancel = false) (other : step.contextKey ≠ productInputKey) :
    a.moment? (some session) (.text text) = none := by
  simp [moment?, momentAt, answering?, found, goesOn, other]

theorem moment?_of_text {session : Session} {step : ImageStep} {text : String}
    (found : a.flow.step? session.step = some (.image step))
    (goesOn : (Inbound.text text).isCancel = false) :
    a.moment? (some session) (.text text) = none := by
  simp [moment?, momentAt, answering?, found, goesOn]

theorem moment?_of_picture {session : Session} {step : ImageStep} {url : String}
    {mimeType : Option String} (found : a.flow.step? session.step = some (.image step)) :
    a.moment? (some session) (.image url mimeType) =
      if step.contextKey = imageKey then some (.pictured ⟨url, mimeType⟩) else none := by
  simp [moment?, momentAt, answering?, found, Inbound.isCancel]

theorem moment?_of_goesOn {session : Session} {step : Step}
    (found : a.flow.step? session.step = some step) (goesOn : step.goesOn = true) :
    a.moment? (some session) content = none := by
  cases step with
  | action step => simp [moment?, momentAt, answering?, found]
  | terminal step => simp [moment?, momentAt, answering?, found]
  | _ => cases goesOn

/-- The history after a message. -/
def withMessage (a : Assistant) (history : List Moment) (session? : Option Session)
    (message : Inbound) : List Moment :=
  history ++ (a.moment? session? message).toList

theorem withMessage_of_none (none : a.moment? session? content = none) :
    a.withMessage history session? content = history := by
  simp [withMessage, none]

theorem withMessage_of_some {moment : Moment} (some : a.moment? session? content = some moment) :
    a.withMessage history session? content = history ++ [moment] := by
  simp [withMessage, some]

/-- What was kept of a cancelled question is gone. -/
theorem forgotten (context : Table Json) (key : String) :
    (((context.erase productKey).erase imageKey).erase key).get? productKey = none ∧
      (((context.erase productKey).erase imageKey).erase key).get? imageKey = none := by
  obtain ⟨noProduct, noImage⟩ := erased_both context
  have still : ∀ name, ((context.erase productKey).erase imageKey).get? name = none →
      (((context.erase productKey).erase imageKey).erase key).get? name = none := by
    intro name gone
    by_cases same : key = name
    · rw [same]
      exact Table.get?_erase_self _ _
    · rw [Table.get?_erase_of_ne _ same]
      exact gone
  exact ⟨still _ noProduct, still _ noImage⟩

/-- Where a message leads, the context reflects the history with the message. -/
theorem Leads.reflects (apart : a.flow.KeepsApart)
    (leads : a.Leads opened session? content name arrival)
    (known : ∀ session, session? = some session → Reflects history session.context)
    (opens : ∀ session, opened = .ok session → session.context = []) :
    Reflects (a.withMessage history session? content) arrival.session.context := by
  cases leads with
  | opened trigger triggered opening =>
    rw [withMessage_of_some (by rw [moment?_of_atTrigger trigger, if_pos triggered]),
      opens _ opening]
    exact .of_clears rfl rfl rfl
  | chosen found meant led =>
    rw [withMessage_of_none (moment?_of_menu found)]
    exact known _ rfl
  | @cancelled session key message recovery asked cancels menu =>
    rw [withMessage_of_some (moment?_of_cancel asked cancels)]
    obtain ⟨noProduct, noImage⟩ := forgotten session.context key
    exact .of_clears rfl noProduct noImage
  | answered found goesOn key =>
    rw [withMessage_of_none (moment?_of_answer found goesOn key)]
    obtain ⟨notProduct, notImage⟩ := apart.input found
    exact (known _ rfl).put_other _ notProduct notImage
  | completed gives held merge whole complete =>
    rw [withMessage_of_some (moment?_of_gives gives)]
    exact (known _ rfl).merge held merge
  | @pictured session step url mimeType found =>
    by_cases same : step.contextKey = imageKey
    · rw [withMessage_of_some (by rw [moment?_of_picture found, if_pos same])]
      simp only [Session.keeping, same]
      exact (known _ rfl).put_image ⟨url, mimeType⟩
    · rw [withMessage_of_none (by rw [moment?_of_picture found, if_neg same])]
      exact (known _ rfl).put_other _ (apart.image found) same
  | skipped found goesOn skips =>
    rw [withMessage_of_none (moment?_of_text found goesOn)]
    exact known _ rfl
  | resumed found goesOn =>
    rw [withMessage_of_none (moment?_of_goesOn found goesOn)]
    exact known _ rfl

/-- What is answered at once creates nothing; a session that is kept reflects the history with the
message, and one that is left is left by a message that says nothing about the product. -/
theorem Settles.accounts (sound : a.flow.Sound)
    (settles : a.Settles opened chat session? content deeds out)
    (known : ∀ session, session? = some session → Reflects history session.context) :
    creations deeds = [] ∧ a.Accounts (a.withMessage history session? content) deeds out ∧
      (leavesStore out = true → a.moment? session? content = none) := by
  cases settles with
  | noTrigger never =>
    obtain ⟨step, found⟩ := sound.starts
    exact absurd found (never step)
  | unmatched trigger unmatched =>
    refine ⟨rfl, .of_quiet rfl rfl, fun _ => ?_⟩
    rw [moment?_of_atTrigger trigger, unmatched]
    rfl
  | unopened _ _ _ => exact ⟨rfl, .of_quiet rfl rfl, fun leaves => by cases leaves⟩
  | unknownStep _ => exact ⟨rfl, .of_quiet rfl rfl, fun leaves => by cases leaves⟩
  | toMenu found _ _ =>
    have reflects := known _ rfl
    refine ⟨rfl, .of_keep rfl ?_, fun leaves => by cases leaves⟩
    rw [withMessage_of_none (moment?_of_menu found)]
    exact reflects
  | toStep found _ _ =>
    have reflects := known _ rfl
    refine ⟨rfl, .of_keep rfl ?_, fun leaves => by cases leaves⟩
    rw [withMessage_of_none (moment?_of_menu found)]
    exact reflects
  | nowhere found _ _ =>
    exact ⟨rfl, .of_quiet rfl rfl, fun _ => moment?_of_menu found⟩
  | noTransition found _ _ =>
    exact ⟨rfl, .of_quiet rfl rfl, fun _ => moment?_of_menu found⟩
  | noRecovery _ _ _ => exact ⟨rfl, .of_quiet rfl rfl, fun leaves => by cases leaves⟩
  | misplaced found =>
    refine ⟨rfl, .of_quiet rfl rfl, fun _ => ?_⟩
    simp [moment?, momentAt, answering?, found, Inbound.isCancel]
  | unreadable _ _ => exact ⟨rfl, .of_quiet rfl rfl, fun leaves => by cases leaves⟩
  | unmerged _ _ _ => exact ⟨rfl, .of_quiet rfl rfl, fun leaves => by cases leaves⟩
  | incomplete gives held merge _ =>
    refine ⟨rfl, .of_keep rfl ?_, fun leaves => by cases leaves⟩
    rw [withMessage_of_some (moment?_of_gives gives)]
    exact (known _ rfl).merge held merge
  | unskipped found goesOn _ =>
    exact ⟨rfl, .of_quiet rfl rfl, fun _ => moment?_of_text found goesOn⟩

/-- A turn over a sound flow accounts for what is created in it.  A turn that leaves the store as it
is adds nothing to the history, and one that has created something comes to a decision. -/
theorem Answers.accounts (sound : a.flow.Sound) (apart : a.flow.KeepsApart)
    (answers : a.Answers opened chat session? content deeds out)
    (known : ∀ session, session? = some session → Reflects history session.context)
    (opens : ∀ session, opened = .ok session → session.context = []) :
    a.Accounts (a.withMessage history session? content) deeds out ∧
      (leavesStore out = true → a.moment? session? content = none ∧ creations deeds = []) ∧
      (creations deeds ≠ [] → ∃ decision, out = .ok decision) := by
  rcases answers with settles | ⟨name, arrival, leads, enters⟩
  · obtain ⟨none, accounts, left⟩ := settles.accounts sound known
    exact ⟨accounts, fun leaves => ⟨left leaves, none⟩, fun some => absurd none some⟩
  · obtain ⟨accounts, stays, decides⟩ :=
      enters.accounts sound (leads.target sound) (leads.reflects apart known opens)
    refine ⟨accounts, fun leaves => ?_, fun _ => decides⟩
    rw [stays] at leaves
    cases leaves

/-- What is said of a history together with the step and the context of a session is kept up: it holds of
the session that an answer keeps, with the history after the answer; an answer that leaves the store as
it is adds nothing to the history. -/
def Remembers (a : Assistant) (Q : List Moment → String → Table Json → Prop) : Prop :=
  ∀ ⦃opened chat session? content deeds out history⦄,
    a.Answers opened chat session? content deeds out →
    (∀ session, session? = some session → Q history session.step session.context) →
    (∀ session, opened = .ok session → session.context = []) →
    (∀ kept, keptBy out = some kept →
      Q (withCreations (a.withMessage history session? content) (creations deeds)) kept.step
        kept.context) ∧
    (leavesStore out = true → a.moment? session? content = none ∧ creations deeds = [])

theorem remembers_reflects (sound : a.flow.Sound) (apart : a.flow.KeepsApart) :
    a.Remembers fun history _ context => Reflects history context := by
  intro opened chat session? content deeds out history answers known opens
  obtain ⟨accounts, left, -⟩ := answers.accounts sound apart known opens
  exact ⟨accounts.kept, left⟩

end Assistant

/-! ## At a desk -/

namespace Desk

variable {σ : Type} {world : World σ} {a : Assistant} {desk : Desk} {chat : String}
  {history : List Moment}

/-- What an event adds to the history of a chat: the message, and then what its turn creates.  A turn
that fails adds nothing. -/
def moments (world : World σ) (a : Assistant) (desk : Desk) (chat : String) :
    Event σ → List Moment
  | .message other content s =>
    if other = chat then
      match (desk.process world a other content s).1 with
      | .ok _ =>
        withCreations (a.moment? (desk.live (world.now s) other) content).toList
          (creations (desk.deeds world a other content s))
      | .error _ => []
    else []
  | .sweep _ => []

/-- The history of a chat over some events. -/
def past (world : World σ) (a : Assistant) (chat : String) : Desk → List (Event σ) → List Moment
  | _, [] => []
  | desk, event :: events =>
    desk.moments world a chat event ++ past world a chat (desk.after world a event) events

/-- The stored session of a chat reflects a history. -/
def Recalls (desk : Desk) (chat : String) (history : List Moment) : Prop :=
  ∀ session, desk.store.sessions.get? chat = some session → Reflects history session.context

/-- The turn of a message accounts for what it creates. -/
theorem process_accounts (world : World σ) (sound : a.flow.Sound) (apart : a.flow.KeepsApart)
    (recalls : desk.Recalls chat history) (content : Inbound) (s : σ) :
    a.Accounts (a.withMessage history (desk.live (world.now s) chat) content)
      (desk.deeds world a chat content s) (desk.decision world a chat content s) ∧
    (leavesStore (desk.decision world a chat content s) = true →
      a.moment? (desk.live (world.now s) chat) content = none ∧
        creations (desk.deeds world a chat content s) = []) ∧
    (creations (desk.deeds world a chat content s) ≠ [] →
      ∃ decision, desk.decision world a chat content s = .ok decision) := by
  refine (process_answers world a desk chat content s).accounts sound apart ?_ ?_
  · intro session found
    exact recalls session (Store.stored_of_live found)
  · intro session opens
    rw [Store.create_ok opens]

section Remembers

variable {Q : List Moment → String → Table Json → Prop}

/-- What is said of a history and a session holds of the stored session of a chat. -/
def Remembers (Q : List Moment → String → Table Json → Prop) (desk : Desk) (chat : String)
    (history : List Moment) : Prop :=
  ∀ session, desk.store.sessions.get? chat = some session → Q history session.step session.context

theorem process_remembers (keeps : a.Remembers Q) (filed : desk.store.Filed)
    (remembers : desk.Remembers Q chat history) (content : Inbound) (s : σ) :
    (desk.process world a chat content s).2.1.Remembers Q chat
      (history ++ desk.moments world a chat (.message chat content s)) := by
  obtain ⟨kept, left⟩ := keeps (process_answers world a desk chat content s)
    (fun session found => remembers session (Store.stored_of_live found))
    (fun _ opens => opening_context opens)
  have told : history ++ withCreations (a.moment? (desk.live (world.now s) chat) content).toList
      (creations (desk.deeds world a chat content s)) =
      withCreations (a.withMessage history (desk.live (world.now s) chat) content)
        (creations (desk.deeds world a chat content s)) := by
    simp [withCreations, Assistant.withMessage]
  intro session found
  simp only [moments, if_true]
  rcases process_stored filed found with
    ⟨alive, failure, failed⟩ | ⟨alive, reply, replied, leaves⟩ | ⟨reply, keeping, replied, decided, rfl⟩
  · rw [failed]
    simpa using remembers session (Store.stored_of_live alive)
  · obtain ⟨nothing, none⟩ := left (by rw [leaves]; rfl)
    rw [replied, nothing, none]
    simpa [withCreations] using remembers session (Store.stored_of_live alive)
  · rw [replied, told]
    exact kept keeping (by rw [decided]; rfl)

theorem after_remembers (keeps : a.Remembers Q) (filed : desk.store.Filed)
    (remembers : desk.Remembers Q chat history) (event : Event σ) :
    (desk.after world a event).Remembers Q chat (history ++ desk.moments world a chat event) := by
  cases event with
  | message other content s =>
    by_cases same : other = chat
    · subst same
      exact process_remembers keeps filed remembers content s
    · intro session found
      change (desk.process world a other content s).2.1.store.sessions.get? chat = _ at found
      rw [process_others filed same] at found
      simpa [moments, same] using remembers session found
  | sweep s =>
    intro session found
    simpa [moments] using remembers session (Store.stored_of_sweep filed.distinct found)

/-- What is kept up by every answer holds of the stored session of a chat and the history of the chat over
any events. -/
theorem afterAll_remembers (keeps : a.Remembers Q) (filed : desk.store.Filed)
    (remembers : desk.Remembers Q chat history) (events : List (Event σ)) :
    (desk.afterAll world a events).Remembers Q chat (history ++ desk.past world a chat events) := by
  induction events generalizing desk history with
  | nil => simpa [Desk.past, afterAll] using remembers
  | cons event events ih =>
    have next : (desk.after world a event).Remembers Q chat
        (history ++ desk.moments world a chat event) :=
      after_remembers keeps filed remembers event
    have rest := ih (after_filed filed event) next
    rw [List.append_assoc] at rest
    exact rest

theorem Remembers.new (timeout horizon : Time) (chat : String) :
    (Desk.new ⟨timeout, horizon, []⟩).Remembers Q chat [] := by
  intro session found
  cases found

end Remembers

theorem afterAll_recalls (sound : a.flow.Sound) (apart : a.flow.KeepsApart)
    (filed : desk.store.Filed) (recalls : desk.Recalls chat history) (events : List (Event σ)) :
    (desk.afterAll world a events).Recalls chat (history ++ desk.past world a chat events) :=
  afterAll_remembers (a.remembers_reflects sound apart) filed recalls events

/-- **Provenance of created products.**  Over a flow that has been built and keeps its questions apart
from the product and its image, after any events at a new desk, each product that a turn asks the
catalog to create is made of the last values that were accepted in its chat since the last moment
that cleared: since every such moment a name, a price and a stock count have been supplied again.  A
turn that asks for a creation fails exactly if its session would expire beyond the horizon; then it
leaves the session, and with it what has been collected, as it was. -/
theorem creation_provenance {document : Json} (built : Flow.build document = .ok a.flow)
    (apart : a.flow.KeepsApart) (world : World σ) (timeout horizon : Time)
    (events : List (Event σ)) (chat : String) (content : Inbound) (s : σ) :
    let desk := (Desk.new ⟨timeout, horizon, []⟩).afterAll world a events
    let told := a.withMessage ((Desk.new ⟨timeout, horizon, []⟩).past world a chat events)
      (desk.live (world.now s) chat) content
    (∀ (done : List Creation) (creation : Creation) (rest : List Creation),
      creations (desk.deeds world a chat content s) = done ++ creation :: rest →
      Provenance (withCreations told done) creation.product ∧
      ∀ before moment since, withCreations told done = before ++ moment :: since →
        moment.clears = true → SuppliedAgain since) ∧
    (creations (desk.deeds world a chat content s) ≠ [] → ∀ failure,
      (desk.process world a chat content s).1 = .error failure ↔
        failure = .outOfRange ∧
        (∃ reply session, desk.decision world a chat content s = .ok ⟨reply, .keep session⟩) ∧
        horizon < desk.finished world a chat content s + timeout) ∧
    ∀ failure, (desk.process world a chat content s).1 = .error failure →
      (desk.process world a chat content s).2.1.live (world.now s) chat =
        desk.live (world.now s) chat := by
  intro desk told
  have start : (Desk.new ⟨timeout, horizon, []⟩).Recalls chat [] := by
    intro session found
    cases found
  have recalls : desk.Recalls chat ((Desk.new ⟨timeout, horizon, []⟩).past world a chat events) :=
    afterAll_recalls (Flow.sound_of_build built) apart (.empty timeout horizon) start events
  obtain ⟨accounts, -, decides⟩ :=
    process_accounts world (Flow.sound_of_build built) apart recalls content s
  refine ⟨fun done creation rest split => ?_, fun some failure => ?_, fun failure failed => ?_⟩
  · have proven : Provenance (withCreations told done) creation.product :=
      accounts.proven done creation rest split
    refine ⟨proven, fun before moment since parts clears => ?_⟩
    rw [parts] at proven
    exact proven.suppliedAgain clears
  · obtain ⟨decision, decided⟩ := decides some
    obtain ⟨timeouts, horizons⟩ := afterAll_timeout world a (Desk.new ⟨timeout, horizon, []⟩) events
    rw [process_error, decided, horizons, timeouts]
    simp [Desk.new]
  · exact live_of_error failed (Nat.le_refl _)

/-- The run that the built-in flow is made for: the product is made of what has been said. -/
theorem creation_provenance_lamp :
    let a : Assistant := ⟨.builtin, defaultMessages, none, true, 8, 10⟩
    let events : List (Event Time) :=
      [.message "c" (.text "hi") 0, .message "c" (.text "add") 1,
       .message "c" (.text "Name: Lamp\nPrice: 5\nStock: 1") 2]
    let desk := (Desk.new ⟨1000, 10000, []⟩).afterAll .bare a events
    let picture : Inbound := .image "https://example.org/lamp.png" none
    let told := a.withMessage ((Desk.new ⟨1000, 10000, []⟩).past .bare a "c" events)
      (desk.live 3 "c") picture
    let lamp : NewProduct :=
      ⟨"Lamp", "5", 1, none, "SKU", [⟨"https://example.org/lamp.png", some "Lamp"⟩]⟩
    (creations (desk.deeds .bare a "c" picture 3)).map Creation.product = [lamp] ∧
      Provenance told lamp := by
  intro a events desk picture told lamp
  have built : Flow.build Flow.builtin.toJson = .ok a.flow := by rfl
  have apart : a.flow.KeepsApart := by decide
  have created : (creations (desk.deeds .bare a "c" picture 3)).map Creation.product = [lamp] := by
    decide +kernel
  obtain ⟨creation, made, product⟩ := List.map_eq_singleton_iff.mp created
  obtain ⟨proven, -⟩ :=
    (creation_provenance built apart .bare 1000 10000 events "c" picture 3).1 [] creation [] made
  rw [product] at proven
  have told_eq : withCreations told [] = told := List.append_nil told
  exact ⟨created, told_eq ▸ proven⟩

/-- Beyond the horizon one supply is enough for two products: sessions live for five thousand years, and
after three thousand five hundred of them what a successful creation clears cannot be stored. -/
theorem creation_repeated :
    let a : Assistant := ⟨.builtin, defaultMessages, none, true, 8, 10⟩
    let events : List (Event Time) :=
      [.message "c" (.text "hi") 0, .message "c" (.text "add") 1,
       .message "c" (.text "Name: Lamp\nPrice: 5\nStock: 1") 2]
    let desk := (Desk.new ⟨157680000000 * Store.second, Store.calendarEnd, []⟩).afterAll .bare a events
    let skip : Inbound := .text "skip"
    let late : Time := 110376000000 * Store.second
    let again := desk.after .bare a (.message "c" skip late)
    let summary := fun creation : Creation => (creation.product.name, creation.answer.isOk)
    (creations (desk.deeds .bare a "c" skip late)).map summary = [("Lamp", true)] ∧
      (desk.process .bare a "c" skip late).1.isOk = false ∧
      (creations (again.deeds .bare a "c" skip late)).map summary = [("Lamp", true)] := by
  decide +kernel

end Desk

end Storekeeper
