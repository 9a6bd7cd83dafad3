import Storekeeper.Flow.Builtin
import Storekeeper.Proofs.Dialogue.Provenance

/-!
# Images that are skipped

Skipping an image brings no image, but it does not take one away either: a creation that fails leaves
its image where the next one finds it.

* `lastAttempt` are the images with which a creation has last been asked for since the conversation
  was cleared; as such a creation clears unless it fails, it is one that has failed.
* `Flow.PicturesLast`: a flow asks for images as the built-in flow does, just before the product is
  created.
* `Assistant.Settled` is what every answer over such a flow keeps up: the image that is kept is the one
  of the last attempt.
* `Desk.skipped_image`: a turn that skips the image creates the product with the image of the last
  attempt, and without one if there was none.
-/

namespace Storekeeper

/-! ## The last attempt -/

/-- The addresses of the images with which the catalog is asked for a product. -/
def Moment.attempted? : Moment → Option (List String)
  | .created creation => some (creation.product.images.map ProductImage.src)
  | _ => none

/-- The addresses of the images with which a creation was last asked for since the last moment that
clears. -/
def lastAttempt (history : List Moment) : List String :=
  (latest Moment.attempted? history).getD []

/-- The image that is kept is the one of the last attempt. -/
def Attempted (history : List Moment) : Prop :=
  lastAttempt history =
    (((latest Moment.image? history).filter (!·.url.isEmpty)).map StagedImage.url).toList

/-- A name, a price and a stock count are known. -/
def Whole (history : List Moment) : Prop :=
  (collected history none).isComplete = true

theorem StagedProduct.draft?_isSome (p : StagedProduct) : p.draft?.isSome = p.isComplete := by
  obtain ⟨name, price, stock, description, sku⟩ := p
  cases name <;> cases price <;> cases stock <;> rfl

/-- Where the image that is kept is the one of the last attempt, the next product gets just this one. -/
theorem Provenance.images_eq {history : List Moment} {product : NewProduct}
    (proven : Provenance history product) (attempted : Attempted history) :
    product.images = (lastAttempt history).map fun src => ⟨src, some product.name⟩ := by
  rw [proven.images, attempted]
  cases (latest Moment.image? history).filter (!·.url.isEmpty) <;> rfl

namespace Attempted

variable {history : List Moment} {moment : Moment}

theorem of_clears (clears : moment.clears = true) : Attempted (history ++ [moment]) := by
  unfold Attempted lastAttempt
  rw [latest_of_clears _ _ clears, latest_of_clears _ _ clears]
  rfl

theorem answered (attempted : Attempted history) (fields : Table String) :
    Attempted (history ++ [.answered fields]) := by
  unfold Attempted lastAttempt at *
  rw [latest_of_not_clears _ _ rfl, latest_of_not_clears _ _ rfl]
  exact attempted

/-- Whatever was kept before, a product that is asked for has the image that is kept. -/
theorem created {creation : Creation} (proven : Provenance history creation.product) :
    Attempted (history ++ [.created creation]) := by
  cases clears : (Moment.created creation).clears with
  | true => exact of_clears clears
  | false =>
    unfold Attempted lastAttempt
    rw [latest_of_not_clears _ _ clears, latest_of_not_clears _ _ clears]
    change creation.product.images.map ProductImage.src =
      (((latest Moment.image? history).filter (!·.url.isEmpty)).map StagedImage.url).toList
    rw [proven.images]
    cases (latest Moment.image? history).filter (!·.url.isEmpty) <;> rfl

theorem withCreations {made : List Creation} (proven : AllProven history made) (some : made ≠ []) :
    Attempted (withCreations history made) := by
  rcases List.eq_nil_or_concat made with rfl | ⟨before, last, rfl⟩
  · exact absurd rfl some
  · rw [List.concat_eq_append] at proven ⊢
    rw [withCreations_append]
    exact created (proven before last [] rfl)

end Attempted

/-! ## Flows that ask for the image last -/

/-- Whether the step asks for an image. -/
def Step.isImage : Step → Bool
  | .image _ => true
  | _ => false

/-- Whether the step creates a product. -/
def Step.createsProduct : Step → Bool
  | .action step => step.action == .addProduct
  | _ => false

/-- The steps to which a step refers. -/
def Step.targets (flow : Flow) (step : Step) : List Step :=
  step.references.filterMap fun reference => flow.step? reference.target

/-- Whether a question of the step is for a product, an image that it asks for is followed by the creation
of the product, an action comes to rest after it, and nothing but a question leads to an image. -/
def Step.picturesLast (flow : Flow) (step : Step) : Bool :=
  match step with
  | .input question => question.contextKey == productInputKey
  | .image question => question.contextKey == imageKey && (step.targets flow).all createsProduct
  | .action _ => (step.targets flow).all fun next => !next.goesOn && !next.isImage
  | _ => (step.targets flow).all (!·.isImage)

/-- An image is asked for just before the product is created, and only after a question for it. -/
structure Flow.PicturesLast (flow : Flow) : Prop where
  sound : flow.Sound
  apart : flow.KeepsApart
  steps : ∀ entry ∈ flow.steps, entry.2.picturesLast flow = true
  recovers : (flow.step? Flow.recoveryStep).all (!·.isImage) = true

theorem Flow.builtin_picturesLast : Flow.builtin.PicturesLast where
  sound := sound_of_defect? (by decide)
  apart := by decide
  steps := by decide
  recovers := by decide

namespace Flow.PicturesLast

variable {flow : Flow} {name : String} {step next : Step} {reference : Reference}

theorem target (found : flow.step? reference.target = some next)
    (member : reference ∈ step.references) : next ∈ step.targets flow :=
  List.mem_filterMap.mpr ⟨reference, member, found⟩

theorem asks (last : flow.PicturesLast) {input : InputStep}
    (found : flow.step? name = some (.input input)) : input.contextKey = productInputKey := by
  have checked := last.steps _ (Table.mem_of_get? found)
  simpa [Step.picturesLast] using checked

/-- An image is kept in its place, and the product is created next. -/
theorem creates (last : flow.PicturesLast) {image : ImageStep}
    (found : flow.step? name = some (.image image)) : image.contextKey = imageKey ∧
      ∃ after, flow.step? image.next = some (.action ⟨.addProduct, after⟩) := by
  have checked := last.steps _ (Table.mem_of_get? found)
  simp only [Step.picturesLast, Bool.and_eq_true, beq_iff_eq, List.all_eq_true] at checked
  obtain ⟨next, leads⟩ := last.sound.imageNext found
  have creating := checked.2 next (target leads (List.mem_singleton_self _))
  refine ⟨checked.1, ?_⟩
  cases next with
  | action step =>
    obtain ⟨action, after⟩ := step
    have same : action = .addProduct := by simpa [Step.createsProduct] using creating
    rw [same] at leads
    exact ⟨after, leads⟩
  | _ => cases creating

/-- After an action the flow comes to rest. -/
theorem rests (last : flow.PicturesLast) {action : ActionStep}
    (found : flow.step? name = some (.action action)) (leads : flow.step? action.next = some next) :
    next.goesOn = false ∧ next.isImage = false := by
  have checked := last.steps _ (Table.mem_of_get? found)
  simp only [Step.picturesLast, List.all_eq_true, Bool.and_eq_true, Bool.not_eq_true'] at checked
  have reached : next ∈ (Step.action action).targets flow :=
    target leads (List.mem_singleton_self (Reference.mk "next_step" action.next))
  exact checked next reached

/-- Nothing but a question leads to an image. -/
theorem beside (last : flow.PicturesLast) (found : flow.step? name = some step)
    (other : ∀ input, step ≠ .input input) (member : reference ∈ step.references)
    (leads : flow.step? reference.target = some next) : next.isImage = false := by
  have checked := last.steps _ (Table.mem_of_get? found)
  have reached := target leads member
  cases step with
  | input input => exact absurd rfl (other input)
  | image image =>
    obtain ⟨-, after, creating⟩ := last.creates found
    cases List.mem_singleton.mp member
    rw [creating] at leads
    cases leads
    rfl
  | action action =>
    cases List.mem_singleton.mp member
    exact (last.rests found leads).2
  | _ =>
    simp only [Step.picturesLast, List.all_eq_true, Bool.not_eq_true'] at checked
    exact checked next reached

end Flow.PicturesLast

/-! ## What every answer keeps up -/

namespace Assistant

variable {a : Assistant} {opened : Except Failure Session} {chat name : String} {hops : Nat}
  {session? : Option Session} {content : Inbound} {arrival : Arrival} {deeds : List Deed}
  {out : Except Failure Decision} {history : List Moment} {context : Table Json}

/-- The catalog can be asked in a turn. -/
structure CanCreate (a : Assistant) : Prop where
  configured : a.hasCatalog = true
  mayRun : a.maxHops.toNat ≠ 0

/-- The context keeps what the history has collected; the image is the one of the last attempt, and when
one is asked for, everything else is known. -/
structure Settled (a : Assistant) (history : List Moment) (step : String) (context : Table Json) :
    Prop where
  reflects : Reflects history context
  attempted : a.CanCreate → Attempted history
  whole : ∀ picture, a.flow.step? step = some (.image picture) → Whole history

theorem Acts.creations_length {action : Action} {result : Except Failure (Table Json × String)}
    (acts : a.Acts context action deeds result) : (creations deeds).length ≤ 1 := by
  cases acts with
  | lists lists => cases lists <;> exact Nat.zero_le _
  | adds adds =>
    cases adds with
    | refused _ _ _ _ _ _ => exact Nat.le_refl 1
    | created _ _ _ _ _ _ => exact Nat.le_refl 1
    | _ => exact Nat.zero_le _

/-- With everything known and a catalog to ask, the catalog is asked. -/
theorem Acts.creates (reflects : Reflects history context) (whole : Whole history)
    (configured : a.hasCatalog = true) {result : Except Failure (Table Json × String)}
    (acts : a.Acts context .addProduct deeds result) : creations deeds ≠ [] := by
  obtain ⟨sku, held⟩ := reflects.product
  obtain ⟨-, after, text, rfl, -⟩ := acts.reflects reflects
  cases acts with
  | adds adds =>
    cases adds with
    | @incomplete product kept undrafted =>
      rw [kept] at held
      cases held
      have drafted : (collected history sku).draft?.isSome = true := by
        rw [StagedProduct.draft?_isSome]
        exact whole
      rw [undrafted] at drafted
      cases drafted
    | notConfigured _ _ missing =>
      rw [configured] at missing
      cases missing
    | refused _ _ _ _ _ _ => exact List.cons_ne_nil _ _
    | created _ _ _ _ _ _ => exact List.cons_ne_nil _ _

theorem Acts.configured {action : Action} {result : Except Failure (Table Json × String)}
    (acts : a.Acts context action deeds result) (asked : creations deeds ≠ []) :
    a.hasCatalog = true := by
  cases acts with
  | lists lists => cases lists <;> exact absurd rfl asked
  | adds adds =>
    cases adds with
    | refused _ _ _ _ configured _ => exact configured
    | created _ _ _ _ configured _ => exact configured
    | _ => exact absurd rfl asked

/-- Entering a step that is not an action creates nothing. -/
theorem Enters.creations_nil {step : Step} (enters : a.Enters hops name arrival deeds out)
    (found : a.flow.step? name = some step) (rests : step.goesOn = false) : creations deeds = [] := by
  have noAction : ∀ {action}, a.flow.step? name = some (.action action) → False := by
    intro action acting
    rw [found] at acting
    cases acting
    cases rests
  cases enters with
  | failed acting _ => exact absurd acting noAction
  | onward acting _ _ => exact absurd acting noAction
  | _ => rfl

/-- Where a product is to be created, the catalog is asked at most once, and if it is asked then for a
product that is made of the history. -/
theorem Enters.creates (last : a.flow.PicturesLast) {next : String}
    (found : a.flow.step? name = some (.action ⟨.addProduct, next⟩))
    (reflects : Reflects history arrival.session.context)
    (enters : a.Enters hops name arrival deeds out) :
    (∀ creation ∈ creations deeds,
      Provenance history creation.product ∧ a.hasCatalog = true ∧ hops ≠ 0) ∧
      (Whole history → a.hasCatalog = true → hops ≠ 0 → creations deeds ≠ []) := by
  cases enters with
  | missing absent =>
    rw [found] at absent
    cases absent
  | ended other =>
    rw [found] at other
    cases other
  | menu other =>
    rw [found] at other
    cases other
  | prompt other prompted =>
    rw [found] at other
    cases other
    cases prompted
  | limit _ =>
    refine ⟨fun creation member => ?_, fun _ _ some => absurd rfl some⟩
    cases member
  | failed _ acts =>
    obtain ⟨-, after, text, impossible, -⟩ := acts.reflects reflects
    cases impossible
  | @onward hops _ _ step first second context text _ acting acts enters =>
    obtain ⟨target, leads⟩ := last.sound.actionNext acting
    have quiet : creations second = [] := enters.creations_nil leads (last.rests acting leads).1
    have only : creations (first ++ second) = creations first := by
      unfold creations at quiet ⊢
      rw [List.filterMap_append, quiet, List.append_nil]
    rw [found] at acting
    cases acting
    rw [only]
    refine ⟨fun creation member => ?_, fun whole configured _ => acts.creates reflects whole configured⟩
    obtain ⟨done, rest, split⟩ := List.append_of_mem member
    have proven := (acts.reflects reflects).1 done creation rest split
    have one := acts.creations_length
    rw [split] at one
    have none : done = [] := by
      rw [← List.length_eq_zero_iff]
      simp only [List.length_append, List.length_cons] at one
      omega
    rw [none] at proven
    have configured := acts.configured (List.ne_nil_of_mem member)
    exact ⟨by simpa [withCreations] using proven, configured, Nat.succ_ne_zero hops⟩

/-- A conversation that has come to the question for an image was led there, and nothing was created. -/
theorem Enters.stands (last : a.flow.PicturesLast) (enters : a.Enters hops name arrival deeds out)
    {kept : Session} (keeps : keptBy out = some kept) {picture : ImageStep}
    (found : a.flow.step? kept.step = some (.image picture)) :
    a.flow.step? name = some (.image picture) := by
  induction enters with
  | missing _ => cases keeps
  | ended _ => cases keeps
  | menu _ => cases keeps; exact found
  | prompt _ _ => cases keeps; exact found
  | limit _ => cases keeps; exact found
  | failed _ _ => cases keeps
  | onward acting _ _ ih =>
    have never := (last.rests acting (ih keeps)).2
    cases never

/-- Where a message leads to a question for an image, everything else is known. -/
theorem Leads.whole (last : a.flow.PicturesLast)
    (leads : a.Leads opened session? content name arrival)
    (reflects : Reflects (a.withMessage history session? content) arrival.session.context)
    {picture : ImageStep} (found : a.flow.step? name = some (.image picture)) :
    Whole (a.withMessage history session? content) := by
  cases leads with
  | @opened session? step message session trigger _ _ =>
    have member : Reference.mk "on_match.next_step" step.onMatch.next ∈ (Step.trigger step).references :=
      List.mem_singleton_self _
    have never : (Step.image picture).isImage = false := by
      cases trigger with
      | start at_ => exact last.beside at_ nofun member found
      | parked at_ => exact last.beside at_ nofun member found
    cases never
  | @chosen session step message choice transition at_ _ led =>
    have member : Reference.mk ("transitions." ++ choice ++ ".next_step") transition.next ∈
        (Step.choice step).references :=
      List.mem_append_left _ (List.mem_map_of_mem (Table.mem_of_get? led))
    have never := last.beside at_ nofun member found
    cases never
  | cancelled _ _ _ =>
    have never := last.recovers
    rw [found] at never
    cases never
  | answered at_ _ key => exact absurd (last.asks at_) key
  | @completed session step message fields existing merged gives held merge whole complete =>
    obtain ⟨sku, kept⟩ := reflects.product
    change StagedProduct.ofContext
      ((session.context.put productKey merged.product.toContext).get? productKey) = _ at kept
    rw [Table.get?_put_self, StagedProduct.ofContext_toContext] at kept
    rw [Except.ok.inj kept] at complete
    exact complete
  | @pictured session step url mimeType at_ =>
    obtain ⟨-, next, creating⟩ := last.creates at_
    rw [found] at creating
    cases creating
  | @skipped session step text at_ _ _ =>
    obtain ⟨-, next, creating⟩ := last.creates at_
    rw [found] at creating
    cases creating
  | resumed at_ goesOn =>
    rw [found] at at_
    cases at_
    cases goesOn

/-- Where a message leads, the image that is kept is still the one of the last attempt, unless a new one
has been received and the product is created next. -/
theorem Leads.attempted (last : a.flow.PicturesLast)
    (leads : a.Leads opened session? content name arrival)
    (known : ∀ session, session? = some session →
      Attempted history ∧ ∀ picture, a.flow.step? session.step = some (.image picture) → Whole history) :
    Attempted (a.withMessage history session? content) ∨
      Whole (a.withMessage history session? content) ∧
        ∃ next, a.flow.step? name = some (.action ⟨.addProduct, next⟩) := by
  cases leads with
  | opened trigger triggered _ =>
    rw [withMessage_of_some (by rw [moment?_of_atTrigger trigger, if_pos triggered])]
    exact .inl (.of_clears rfl)
  | chosen found _ _ =>
    rw [withMessage_of_none (moment?_of_menu found)]
    exact .inl (known _ rfl).1
  | cancelled asked cancels _ =>
    rw [withMessage_of_some (moment?_of_cancel asked cancels)]
    exact .inl (.of_clears rfl)
  | answered found _ key => exact absurd (last.asks found) key
  | completed gives _ _ _ _ =>
    rw [withMessage_of_some (moment?_of_gives gives)]
    exact .inl ((known _ rfl).1.answered _)
  | pictured found =>
    obtain ⟨key, next, creating⟩ := last.creates found
    have whole := (known _ rfl).2 _ found
    rw [withMessage_of_some (by rw [moment?_of_picture found, if_pos key])]
    refine .inr ⟨?_, next, creating⟩
    unfold Whole
    rw [collected_of_not_clears _ _ rfl]
    exact whole
  | skipped found goesOn _ =>
    rw [withMessage_of_none (moment?_of_text found goesOn)]
    exact .inl (known _ rfl).1
  | resumed found goesOn =>
    rw [withMessage_of_none (moment?_of_goesOn found goesOn)]
    exact .inl (known _ rfl).1

theorem Settles.settled (last : a.flow.PicturesLast)
    (settles : a.Settles opened chat session? content deeds out)
    (known : ∀ session, session? = some session → a.Settled history session.step session.context)
    {kept : Session} (keeps : keptBy out = some kept) :
    (a.CanCreate → Attempted (a.withMessage history session? content)) ∧
      ∀ picture, a.flow.step? kept.step = some (.image picture) →
        Whole (a.withMessage history session? content) := by
  cases settles with
  | @toMenu session step target message found _ leads =>
    rw [withMessage_of_none (moment?_of_menu found)]
    cases keeps
    refine ⟨(known _ rfl).attempted, fun picture stands => ?_⟩
    rw [leads] at stands
    cases stands
  | @toStep session step target message found _ leads =>
    rw [withMessage_of_none (moment?_of_menu found)]
    have member : Reference.mk "on_invalid.next_step" step.invalidNext ∈
        (Step.choice step).references :=
      List.mem_append_right _ (List.mem_singleton_self _)
    have aside := last.beside found nofun member leads
    cases keeps
    refine ⟨(known _ rfl).attempted, fun picture stands => ?_⟩
    rw [leads] at stands
    cases stands
    cases aside
  | @incomplete session _ _ _ _ _ gives _ _ _ =>
    rw [withMessage_of_some (moment?_of_gives gives)]
    cases keeps
    refine ⟨fun able => ((known _ rfl).attempted able).answered _, fun picture stands => ?_⟩
    change a.flow.step? session.step = _ at stands
    rw [gives.found] at stands
    cases stands
  | _ => cases keeps

theorem remembers_settled (last : a.flow.PicturesLast) : a.Remembers a.Settled := by
  intro opened chat session? content deeds out history answers known opens
  have reflected := fun session found => (known session found).reflects
  obtain ⟨reflects, left⟩ := a.remembers_reflects last.sound last.apart answers reflected opens
  refine ⟨fun kept keeps => ?_, left⟩
  obtain ⟨accounts, -, -⟩ := answers.accounts last.sound last.apart reflected opens
  rcases answers with settles | ⟨name, arrival, leads, enters⟩
  · obtain ⟨nothing, -, -⟩ := settles.accounts last.sound reflected
    obtain ⟨attempted, whole⟩ := settles.settled last known keeps
    refine ⟨reflects kept keeps, ?_, ?_⟩
    · simpa [nothing, withCreations] using attempted
    · simpa [nothing, withCreations] using whole
  · have arrived := leads.reflects last.apart reflected opens
    refine ⟨reflects kept keeps, fun able => ?_, fun picture stands => ?_⟩
    · by_cases nothing : creations deeds = []
      · have led := leads.attempted last fun session found =>
          ⟨(known session found).attempted able, (known session found).whole⟩
        rcases led with attempted | ⟨whole, next, creating⟩
        · simpa [nothing, withCreations] using attempted
        · have asked := (enters.creates last creating arrived).2 whole able.configured able.mayRun
          exact absurd nothing asked
      · exact .withCreations accounts.proven nothing
    · have asked := enters.stands last keeps stands
      have nothing := enters.creations_nil asked rfl
      simpa [nothing, withCreations] using leads.whole last arrived asked

/-- The session stands at a request for an image, which the message skips. -/
structure Skips (a : Assistant) (session? : Option Session) (content : Inbound) : Prop where
  skips : ∃ session step text, session? = some session ∧ content = .text text ∧
    a.flow.step? session.step = some (.image step) ∧ content.isCancel = false ∧
    step.isSkippedBy text = true

/-- A message that skips the image has the product created as the history has collected it. -/
theorem Skips.creates (skips : a.Skips session? content) (last : a.flow.PicturesLast)
    (known : ∀ session, session? = some session → a.Settled history session.step session.context)
    (course : (a.respond opened session? chat content).Goes deeds out) :
    ∀ creation ∈ creations deeds, Provenance history creation.product ∧ Attempted history := by
  obtain ⟨session, step, text, rfl, rfl, found, goesOn, skipped⟩ := skips
  obtain ⟨-, next, creating⟩ := last.creates found
  have settled := known session rfl
  have response : a.respond opened (some session) chat (.text text) =
      a.enter session step.next none (a.skipNote step) := by
    simp [respond, found, atStep, atImage, goesOn, skipped, skipImage_eq]
  rw [response] at course
  have enters := enters_of_goes course
  intro creation member
  obtain ⟨proven, configured, mayRun⟩ :=
    (enters.creates last creating settled.reflects).1 creation member
  exact ⟨proven, settled.attempted ⟨configured, mayRun⟩⟩

end Assistant

/-! ## At a desk -/

/-- The creation is the last one that was asked for since the conversation was cleared, and it failed. -/
def LastFailed (history : List Moment) (failed : Creation) : Prop :=
  ∃ before since, history = before ++ .created failed :: since ∧ failed.answer.isOk = false ∧
    ∀ later ∈ since, later.clears = false ∧ later.attempted? = none

theorem LastFailed.lastAttempt {history : List Moment} {failed : Creation}
    (last : LastFailed history failed) :
    lastAttempt history = failed.product.images.map ProductImage.src := by
  obtain ⟨before, since, rfl, unanswered, quiet⟩ := last
  have split : before ++ .created failed :: since = (before ++ [.created failed]) ++ since := by simp
  have goesOn : (Moment.created failed).clears = false := unanswered
  unfold Storekeeper.lastAttempt
  rw [split, latest_append quiet, latest_of_not_clears _ _ goesOn]
  rfl

theorem lastAttempt_of_none {history : List Moment} (none : ∀ failed, ¬LastFailed history failed) :
    lastAttempt history = [] := by
  unfold lastAttempt
  cases found : latest Moment.attempted? history with
  | none => rfl
  | some images =>
    obtain ⟨before, moment, since, split, gave, goesOn, quiet⟩ := latest_eq_some found
    cases moment with
    | created failed => exact absurd ⟨before, since, split, goesOn, quiet⟩ (none failed)
    | _ => cases gave

/-- **Skipped images.**  Over the built-in flow and after any events at a new desk, a product that is
created in a turn that skips the image is given the images of the creation that last failed since the
conversation was cleared, and no image if none has failed since. -/
theorem Desk.skipped_image {σ : Type} (a : Assistant) (builtin : a.flow = .builtin) (world : World σ)
    (timeout horizon : Time) (events : List (Event σ)) (chat : String) (content : Inbound) (s : σ) :
    let start := Desk.new ⟨timeout, horizon, []⟩
    let desk := start.afterAll world a events
    let history := start.past world a chat events
    a.Skips (desk.live (world.now s) chat) content →
    ∀ creation ∈ creations (desk.deeds world a chat content s),
      (∀ failed, LastFailed history failed → creation.product.images =
        failed.product.images.map fun image => ⟨image.src, some creation.product.name⟩) ∧
      ((∀ failed, ¬LastFailed history failed) → creation.product.images = []) := by
  intro start desk history skips creation member
  have last : a.flow.PicturesLast := builtin ▸ Flow.builtin_picturesLast
  have remembers : desk.Remembers a.Settled chat history :=
    afterAll_remembers (a.remembers_settled last) (.empty timeout horizon)
      (.new timeout horizon chat) events
  have known : ∀ session, desk.live (world.now s) chat = some session →
      a.Settled history session.step session.context :=
    fun session found => remembers session (Store.stored_of_live found)
  have course := Turn.goes_deeds world.toSurroundings
    (desk.response a (world.now s) chat content) s
  obtain ⟨proven, attempted⟩ := skips.creates last known course creation member
  have images := proven.images_eq attempted
  refine ⟨fun failed lastFailed => ?_, fun none => ?_⟩
  · rw [images, lastFailed.lastAttempt, List.map_map]
    rfl
  · rw [images, lastAttempt_of_none none]
    rfl

/-- In a conversation in which nothing has failed the product gets no image. -/
theorem Desk.skipped_image_none :
    let a : Assistant := ⟨.builtin, defaultMessages, none, true, 8, 10⟩
    let events : List (Event Time) :=
      [.message "c" (.text "hi") 0, .message "c" (.text "add") 1,
       .message "c" (.text "Name: Lamp\nPrice: 5\nStock: 1") 2]
    let desk := (Desk.new ⟨1000, 10000, []⟩).afterAll .bare a events
    ∃ creation ∈ creations (desk.deeds .bare a "c" (.text "skip") 3), creation.product.images = [] := by
  intro a events desk
  have made : (creations (desk.deeds .bare a "c" (.text "skip") 3)).length = 1 := by decide +kernel
  obtain ⟨creation, only⟩ := List.length_eq_one_iff.mp made
  have member : creation ∈ creations (desk.deeds .bare a "c" (.text "skip") 3) := by
    rw [only]
    exact List.mem_singleton_self creation
  have stands : (desk.live 3 "c").map Session.step = some "awaiting_product_image" := by decide +kernel
  obtain ⟨session, found, asked⟩ := Option.map_eq_some_iff.mp stands
  let step : ImageStep :=
    ⟨"add_product_image_prompt", "productImage", "process_add_product", true, some "skip"⟩
  have asks : a.flow.step? "awaiting_product_image" = some (.image step) := by decide +kernel
  rw [← asked] at asks
  have skips : a.Skips (desk.live 3 "c") (.text "skip") :=
    ⟨session, step, "skip", found, rfl, asks, by decide +kernel, by decide +kernel⟩
  have quiet : ((Desk.new ⟨1000, 10000, []⟩).past .bare a "c" events).all
      (·.attempted?.isNone) = true := by decide +kernel
  obtain ⟨-, none⟩ :=
    skipped_image a rfl .bare 1000 10000 events "c" (.text "skip") 3 skips creation member
  refine ⟨creation, member, none ?_⟩
  rintro failed ⟨before, since, split, -⟩
  have attempted : Moment.created failed ∈ (Desk.new ⟨1000, 10000, []⟩).past .bare a "c" events := by
    rw [split]
    exact List.mem_append_right _ (List.mem_cons_self ..)
  have never := List.all_eq_true.mp quiet _ attempted
  cases never

/-- A world in which nothing can be created until some time. -/
def World.closedUntil (opens : Time) : World Time where
  toSurroundings :=
    { World.bare.toSurroundings with
      createProduct := fun product now =>
        if now < opens then (.error (.catalog "closed" none .serverError), now)
        else World.bare.createProduct product now }
  now := World.bare.now

/-- A product whose creation failed is given up for another one, of which no image is sent; it is created
with the image of the first. -/
theorem Desk.skipped_image_kept :
    let a : Assistant := ⟨.builtin, defaultMessages, none, true, 8, 10⟩
    let world := World.closedUntil 4
    let events : List (Event Time) :=
      [.message "c" (.text "hi") 0, .message "c" (.text "add") 1,
       .message "c" (.text "Name: Lamp\nPrice: 5\nStock: 1") 2,
       .message "c" (.image "https://example.org/lamp.png" none) 3, .message "c" (.text "add") 4,
       .message "c" (.text "Name: Bead") 5]
    let desk := (Desk.new ⟨1000, 10000, []⟩).afterAll world a events
    (desk.live 6 "c").map Session.step = some "awaiting_product_image" ∧
      (creations (desk.deeds world a "c" (.text "skip") 6)).map (fun creation =>
        (creation.product.name, creation.product.images)) =
        [("Bead", [⟨"https://example.org/lamp.png", some "Bead"⟩])] := by
  decide +kernel

end Storekeeper
