import Storekeeper.Proofs.Dialogue.Event
import Storekeeper.Proofs.Product.Fields
import Storekeeper.Proofs.Product.Staging

/-!
# When a turn fails

Whatever the catalog answers or raises, and whatever is written, a turn ends with a reply, but for two
things: a stock count is written with more digits than are read, or a session would expire beyond the
horizon.

* `Readable` says that the records in a context can be read; every reachable session is readable
  (`Desk.afterAll_readable`), so that no action and no merge fails because of what is kept.
* `Desk.process_fails_iff` says exactly when a turn fails, and with what.
-/

namespace Storekeeper

/-- The product and the image that a context keeps can be read. -/
structure Readable (context : Table Json) : Prop where
  product : ∃ p, StagedProduct.ofContext (context.get? productKey) = .ok p
  image : ∃ image?, StagedImage.ofContext (context.get? imageKey) = .ok image?

namespace Readable

variable {context : Table Json}

theorem empty : Readable [] :=
  ⟨⟨_, rfl⟩, ⟨_, rfl⟩⟩

/-- An entry that can be read both as a product and as an image keeps a context readable. -/
theorem put (readable : Readable context) (key : String) {value : Json}
    (product : key = productKey → ∃ p, StagedProduct.ofContext (some value) = .ok p)
    (image : key = imageKey → ∃ image?, StagedImage.ofContext (some value) = .ok image?) :
    Readable (context.put key value) where
  product := by
    by_cases same : key = productKey
    · subst same
      rw [Table.get?_put_self]
      exact product rfl
    · rw [Table.get?_put_of_ne _ _ same]
      exact readable.product
  image := by
    by_cases same : key = imageKey
    · subst same
      rw [Table.get?_put_self]
      exact image rfl
    · rw [Table.get?_put_of_ne _ _ same]
      exact readable.image

theorem put_text (readable : Readable context) (key text : String) :
    Readable (context.put key (.str text)) :=
  readable.put key (fun _ => ⟨_, rfl⟩) (fun _ => ⟨_, rfl⟩)

theorem put_product (readable : Readable context) (p : StagedProduct) :
    Readable (context.put productKey p.toContext) :=
  readable.put productKey (fun _ => ⟨p, p.ofContext_toContext⟩) (fun same => absurd same (by decide))

/-- An image in the place of the product is read as a product of which nothing is known. -/
theorem put_image (readable : Readable context) (key : String) (image : StagedImage) :
    Readable (context.put key image.toContext) := by
  refine readable.put key (fun _ => ⟨.empty, ?_⟩) (fun _ => ⟨_, image.ofContext_toContext⟩)
  obtain ⟨url, mimeType⟩ := image
  cases mimeType <;> rfl

theorem erase (readable : Readable context) (key : String) : Readable (context.erase key) where
  product := by
    by_cases same : key = productKey
    · subst same
      rw [Table.get?_erase_self]
      exact ⟨_, rfl⟩
    · rw [Table.get?_erase_of_ne _ same]
      exact readable.product
  image := by
    by_cases same : key = imageKey
    · subst same
      rw [Table.get?_erase_self]
      exact ⟨_, rfl⟩
    · rw [Table.get?_erase_of_ne _ same]
      exact readable.image

end Readable

namespace Assistant

variable {a : Assistant} {opened : Except Failure Session} {chat name : String} {hops : Nat}
  {session? : Option Session} {content : Inbound} {arrival : Arrival} {deeds : List Deed}
  {out : Except Failure Decision} {context : Table Json} {failure : Failure}

/-- An action on a readable context never fails, and keeps it readable. -/
theorem Acts.readable (readable : Readable context) {action : Action}
    {result : Except Failure (Table Json × String)} (acts : a.Acts context action deeds result) :
    ∃ after text, result = .ok (after, text) ∧ Readable after := by
  cases acts with
  | lists lists => exact ⟨context, _, rfl, readable⟩
  | adds adds =>
    have withSku : ∀ product sku, Readable (withSku context product sku) := fun product sku =>
      readable.put_product { product with sku := some sku }
    cases adds with
    | unreadable failed =>
      obtain ⟨p, held⟩ := readable.product
      rw [held] at failed
      cases failed
    | incomplete kept undrafted => exact ⟨_, _, rfl, readable⟩
    | notConfigured kept drafted missing => exact ⟨_, _, rfl, readable⟩
    | @imageUnreadable product draft failure sku kept drafted configured failed =>
      obtain ⟨image?, shown⟩ := (withSku product sku).image
      rw [shown] at failed
      cases failed
    | @refused product draft image sku failure kept drafted configured pictured =>
      exact ⟨_, _, rfl, withSku product sku⟩
    | @created product draft image sku made kept drafted configured pictured =>
      exact ⟨_, _, rfl, ((withSku product sku).erase productKey).erase imageKey⟩

/-- The course ends with a decision, and a session that is kept is readable. -/
structure Returns (out : Except Failure Decision) : Prop where
  decides : ∃ decision, out = .ok decision
  kept : ∀ session, keptBy out = some session → Readable session.context

theorem Returns.of_quiet {decision : Decision} (none : keptBy (.ok decision) = none) :
    Returns (.ok decision) where
  decides := ⟨decision, rfl⟩
  kept := by
    intro session keeps
    rw [none] at keeps
    cases keeps

theorem Returns.of_keep {reply : Reply} {session : Session} (readable : Readable session.context) :
    Returns (.ok ⟨reply, .keep session⟩) where
  decides := ⟨_, rfl⟩
  kept := by
    intro _ keeps
    cases keeps
    exact readable

/-- Entering a step with a readable session always comes to a decision. -/
theorem Enters.returns (enters : a.Enters hops name arrival deeds out)
    (readable : Readable arrival.session.context) : Returns out := by
  induction enters with
  | missing _ => exact .of_quiet rfl
  | ended _ => exact .of_quiet rfl
  | menu _ => exact .of_keep readable
  | prompt _ _ => exact .of_keep readable
  | limit _ => exact .of_keep readable
  | failed _ acts =>
    obtain ⟨after, text, impossible, -⟩ := acts.readable readable
    cases impossible
  | onward _ acts _ ih =>
    obtain ⟨after, text, same, reads⟩ := acts.readable readable
    cases same
    exact ih reads

/-- Where a message leads, a readable session stays readable. -/
theorem Leads.readable (leads : a.Leads opened session? content name arrival)
    (known : ∀ session, session? = some session → Readable session.context)
    (opens : ∀ session, opened = .ok session → session.context = []) :
    Readable arrival.session.context := by
  cases leads with
  | opened _ _ opening =>
    rw [opens _ opening]
    exact .empty
  | chosen _ _ _ => exact known _ rfl
  | cancelled _ _ _ => exact (((known _ rfl).erase productKey).erase imageKey).erase _
  | answered _ _ _ => exact (known _ rfl).put_text _ _
  | completed _ _ _ _ _ => exact (known _ rfl).put_product _
  | pictured _ => exact (known _ rfl).put_image _ _
  | skipped _ _ _ => exact known _ rfl
  | resumed _ _ => exact known _ rfl

/-- A session that is kept by an answer to a readable one is readable. -/
theorem Answers.kept (answers : a.Answers opened chat session? content deeds out)
    (known : ∀ session, session? = some session → Readable session.context)
    (opens : ∀ session, opened = .ok session → session.context = []) {session : Session}
    (keeps : keptBy out = some session) : Readable session.context := by
  rcases answers with settles | ⟨name, arrival, leads, enters⟩
  · cases settles with
    | toMenu _ _ _ =>
      have readable := known _ rfl
      cases keeps
      exact readable
    | toStep _ _ _ =>
      have readable := known _ rfl
      cases keeps
      exact readable
    | incomplete _ _ _ _ =>
      have readable := known _ rfl
      cases keeps
      exact readable.put_product _
    | _ => cases keeps
  · exact (enters.returns (leads.readable known opens)).kept session keeps

/-- The session stands at a question for the fields of a product, and the message gives a stock count
with more digits than are read. -/
structure GivesOverlong (a : Assistant) (session? : Option Session) (content : Inbound) : Prop where
  gives : ∃ session step fields, session? = some session ∧
    a.GivesFields session content step fields ∧
    ∃ value, stockField? fields = some value ∧ IsOverlong value

/-- The message opens a conversation. -/
structure Opens (a : Assistant) (session? : Option Session) (content : Inbound) : Prop where
  triggers : ∃ step, a.AtTrigger session? step ∧ a.isTriggered content = true

/-- An answer to a readable session fails only because of a stock count with too many digits or
because no session can be opened. -/
theorem Answers.failed (answers : a.Answers opened chat session? content deeds (.error failure))
    (known : ∀ session, session? = some session → Readable session.context)
    (opens : ∀ session, opened = .ok session → session.context = []) :
    (failure = .integerTooLong ∧ a.GivesOverlong session? content) ∨
      (opened = .error failure ∧ a.Opens session? content) := by
  rcases answers with settles | ⟨name, arrival, leads, enters⟩
  · cases settles with
    | unopened trigger triggered unopened => exact .inr ⟨unopened, _, trigger, triggered⟩
    | unreadable gives failed =>
      obtain ⟨p, held⟩ := (known _ rfl).product
      rw [held] at failed
      cases failed
    | unmerged gives held failed =>
      obtain ⟨rfl, overlong⟩ := mergeFields_error.mp failed
      exact .inl ⟨rfl, _, _, _, rfl, gives, overlong⟩
  · obtain ⟨decision, decided⟩ := (enters.returns (leads.readable known opens)).decides
    cases decided

/-- A stock count with too many digits is a failure. -/
theorem respond_overlong (known : ∀ session, session? = some session → Readable session.context)
    (overlong : a.GivesOverlong session? content) :
    a.respond opened session? chat content = .fail .integerTooLong := by
  obtain ⟨session, step, fields, rfl, ⟨found, key, ⟨text, rfl, rfl⟩, goesOn⟩, value, given⟩ := overlong
  obtain ⟨p, held⟩ := (known _ rfl).product
  have failed : mergeFields a.messages p (parseFields text) = .error .integerTooLong :=
    mergeFields_error.mpr ⟨rfl, value, given⟩
  have answered : a.respond opened (some session) chat (.text text) =
      a.atProductInput session step text := by
    simp [respond, found, atStep, atInput, goesOn, key]
  rw [answered]
  unfold atProductInput
  rw [held]
  change (Turn.ofExcept (mergeFields a.messages p (parseFields text))).bind _ = _
  rw [failed]
  rfl

/-- A conversation that cannot be opened is a failure. -/
theorem respond_unopened (triggers : a.Opens session? content) :
    a.respond (.error failure) session? chat content = .fail failure := by
  obtain ⟨step, trigger, triggered⟩ := triggers
  have answered : a.respond (.error failure) session? chat content =
      a.atTrigger (.error failure) step content := by
    cases trigger with
    | start found => simp [respond, start, found]
    | parked found => simp [respond, atStep, found]
  rw [answered]
  unfold atTrigger
  rw [if_pos triggered]
  rfl

end Assistant

/-! ## A line with too many digits -/

/-- A row of ones that is given as a stock count. -/
def stockLine (n : Nat) : String :=
  String.ofList ("stock".toList ++ ':' :: List.replicate n '1')

theorem stockLine_plain {n : Nat} {c : Char}
    (member : c ∈ "stock".toList ++ ':' :: List.replicate n '1') :
    Text.isBreak c = false ∧ Text.isBlank c = false ∧ c ≠ 'Σ' ∧ Text.lowerChar c = [c] := by
  have letters : "stock".toList = ['s', 't', 'o', 'c', 'k'] := rfl
  rw [letters] at member
  simp only [List.mem_append, List.mem_cons, List.not_mem_nil, or_false, List.mem_replicate]
    at member
  rcases member with (rfl | rfl | rfl | rfl | rfl) | rfl | ⟨-, rfl⟩ <;> decide

theorem parseFields_stockLine {n : Nat} (some : 0 < n) :
    parseFields (stockLine n) = [("stock", String.ofList (List.replicate n '1'))] := by
  have ones : Text.trim (List.replicate n '1') = List.replicate n '1' :=
    Text.trim_of_noBlank fun c member => (stockLine_plain (n := n)
      (List.mem_append_right _ (List.mem_cons_of_mem _ member))).2.1
  have line := parseFields_line (fun c member => (stockLine_plain (n := n) member).1) (by decide)
    (by decide) (by rw [ones]; simpa using Nat.ne_of_gt some)
  rw [ones] at line
  exact line

theorem isCancel_stockLine (n : Nat) : (Inbound.text (stockLine n)).isCancel = false := by
  have characters : (stockLine n).toList = "stock".toList ++ ':' :: List.replicate n '1' :=
    String.toList_ofList
  have noBlank : ∀ c ∈ (stockLine n).toList, Text.isBlank c = false := by
    intro c member
    rw [characters] at member
    exact (stockLine_plain member).2.1
  have lower : ∀ c ∈ (stockLine n).toList, c ≠ 'Σ' ∧ Text.lowerChar c = [c] := by
    intro c member
    rw [characters] at member
    exact (stockLine_plain member).2.2
  have lowered : normalized (stockLine n) = stockLine n := by
    unfold normalized Text.lower Text.strip
    rw [Text.trim_of_noBlank noBlank, String.toList_ofList, Text.lowerChars_of_lower lower,
      String.ofList_toList]
  change (normalized (stockLine n) == cancelWord) = false
  rw [lowered, beq_eq_false_iff_ne]
  intro same
  have letters := congrArg String.toList same
  rw [characters] at letters
  cases letters

theorem isOverlong_ones {n : Nat} (many : 4300 < n) :
    IsOverlong (String.ofList (List.replicate n '1')) := by
  obtain ⟨m, rfl⟩ := Nat.exists_eq_add_of_lt many
  have unsigned : dropPlus (String.ofList (List.replicate (4300 + m + 1) '1')).toList =
      List.replicate (4300 + m + 1) '1' := by
    rw [String.toList_ofList, List.replicate_succ]
    rfl
  refine ⟨?_, ?_⟩
  · rw [unsigned, List.all_replicate, if_neg (by omega)]
    rfl
  · rw [unsigned, List.length_replicate]
    omega

/-- At a question for a product, a line with more than 4300 ones is not read. -/
theorem Assistant.givesOverlong_stockLine {a : Assistant} {session : Session} {step : InputStep}
    (found : a.flow.step? session.step = some (.input step)) (key : step.contextKey = productInputKey)
    {n : Nat} (many : 4300 < n) : a.GivesOverlong (some session) (.text (stockLine n)) := by
  have gives : a.GivesFields session (.text (stockLine n)) step (parseFields (stockLine n)) :=
    ⟨found, key, ⟨_, rfl, rfl⟩, isCancel_stockLine n⟩
  refine ⟨session, step, _, rfl, gives, String.ofList (List.replicate n '1'), ?_, isOverlong_ones many⟩
  rw [parseFields_stockLine (by omega)]
  rfl

namespace Desk

variable {σ : Type} {world : World σ} {a : Assistant} {desk : Desk} {chat : String}
  {content : Inbound} {s : σ} {failure : Failure}

/-- Each stored session is readable. -/
def IsReadable (desk : Desk) : Prop :=
  ∀ chat session, desk.store.sessions.get? chat = some session → Readable session.context

theorem afterAll_readable (filed : desk.store.Filed) (readable : desk.IsReadable)
    (events : List (Event σ)) : (desk.afterAll world a events).IsReadable := by
  have retains : a.Retains Readable := by
    intro opened chat session? content deeds out session answers known opens keeps
    exact answers.kept known opens keeps
  exact afterAll_holds retains filed readable events

/-- When the turn of a message comes to no decision at a desk whose sessions are readable. -/
theorem decision_error (readable : desk.IsReadable) :
    desk.decision world a chat content s = .error failure ↔
      (failure = .integerTooLong ∧ a.GivesOverlong (desk.live (world.now s) chat) content) ∨
      (failure = .outOfRange ∧ a.Opens (desk.live (world.now s) chat) content ∧
        desk.store.horizon < world.now s + desk.store.timeout) := by
  obtain ⟨timeout, horizon⟩ := Store.get_timeout desk.store (world.now s) chat
  have known := Holds.live readable (world.now s) chat
  constructor
  · intro failed
    have answers := process_answers world a desk chat content s
    rw [failed] at answers
    rcases answers.failed known fun _ opens => opening_context opens with
      overlong | ⟨unopened, opens⟩
    · exact .inl overlong
    · obtain ⟨rfl, beyond⟩ := Store.create_error unopened
      rw [timeout, horizon] at beyond
      exact .inr ⟨rfl, opens, beyond⟩
  · rintro (⟨rfl, overlong⟩ | ⟨rfl, opens, beyond⟩)
    · unfold decision response
      rw [Assistant.respond_overlong known overlong]
      rfl
    · rw [← timeout, ← horizon] at beyond
      unfold decision response opening
      rw [Store.create_beyond _ chat a.flow.initialStep beyond,
        Assistant.respond_unopened opens]
      rfl

/-- **When a turn fails.**  After any events at a new desk, over any flow, the turn of a message ends with
a reply unless a stock count is given with more digits than are read, or the session that is to be
opened or stored would expire beyond the horizon; and if so it fails, with just this failure.  At a
question for a product every value that is given is accepted or complained about, but for such a
stock count. -/
theorem process_fails_iff (a : Assistant) (world : World σ) (timeout horizon : Time)
    (events : List (Event σ)) (chat : String) (content : Inbound) (s : σ) :
    let desk := (Desk.new ⟨timeout, horizon, []⟩).afterAll world a events
    (∀ failure, (desk.process world a chat content s).1 = .error failure ↔
      (failure = .integerTooLong ∧ a.GivesOverlong (desk.live (world.now s) chat) content) ∨
      (failure = .outOfRange ∧
        ((a.Opens (desk.live (world.now s) chat) content ∧ horizon < world.now s + timeout) ∨
        ((∃ reply session, desk.decision world a chat content s = .ok ⟨reply, .keep session⟩) ∧
          horizon < desk.finished world a chat content s + timeout)))) ∧
    ∀ session step fields, desk.live (world.now s) chat = some session →
      a.GivesFields session content step fields →
      a.GivesOverlong (some session) content ∨
      ∃ existing merged,
        StagedProduct.ofContext (session.context.get? productKey) = .ok existing ∧
        mergeFields a.messages existing fields = .ok merged ∧
        merged.product = existing.accepting fields ∧ merged.errors = rejections a.messages fields := by
  intro desk
  have readable : desk.IsReadable :=
    afterAll_readable (.empty timeout horizon) (fun chat session found => by cases found) events
  obtain ⟨timeouts, horizons⟩ := afterAll_timeout world a (Desk.new ⟨timeout, horizon, []⟩) events
  refine ⟨fun failure => ?_, fun session step fields found gives => ?_⟩
  · rw [process_error, decision_error readable, horizons, timeouts]
    constructor
    · rintro ((overlong | ⟨rfl, opens, beyond⟩) | ⟨rfl, kept, beyond⟩)
      · exact .inl overlong
      · exact .inr ⟨rfl, .inl ⟨opens, beyond⟩⟩
      · exact .inr ⟨rfl, .inr ⟨kept, beyond⟩⟩
    · rintro (overlong | ⟨rfl, ⟨opens, beyond⟩ | ⟨kept, beyond⟩⟩)
      · exact .inl (.inl overlong)
      · exact .inl (.inr ⟨rfl, opens, beyond⟩)
      · exact .inr ⟨rfl, kept, beyond⟩
  · obtain ⟨existing, held⟩ := (Holds.live readable (world.now s) chat session found).product
    cases merging : mergeFields a.messages existing fields with
    | error failure =>
      obtain ⟨-, overlong⟩ := mergeFields_error.mp merging
      exact .inl ⟨session, step, fields, rfl, gives, overlong⟩
    | ok merged =>
      obtain ⟨product, errors⟩ := mergeFields_ok merging
      exact .inr ⟨existing, merged, held, merging, product, errors⟩

/-- At the question for a product of the built-in flow, a stock count of 4301 ones makes the turn
fail. -/
theorem process_fails_overlong :
    let a : Assistant := ⟨.builtin, defaultMessages, none, true, 8, 10⟩
    let events : List (Event Time) := [.message "c" (.text "hi") 0, .message "c" (.text "add") 1]
    let desk := (Desk.new ⟨300 * Store.second, Store.calendarEnd, []⟩).afterAll .bare a events
    (desk.process .bare a "c" (.text (stockLine 4301)) 2).1 = .error .integerTooLong := by
  intro a events desk
  have readable : desk.IsReadable :=
    afterAll_readable (.empty _ _) (fun chat session found => by cases found) events
  obtain ⟨session, step, found, asks, key⟩ : ∃ session step, desk.live 2 "c" = some session ∧
      a.flow.step? session.step = some (.input step) ∧ step.contextKey = productInputKey :=
    ⟨_, _, rfl, rfl, rfl⟩
  refine process_error.mpr (.inl ((decision_error readable).mpr (.inl ⟨rfl, ?_⟩)))
  have overlong := Assistant.givesOverlong_stockLine asks key (by decide : 4300 < 4301)
  rw [← found] at overlong
  exact overlong

end Desk

end Storekeeper
