import Storekeeper.Proofs.Dialogue.Chaining
import Storekeeper.Proofs.Dialogue.Ending

/-!
# Cancelling a question

A question that is cancelled takes back what the conversation has collected, and the conversation enters the
recovery step of its flow, whatever kind of step this is.  Actions may follow, but they find no product and so
change nothing.

* `Session.forgetting_context`: what is forgotten are the entries of three names, and the others stay in place.
* `Assistant.Enters.idle`: without a product, entering a step creates nothing and leaves the context alone.
* `Desk.cancel_erases` is the result for every reachable desk.
-/

namespace Storekeeper

namespace Table

variable {α : Type}

/-- The table without the entries of some names. -/
def without (table : Table α) (names : List String) : Table α :=
  table.filter fun entry => !names.contains entry.1

theorem erase_without (table : Table α) (names : List String) (name : String) :
    (table.without names).erase name = table.without (name :: names) := by
  simp only [without, erase, List.filter_filter, bne, List.contains_cons, Bool.not_or]

/-- Only the entries of the names are gone. -/
theorem get?_without (table : Table α) (names : List String) (name : String) :
    (table.without names).get? name = if name ∈ names then none else table.get? name := by
  induction names with
  | nil => simp [without]
  | cons head names ih =>
    rw [← erase_without]
    by_cases same : head = name
    · subst same
      simp
    · rw [get?_erase_of_ne _ same, ih]
      simp [Ne.symm same]

end Table

/-- What a cancelled question forgets are the entries of three names, which may be the same. -/
theorem Session.forgetting_context (session : Session) (key : String) :
    (session.forgetting key).context = session.context.without [key, imageKey, productKey] := by
  have all : session.context.without [] = session.context := by simp [Table.without]
  rw [← Table.erase_without, ← Table.erase_without, ← Table.erase_without, all]
  rfl

namespace Assistant

variable {a : Assistant} {name : String} {hops : Nat} {context : Table Json} {arrival : Arrival}
  {deeds : List Deed} {out : Except Failure Decision}

theorem Lists.creations {text : String} (lists : a.Lists deeds text) : creations deeds = [] := by
  cases lists <;> rfl

/-- Without a product an action creates nothing, and changes nothing. -/
theorem Acts.idle (none : context.get? productKey = none) {action : Action}
    {result : Except Failure (Table Json × String)} (acts : a.Acts context action deeds result) :
    creations deeds = [] ∧ ∃ text, result = .ok (context, text) := by
  -- What is kept of no product is the product of which nothing is known, and there is no order for it.
  have empty : StagedProduct.ofContext (context.get? productKey) = .ok .empty := by rw [none]; rfl
  have undrafted : ∀ {product draft}, StagedProduct.ofContext (context.get? productKey) = .ok product →
      product.draft? ≠ some draft := by
    intro product draft kept drafted
    cases empty.symm.trans kept
    cases drafted
  cases acts with
  | lists lists => exact ⟨lists.creations, _, rfl⟩
  | adds adds =>
    cases adds with
    | unreadable failed => cases empty.symm.trans failed
    | incomplete _ _ => exact ⟨rfl, _, rfl⟩
    | notConfigured kept drafted _ => exact absurd drafted (undrafted kept)
    | imageUnreadable _ kept drafted _ _ => exact absurd drafted (undrafted kept)
    | refused _ _ kept drafted _ _ => exact absurd drafted (undrafted kept)
    | created _ _ kept drafted _ _ => exact absurd drafted (undrafted kept)

/-- Without a product, entering a step creates nothing, and what is kept of the context is all of it. -/
theorem Enters.idle (enters : a.Enters hops name arrival deeds out)
    (none : arrival.session.context.get? productKey = none) :
    creations deeds = [] ∧ (∃ decision, out = .ok decision) ∧
      ∀ kept, keptBy out = some kept → kept.context = arrival.session.context := by
  induction enters with
  | missing _ => exact ⟨rfl, ⟨_, rfl⟩, nofun⟩
  | ended _ => exact ⟨rfl, ⟨_, rfl⟩, nofun⟩
  | menu _ => exact ⟨rfl, ⟨_, rfl⟩, fun kept keeps => by cases keeps; rfl⟩
  | prompt _ _ => exact ⟨rfl, ⟨_, rfl⟩, fun kept keeps => by cases keeps; rfl⟩
  | limit _ => exact ⟨rfl, ⟨_, rfl⟩, fun kept keeps => by cases keeps; rfl⟩
  | failed _ acts =>
    obtain ⟨-, text, impossible⟩ := acts.idle none
    cases impossible
  | onward _ acts _ ih =>
    obtain ⟨nothing, text, same⟩ := acts.idle none
    cases same
    obtain ⟨later, decides, keeps⟩ := ih none
    refine ⟨?_, decides, keeps⟩
    rw [creations, List.filterMap_append]
    exact List.append_eq_nil_iff.mpr ⟨nothing, later⟩

/-- What is said when a question is cancelled. -/
def cancelNote (a : Assistant) : String :=
  a.messages.get "add_product_cancelled"

theorem respond_cancel {session : Session} {key : String} {message : Inbound}
    (asks : a.AsksFor session key) (cancels : message.isCancel = true) (opened : Except Failure Session)
    (chat : String) : a.respond opened (some session) chat message = a.cancel session key := by
  cases asks with
  | input found => simp only [respond, found, atStep, atInput, cancels]; rfl
  | image found => simp only [respond, found, atStep, atImage, cancels]; rfl

end Assistant

namespace Desk

variable {σ : Type} {world : World σ} {a : Assistant} {desk : Desk} {chat key name : String}
  {content : Inbound} {s : σ} {session : Session} {arrival : Arrival}

/-- A flow that asks for the fields of a product and for its image, and whose recovery step adds it. -/
def restock : Flow where
  id := "restock"
  initialStep := "start"
  timeoutSeconds := 300
  steps :=
    [("start", .trigger { onMatch := { next := "fields", message := none }, otherwiseHandled := true }),
     ("fields", .input { message := "fields", contextKey := productInputKey, next := "picture" }),
     ("picture",
      .image
        { message := "picture"
          contextKey := imageKey
          next := Flow.recoveryStep
          optional := false
          skipKeyword := none }),
     (Flow.recoveryStep, .action { action := .addProduct, next := "fields" })]

/-- A question is cancelled by the turn that answers the message. -/
theorem response_cancel (alive : desk.live (world.now s) chat = some session)
    (asks : a.AsksFor session key) (cancels : content.isCancel = true) :
    desk.response a (world.now s) chat content = a.cancel session key := by
  unfold response
  rw [alive]
  exact Assistant.respond_cancel asks cancels _ chat

/-- A turn that leads to a step with a session that has no product creates nothing, and what is then stored of
the chat has the context with which the step was entered, unless it could not be stored. -/
theorem Leads.idle (leads : desk.Leads world a chat content s name arrival) (sound : a.flow.Sound)
    (filed : desk.store.Filed) (none : arrival.session.context.get? productKey = none) :
    creations (desk.deeds world a chat content s) = [] ∧
      (∀ failure, (desk.process world a chat content s).1 = .error failure ↔
        failure = .outOfRange ∧ desk.Overruns world a chat content s) ∧
      (¬desk.Overruns world a chat content s → ∀ found,
        (desk.process world a chat content s).2.1.store.sessions.get? chat = some found →
          found.context = arrival.session.context) := by
  have enters := leads.enters
  obtain ⟨nothing, ⟨decision, decided⟩, keeps⟩ := enters.idle none
  have fails := fails_iff_overruns decided
  refine ⟨nothing, fails, fun fits found stored => ?_⟩
  rcases process_stored filed stored with
    ⟨-, failure, failed⟩ | ⟨-, reply, -, left⟩ | ⟨reply, kept, -, kept_, rfl⟩
  · exact absurd ((fails failure).mp failed).2 fits
  · -- Entering a step of a sound flow keeps the session, or drops it with the conversation.
    rw [left] at enters
    have ended := enters.sessionEnded
    obtain ⟨kept, same⟩ := enters.renews sound (Assistant.Leads.target sound leads) ended
    cases same
  · rw [kept_] at keeps
    exact keeps kept rfl

/-- Without a recovery step the conversation ends with the question. -/
theorem process_unrecovered (filed : desk.store.Filed)
    (alive : desk.live (world.now s) chat = some session) (asks : a.AsksFor session key)
    (cancels : content.isCancel = true) (absent : a.flow.step? Flow.recoveryStep = none) :
    desk.deeds world a chat content s = [.warned (.noRecoveryStep chat)] ∧
      (desk.process world a chat content s).1 =
        .ok { handled := true, response := some a.cancelNote, sessionEnded := true } ∧
      (desk.process world a chat content s).2.1.store.sessions.get? chat = none := by
  have own : session.chat = chat := filed.own (Store.stored_of_live alive)
  have turn := response_cancel (a := a) alive asks cancels
  simp only [Assistant.cancel, absent, own] at turn
  refine ⟨?_, process_of_drop ?_⟩
  · unfold deeds
    rw [turn]
    rfl
  · unfold decision
    rw [turn]
    rfl

/-- With a recovery step it is entered under the text that tells of the cancelling.  Nothing is created, and what
the question has collected is gone from the session, unless it could not be stored. -/
theorem process_recovered (sound : a.flow.Sound) (filed : desk.store.Filed)
    (alive : desk.live (world.now s) chat = some session) (asks : a.AsksFor session key)
    (cancels : content.isCancel = true)
    (recovers : ∃ recovery, a.flow.step? Flow.recoveryStep = some recovery) :
    creations (desk.deeds world a chat content s) = [] ∧
      desk.response a (world.now s) chat content =
        a.enter (session.forgetting key) Flow.recoveryStep (some a.cancelNote) none ∧
      (∀ failure, (desk.process world a chat content s).1 = .error failure ↔
        failure = .outOfRange ∧ desk.Overruns world a chat content s) ∧
      (desk.Overruns world a chat content s →
        (desk.process world a chat content s).2.1.store.sessions.get? chat = some session) ∧
      (¬desk.Overruns world a chat content s → ∀ found,
        (desk.process world a chat content s).2.1.store.sessions.get? chat = some found →
          found.context = session.context.without [key, imageKey, productKey]) := by
  obtain ⟨recovery, found⟩ := recovers
  have leads : desk.Leads world a chat content s Flow.recoveryStep
      ⟨session.forgetting key, some a.cancelNote, none⟩ := by
    unfold Desk.Leads
    rw [alive]
    exact .cancelled asks cancels found
  obtain ⟨nothing, fails, kept⟩ := leads.idle sound filed (Assistant.forgotten session.context key).1
  refine ⟨nothing, ?_, fails, fun overruns => ?_, fun fits other stored => ?_⟩
  · rw [response_cancel alive asks cancels]
    simp only [Assistant.cancel, found]
    rfl
  · rw [process_store_of_error ((fails _).mpr ⟨rfl, overruns⟩)]
    exact Store.get_of_live alive
  · exact (kept fits other stored).trans (session.forgetting_context key)

/-- Whatever is stored in a context after a question was cancelled was stored there before. -/
theorem stored_cancelled (sound : a.flow.Sound) (filed : desk.store.Filed)
    (alive : desk.live (world.now s) chat = some session) (asks : a.AsksFor session key)
    (cancels : content.isCancel = true) {other : String} {found : Session}
    (stored : (desk.process world a chat content s).2.1.store.sessions.get? other = some found) :
    ∃ before, desk.store.sessions.get? other = some before ∧ found.context ⊆ before.context := by
  by_cases different : chat = other
  · subst different
    refine ⟨session, Store.stored_of_live alive, ?_⟩
    cases recovers : a.flow.step? Flow.recoveryStep with
    | none =>
      obtain ⟨-, -, gone⟩ := process_unrecovered filed alive asks cancels recovers
      cases gone.symm.trans stored
    | some recovery =>
      obtain ⟨-, -, -, stays, erases⟩ := process_recovered sound filed alive asks cancels ⟨_, recovers⟩
      by_cases overruns : desk.Overruns world a chat content s
      · cases (stays overruns).symm.trans stored
        exact List.Subset.refl _
      · rw [erases overruns found stored]
        exact List.filter_subset_self _
  · rw [process_others filed different] at stored
    exact ⟨found, stored, List.Subset.refl _⟩

/-- **What cancelling erases.**  Over a flow that has been built, after any events at a new desk, a text that
cancels the question of a live session creates no product, and every entry that is stored in a context then was
stored there before.  Without a recovery step the conversation ends.  With one, the turn enters it under the
text that tells so; what is stored of the chat is what was, without the product, the image and the question's
own entry; and if it cannot be stored, the turn fails and the session stays as it was. -/
theorem cancel_erases {document : Json} (built : Flow.build document = .ok a.flow) (world : World σ)
    (timeout horizon : Time) (events : List (Event σ)) (chat text : String) (s : σ) :
    let desk := (Desk.new ⟨timeout, horizon, []⟩).afterAll world a events
    let next := desk.after world a (.message chat (.text text) s)
    let reply := (desk.process world a chat (.text text) s).1
    ∀ session key, desk.live (world.now s) chat = some session → a.AsksFor session key →
      Text.lower (Text.strip text) = "stop" →
      creations (desk.deeds world a chat (.text text) s) = [] ∧
      (∀ other found, next.store.sessions.get? other = some found →
        ∃ before, desk.store.sessions.get? other = some before ∧ found.context ⊆ before.context) ∧
      (a.flow.step? Flow.recoveryStep = none →
        reply = .ok { handled := true, response := some a.cancelNote, sessionEnded := true } ∧
          next.store.sessions.get? chat = none) ∧
      ((∃ recovery, a.flow.step? Flow.recoveryStep = some recovery) →
        desk.response a (world.now s) chat (.text text) =
            a.enter (session.forgetting key) Flow.recoveryStep (some a.cancelNote) none ∧
        (∀ failure, reply = .error failure ↔
          failure = .outOfRange ∧ desk.Overruns world a chat (.text text) s) ∧
        (desk.Overruns world a chat (.text text) s → next.store.sessions.get? chat = some session) ∧
        (¬desk.Overruns world a chat (.text text) s → ∀ found,
          next.store.sessions.get? chat = some found →
            found.context = session.context.without [key, imageKey, productKey] ∧
            ∀ name, found.context.get? name =
              if name ∈ [key, imageKey, productKey] then none else session.context.get? name)) := by
  intro desk next reply session key alive asks stops
  have sound : a.flow.Sound := Flow.sound_of_build built
  have filed : desk.store.Filed := afterAll_filed (.empty timeout horizon) events
  have cancels : (Inbound.text text).isCancel = true := beq_iff_eq.mpr stops
  refine ⟨?_, fun other found stored => stored_cancelled sound filed alive asks cancels stored,
    fun absent => (process_unrecovered filed alive asks cancels absent).2, fun recovers => ?_⟩
  · cases recovers : a.flow.step? Flow.recoveryStep with
    | none =>
      obtain ⟨deeds, -⟩ := process_unrecovered filed alive asks cancels recovers
      rw [deeds]
      rfl
    | some recovery => exact (process_recovered sound filed alive asks cancels ⟨_, recovers⟩).1
  · obtain ⟨-, enters, fails, stays, erases⟩ :=
      process_recovered sound filed alive asks cancels recovers
    refine ⟨enters, fails, stays, fun fits found stored => ?_⟩
    have same := erases fits found stored
    refine ⟨same, fun name => ?_⟩
    rw [same]
    exact Table.get?_without _ _ name

/-- Where the recovery step would add the product that is complete, cancelling the request for its image adds
nothing, and nothing of the product is left. -/
theorem cancel_erases_restock :
    let a : Assistant := ⟨restock, defaultMessages, none, true, 3, 20⟩
    let desk := (Desk.new ⟨10, 1000, []⟩).afterAll .bare a
      [.message "c" (.text "hi") 0, .message "c" (.text "Name: Lamp\nPrice: 5\nStock: 1") 1]
    let next := desk.after .bare a (.message "c" (.text " Stop ") 2)
    Flow.build restock.toJson = .ok restock ∧
      (∃ session, desk.live 2 "c" = some session ∧ (session.context.get? productKey).isSome = true) ∧
      creations (desk.deeds .bare a "c" (.text " Stop ") 2) = [] ∧
      ∃ found, next.store.sessions.get? "c" = some found ∧ found.context = [] := by
  intro a desk next
  have built : Flow.build restock.toJson = .ok restock := by rfl
  obtain ⟨session, alive⟩ : ∃ session, desk.live (World.bare.now 2) "c" = some session :=
    Option.isSome_iff_exists.mp (by decide +kernel)
  have known : ((desk.live (World.bare.now 2) "c").map fun session =>
      (session.step, (session.context.get? productKey).isSome,
        (session.context.without [imageKey, imageKey, productKey]).isEmpty)) =
      some ("picture", true, true) := by decide +kernel
  rw [alive] at known
  simp only [Option.map_some, Option.some.injEq, Prod.mk.injEq, List.isEmpty_iff] at known
  obtain ⟨stands, collects, whole⟩ := known
  have asks : a.AsksFor session imageKey := by
    obtain ⟨step, found, key⟩ : ∃ step, a.flow.step? session.step = some (.image step) ∧
        step.contextKey = imageKey := ⟨_, by rw [stands]; rfl, rfl⟩
    exact key ▸ .image found
  obtain ⟨nothing, -, -, recovers⟩ := cancel_erases built .bare 10 1000 _ "c" " Stop " 2 session _ alive
    asks (by decide +kernel)
  have fits : ¬desk.Overruns .bare a "c" (.text " Stop ") 2 := fun overruns =>
    absurd overruns.beyond (by decide +kernel)
  have erases := (recovers ⟨_, rfl⟩).2.2.2 fits
  obtain ⟨found, stored⟩ : ∃ found, next.store.sessions.get? "c" = some found :=
    Option.isSome_iff_exists.mp (by decide +kernel)
  refine ⟨built, ⟨session, alive, collects⟩, nothing, found, stored, ?_⟩
  dsimp only [next, desk] at stored
  exact (erases found stored).1.trans whole

/-- Sessions live for five thousand years, and after three thousand five hundred of them a question is cancelled
by a turn that fails, and what it has collected of the product is still there. -/
theorem cancel_keeps_product :
    let a : Assistant := ⟨.builtin, defaultMessages, none, true, 8, 10⟩
    let desk := (Desk.new ⟨157680000000 * Store.second, Store.calendarEnd, []⟩).afterAll .bare a
      [.message "c" (.text "hi") 0, .message "c" (.text "add") 1, .message "c" (.text "Name: Lamp") 2]
    let late : Time := 110376000000 * Store.second
    let next := desk.after .bare a (.message "c" (.text "stop") late)
    (desk.process .bare a "c" (.text "stop") late).1.isOk = false ∧
      (next.live late "c").map Session.step = some "add_product" ∧
      ((next.live late "c").bind fun session => session.context.get? productKey).isSome = true := by
  decide +kernel

end Desk

end Storekeeper
