import Storekeeper.Proofs.Dialogue.Renewing

/-!
# How a conversation ends

A reply says whether the conversation has ended with it.  The store agrees: after a turn that has found a
session, or was to begin one, a session of the chat is stored exactly if the reply does not say so.

* `Assistant.Answers.sessionEnded`: a reply ends the conversation exactly if the session is to be removed, wherever
  in a chain of actions this is decided.
* `Desk.process_holds_iff`: for which decisions a session is stored after a turn that replies.
* `Desk.session_ended_truthful` puts both together for every reachable desk.
-/

namespace Storekeeper

/-- Whether a session is to be removed. -/
def Write.drops : Write → Bool
  | .drop _ => true
  | _ => false

namespace Assistant

variable {a : Assistant} {opened : Except Failure Session} {chat name : String} {hops : Nat}
  {session? : Option Session} {message : Inbound} {arrival : Arrival} {deeds : List Deed}
  {decision : Decision}

theorem Enters.sessionEnded (enters : a.Enters hops name arrival deeds (.ok decision)) :
    decision.reply.sessionEnded = decision.write.drops := by
  generalize outcome : Except.ok decision = out at enters
  induction enters with
  | failed _ _ => cases outcome
  | onward _ _ _ ih => exact ih outcome
  | _ => cases outcome; rfl

/-- A reply ends the conversation exactly if its session is to be removed. -/
theorem Answers.sessionEnded
    (known : ∀ session, session? = some session → ∃ step, a.flow.step? session.step = some step)
    (answers : a.Answers opened chat session? message deeds (.ok decision)) :
    decision.reply.sessionEnded = decision.write.drops := by
  rcases answers with settles | ⟨name, arrival, -, enters⟩
  · cases settles with
    | unknownStep absent =>
      obtain ⟨step, found⟩ := known _ rfl
      rw [absent] at found
      cases found
    | _ => rfl
  · exact enters.sessionEnded

/-- A message that begins a conversation has its session kept, unless the conversation ends at once. -/
theorem Answers.begun (sound : a.flow.Sound)
    (answers : a.Answers opened chat none message deeds (.ok decision)) (starts : a.Starts message)
    (goesOn : decision.reply.sessionEnded = false) : ∃ kept, decision.write = .keep kept := by
  rcases answers with settles | ⟨name, arrival, leads, enters⟩
  · cases settles with
    | noTrigger never =>
      obtain ⟨step, found⟩ := sound.starts
      exact absurd found (never step)
    | unmatched _ unmatched => exact absurd starts (isTriggered_eq_false.mp unmatched)
  · exact enters.renews sound (leads.target sound) goesOn

end Assistant

namespace Desk

variable {σ : Type} {world : World σ} {a : Assistant} {desk : Desk} {chat : String}
  {content : Inbound} {s : σ} {reply : Reply}

/-- After a turn that replies, a session of the chat is stored if the turn keeps one, or if it leaves the
one that it has found. -/
theorem process_holds_iff (filed : desk.store.Filed)
    (replied : (desk.process world a chat content s).1 = .ok reply) {write : Write}
    (decided : desk.decision world a chat content s = .ok ⟨reply, write⟩) :
    (∃ session, (desk.process world a chat content s).2.1.store.sessions.get? chat = some session) ↔
      (∃ kept, write = .keep kept) ∨
        (write = .leave ∧ ∃ session, desk.live (world.now s) chat = some session) := by
  constructor
  · rintro ⟨session, stored⟩
    rcases process_stored filed stored with
      ⟨-, failure, failed⟩ | ⟨alive, other, -, left⟩ | ⟨other, kept, -, keeps, -⟩
    · rw [failed] at replied
      cases replied
    · cases decided.symm.trans left
      exact .inr ⟨rfl, session, alive⟩
    · cases decided.symm.trans keeps
      exact .inl ⟨kept, rfl⟩
  · rintro (⟨kept, rfl⟩ | ⟨rfl, session, alive⟩)
    · exact ⟨_, process_of_keep filed replied decided⟩
    · rw [(process_of_leave decided).2]
      exact ⟨session, Store.get_of_live alive⟩

/-- A flow that shows the products to whoever writes, and says goodbye. -/
def window : Flow where
  id := "window"
  initialStep := "start"
  timeoutSeconds := 300
  steps :=
    [("start", .trigger { onMatch := { next := "show", message := none }, otherwiseHandled := true }),
     ("show", .action { action := .listProducts, next := "bye" }),
     ("bye", .terminal { message := some "goodbye" })]

/-- **What a reply says of the end is true.**  Over a flow that has been built, after any events at a new
desk, a turn that replies and has found a live session, or whose message starts a conversation, leaves a
session of the chat stored exactly if its reply does not say that the conversation has ended.  The reply of
any other turn does not say so, and no session of the chat is stored then. -/
theorem session_ended_truthful {document : Json} (built : Flow.build document = .ok a.flow)
    (world : World σ) (timeout horizon : Time) (events : List (Event σ)) (chat : String)
    (content : Inbound) (s : σ) :
    let desk := (Desk.new ⟨timeout, horizon, []⟩).afterAll world a events
    let next := (desk.process world a chat content s).2.1
    ∀ reply, (desk.process world a chat content s).1 = .ok reply →
      ((∃ session, desk.live (world.now s) chat = some session) ∨ a.Starts content →
        ((∃ session, next.store.sessions.get? chat = some session) ↔ reply.sessionEnded = false)) ∧
      (desk.live (world.now s) chat = none → ¬a.Starts content →
        reply.sessionEnded = false ∧ next.store.sessions.get? chat = none) := by
  intro desk next reply replied
  have sound : a.flow.Sound := Flow.sound_of_build built
  have filed : desk.store.Filed := afterAll_filed (.empty timeout horizon) events
  have passable : (Desk.new ⟨timeout, horizon, []⟩).Passable world a events :=
    afterAll_passable sound timeout horizon events
  obtain ⟨write, decided⟩ := decision_of_reply replied
  have answers := process_answers world a desk chat content s
  rw [decided] at answers
  have ended : reply.sessionEnded = write.drops :=
    answers.sessionEnded fun session alive => passable.known (Store.stored_of_live alive)
  have holds := process_holds_iff filed replied decided
  refine ⟨fun concerned => ?_, fun absent unmatched => ?_⟩
  · rw [holds, ended]
    cases write with
    | keep kept => simp [Write.drops]
    | drop dropped => simp [Write.drops]
    | leave =>
      have found : ∃ session, desk.live (world.now s) chat = some session := by
        rcases concerned with found | starts
        · exact found
        · cases alive : desk.live (world.now s) chat with
          | some session => exact ⟨session, rfl⟩
          | none =>
            rw [alive] at answers
            obtain ⟨kept, same⟩ := answers.begun sound starts ended
            cases same
      simp [Write.drops, found]
  · obtain ⟨step, found⟩ := sound.starts
    have left : desk.decision world a chat content s =
        .ok ⟨{ handled := step.otherwiseHandled }, .leave⟩ := by
      unfold decision response
      rw [absent, Assistant.respond_unmatched (.start found)
        (Assistant.isTriggered_eq_false.mpr unmatched)]
      rfl
    cases decided.symm.trans left
    refine ⟨rfl, Option.eq_none_iff_forall_ne_some.mpr fun session stored => ?_⟩
    rcases holds.mp ⟨session, stored⟩ with ⟨kept, impossible⟩ | ⟨-, other, alive⟩
    · cases impossible
    · rw [absent] at alive
      cases alive

/-- A text that opens the window is answered with the products and a goodbye, and no session is stored: the
conversation has begun and ended in one turn. -/
theorem session_ended_truthful_window :
    let a : Assistant := ⟨window, defaultMessages, none, true, 3, 20⟩
    let desk := (Desk.new ⟨10, 1000, []⟩).afterAll .bare a []
    let next := (desk.process .bare a "c" (.text "hi") 0).2.1
    Flow.build window.toJson = .ok window ∧ a.Starts (.text "hi") ∧
      ∃ reply, (desk.process .bare a "c" (.text "hi") 0).1 = .ok reply ∧ reply.sessionEnded = true ∧
        next.store.sessions.get? "c" = none := by
  intro a desk next
  have built : Flow.build window.toJson = .ok window := by rfl
  have starts : a.Starts (.text "hi") := ⟨"hi", rfl, nofun⟩
  obtain ⟨reply, replied, ended⟩ :
      ∃ reply, (desk.process .bare a "c" (.text "hi") 0).1 = .ok reply ∧ reply.sessionEnded = true :=
    ⟨_, rfl, rfl⟩
  have truthful := (session_ended_truthful built .bare 10 1000 [] "c" (.text "hi") 0 reply replied).1
    (.inr starts)
  rw [ended] at truthful
  refine ⟨built, starts, reply, replied, ended, ?_⟩
  exact Option.eq_none_iff_forall_ne_some.mpr fun session stored =>
    Bool.noConfusion (truthful.mp ⟨session, stored⟩)

end Desk

end Storekeeper
