import Storekeeper.Proofs.Dialogue.Failing

/-!
# What a failing turn leaves behind

A turn writes to the store once, at its end, so that a turn that fails leaves the store as it was but for
a session that had expired.  What it has asked of the catalog by then cannot be taken back.

* `Assistant.Answers.failed_idle`: a turn that comes to no decision has done nothing on the way.
* `Desk.failing_turn`: a failing turn that has asked the catalog for something had come to a decision, and
  could not store its session for the time at which it would expire.
-/

namespace Storekeeper

/-- Whether a deed asks the catalog for something. -/
def Deed.asks : Deed → Bool
  | listed _ _ => true
  | created _ _ => true
  | _ => false

/-- A turn that comes to no decision on a readable session has done nothing. -/
theorem Assistant.Answers.failed_idle {a : Assistant} {opened : Except Failure Session} {chat : String}
    {session? : Option Session} {content : Inbound} {deeds : List Deed} {failure : Failure}
    (answers : a.Answers opened chat session? content deeds (.error failure))
    (known : ∀ session, session? = some session → Readable session.context)
    (opens : ∀ session, opened = .ok session → session.context = []) : deeds = [] := by
  rcases answers with settles | ⟨name, arrival, leads, enters⟩
  · cases settles <;> rfl
  · obtain ⟨decision, decided⟩ := (enters.returns (leads.readable known opens)).decides
    cases decided

namespace Desk

variable {σ : Type} {world : World σ} {a : Assistant} {desk : Desk} {chat : String}
  {content : Inbound} {s : σ} {failure : Failure}

/-- The turn of a message comes to keep a session that would expire beyond the horizon. -/
structure Overruns (world : World σ) (a : Assistant) (desk : Desk) (chat : String)
    (content : Inbound) (s : σ) : Prop where
  keeps : ∃ reply session, desk.decision world a chat content s = .ok ⟨reply, .keep session⟩
  beyond : desk.store.horizon < desk.finished world a chat content s + desk.store.timeout

/-- A turn that comes to a decision fails only if its session cannot be stored. -/
theorem fails_iff_overruns {decision : Decision}
    (decided : desk.decision world a chat content s = .ok decision) (failure : Failure) :
    (desk.process world a chat content s).1 = .error failure ↔
      failure = .outOfRange ∧ desk.Overruns world a chat content s := by
  rw [process_error, or_iff_right (by rw [decided]; nofun)]
  exact and_congr_right fun _ =>
    ⟨fun ⟨keeps, beyond⟩ => ⟨keeps, beyond⟩, fun ⟨keeps, beyond⟩ => ⟨keeps, beyond⟩⟩

/-- A turn that comes to no decision at a desk whose sessions are readable has done nothing. -/
theorem deeds_of_error (readable : desk.IsReadable)
    (failed : desk.decision world a chat content s = .error failure) :
    desk.deeds world a chat content s = [] := by
  have answers := process_answers world a desk chat content s
  rw [failed] at answers
  exact answers.failed_idle (Holds.live readable (world.now s) chat)
    fun _ opens => opening_context opens

/-- **What a failing turn changes.**  After any events at a new desk, over any flow, a failing turn leaves
every session that was live as it was stored, and no session is stored that was not.  Unless its session
was to be kept beyond the horizon, it has done nothing at all; and a turn that asks the catalog for
something fails exactly if its session is to be kept beyond the horizon. -/
theorem failing_turn (a : Assistant) (world : World σ) (timeout horizon : Time)
    (events : List (Event σ)) (chat : String) (content : Inbound) (s : σ) :
    let desk := (Desk.new ⟨timeout, horizon, []⟩).afterAll world a events
    let sessions := (desk.process world a chat content s).2.1.store.sessions
    (∀ failure, (desk.process world a chat content s).1 = .error failure →
      (∀ other session, desk.live (world.now s) other = some session →
        sessions.get? other = some session) ∧
      (∀ other session, sessions.get? other = some session →
        desk.store.sessions.get? other = some session) ∧
      (desk.deeds world a chat content s = [] ∨ desk.Overruns world a chat content s)) ∧
    ((∃ deed ∈ desk.deeds world a chat content s, deed.asks = true) → ∀ failure,
      (desk.process world a chat content s).1 = .error failure ↔
        failure = .outOfRange ∧ desk.Overruns world a chat content s) := by
  intro desk sessions
  have readable : desk.IsReadable :=
    afterAll_readable (.empty timeout horizon) (fun chat session found => by cases found) events
  refine ⟨fun failure failed => ?_, fun asks failure => ?_⟩
  · have same : sessions = (desk.store.get (world.now s) chat).2.sessions :=
      congrArg Store.sessions (process_store_of_error failed)
    rw [same]
    refine ⟨fun other session alive => Store.get_of_live alive,
      fun other session found => Store.stored_of_get found, ?_⟩
    rcases process_error.mp failed with undecided | ⟨-, keeps, beyond⟩
    · exact .inl (deeds_of_error readable undecided)
    · exact .inr ⟨keeps, beyond⟩
  · obtain ⟨deed, done, -⟩ := asks
    have decided : ∀ failure, desk.decision world a chat content s ≠ .error failure := by
      intro failure undecided
      rw [deeds_of_error readable undecided] at done
      cases done
    rw [process_error, or_iff_right (decided failure)]
    exact and_congr_right fun _ => ⟨fun ⟨keeps, beyond⟩ => ⟨keeps, beyond⟩,
      fun ⟨keeps, beyond⟩ => ⟨keeps, beyond⟩⟩

/-- A conversation that cannot be begun any more leaves one that has been. -/
theorem failing_turn_unopened :
    let a : Assistant := ⟨.builtin, defaultMessages, none, true, 8, 10⟩
    let events : List (Event Time) := [.message "d" (.text "hi") 0]
    let desk := (Desk.new ⟨1000, 1000, []⟩).afterAll .bare a events
    (desk.process .bare a "c" (.text "hi") 1).1 = .error .outOfRange ∧
      ∃ session, desk.live 1 "d" = some session ∧
        (desk.process .bare a "c" (.text "hi") 1).2.1.store.sessions.get? "d" = some session := by
  intro a events desk
  have failed : (desk.process .bare a "c" (.text "hi") 1).1 = .error .outOfRange := by rfl
  obtain ⟨session, alive⟩ : ∃ session, desk.live 1 "d" = some session := ⟨_, rfl⟩
  obtain ⟨kept, -⟩ := (failing_turn a .bare 1000 1000 events "c" (.text "hi") 1).1 _ failed
  exact ⟨failed, session, alive, kept "d" session alive⟩

/-- Sessions live for five thousand years, and after three thousand five hundred of them the products are
listed in a turn that fails. -/
theorem failing_turn_lists :
    let a : Assistant := ⟨.builtin, defaultMessages, none, true, 8, 10⟩
    let events : List (Event Time) := [.message "c" (.text "hi") 0]
    let desk := (Desk.new ⟨157680000000 * Store.second, Store.calendarEnd, []⟩).afterAll .bare a events
    let late : Time := 110376000000 * Store.second
    (desk.live late "c").isSome = true ∧
      (desk.process .bare a "c" (.text "list") late).1.isOk = false ∧
      (desk.deeds .bare a "c" (.text "list") late).any Deed.asks = true := by
  decide +kernel

end Desk

end Storekeeper
