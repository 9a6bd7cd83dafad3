import Mathlib.Data.List.Induction
import Mathlib.Data.List.Perm.Subperm
import Storekeeper.Proofs.Session.Live

/-!
# Timed writes

A store is a map of writes with their times.  What is taken from it at a time is decided by the last write at the
chat alone: the session that was then given, dated by the time of the write, as long as the timeout since then has
not passed.  That expired sessions are dropped, by taking them or by a sweep, cannot be seen.

* `Store.Writes`: the operations that write at a chat.  A session is stored only if it expires before the end of the
  calendar; otherwise the operation fails and the store stays as it is.
* `Store.live_after`: what one operation does to what is taken from then on; `Store.live_afterAll`: what a whole
  history of operations comes to.
* `Store.keeps_timed_writes`: what is taken, and what a sweep does.  The calendar may end before the timeout has
  passed (`Store.timed_write_overruns`).
-/

namespace Storekeeper

namespace Store

/-- What can be asked of a store. -/
inductive Operation where
  | set (chat : String) (session : Session)
  | get (chat : String)
  | delete (chat : String)
  | create (chat step : String)
  | sweep

/-- The store after an operation; one that fails leaves the store as it is. -/
def after (store : Store) (now : Time) : Operation → Store
  | .set chat session =>
    match store.set now chat session with
    | .ok (_, written) => written
    | .error _ => store
  | .get chat => (store.get now chat).2
  | .delete chat => store.delete chat
  | .create .. => store
  | .sweep => (store.sweep now).2

/-- The store after operations, each at its time. -/
def afterAll (store : Store) (history : List (Time × Operation)) : Store :=
  history.foldl (fun store event => store.after event.1 event.2) store

/-- Whether the operation is to set or to delete the session of a chat. -/
def isFor (chat : String) : Time × Operation → Bool
  | (_, .set other _) => other == chat
  | (_, .delete other) => other == chat
  | _ => false

/-- The operation writes at a chat: it deletes its session, or stores one that expires before the calendar ends. -/
inductive Writes (timeout horizon : Time) (chat : String) : Time × Operation → Prop
  | set {time : Time} {session : Session} (room : time + timeout ≤ horizon) :
      Writes timeout horizon chat (time, .set chat session)
  | delete {time : Time} : Writes timeout horizon chat (time, .delete chat)

/-- The session as it is stored at a time. -/
def dated (timeout time : Time) (session : Session) : Session :=
  { session with updated := time, expires := time + timeout }

/-- What an operation writes at a chat, if it does: a session or none. -/
def written? (timeout horizon : Time) (chat : String) : Time × Operation → Option (Option Session)
  | (time, .set other session) =>
    if other = chat ∧ time + timeout ≤ horizon then some (some (dated timeout time session)) else none
  | (_, .delete other) => if other = chat then some none else none
  | _ => none

variable {store : Store} {timeout horizon time now : Time} {chat : String} {event : Time × Operation}
  {history : List (Time × Operation)} {session : Session}

/-! ## One operation -/

theorem written?_eq_none_iff : written? timeout horizon chat event = none ↔ ¬Writes timeout horizon chat event := by
  obtain ⟨time, operation⟩ := event
  constructor
  · rintro nothing (⟨room⟩ | -)
    · simp [written?, room] at nothing
    · simp [written?] at nothing
  · intro silent
    cases operation with
    | set other session =>
      refine if_neg ?_
      rintro ⟨rfl, room⟩
      exact silent (.set room)
    | delete other =>
      refine if_neg ?_
      rintro rfl
      exact silent .delete
    | _ => rfl

theorem written?_eq_some_some_iff : written? timeout horizon chat event = some (some session) ↔
    ∃ time given, event = (time, .set chat given) ∧ time + timeout ≤ horizon ∧
      session = dated timeout time given := by
  obtain ⟨time, operation⟩ := event
  constructor
  · intro wrote
    cases operation with
    | set other given =>
      obtain ⟨⟨rfl, room⟩, same⟩ := Option.ite_none_right_eq_some.mp wrote
      exact ⟨time, given, rfl, room, (Option.some.inj (Option.some.inj same)).symm⟩
    | delete other =>
      obtain ⟨-, other⟩ := Option.ite_none_right_eq_some.mp wrote
      cases other
    | _ => cases wrote
  · rintro ⟨time, given, same, room, rfl⟩
    cases same
    exact if_pos ⟨rfl, room⟩

theorem alive_dated_iff {given : Session} :
    (!(dated timeout time given).isExpired now) = true ↔ now ≤ time + timeout := by
  unfold Session.isExpired dated
  rw [Bool.not_eq_true', decide_eq_false_iff_not, Nat.not_lt]

/-- Storing succeeds exactly within the calendar, and the session is then dated by the time. -/
theorem set_eq (store : Store) (now : Time) (chat : String) (session : Session) : store.set now chat session =
    if now + store.timeout ≤ store.horizon then
      .ok (dated store.timeout now session,
        { store with sessions := store.sessions.put chat (dated store.timeout now session) })
    else .error .outOfRange := by
  unfold set expiry
  split <;> rfl

theorem after_set (store : Store) (now : Time) (chat : String) (session : Session) :
    store.after now (.set chat session) =
      if now + store.timeout ≤ store.horizon then
        { store with sessions := store.sessions.put chat (dated store.timeout now session) }
      else store := by
  change (match store.set now chat session with | .ok (_, written) => written | .error _ => store) = _
  rw [set_eq]
  by_cases room : now + store.timeout ≤ store.horizon
  · rw [if_pos room, if_pos room]
  · rw [if_neg room, if_neg room]

theorem after_limits (store : Store) (now : Time) (operation : Operation) :
    (store.after now operation).timeout = store.timeout ∧ (store.after now operation).horizon = store.horizon := by
  cases operation with
  | set chat session =>
    rw [after_set]
    split <;> exact ⟨rfl, rfl⟩
  | get chat => exact get_timeout store now chat
  | _ => exact ⟨rfl, rfl⟩

/-- A chat has one entry, whatever is asked of the store. -/
theorem after_distinct (distinct : store.sessions.names.Nodup) (now : Time) (operation : Operation) :
    (store.after now operation).sessions.names.Nodup := by
  cases operation with
  | set chat session =>
    rw [after_set]
    split
    · exact Table.nodup_put distinct chat _
    · exact distinct
  | get chat =>
    rcases get_cases store now chat with same | ⟨dropped, -⟩
    · exact (congrArg (fun store => store.sessions.names.Nodup) same).mpr distinct
    · exact (congrArg (fun store => store.sessions.names.Nodup) dropped).mpr (Table.nodup_filter distinct _)
  | create chat step => exact distinct
  | _ => exact Table.nodup_filter distinct _

/-- What is live at a time is what an earlier operation wrote, or, if it wrote nothing, what was live before it. -/
theorem live_after (distinct : store.sessions.names.Nodup) (earlier : time ≤ now) (chat : String)
    (operation : Operation) : (store.after time operation).live now chat =
      match written? store.timeout store.horizon chat (time, operation) with
      | some written => written.filter (!·.isExpired now)
      | none => store.live now chat := by
  cases operation with
  | set other session =>
    rw [after_set]
    by_cases room : time + store.timeout ≤ store.horizon
    · rw [if_pos room, live_eq]
      by_cases same : other = chat
      · subst same
        rw [Table.get?_put_self, written?, if_pos ⟨rfl, room⟩]
      · rw [Table.get?_put_of_ne _ _ same, written?, if_neg fun both => same both.1, live_eq]
    · rw [if_neg room, written?, if_neg fun both => room both.2]
  | get other => exact live_get earlier
  | delete other =>
    by_cases same : other = chat
    · subst same
      rw [written?, if_pos rfl]
      exact live_delete_self store
    · rw [written?, if_neg same]
      change (store.delete other).live now chat = store.live now chat
      rw [live_eq, delete_of_ne store same, live_eq]
  | create other step => rfl
  | sweep => exact live_sweep distinct earlier

/-! ## A history of operations -/

theorem afterAll_concat (store : Store) (history : List (Time × Operation)) (event : Time × Operation) :
    store.afterAll (history ++ [event]) = (store.afterAll history).after event.1 event.2 :=
  List.foldl_append

theorem afterAll_limits (store : Store) (history : List (Time × Operation)) :
    (store.afterAll history).timeout = store.timeout ∧ (store.afterAll history).horizon = store.horizon := by
  induction history using List.reverseRecOn with
  | nil => exact ⟨rfl, rfl⟩
  | append_singleton history event ih =>
    rw [afterAll_concat]
    obtain ⟨timeout, horizon⟩ := after_limits (store.afterAll history) event.1 event.2
    exact ⟨timeout.trans ih.1, horizon.trans ih.2⟩

theorem afterAll_distinct (distinct : store.sessions.names.Nodup) (history : List (Time × Operation)) :
    (store.afterAll history).sessions.names.Nodup := by
  induction history using List.reverseRecOn with
  | nil => exact distinct
  | append_singleton history event ih =>
    rw [afterAll_concat]
    exact after_distinct ih event.1 event.2

/-- What the last write of a history left at a chat. -/
def lastWritten? (timeout horizon : Time) (chat : String) (history : List (Time × Operation)) : Option Session :=
  (history.reverse.findSome? (written? timeout horizon chat)).join

/-- What is live after a history is what its last write left, unless it has expired. -/
theorem live_afterAll (timeout horizon : Time) (past : ∀ event ∈ history, event.1 ≤ now) (chat : String) :
    (afterAll ⟨timeout, horizon, []⟩ history).live now chat =
      (lastWritten? timeout horizon chat history).filter (!·.isExpired now) := by
  induction history using List.reverseRecOn with
  | nil => rfl
  | append_singleton history event ih =>
    have distinct : (afterAll ⟨timeout, horizon, []⟩ history).sessions.names.Nodup :=
      afterAll_distinct Table.nodup_nil history
    have limits := afterAll_limits ⟨timeout, horizon, []⟩ history
    have before := ih fun earlier member => past earlier (List.mem_append_left _ member)
    have earlier : event.1 ≤ now := past event (List.mem_append_right _ (List.mem_singleton_self event))
    rw [afterAll_concat, live_after distinct earlier, limits.1, limits.2, before]
    unfold lastWritten?
    rw [List.reverse_append, List.reverse_singleton, List.singleton_append, List.findSome?_cons]
    cases written? timeout horizon chat event <;> rfl

/-- A session is the last that was written if it was given by the last operation that wrote. -/
theorem lastWritten?_eq_some_iff : lastWritten? timeout horizon chat history = some session ↔
    ∃ before time given after, history = before ++ (time, .set chat given) :: after ∧
      time + timeout ≤ horizon ∧ (∀ event ∈ after, ¬Writes timeout horizon chat event) ∧
      session = dated timeout time given := by
  unfold lastWritten?
  rw [Option.join_eq_some_iff, List.findSome?_eq_some_iff]
  constructor
  · rintro ⟨after, event, before, split, wrote, silent⟩
    obtain ⟨time, given, rfl, room, rfl⟩ := written?_eq_some_some_iff.mp wrote
    refine ⟨before.reverse, time, given, after.reverse, ?_, room, fun event member => ?_, rfl⟩
    · rw [← List.reverse_reverse history, split]
      simp
    · exact written?_eq_none_iff.mp (silent event (List.mem_reverse.mp member))
  · rintro ⟨before, time, given, after, rfl, room, silent, rfl⟩
    refine ⟨after.reverse, (time, .set chat given), before.reverse, by simp,
      written?_eq_some_some_iff.mpr ⟨time, given, rfl, room, rfl⟩, fun event member => ?_⟩
    exact written?_eq_none_iff.mpr (silent event (List.mem_reverse.mp member))

/-- What is not for a chat does not count. -/
theorem lastWritten?_filter (timeout horizon : Time) (chat : String) (history : List (Time × Operation)) :
    lastWritten? timeout horizon chat (history.filter (isFor chat)) =
      lastWritten? timeout horizon chat history := by
  unfold lastWritten?
  rw [← List.filter_reverse]
  induction history.reverse with
  | nil => rfl
  | cons event rest ih =>
    cases concerns : isFor chat event with
    | true =>
      rw [List.filter_cons_of_pos concerns, List.findSome?_cons, List.findSome?_cons]
      cases written? timeout horizon chat event with
      | none => exact ih
      | some written => rfl
    | false =>
      have silent : written? timeout horizon chat event = none := by
        rw [written?_eq_none_iff]
        rintro (_ | -) <;> simp [isFor] at concerns
      rw [List.filter_cons_of_neg (by simp [concerns]), List.findSome?_cons, silent]
      exact ih

/-! ## Sweeping -/

theorem sweep_count (store : Store) (now : Time) :
    (store.sweep now).1 = store.sessions.countP (fun entry => entry.2.expires < now) := by
  have parts := List.length_eq_countP_add_countP (fun entry : String × Session => entry.2.isExpired now)
    (l := store.sessions)
  have alive : (store.sweep now).1 =
      store.sessions.length - store.sessions.countP (fun entry => !entry.2.isExpired now) := by
    rw [List.countP_eq_length_filter]
    rfl
  have expired : store.sessions.countP (fun entry => entry.2.expires < now) =
      store.sessions.countP (fun entry => entry.2.isExpired now) := rfl
  rw [alive, expired, parts]
  simp

theorem mem_sweep {entry : String × Session} :
    entry ∈ (store.sweep now).2.sessions ↔ entry ∈ store.sessions ∧ ¬entry.2.expires < now := by
  unfold sweep
  rw [List.mem_filter]
  simp [Session.isExpired]

/-- No more chats have a live session than sessions are stored. -/
theorem length_le_size {chats : List String} (distinct : chats.Nodup)
    (alive : ∀ chat ∈ chats, ∃ session, store.live now chat = some session) : chats.length ≤ store.size := by
  have stored : chats ⊆ store.sessions.names := by
    intro chat member
    obtain ⟨session, live⟩ := alive chat member
    exact List.mem_map.mpr ⟨_, Table.mem_of_get? (stored_of_live live), rfl⟩
  have fewer : chats.length ≤ store.sessions.names.length := (List.subperm_of_subset distinct stored).length_le
  rwa [Table.names, List.length_map] at fewer

/-! ## The map of timed writes -/

/-- **A store keeps timed writes.**  After any operations on a new store, none later than now, a session is taken for
a chat exactly if the last operation that wrote at the chat was to set it, and no longer ago than the timeout; it is
the session that was given, dated by the time of that operation.  What was asked of the store for other chats, and
what was taken or swept, does not matter.  An operation to set a session writes it unless it would expire after the
end of the calendar; then it fails and nothing changes.  A sweep counts the stored sessions that have expired, and
drops these and no others; and there are at least as many stored sessions as live ones. -/
theorem keeps_timed_writes (timeout horizon : Time) (past : ∀ event ∈ history, event.1 ≤ now) :
    let store := afterAll ⟨timeout, horizon, []⟩ history
    (∀ chat session, (store.get now chat).1 = some session ↔
      ∃ before time given after, history = before ++ (time, .set chat given) :: after ∧
        time + timeout ≤ horizon ∧ (∀ event ∈ after, ¬Writes timeout horizon chat event) ∧
        now ≤ time + timeout ∧ session = { given with updated := time, expires := time + timeout }) ∧
      (∀ others chat, (∀ event ∈ others, event.1 ≤ now) →
        others.filter (isFor chat) = history.filter (isFor chat) →
        ((afterAll ⟨timeout, horizon, []⟩ others).get now chat).1 = (store.get now chat).1) ∧
      (∀ chat given,
        (now + timeout ≤ horizon → store.set now chat given =
          .ok ({ given with updated := now, expires := now + timeout }, store.after now (.set chat given))) ∧
        (horizon < now + timeout →
          store.set now chat given = .error .outOfRange ∧ store.after now (.set chat given) = store)) ∧
      (store.sweep now).1 = store.sessions.countP (fun entry => entry.2.expires < now) ∧
      (∀ entry, entry ∈ (store.sweep now).2.sessions ↔ entry ∈ store.sessions ∧ ¬entry.2.expires < now) ∧
      ∀ chats : List String, chats.Nodup → (∀ chat ∈ chats, ∃ session, (store.get now chat).1 = some session) →
        chats.length ≤ store.size := by
  intro store
  obtain ⟨sameTimeout, sameHorizon⟩ : store.timeout = timeout ∧ store.horizon = horizon :=
    afterAll_limits ⟨timeout, horizon, []⟩ history
  refine ⟨fun chat session => ?taken, fun others chat past' same => ?independent,
    fun chat given => ⟨fun room => ?stored, fun beyond => ?refused⟩, sweep_count store now,
    fun entry => mem_sweep, fun chats distinct alive => length_le_size distinct alive⟩
  case taken =>
    change store.live now chat = some session ↔ _
    rw [live_afterAll timeout horizon past, Option.filter_eq_some_iff, lastWritten?_eq_some_iff]
    constructor
    · rintro ⟨⟨before, time, given, after, split, room, silent, rfl⟩, alive⟩
      exact ⟨before, time, given, after, split, room, silent, alive_dated_iff.mp alive, rfl⟩
    · rintro ⟨before, time, given, after, split, room, silent, alive, rfl⟩
      exact ⟨⟨before, time, given, after, split, room, silent, rfl⟩, alive_dated_iff.mpr alive⟩
  case independent =>
    change (afterAll ⟨timeout, horizon, []⟩ others).live now chat = store.live now chat
    rw [live_afterAll timeout horizon past', live_afterAll timeout horizon past, ← lastWritten?_filter, same,
      lastWritten?_filter]
  case stored =>
    rw [after_set, set_eq, sameTimeout, sameHorizon, if_pos room, if_pos room]
    rfl
  case refused =>
    rw [after_set, set_eq, sameTimeout, sameHorizon]
    exact ⟨if_neg (Nat.not_le_of_lt beyond), if_neg (Nat.not_le_of_lt beyond)⟩

/-- At the very instant of its expiry a session is still there, also after a sweep. -/
theorem keeps_timed_writes_swept :
    let given : Session := ⟨"c", "menu", [], 0, 0, 0⟩
    let history : List (Time × Operation) :=
      [(0, .set "c" given), (3, .get "d"), (5, .delete "d"), (7, .set "d" given), (10, .sweep)]
    (∀ event ∈ history, event.1 ≤ 10) ∧
      ((afterAll ⟨10, 1000, []⟩ history).get 10 "c").1 = some { given with updated := 0, expires := 10 } := by
  intro given history
  have past : ∀ event ∈ history, event.1 ≤ 10 := by simp [history]
  obtain ⟨taken, -⟩ := keeps_timed_writes 10 1000 past
  refine ⟨past, (taken "c" _).mpr ⟨[], 0, given, _, rfl, by decide, ?_, by decide, rfl⟩⟩
  intro event member writes
  have silent : written? 10 1000 "c" event = none := by
    simp only [List.mem_cons, List.not_mem_nil, or_false] at member
    rcases member with rfl | rfl | rfl | rfl <;> rfl
  exact written?_eq_none_iff.mp silent writes

/-- A session that is set again after 3500 years, with a timeout of 5000 years, is not written, since it would expire
after the end of the calendar.  What is taken is the session that was set before. -/
theorem timed_write_overruns :
    let first : Session := ⟨"c", "menu", [], 0, 0, 0⟩
    let again : Session := ⟨"c", "question", [], 0, 0, 0⟩
    let timeout : Time := 157680000000 * second
    let late : Time := 110376000000 * second
    let store := afterAll ⟨timeout, calendarEnd, []⟩ [(0, .set "c" first), (late, .set "c" again)]
    (store.get late "c").1 = some { first with updated := 0, expires := timeout } ∧
      (store.get late "c").1 ≠ some { again with updated := late, expires := late + timeout } := by
  intro first again timeout late store
  have past : ∀ event ∈ [(0, Operation.set "c" first), (late, .set "c" again)], event.1 ≤ late := by
    simp
  have refused : ¬Writes timeout calendarEnd "c" (late, .set "c" again) := by
    rintro ⟨room⟩
    exact absurd room (by decide +kernel)
  have taken : (store.get late "c").1 = some { first with updated := 0, expires := timeout } := by
    change store.live late "c" = _
    rw [live_afterAll timeout calendarEnd past, Option.filter_eq_some_iff, lastWritten?_eq_some_iff]
    refine ⟨⟨[], 0, first, _, rfl, by decide +kernel, List.forall_mem_singleton.mpr refused, ?_⟩, by decide +kernel⟩
    rw [dated, Nat.zero_add]
  refine ⟨taken, fun other => ?_⟩
  rw [taken] at other
  have step : "menu" = "question" := congrArg Session.step (Option.some.inj other)
  exact absurd step (by decide)

end Store

end Storekeeper
