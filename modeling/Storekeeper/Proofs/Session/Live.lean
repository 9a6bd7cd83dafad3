import Storekeeper.Proofs.Table
import Storekeeper.Session.Store

/-!
# Live sessions

What can be seen of a store at a time is the live session of each chat: the one that is stored and
has not expired.  An expired session that is still stored cannot be told from one that is not.

* `Store.Filed` is what every operation of the assistant keeps: a chat has one entry, and the session
  in it is the chat's own.
* The lemmas on `Store.live` say for each operation what it does to the live session of any chat at any
  later time.
-/

namespace Storekeeper

namespace Store

/-- Each chat has one entry, and the session in it is the chat's own. -/
structure Filed (store : Store) : Prop where
  distinct : store.sessions.names.Nodup
  own : ∀ {chat session}, store.sessions.get? chat = some session → session.chat = chat

/-- The session of a chat that is stored and has not expired. -/
def live (store : Store) (now : Time) (chat : String) : Option Session :=
  (store.get now chat).1

variable {store : Store} {now later : Time} {chat other : String} {session : Session}

theorem live_eq (store : Store) (now : Time) (chat : String) :
    store.live now chat = (store.sessions.get? chat).filter (!·.isExpired now) := by
  unfold live get
  cases store.sessions.get? chat with
  | none => rfl
  | some session => cases expired : session.isExpired now <;> simp [expired, Option.filter]

theorem live_eq_some : store.live now chat = some session ↔
    store.sessions.get? chat = some session ∧ session.isExpired now = false := by
  rw [live_eq, Option.filter_eq_some_iff]
  simp

/-- What a sweep leaves was stored before. -/
theorem stored_of_sweep (distinct : store.sessions.names.Nodup)
    (found : (store.sweep now).2.sessions.get? chat = some session) :
    store.sessions.get? chat = some session := by
  have kept : (store.sessions.get? chat).filter (!·.isExpired now) = some session :=
    (Table.get?_filter distinct (fun entry => !entry.2.isExpired now) chat).symm.trans found
  exact (Option.filter_eq_some_iff.mp kept).1

theorem stored_of_live (alive : store.live now chat = some session) :
    store.sessions.get? chat = some session :=
  (live_eq_some.mp alive).1

theorem isExpired_mono (after : now ≤ later) (expired : session.isExpired now = true) :
    session.isExpired later = true := by
  simp only [Session.isExpired, decide_eq_true_eq] at expired ⊢
  exact Nat.lt_of_lt_of_le expired after

/-- What is live at a later time is what is live now and has not expired by then. -/
theorem live_later (after : now ≤ later) :
    store.live later chat = (store.live now chat).filter (!·.isExpired later) := by
  rw [live_eq, live_eq]
  cases store.sessions.get? chat with
  | none => rfl
  | some session =>
    cases expired : session.isExpired now with
    | false => simp [Option.filter, expired]
    | true => simp [Option.filter, expired, isExpired_mono after expired]

/-- Taking the session of a chat drops at most an expired one. -/
theorem get_cases (store : Store) (now : Time) (chat : String) :
    (store.get now chat).2 = store ∨
      (store.get now chat).2 = store.delete chat ∧
        ∃ session, store.sessions.get? chat = some session ∧ session.isExpired now = true := by
  unfold get
  cases found : store.sessions.get? chat with
  | none => exact .inl rfl
  | some session =>
    cases expired : session.isExpired now with
    | false => exact .inl (by simp [expired])
    | true => exact .inr ⟨by simp [expired, delete], session, rfl, expired⟩

/-- Taking the session of a chat leaves one session less if this one has expired, and otherwise as many. -/
theorem size_get (distinct : store.sessions.names.Nodup) (now : Time) (chat : String) :
    store.size = (store.get now chat).2.size +
      if (store.sessions.get? chat).any (·.isExpired now) then 1 else 0 := by
  unfold get size
  cases found : store.sessions.get? chat with
  | none => rfl
  | some session =>
    cases expired : session.isExpired now with
    | false => simp [expired]
    | true => simp [expired, Table.length_erase distinct found]

theorem get_timeout (store : Store) (now : Time) (chat : String) :
    (store.get now chat).2.timeout = store.timeout ∧
      (store.get now chat).2.horizon = store.horizon := by
  rcases get_cases store now chat with same | ⟨dropped, -⟩
  · rw [same]
    exact ⟨rfl, rfl⟩
  · rw [dropped]
    exact ⟨rfl, rfl⟩

theorem delete_self (store : Store) (chat : String) :
    (store.delete chat).sessions.get? chat = none :=
  Table.get?_erase_self store.sessions chat

theorem delete_of_ne (store : Store) (different : other ≠ chat) :
    (store.delete other).sessions.get? chat = store.sessions.get? chat :=
  Table.get?_erase_of_ne store.sessions different

theorem get_of_ne (store : Store) (now : Time) (different : other ≠ chat) :
    (store.get now other).2.sessions.get? chat = store.sessions.get? chat := by
  rcases get_cases store now other with same | ⟨dropped, -⟩
  · rw [same]
  · rw [dropped]
    exact delete_of_ne store different

theorem stored_of_get (found : (store.get now chat).2.sessions.get? other = some session) :
    store.sessions.get? other = some session := by
  rcases get_cases store now chat with same | ⟨dropped, -⟩
  · rwa [same] at found
  · rw [dropped] at found
    by_cases equal : chat = other
    · subst equal
      rw [delete_self] at found
      cases found
    · rwa [delete_of_ne store equal] at found

/-- What is still stored for a chat after its session was taken is live. -/
theorem live_of_get (found : (store.get now chat).2.sessions.get? chat = some session) :
    store.live now chat = some session := by
  have stored : store.sessions.get? chat = some session := stored_of_get found
  refine live_eq_some.mpr ⟨stored, ?_⟩
  cases expired : session.isExpired now with
  | false => rfl
  | true =>
    have gone : (store.get now chat).2 = store.delete chat := by simp [get, stored, expired, delete]
    rw [gone, delete_self] at found
    cases found

/-- Taking a session leaves every session that is live. -/
theorem get_of_live (alive : store.live now other = some session) :
    (store.get now chat).2.sessions.get? other = some session := by
  obtain ⟨stored, fresh⟩ := live_eq_some.mp alive
  rcases get_cases store now chat with same | ⟨dropped, old, found, expired⟩
  · rw [same]
    exact stored
  · have different : chat ≠ other := by
      rintro rfl
      rw [found] at stored
      cases stored
      rw [fresh] at expired
      cases expired
    rw [dropped, delete_of_ne store different]
    exact stored

/-- Taking a session does not change what is live at any later time. -/
theorem live_get (after : now ≤ later) :
    (store.get now other).2.live later chat = store.live later chat := by
  rcases get_cases store now other with same | ⟨dropped, session, found, expired⟩
  · rw [same]
  · rw [dropped, live_eq, live_eq]
    by_cases equal : other = chat
    · subst equal
      rw [delete_self, found]
      simp [Option.filter, isExpired_mono after expired]
    · rw [delete_of_ne store equal]

/-- A sweep does not change what is live at any later time. -/
theorem live_sweep (distinct : store.sessions.names.Nodup) (after : now ≤ later) :
    (store.sweep now).2.live later chat = store.live later chat := by
  rw [live_eq, live_eq]
  have swept : (store.sweep now).2.sessions.get? chat =
      (store.sessions.get? chat).filter (!·.isExpired now) :=
    Table.get?_filter distinct (fun entry => !entry.2.isExpired now) chat
  rw [swept]
  cases store.sessions.get? chat with
  | none => rfl
  | some session =>
    cases expired : session.isExpired now with
    | false => simp [Option.filter, expired]
    | true => simp [Option.filter, expired, isExpired_mono after expired]

theorem live_delete_self (store : Store) : (store.delete chat).live now chat = none := by
  rw [live_eq, delete_self]
  rfl

/-- What storing a session does: it is there, written now, and nothing else has changed. -/
theorem set_ok {stored : Session} {after : Store}
    (done : store.set now chat session = .ok (stored, after)) :
    now + store.timeout ≤ store.horizon ∧
      stored = { session with updated := now, expires := now + store.timeout } ∧
      after = { store with sessions := store.sessions.put chat stored } := by
  unfold set expiry at done
  by_cases room : now + store.timeout ≤ store.horizon
  · rw [if_pos room] at done
    cases done
    exact ⟨room, rfl, rfl⟩
  · rw [if_neg room] at done
    cases done

/-- Storing fails only beyond the horizon. -/
theorem set_error {failure : Failure} (failed : store.set now chat session = .error failure) :
    failure = .outOfRange ∧ store.horizon < now + store.timeout := by
  unfold set expiry at failed
  by_cases room : now + store.timeout ≤ store.horizon
  · rw [if_pos room] at failed
    cases failed
  · rw [if_neg room] at failed
    cases failed
    exact ⟨rfl, Nat.lt_of_not_le room⟩

/-- What a new session is. -/
theorem create_ok {step : String} (done : store.create now chat step = .ok session) :
    session = { chat, step, context := [], created := now, updated := now,
                expires := now + store.timeout } := by
  unfold create expiry at done
  split at done <;> cases done
  rfl

theorem create_error {step : String} {failure : Failure}
    (failed : store.create now chat step = .error failure) :
    failure = .outOfRange ∧ store.horizon < now + store.timeout := by
  unfold create expiry at failed
  split at failed
  · cases failed
  · rename_i beyond
    cases failed
    exact ⟨rfl, Nat.lt_of_not_le beyond⟩

/-- What a new session is depends on timeout and horizon only. -/
theorem create_congr {other : Store} (chat step : String) (timeout : store.timeout = other.timeout)
    (horizon : store.horizon = other.horizon) :
    store.create now chat step = other.create now chat step := by
  unfold create expiry
  rw [timeout, horizon]

theorem create_beyond (store : Store) (chat step : String)
    (beyond : store.horizon < now + store.timeout) :
    store.create now chat step = .error .outOfRange := by
  unfold create expiry
  rw [if_neg (Nat.not_le_of_lt beyond)]
  rfl

namespace Filed

theorem empty (timeout horizon : Time) : Filed ⟨timeout, horizon, []⟩ where
  distinct := List.nodup_nil
  own := by
    intro chat session found
    cases found

theorem filter (filed : store.Filed) (keep : String × Session → Bool) :
    Filed { store with sessions := store.sessions.filter keep } where
  distinct := Table.nodup_filter filed.distinct keep
  own := by
    intro chat session found
    rw [Table.get?_filter filed.distinct] at found
    exact filed.own (Option.filter_eq_some_iff.mp found).1

theorem delete (filed : store.Filed) (chat : String) : (store.delete chat).Filed :=
  filed.filter fun entry => entry.1 != chat

theorem sweep (filed : store.Filed) (now : Time) : (store.sweep now).2.Filed :=
  filed.filter fun entry => !entry.2.isExpired now

theorem get (filed : store.Filed) (now : Time) (chat : String) : (store.get now chat).2.Filed := by
  rcases get_cases store now chat with same | ⟨dropped, -⟩
  · rwa [same]
  · rw [dropped]
    exact filed.delete chat

/-- A session that is filed under its own chat keeps the order of the files. -/
theorem put (filed : store.Filed) (session : Session) :
    Filed { store with sessions := store.sessions.put session.chat session } where
  distinct := Table.nodup_put filed.distinct session.chat session
  own := by
    intro chat found equal
    by_cases same : session.chat = chat
    · subst same
      rw [Table.get?_put_self] at equal
      cases equal
      rfl
    · rw [Table.get?_put_of_ne _ _ same] at equal
      exact filed.own equal

end Filed

end Store

end Storekeeper
