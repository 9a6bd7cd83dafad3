import Mathlib.Data.List.Nodup
import Storekeeper.Session.Lock
import Storekeeper.Proofs.Session.Live

/-!
# Visits to locks

A visitor arrives at the lock of a chat, enters it once it is free, and departs.  Nothing here depends
on who of those who wait is let in: `LockTable.letIn` lets in any of them, and `LockTable.enter`, which
lets in the first, is a case of it.

`LockTable.Exact` is what the three steps keep: every visit is at the lock that its chat's entry names,
the entry counts exactly the visits of its chat, no two chats share a lock, and at most one visit is
inside a lock.
-/

namespace Storekeeper.LockTable

/-- Whether a visitor waits and may enter: nobody is inside the lock. -/
def mayEnter (table : LockTable) (visitor : Nat) : Bool :=
  table.visits.any fun visit =>
    visit.visitor == visitor && !visit.inside && !table.isTaken visit.lock

/-- A visitor enters. -/
def letIn (table : LockTable) (visitor : Nat) : LockTable :=
  { table with
    visits := table.visits.map fun visit =>
      if visit.visitor = visitor then { visit with inside := true } else visit }

variable {table : LockTable} {visitor : Nat} {chat : String}

/-- Each visit is at the lock of its chat, which is its chat's alone and counts it, and nobody shares
the inside of a lock. -/
structure Exact (table : LockTable) : Prop where
  distinct : (table.visits.map Visit.visitor).Nodup
  shared : ∀ visit ∈ table.visits, ∃ entry,
    table.entries.get? visit.chat = some entry ∧ entry.lock = visit.lock
  counted : ∀ {chat entry}, table.entries.get? chat = some entry →
    0 < entry.holders ∧ entry.holders = table.visits.countP (·.chat == chat)
  apart : ∀ {chat other entry entry'}, table.entries.get? chat = some entry →
    table.entries.get? other = some entry' → entry.lock = entry'.lock → chat = other
  named : ∀ {chat entry}, table.entries.get? chat = some entry → entry.lock < table.fresh
  exclusive : ∀ visit ∈ table.visits, ∀ other ∈ table.visits,
    visit.inside = true → other.inside = true → visit.lock = other.lock → visit = other

theorem isTaken_eq_false {lock : Nat} :
    table.isTaken lock = false ↔
      ∀ visit ∈ table.visits, visit.lock = lock → visit.inside = false := by
  simp [isTaken]

theorem mayEnter_iff : table.mayEnter visitor = true ↔
    ∃ visit ∈ table.visits, visit.visitor = visitor ∧ visit.inside = false ∧
      table.isTaken visit.lock = false := by
  simp [mayEnter, and_assoc]

/-- A newcomer is none of those who are there. -/
theorem newcomer_fresh (table : LockTable) :
    ∀ visit ∈ table.visits, visit.visitor < table.newcomer := by
  have grows : ∀ (visits : List Visit) (n : Nat),
      n ≤ visits.foldl (fun n visit => max n (visit.visitor + 1)) n ∧
        ∀ visit ∈ visits,
          visit.visitor < visits.foldl (fun n visit => max n (visit.visitor + 1)) n := by
    intro visits
    induction visits with
    | nil => simp
    | cons first rest ih =>
      intro n
      obtain ⟨above, below⟩ := ih (max n (first.visitor + 1))
      rw [List.foldl_cons]
      refine ⟨by omega, fun visit member => ?_⟩
      rcases List.mem_cons.mp member with rfl | later
      · omega
      · exact below visit later
  exact (grows table.visits 0).2

/-- The visits of a chat are at the lock that its entry names. -/
theorem Exact.lock_eq_entry (exact : table.Exact) {entry : LockEntry}
    (found : table.entries.get? chat = some entry) {visit : Visit} (member : visit ∈ table.visits)
    (own : visit.chat = chat) : visit.lock = entry.lock := by
  obtain ⟨entry', found', same⟩ := exact.shared visit member
  rw [own, found] at found'
  cases found'
  exact same.symm

/-! ## What each step does to the visits -/

/-- An arrival puts one more visit at the end; its entry counts it and names the lock at which the
chat's other visits are. -/
theorem arrive_spec (exact : table.Exact) (visitor : Nat) (chat : String) :
    ∃ entry fresh, table.arrive visitor chat =
        ⟨table.entries.put chat entry,
          table.visits ++ [⟨visitor, chat, entry.lock, false⟩], fresh⟩ ∧
      entry.holders = table.visits.countP (·.chat == chat) + 1 ∧
      table.fresh ≤ fresh ∧ entry.lock < fresh ∧
      (∀ visit ∈ table.visits, visit.chat = chat → visit.lock = entry.lock) ∧
      ∀ other entry', other ≠ chat → table.entries.get? other = some entry' →
        entry'.lock ≠ entry.lock := by
  unfold arrive
  cases found : table.entries.get? chat with
  | some entry =>
    obtain ⟨-, count⟩ := exact.counted found
    have below : entry.lock < table.fresh := exact.named found
    refine ⟨{ entry with holders := entry.holders + 1 }, table.fresh, rfl, by rw [count],
      Nat.le_refl _, below, fun visit member own => exact.lock_eq_entry found member own,
      fun other entry' different there => ?_⟩
    exact fun same => different (exact.apart there found same)
  | none =>
    have nobody : ∀ visit ∈ table.visits, visit.chat ≠ chat := by
      rintro visit member rfl
      obtain ⟨entry, found', -⟩ := exact.shared visit member
      rw [found] at found'
      cases found'
    have zero : table.visits.countP (·.chat == chat) = 0 :=
      List.countP_eq_zero.mpr fun visit member => by simpa using nobody visit member
    refine ⟨⟨table.fresh, 1⟩, table.fresh + 1, rfl, by rw [zero], Nat.le_succ _,
      Nat.lt_succ_self _, fun visit member own => absurd own (nobody visit member),
      fun other entry' different there => ?_⟩
    exact Nat.ne_of_lt (exact.named there)

theorem visits_arrive (table : LockTable) (visitor : Nat) (chat : String) :
    ∃ lock, (table.arrive visitor chat).visits = table.visits ++ [⟨visitor, chat, lock, false⟩] := by
  unfold arrive
  cases table.entries.get? chat with
  | none => exact ⟨table.fresh, rfl⟩
  | some entry => exact ⟨entry.lock, rfl⟩

theorem mem_visits_letIn {visit : Visit} : visit ∈ (table.letIn visitor).visits ↔
    (visit ∈ table.visits ∧ visit.visitor ≠ visitor) ∨
      ∃ waiting ∈ table.visits, waiting.visitor = visitor ∧
        visit = { waiting with inside := true } := by
  unfold letIn
  rw [List.mem_map]
  constructor
  · rintro ⟨before, member, rfl⟩
    by_cases same : before.visitor = visitor
    · exact .inr ⟨before, member, same, if_pos same⟩
    · rw [if_neg same]
      exact .inl ⟨member, same⟩
  · rintro (⟨member, different⟩ | ⟨before, member, same, rfl⟩)
    · exact ⟨visit, member, if_neg different⟩
    · exact ⟨before, member, if_pos same⟩

theorem visits_depart (table : LockTable) (visitor : Nat) :
    (table.depart visitor).visits = table.visits.filter (·.visitor != visitor) := by
  unfold depart
  cases found : table.visits.find? (·.visitor == visitor) with
  | none =>
    have nobody := List.find?_eq_none.mp found
    refine (List.filter_eq_self.mpr fun visit member => ?_).symm
    simpa using nobody visit member
  | some visit =>
    simp only
    split
    · rfl
    · split
      · rfl
      · split <;> rfl

namespace Exact

theorem empty : LockTable.empty.Exact where
  distinct := List.nodup_nil
  shared := by simp [LockTable.empty]
  counted := by
    intro chat entry found
    cases found
  apart := by
    intro chat other entry entry' found
    cases found
  named := by
    intro chat entry found
    cases found
  exclusive := by simp [LockTable.empty]

/-- A visitor has one visit. -/
theorem eq_of_visitor (exact : table.Exact) {visit other : Visit} (member : visit ∈ table.visits)
    (member' : other ∈ table.visits) (same : visit.visitor = other.visitor) : visit = other :=
  List.inj_on_of_nodup_map exact.distinct member member' same

/-- Visits are at the same lock if they are of the same chat, and only then. -/
theorem lock_eq_iff (exact : table.Exact) {visit other : Visit} (member : visit ∈ table.visits)
    (member' : other ∈ table.visits) : visit.lock = other.lock ↔ visit.chat = other.chat := by
  obtain ⟨entry, found, same⟩ := exact.shared visit member
  obtain ⟨entry', found', same'⟩ := exact.shared other member'
  constructor
  · intro lock
    exact exact.apart found found' (same.trans (lock.trans same'.symm))
  · intro equal
    rw [exact.lock_eq_entry found' member equal, same']

theorem arrive (exact : table.Exact) (newcomer : ∀ visit ∈ table.visits, visit.visitor ≠ visitor)
    (chat : String) : (table.arrive visitor chat).Exact := by
  obtain ⟨entry, fresh, arrived, holders, grows, below, at_lock, others⟩ :=
    arrive_spec exact visitor chat
  rw [arrived]
  refine ⟨?distinct, ?shared, ?counted, ?apart, ?named, ?exclusive⟩
  case distinct =>
    rw [List.map_append, List.map_singleton]
    refine exact.distinct.append (List.nodup_singleton _) ?_
    rintro _ member again
    obtain ⟨visit, here, rfl⟩ := List.mem_map.mp member
    exact newcomer visit here (List.mem_singleton.mp again)
  case shared =>
    intro visit member
    rcases List.mem_append.mp member with before | last
    · by_cases own : visit.chat = chat
      · refine ⟨entry, ?_, (at_lock visit before own).symm⟩
        rw [own]
        exact Table.get?_put_self ..
      · obtain ⟨entry', found, same⟩ := exact.shared visit before
        exact ⟨entry', (Table.get?_put_of_ne _ _ (Ne.symm own)).trans found, same⟩
    · rw [List.mem_singleton.mp last]
      exact ⟨entry, Table.get?_put_self .., rfl⟩
  case counted =>
    intro other entry' found
    rw [List.countP_append, List.countP_singleton]
    rcases Table.get?_put_some found with ⟨rfl, rfl⟩ | ⟨different, before⟩
    · rw [if_pos (by simp)]
      exact ⟨by omega, holders⟩
    · rw [if_neg (by simpa using Ne.symm different)]
      exact exact.counted before
  case apart =>
    intro one other entry₁ entry₂ found₁ found₂ same
    rcases Table.get?_put_some found₁ with ⟨rfl, rfl⟩ | ⟨first, before₁⟩
    · rcases Table.get?_put_some found₂ with ⟨rfl, -⟩ | ⟨second, before₂⟩
      · rfl
      · exact absurd same.symm (others other entry₂ second before₂)
    · rcases Table.get?_put_some found₂ with ⟨rfl, rfl⟩ | ⟨-, before₂⟩
      · exact absurd same (others one entry₁ first before₁)
      · exact exact.apart before₁ before₂ same
  case named =>
    intro other entry' found
    rcases Table.get?_put_some found with ⟨-, rfl⟩ | ⟨-, before⟩
    · exact below
    · exact Nat.lt_of_lt_of_le (exact.named before) grows
  case exclusive =>
    intro visit member other member' inside inside'
    rcases List.mem_append.mp member with before | last
    · rcases List.mem_append.mp member' with before' | last'
      · exact exact.exclusive visit before other before' inside inside'
      · rw [List.mem_singleton.mp last'] at inside'
        cases inside'
    · rw [List.mem_singleton.mp last] at inside
      cases inside

theorem letIn (exact : table.Exact) (free : table.mayEnter visitor = true) :
    (table.letIn visitor).Exact := by
  obtain ⟨waiting, there, rfl, -, untaken⟩ := mayEnter_iff.mp free
  have nobody := isTaken_eq_false.mp untaken
  have visitors : (table.letIn waiting.visitor).visits.map Visit.visitor =
      table.visits.map Visit.visitor := by
    unfold LockTable.letIn
    rw [List.map_map]
    refine List.map_congr_left fun visit _ => ?_
    by_cases same : visit.visitor = waiting.visitor <;> simp [same]
  have count : ∀ chat, (table.letIn waiting.visitor).visits.countP (·.chat == chat) =
      table.visits.countP (·.chat == chat) := by
    intro chat
    unfold LockTable.letIn
    rw [List.countP_map]
    refine List.countP_congr fun visit _ => ?_
    by_cases same : visit.visitor = waiting.visitor <;> simp [same]
  -- Each visit is at the lock at which it was before, and is inside only if it was, or has entered.
  have comes : ∀ visit ∈ (table.letIn waiting.visitor).visits,
      (visit ∈ table.visits ∧ visit.visitor ≠ waiting.visitor) ∨
        visit = { waiting with inside := true } := by
    intro visit member
    rcases mem_visits_letIn.mp member with before | ⟨other, here, same, rfl⟩
    · exact .inl before
    · rw [exact.eq_of_visitor here there same]
      exact .inr rfl
  refine ⟨by rw [visitors]; exact exact.distinct, ?shared, ?counted, exact.apart, exact.named,
    ?exclusive⟩
  case shared =>
    intro visit member
    rcases comes visit member with ⟨before, -⟩ | rfl
    · exact exact.shared visit before
    · exact exact.shared waiting there
  case counted =>
    intro chat entry found
    rw [count]
    exact exact.counted found
  case exclusive =>
    intro visit member other member' inside inside' same
    rcases comes visit member with ⟨before, -⟩ | rfl
    · rcases comes other member' with ⟨before', -⟩ | rfl
      · exact exact.exclusive visit before other before' inside inside' same
      · have outside := nobody visit before same
        rw [inside] at outside
        cases outside
    · rcases comes other member' with ⟨before', -⟩ | rfl
      · have outside := nobody other before' same.symm
        rw [inside'] at outside
        cases outside
      · rfl

/-- Whoever departs was counted once, by the entry of their chat. -/
theorem countP_depart (exact : table.Exact) {gone : Visit} (here : gone ∈ table.visits)
    (chat : String) : table.visits.countP (·.chat == chat) =
      (table.visits.filter (·.visitor != gone.visitor)).countP (·.chat == chat) +
        if gone.chat = chat then 1 else 0 := by
  have nodup : table.visits.Nodup := exact.distinct.of_map Visit.visitor
  have others : table.visits.filter (·.visitor != gone.visitor) = table.visits.erase gone := by
    rw [nodup.erase_eq_filter]
    refine List.filter_congr fun visit member => ?_
    by_cases same : visit = gone
    · simp [same]
    · have apart : visit.visitor ≠ gone.visitor :=
        fun equal => same (exact.eq_of_visitor member here equal)
      rw [bne_iff_ne.mpr apart, bne_iff_ne.mpr same]
  rw [others, (List.perm_cons_erase here).countP_eq, List.countP_cons]
  by_cases same : gone.chat = chat <;> simp [same]

theorem countP_depart_of_ne (exact : table.Exact) {gone : Visit} (here : gone ∈ table.visits)
    {chat : String} (different : chat ≠ gone.chat) : table.visits.countP (·.chat == chat) =
      (table.visits.filter (·.visitor != gone.visitor)).countP (·.chat == chat) := by
  have count := exact.countP_depart here chat
  rwa [if_neg (Ne.symm different)] at count

section Departure

variable {entry : LockEntry} {gone : Visit} (exact : table.Exact) (here : gone ∈ table.visits)
  (there : table.entries.get? gone.chat = some entry)

include exact

theorem distinct_without (visitor : Nat) :
    ((table.visits.filter (·.visitor != visitor)).map Visit.visitor).Nodup :=
  exact.distinct.sublist (List.filter_sublist.map Visit.visitor)

theorem exclusive_without (visitor : Nat) :
    ∀ visit ∈ table.visits.filter (·.visitor != visitor),
      ∀ other ∈ table.visits.filter (·.visitor != visitor), visit.inside = true →
        other.inside = true → visit.lock = other.lock → visit = other :=
  fun visit member other member' =>
    exact.exclusive visit (List.mem_of_mem_filter member) other (List.mem_of_mem_filter member')

include here there

/-- With the last of a chat its entry goes; nobody is left who would miss it. -/
theorem depart_last (last : entry.holders ≤ 1) :
    Exact { table with
      entries := table.entries.erase gone.chat
      visits := table.visits.filter (·.visitor != gone.visitor) } := by
  have own := exact.countP_depart here gone.chat
  rw [if_pos rfl, ← (exact.counted there).2] at own
  have nobody : (table.visits.filter (·.visitor != gone.visitor)).countP
      (·.chat == gone.chat) = 0 := by
    omega
  refine ⟨exact.distinct_without gone.visitor, fun visit member => ?shared, fun found => ?counted,
    fun found₁ found₂ => ?apart, fun found => exact.named (Table.get?_erase_some found).2,
    exact.exclusive_without gone.visitor⟩
  case shared =>
    have different : visit.chat ≠ gone.chat := by
      simpa using List.countP_eq_zero.mp nobody visit member
    rw [Table.get?_erase_of_ne _ (Ne.symm different)]
    exact exact.shared visit (List.mem_of_mem_filter member)
  case counted =>
    obtain ⟨different, before⟩ := Table.get?_erase_some found
    rw [← exact.countP_depart_of_ne here different]
    exact exact.counted before
  case apart =>
    exact exact.apart (Table.get?_erase_some found₁).2 (Table.get?_erase_some found₂).2

/-- As long as somebody of the chat is left, its entry counts one less. -/
theorem depart_other (others : 1 < entry.holders) :
    Exact { table with
      entries := table.entries.put gone.chat { entry with holders := entry.holders - 1 }
      visits := table.visits.filter (·.visitor != gone.visitor) } := by
  have own := exact.countP_depart here gone.chat
  rw [if_pos rfl, ← (exact.counted there).2] at own
  -- Every entry that is found names the lock that it named before.
  have names : ∀ {chat entry'}, (table.entries.put gone.chat
      { entry with holders := entry.holders - 1 }).get? chat = some entry' →
      ∃ before, table.entries.get? chat = some before ∧ entry'.lock = before.lock := by
    intro chat entry' found
    rcases Table.get?_put_some found with ⟨rfl, rfl⟩ | ⟨-, before⟩
    · exact ⟨entry, there, rfl⟩
    · exact ⟨entry', before, rfl⟩
  refine ⟨exact.distinct_without gone.visitor, fun visit member => ?shared, fun found => ?counted,
    fun found₁ found₂ same => ?apart, fun found => ?named, exact.exclusive_without gone.visitor⟩
  case shared =>
    have stays : visit ∈ table.visits := List.mem_of_mem_filter member
    obtain ⟨entry', found, same⟩ := exact.shared visit stays
    by_cases equal : visit.chat = gone.chat
    · rw [equal, there] at found
      cases found
      refine ⟨{ entry with holders := entry.holders - 1 }, ?_, same⟩
      rw [equal]
      exact Table.get?_put_self ..
    · exact ⟨entry', (Table.get?_put_of_ne _ _ (Ne.symm equal)).trans found, same⟩
  case counted =>
    rcases Table.get?_put_some found with ⟨rfl, rfl⟩ | ⟨different, before⟩
    · exact ⟨by simp only; omega, by simp only; omega⟩
    · rw [← exact.countP_depart_of_ne here different]
      exact exact.counted before
  case apart =>
    obtain ⟨before₁, there₁, same₁⟩ := names found₁
    obtain ⟨before₂, there₂, same₂⟩ := names found₂
    exact exact.apart there₁ there₂ (same₁.symm.trans (same.trans same₂))
  case named =>
    obtain ⟨before, there', same⟩ := names found
    rw [same]
    exact exact.named there'

end Departure

theorem depart (exact : table.Exact) (visitor : Nat) : (table.depart visitor).Exact := by
  unfold LockTable.depart
  cases found : table.visits.find? (·.visitor == visitor) with
  | none => exact exact
  | some gone =>
    have here : gone ∈ table.visits := List.mem_of_find?_eq_some found
    have who : gone.visitor = visitor := by simpa using List.find?_some found
    subst who
    obtain ⟨entry, there, lock⟩ := exact.shared gone here
    simp only [there]
    rw [if_neg (not_not_intro lock)]
    split
    · rename_i last
      exact exact.depart_last here there last
    · rename_i others
      exact exact.depart_other here there (Nat.lt_of_not_le others)

/-- Letting in the first who waits for a free lock is letting in somebody who may enter. -/
theorem enter_eq (exact : table.Exact) {lock : Nat} {first : Visit}
    (free : table.isTaken lock = false) (found : table.firstWaiting? lock = some first) :
    table.mayEnter first.visitor = true ∧ table.enter lock = table.letIn first.visitor := by
  have here : first ∈ table.visits := List.mem_of_find?_eq_some found
  have waits : first.lock = lock ∧ first.inside = false := by simpa using List.find?_some found
  have entered : table.visits.map (fun visit =>
      if visit == first then { visit with inside := true } else visit) =
      (table.letIn first.visitor).visits := by
    refine List.map_congr_left fun visit member => ?_
    by_cases same : visit = first
    · simp [same]
    · have apart : visit.visitor ≠ first.visitor :=
        fun equal => same (exact.eq_of_visitor member here equal)
      simp [same, apart]
  constructor
  · exact mayEnter_iff.mpr ⟨first, here, rfl, waits.2, waits.1 ▸ free⟩
  · unfold enter
    rw [free, found]
    simp only [entered]
    rfl

/-- A newcomer at the lock of a chat at which nobody is enters at once. -/
theorem visit_eq (exact : table.Exact) (newcomer : ∀ visit ∈ table.visits, visit.visitor ≠ visitor)
    (nobody : ∀ visit ∈ table.visits, visit.chat ≠ chat) :
    (table.arrive visitor chat).mayEnter visitor = true ∧
      table.visit visitor chat = (table.arrive visitor chat).letIn visitor := by
  have arrived := exact.arrive newcomer chat
  obtain ⟨entry, fresh, spec, -, -, -, -, -⟩ := arrive_spec exact visitor chat
  have found : (table.arrive visitor chat).entries.get? chat = some entry := by
    rw [spec]
    exact Table.get?_put_self ..
  have new : ⟨visitor, chat, entry.lock, false⟩ ∈ (table.arrive visitor chat).visits := by
    rw [spec]
    exact List.mem_append_right _ (List.mem_singleton_self _)
  have elsewhere : ∀ visit ∈ table.visits, visit.lock ≠ entry.lock := by
    intro visit member same
    have there : visit ∈ (table.arrive visitor chat).visits := by
      rw [spec]
      exact List.mem_append_left _ member
    exact nobody visit member ((arrived.lock_eq_iff there new).mp same)
  have free : (table.arrive visitor chat).isTaken entry.lock = false := by
    rw [isTaken_eq_false, spec]
    intro visit member same
    rcases List.mem_append.mp member with before | last
    · exact absurd same (elsewhere visit before)
    · rw [List.mem_singleton.mp last]
  have waiting : (table.arrive visitor chat).firstWaiting? entry.lock =
      some ⟨visitor, chat, entry.lock, false⟩ := by
    unfold firstWaiting?
    rw [spec, List.find?_append, List.find?_eq_none.mpr fun visit member => by
      simp [elsewhere visit member]]
    simp
  obtain ⟨may, enters⟩ := arrived.enter_eq free waiting
  refine ⟨may, ?_⟩
  unfold visit
  simp only [found]
  exact enters

end Exact

end Storekeeper.LockTable
