import Storekeeper.Proofs.Http.Circuit

/-!
# Calls that are repeated

A call that only reads is sent again as long as sending it fails, after one wait and then after another, and each
attempt goes through the breaker.  What is done with the network meanwhile is kept in a record: `Network.recorded` is
a network that writes it, and does everything else as before.

* `Attempt.series` are the attempts that there are at most, each begun after the wait that follows the one before.
* `Breaker.Persists` says which of them are made: those before the last one have failed, and the last one is refused,
  or does not fail, or is the last that there is.
* `Breaker.sendPatiently_persists` is the run, with its record.
-/

namespace Storekeeper

variable {σ : Type}

/-- What is done with a network. -/
inductive Contact where
  | sent (call : Call) (outcome : Outcome)
  | waited (milliseconds : Nat)
  | closed

/-- Whether a call is sent. -/
def Contact.isCall : Contact → Bool
  | sent _ _ => true
  | _ => false

/-- A network with a record of what is done with it. -/
def Network.recorded (network : Network σ) : Network (σ × List Contact) where
  send call world :=
    let (outcome, s) := network.send call world.1
    (outcome, s, world.2 ++ [.sent call outcome])
  pause wait world := (network.pause wait world.1, world.2 ++ [.waited wait])
  close world := (network.close world.1, world.2 ++ [.closed])
  seconds world := network.seconds world.1

/-- What is recorded of a call with a result. -/
def Guarded.contacts (call : Call) : Guarded → List Contact
  | refused => []
  | sent outcome => [.sent call outcome]

namespace Attempt

variable (network : Network σ)

/-- Sending the call fails. -/
def IsLost (c : Attempt σ) : Prop :=
  ∃ cause, c.outcome network = .fault cause ∧ cause.isTransport = true

/-- The call once more, after a wait. -/
def again (c : Attempt σ) (wait : Nat) : Attempt σ :=
  ⟨c.call, network.pause wait (c.final network)⟩

/-- The attempts at a call that is repeated after each of some waits. -/
def series : List Nat → Attempt σ → List (Attempt σ)
  | [], c => [c]
  | wait :: waits, c => c :: series waits (c.again network wait)

/-- What is recorded of an attempt after which there is a wait. -/
def contacts (c : Attempt σ) (wait : Nat) : List Contact :=
  [.sent c.call (c.outcome network), .waited wait]

/-- What is recorded of attempts that are each followed by one of some waits. -/
def record (failed : List (Attempt σ)) (waits : List Nat) : List Contact :=
  (List.zipWith (contacts network) failed waits).flatten

variable {network}

theorem length_series (waits : List Nat) (c : Attempt σ) :
    (series network waits c).length = waits.length + 1 := by
  induction waits generalizing c with
  | nil => rfl
  | cons wait waits ih => simp [series, ih]

/-- Each of the attempts that are recorded is one call. -/
theorem countP_record_le (network : Network σ) (failed : List (Attempt σ)) (waits : List Nat) :
    (record network failed waits).countP Contact.isCall ≤ failed.length := by
  induction failed generalizing waits with
  | nil => simp [record]
  | cons c failed ih =>
    cases waits with
    | nil => simp [record]
    | cons wait waits =>
      have rest := ih waits
      simp only [record] at rest
      simpa [record, contacts, Contact.isCall, List.countP_cons] using rest

theorem isRetried_iff {c : Attempt σ} :
    (Guarded.sent (c.outcome network)).isRetried = true ↔ c.IsLost network := by
  unfold IsLost
  cases c.outcome network with
  | response status body => simp [Guarded.isRetried]
  | fault cause => simp [Guarded.isRetried]

end Attempt

namespace Breaker

variable {network : Network σ} {b : Breaker} {first last : Attempt σ} {failed calls : List (Attempt σ)}
  {waits : List Nat} {result : Guarded}

theorem throughout_cons {Holds : Breaker → Attempt σ → Prop} (head : Holds b first)
    (tail : (b.after network first).Throughout network Holds calls) :
    b.Throughout network Holds (first :: calls) := by
  intro earlier c before
  cases earlier with
  | nil =>
    obtain ⟨more, same⟩ := before
    cases same
    exact head
  | cons other earlier =>
    obtain ⟨more, same⟩ := before
    cases same
    exact tail earlier c ⟨more, rfl⟩

/-- How a call fares that is repeated after each of some waits as long as sending it fails: these attempts have
failed, and the last one came to this result. -/
structure Persists (network : Network σ) (b : Breaker) (first : Attempt σ) (waits : List Nat)
    (failed : List (Attempt σ)) (last : Attempt σ) (result : Guarded) : Prop where
  attempts : failed ++ [last] <+: first.series network waits
  admits : b.Throughout network (Admits network) failed
  lost : ∀ c ∈ failed, c.IsLost network
  ends : (result = .refused ∧ (b.afterAll network failed).Refuses network last) ∨
    (result = .sent (last.outcome network) ∧ (b.afterAll network failed).Admits network last ∧
      (last.IsLost network → failed ++ [last] = first.series network waits))

namespace Persists

/-- An attempt after which there is no other is the last one. -/
theorem final (ended : (b.send network first.call first.s).1.isRetried = true → waits = []) :
    b.Persists network first waits [] first (b.send network first.call first.s).1 where
  attempts := by cases waits <;> simp [Attempt.series]
  admits := throughout_nil
  lost := nofun
  ends := by
    cases lets : b.begin (first.began network) with
    | none =>
      have refuses : b.Refuses network first := refuses_of_none lets
      exact .inl ⟨congrArg Prod.fst refuses, refuses⟩
    | some passed =>
      have admits : b.Admits network first := admits_of_some lets
      refine .inr ⟨congrArg Prod.fst admits, admits, fun lost => ?_⟩
      rw [ended (by rw [admits]; exact Attempt.isRetried_iff.mpr lost)]
      rfl

/-- An attempt that fails is followed by the others after a wait. -/
theorem cons {wait : Nat} (admits : b.Admits network first) (lost : first.IsLost network)
    (rest : (b.after network first).Persists network (first.again network wait) waits failed last result) :
    b.Persists network first (wait :: waits) (first :: failed) last result where
  attempts := List.cons_prefix_cons.mpr ⟨rfl, rest.attempts⟩
  admits := throughout_cons admits rest.admits
  lost := List.forall_mem_cons.mpr ⟨lost, rest.lost⟩
  ends := rest.ends.imp id fun ⟨same, admitted, all⟩ =>
    ⟨same, admitted, fun lost => congrArg (first :: ·) (all lost)⟩

/-- There are no more attempts than one and one for each wait. -/
theorem length_le (persists : b.Persists network first waits failed last result) :
    failed.length ≤ waits.length := by
  have fewer := persists.attempts.length_le
  rw [Attempt.length_series, List.length_append, List.length_singleton] at fewer
  exact Nat.le_of_succ_le_succ fewer

/-- Without waits there is one attempt. -/
theorem once (persists : b.Persists network first [] failed last result) : failed = [] ∧ last = first := by
  have none : failed = [] := List.eq_nil_of_length_eq_zero (Nat.le_zero.mp persists.length_le)
  subst none
  have same : [last] = [first] := persists.attempts.eq_of_length rfl
  exact ⟨rfl, List.singleton_inj.mp same⟩

end Persists

/-- Sending a call through a breaker is recorded, and nothing else changes by that. -/
theorem send_recorded (network : Network σ) (b : Breaker) (c : Attempt σ) (record : List Contact) :
    b.send network.recorded c.call (c.s, record) =
      let (result, b', s) := b.send network c.call c.s
      (result, b', s, record ++ result.contacts c.call) := by
  cases lets : b.begin (c.began network) with
  | none =>
    have refuses : b.Refuses network c := refuses_of_none lets
    have recorded : b.send network.recorded c.call (c.s, record) = _ :=
      refuses_of_none (c := ⟨c.call, (c.s, record)⟩) lets
    rw [recorded, refuses]
    simp [Guarded.contacts]
  | some passed =>
    have recorded : b.send network.recorded c.call (c.s, record) = _ :=
      send_of_some (c := ⟨c.call, (c.s, record)⟩) lets
    rw [recorded, send_of_some lets]
    rfl

/-- A result after which there is no other attempt is what comes of the call. -/
theorem sendPatiently_of_ended {call : Call} {s : σ}
    (ended : (b.send network call s).1.isRetried = true → waits = []) :
    sendPatiently network call waits b s = b.send network call s := by
  cases waits with
  | nil => rfl
  | cons wait waits =>
    have final : (b.send network call s).1.isRetried = false :=
      Bool.eq_false_iff.mpr fun retried => nomatch ended retried
    simp [sendPatiently, final]

theorem lost_of_isRetried {c : Attempt σ} (retried : (b.send network c.call c.s).1.isRetried = true) :
    b.Admits network c ∧ c.IsLost network := by
  cases lets : b.begin (c.began network) with
  | none =>
    have refuses : b.Refuses network c := refuses_of_none lets
    rw [refuses] at retried
    cases retried
  | some passed =>
    have admits : b.Admits network c := admits_of_some lets
    rw [admits] at retried
    exact ⟨admits, Attempt.isRetried_iff.mp retried⟩

/-- A call that fails is sent again after a wait. -/
theorem sendPatiently_of_lost {c : Attempt σ} (admits : b.Admits network c) (lost : c.IsLost network)
    (wait : Nat) (waits : List Nat) :
    sendPatiently network c.call (wait :: waits) b c.s =
      sendPatiently network c.call waits (b.after network c) (c.again network wait).s := by
  rw [sendPatiently, admits]
  simp [Attempt.isRetried_iff.mpr lost, Attempt.again]

theorem after_recorded (b : Breaker) (c : Attempt σ) (record : List Contact) :
    b.after network.recorded ⟨c.call, (c.s, record)⟩ = b.after network c := by
  unfold after
  rw [send_recorded]

theorem admits_recorded {c : Attempt σ} (admits : b.Admits network c) (record : List Contact) :
    b.Admits network.recorded ⟨c.call, (c.s, record)⟩ :=
  have ⟨_, lets⟩ := admits.begins
  admits_of_some lets

/-- Sending a call patiently comes to a result.  What is recorded are some attempts, each with the wait after it, and
then the result; the record changes nothing else. -/
def Tries (network : Network σ) (b : Breaker) (first : Attempt σ) (waits : List Nat) (failed : List (Attempt σ))
    (result : Guarded) : Prop :=
  ∃ b' s, sendPatiently network first.call waits b first.s = (result, b', s) ∧
    ∀ record, sendPatiently network.recorded first.call waits b (first.s, record) =
      (result, b', s, record ++ (Attempt.record network failed waits ++ result.contacts first.call))

/-- A result after which there is no other attempt is the only thing recorded. -/
theorem Tries.final (network : Network σ) (b : Breaker) (first : Attempt σ)
    (ended : (b.send network first.call first.s).1.isRetried = true → waits = []) :
    b.Tries network first waits [] (b.send network first.call first.s).1 := by
  refine ⟨_, _, sendPatiently_of_ended ended, fun record => ?_⟩
  rw [sendPatiently_of_ended (by rw [send_recorded]; exact ended), send_recorded]
  rfl

/-- An attempt that has failed is recorded with the wait after it. -/
theorem Tries.cons {wait : Nat} (admits : b.Admits network first) (lost : first.IsLost network)
    (rest : (b.after network first).Tries network (first.again network wait) waits failed result) :
    b.Tries network first (wait :: waits) (first :: failed) result := by
  obtain ⟨b', s, run, recorded⟩ := rest
  refine ⟨b', s, by rw [sendPatiently_of_lost admits lost]; exact run, fun record => ?_⟩
  have again := recorded (record ++ [.sent first.call (first.outcome network)] ++ [.waited wait])
  rw [sendPatiently_of_lost (admits_recorded admits record) lost, after_recorded]
  refine again.trans ?_
  simp [Attempt.record, Attempt.contacts, Attempt.again]

/-- A call that is sent patiently is repeated as `Persists` says, and that is what is recorded. -/
theorem sendPatiently_persists (network : Network σ) (b : Breaker) (first : Attempt σ) (waits : List Nat) :
    ∃ failed last result, b.Persists network first waits failed last result ∧
      b.Tries network first waits failed result := by
  induction waits generalizing b first with
  | nil => exact ⟨[], first, _, .final fun _ => rfl, .final network b first fun _ => rfl⟩
  | cons wait waits ih =>
    by_cases retried : (b.send network first.call first.s).1.isRetried = true
    · obtain ⟨admits, lost⟩ := lost_of_isRetried retried
      obtain ⟨failed, last, result, persists, tries⟩ := ih (b.after network first) (first.again network wait)
      exact ⟨first :: failed, last, result, .cons admits lost persists, .cons admits lost tries⟩
    · exact ⟨[], first, _, .final (absurd · retried), .final network b first (absurd · retried)⟩

end Breaker

end Storekeeper
