import Mathlib.Data.List.DropRight
import Mathlib.Data.List.Induction
import Storekeeper.Http.Guarded
import Storekeeper.Proofs.Decimal.Rounding

/-!
# What a circuit breaker does

Calls are sent through a breaker one at a time, each in a state of the network.  What the breaker does with
a call depends on how the calls before it have ended, and on nothing else.

* `Breaker.count_step` and `Breaker.probe_step` say what one call does to a breaker that counts failures,
  and to one that counts successes; `Breaker.counts` and `Breaker.probes` are the runs.
* `Breaker.waits`: an open breaker refuses calls as long as the timeout has not passed since it saw a
  failure; `Breaker.hasWaited_iff` says when this is decided without rounding.
* `Breaker.history_decides` puts them together, for every list of calls through a new breaker.
-/

namespace Storekeeper

open Storekeeper.Decimal

/-- How many tracked failures there are in a row at the end; untracked ones neither count nor interrupt. -/
def Completion.streak (ends : List Completion) : Nat :=
  ((ends.filter (· ≠ .untrackedFailure)).rtakeWhile (· = .trackedFailure)).length

namespace Completion

@[simp]
theorem streak_success (ends : List Completion) : streak (ends ++ [.success]) = 0 := by
  simp [streak, List.filter_append]

@[simp]
theorem streak_tracked (ends : List Completion) :
    streak (ends ++ [.trackedFailure]) = streak ends + 1 := by
  simp [streak, List.filter_append]

@[simp]
theorem streak_untracked (ends : List Completion) :
    streak (ends ++ [.untrackedFailure]) = streak ends := by
  simp [streak, List.filter_append]

end Completion

/-- A call that is to be sent in a state of the network. -/
structure Attempt (σ : Type) where
  call : Call
  s : σ

namespace Attempt

variable {σ : Type} (network : Network σ)

/-- When it is to be sent. -/
def began (c : Attempt σ) : Binary64 :=
  network.seconds c.s

/-- What comes of it if it is sent. -/
def outcome (c : Attempt σ) : Outcome :=
  (network.send c.call c.s).1

/-- The state of the network after it has been sent. -/
def final (c : Attempt σ) : σ :=
  (network.send c.call c.s).2

/-- How it ends for a breaker if it is sent. -/
def completion (c : Attempt σ) : Completion :=
  (c.outcome network).completion

/-- When it ends if it is sent. -/
def ended (c : Attempt σ) : Binary64 :=
  network.seconds (c.final network)

/-- How many of the calls in a row have failed at the end, if all of them are sent. -/
def streak (calls : List (Attempt σ)) : Nat :=
  Completion.streak (calls.map (completion network))

/-- How many of the calls are successes, if all of them are sent. -/
def successes (calls : List (Attempt σ)) : Nat :=
  (calls.map (completion network)).count .success

end Attempt

namespace Breaker

variable {σ : Type} (network : Network σ) {b passed : Breaker} {now : Binary64} {c : Attempt σ}
  {calls : List (Attempt σ)}

/-- The breaker after a call. -/
def after (b : Breaker) (c : Attempt σ) : Breaker :=
  (b.send network c.call c.s).2.1

/-- The breaker after calls, one after the other. -/
def afterAll (b : Breaker) (calls : List (Attempt σ)) : Breaker :=
  calls.foldl (after network) b

/-- A call is let through: it is sent, and what comes of it is the result. -/
def Admits (b : Breaker) (c : Attempt σ) : Prop :=
  b.send network c.call c.s = (.sent (c.outcome network), b.after network c, c.final network)

/-- A call is refused: it is not sent, and everything is as before. -/
def Refuses (b : Breaker) (c : Attempt σ) : Prop :=
  b.send network c.call c.s = (.refused, b, c.s)

/-- Something holds of each of the calls, with the breaker as the calls before it have left it. -/
def Throughout (Holds : Breaker → Attempt σ → Prop) (b : Breaker) (calls : List (Attempt σ)) : Prop :=
  ∀ earlier c, earlier ++ [c] <+: calls → Holds (b.afterAll network earlier) c

/-- The last of the calls has opened the circuit. -/
structure Trips (b : Breaker) (calls : List (Attempt σ)) (failure : Attempt σ) : Prop where
  last : ∃ earlier, calls = earlier ++ [failure] ∧ (b.afterAll network earlier).Admits network failure
  opened : (b.afterAll network calls).state = .opened

/-- The last of the calls has closed the circuit. -/
structure Closes (b : Breaker) (calls : List (Attempt σ)) : Prop where
  last : ∃ earlier c, calls = earlier ++ [c] ∧ (b.afterAll network earlier).state ≠ .closed
  closed : (b.afterAll network calls).state = .closed

variable {network}

theorem afterAll_concat (b : Breaker) (calls : List (Attempt σ)) (c : Attempt σ) :
    b.afterAll network (calls ++ [c]) = (b.afterAll network calls).after network c :=
  List.foldl_append

theorem afterAll_append (b : Breaker) (first second : List (Attempt σ)) :
    b.afterAll network (first ++ second) = (b.afterAll network first).afterAll network second :=
  List.foldl_append

theorem throughout_nil {Holds : Breaker → Attempt σ → Prop} : b.Throughout network Holds [] :=
  fun _ _ before => absurd (List.prefix_nil.mp before) (by simp)

theorem throughout_concat {Holds : Breaker → Attempt σ → Prop} :
    b.Throughout network Holds (calls ++ [c]) ↔
      b.Throughout network Holds calls ∧ Holds (b.afterAll network calls) c := by
  unfold Throughout
  constructor
  · intro each
    exact ⟨fun earlier c before => each earlier c (before.trans (List.prefix_append _ _)),
      each calls c (List.prefix_refl _)⟩
  · rintro ⟨each, last⟩ earlier other before
    rcases List.prefix_concat_iff.mp before with same | before
    · obtain ⟨rfl, equal⟩ := List.append_inj' same rfl
      cases equal
      exact last
    · exact each earlier other before

/-! ## One call -/

/-- An open breaker that lets a call through to try the service. -/
def probing (b : Breaker) : Breaker :=
  { b with state := .halfOpen, successes := 0 }

theorem begin_of_opened (opened : b.state = .opened) (now : Binary64) :
    b.begin now = if b.hasWaited now then some b.probing else none := by
  unfold «begin»
  rw [opened]
  rfl

theorem begin_of_ne_opened (other : b.state ≠ .opened) (now : Binary64) : b.begin now = some b := by
  unfold «begin»
  cases state : b.state <;> first | rfl | exact absurd state other

theorem succeed_of_halfOpen (halfOpen : b.state = .halfOpen) :
    b.succeed = if b.successThreshold ≤ ((b.successes + 1 : Nat) : Int)
      then { b with successes := b.successes + 1, state := .closed, failures := 0 }
      else { b with successes := b.successes + 1 } := by
  unfold succeed
  rw [halfOpen]

theorem succeed_of_ne_halfOpen (other : b.state ≠ .halfOpen) : b.succeed = { b with failures := 0 } := by
  unfold succeed
  cases state : b.state <;> first | rfl | exact absurd state other

theorem send_of_some (lets : b.begin (c.began network) = some passed) :
    b.send network c.call c.s = (.sent (c.outcome network),
      passed.complete (c.ended network) (c.completion network), c.final network) := by
  unfold Attempt.began at lets
  unfold send
  rw [lets]
  rfl

theorem refuses_of_none (lets : b.begin (c.began network) = none) : b.Refuses network c := by
  unfold Attempt.began at lets
  unfold Refuses send
  rw [lets]

theorem Refuses.after (refuses : b.Refuses network c) : b.after network c = b := by
  unfold Breaker.after
  rw [refuses]

theorem after_of_some (lets : b.begin (c.began network) = some passed) :
    b.after network c = passed.complete (c.ended network) (c.completion network) := by
  unfold after
  rw [send_of_some lets]

theorem admits_of_some (lets : b.begin (c.began network) = some passed) : b.Admits network c := by
  unfold Admits
  rw [after_of_some lets]
  exact send_of_some lets

/-- A call that is let through has begun. -/
theorem Admits.begins (admits : b.Admits network c) :
    ∃ passed, b.begin (c.began network) = some passed := by
  cases lets : b.begin (c.began network) with
  | some passed => exact ⟨passed, rfl⟩
  | none =>
    have refuses := refuses_of_none lets
    unfold Admits Refuses at *
    rw [refuses] at admits
    cases admits

/-! ## Limits stay as they are -/

/-- Two breakers have the same limits. -/
structure SameLimits (b b' : Breaker) : Prop where
  failureThreshold : b.failureThreshold = b'.failureThreshold
  timeout : b.timeout = b'.timeout
  successThreshold : b.successThreshold = b'.successThreshold

theorem SameLimits.refl (b : Breaker) : b.SameLimits b :=
  ⟨rfl, rfl, rfl⟩

theorem SameLimits.trans {b b' b'' : Breaker} (first : b.SameLimits b') (second : b'.SameLimits b'') :
    b.SameLimits b'' :=
  ⟨first.1.trans second.1, first.2.trans second.2, first.3.trans second.3⟩

theorem begin_limits (lets : b.begin now = some passed) : passed.SameLimits b := by
  by_cases opened : b.state = .opened
  · rw [begin_of_opened opened] at lets
    split at lets
    · cases lets
      exact ⟨rfl, rfl, rfl⟩
    · cases lets
  · rw [begin_of_ne_opened opened] at lets
    cases lets
    exact ⟨rfl, rfl, rfl⟩

theorem complete_limits (b : Breaker) (now : Binary64) (how : Completion) :
    (b.complete now how).SameLimits b := by
  cases how with
  | success =>
    unfold complete succeed
    cases b.state with
    | halfOpen =>
      dsimp only
      split <;> exact ⟨rfl, rfl, rfl⟩
    | _ => exact ⟨rfl, rfl, rfl⟩
  | _ => exact ⟨rfl, rfl, rfl⟩

theorem after_limits (b : Breaker) (c : Attempt σ) : (b.after network c).SameLimits b := by
  cases lets : b.begin (c.began network) with
  | none =>
    rw [(refuses_of_none lets).after]
    exact .refl b
  | some passed =>
    rw [after_of_some lets]
    exact (complete_limits passed (c.ended network) (c.completion network)).trans (begin_limits lets)

theorem afterAll_limits (b : Breaker) (calls : List (Attempt σ)) :
    (b.afterAll network calls).SameLimits b := by
  induction calls using List.reverseRecOn with
  | nil => exact .refl b
  | append_singleton calls c ih =>
    rw [afterAll_concat]
    exact (after_limits _ c).trans ih

/-! ## Counting failures -/

/-- A breaker is closed, and has counted the tracked failures in a row of some calls. -/
structure Counting (network : Network σ) (b : Breaker) (calls : List (Attempt σ)) : Prop where
  closed : b.state = .closed
  counted : b.failures = Attempt.streak network calls

/-- A closed breaker lets a call through and goes on counting; when it has counted enough, the circuit is
opened. -/
theorem count_step (counting : b.Counting network calls)
    (below : (Attempt.streak network calls : Int) < b.failureThreshold) (c : Attempt σ) :
    b.Admits network c ∧
      (b.after network c).failures = Attempt.streak network (calls ++ [c]) ∧
      (b.after network c).state =
        if (Attempt.streak network (calls ++ [c]) : Int) < b.failureThreshold then .closed
        else .opened := by
  obtain ⟨closed, counted⟩ := counting
  have lets : b.begin (c.began network) = some b := begin_of_ne_opened (by rw [closed]; nofun) _
  refine ⟨admits_of_some lets, ?_⟩
  rw [after_of_some lets]
  have ends : Attempt.streak network (calls ++ [c]) =
      Completion.streak (calls.map (Attempt.completion network) ++ [c.completion network]) := by
    simp [Attempt.streak]
  cases how : c.completion network with
  | success =>
    rw [how, Completion.streak_success] at ends
    have quiet : b.complete (c.ended network) .success = { b with failures := 0 } :=
      succeed_of_ne_halfOpen (by rw [closed]; nofun)
    rw [quiet, ends, if_pos (by omega)]
    exact ⟨rfl, closed⟩
  | trackedFailure =>
    rw [how, Completion.streak_tracked] at ends
    have more : Attempt.streak network (calls ++ [c]) = b.failures + 1 :=
      ends.trans (congrArg (· + 1) counted.symm)
    rw [more]
    refine ⟨rfl, ?_⟩
    split
    · rename_i few
      have shut : ¬(b.state = .halfOpen ∨ b.failureThreshold ≤ ((b.failures + 1 : Nat) : Int)) :=
        not_or.mpr ⟨by rw [closed]; nofun, Int.not_le.mpr few⟩
      exact (if_neg shut).trans closed
    · rename_i many
      exact if_pos (.inr (Int.not_lt.mp many))
  | untrackedFailure =>
    have same : Attempt.streak network (calls ++ [c]) = Attempt.streak network calls := by
      rw [ends, how, Completion.streak_untracked]
      rfl
    rw [same, if_pos below]
    exact ⟨counted, closed⟩

/-- A breaker goes on counting over calls as long as it has not counted enough. -/
theorem counts (counting : b.Counting network [])
    (below : ∀ earlier, earlier <+: calls →
      (Attempt.streak network earlier : Int) < b.failureThreshold) :
    b.Throughout network (Admits network) calls ∧ (b.afterAll network calls).Counting network calls := by
  induction calls using List.reverseRecOn with
  | nil => exact ⟨throughout_nil, counting⟩
  | append_singleton calls c ih =>
    obtain ⟨admits, counted⟩ := ih fun earlier before =>
      below earlier (before.trans (List.prefix_append _ _))
    have limit : (b.afterAll network calls).failureThreshold = b.failureThreshold :=
      (afterAll_limits b calls).failureThreshold
    obtain ⟨admitted, failures, state⟩ :=
      count_step counted (by rw [limit]; exact below calls (List.prefix_append _ _)) c
    rw [limit, if_pos (below _ (List.prefix_refl _))] at state
    rw [throughout_concat, afterAll_concat]
    exact ⟨⟨admits, admitted⟩, state, failures⟩

/-! ## Waiting -/

/-- An open breaker refuses calls as long as the timeout has not passed since it saw a failure. -/
theorem waits {last : Binary64} (opened : b.state = .opened) (saw : b.lastFailure = some last)
    (early : ∀ c ∈ calls, b.timeout.less ((c.began network).sub last) = false) :
    b.Throughout network (Refuses network) calls ∧ b.afterAll network calls = b := by
  induction calls using List.reverseRecOn with
  | nil => exact ⟨throughout_nil, rfl⟩
  | append_singleton calls c ih =>
    obtain ⟨refuses, same⟩ := ih fun c member => early c (List.mem_append_left _ member)
    have lets : b.begin (c.began network) = none := by
      have still : b.hasWaited (c.began network) = false := by
        simp [hasWaited, saw, early c (List.mem_append_right _ (List.mem_singleton_self c))]
      rw [begin_of_opened opened, still]
      rfl
    have refused : b.Refuses network c := refuses_of_none lets
    rw [throughout_concat, afterAll_concat, same]
    exact ⟨⟨refuses, refused⟩, refused.after⟩

/-- Whether the timeout has passed is decided exactly, if the clock shows no more than twice the time at
which the failure was seen; a clock that has been running for long does. -/
theorem hasWaited_iff {last now timeout : Nat} (saw : b.lastFailure = some (.finite false last))
    (limit : b.timeout = .finite false timeout) (something : last ≠ 0)
    (shown : Binary64.Representable now) (seen : Binary64.Representable last) (after : last ≤ now)
    (near : now ≤ 2 * last) : b.hasWaited (.finite false now) = true ↔ timeout < now - last := by
  have passed := Binary64.sub_exact shown seen after near
  simp only [hasWaited, saw, limit, passed, Binary64.isZero, Binary64.less, Binary64.signedUnits]
  simp [something]

/-- It lets through the first call after that. -/
theorem admits_of_waited {last : Binary64} (opened : b.state = .opened)
    (saw : b.lastFailure = some last) (something : last.isZero = false)
    (late : b.timeout.less ((c.began network).sub last) = true) : b.Admits network c := by
  have waited : b.hasWaited (c.began network) = true := by simp [hasWaited, saw, something, late]
  have lets : b.begin (c.began network) = some b.probing := by
    rw [begin_of_opened opened, if_pos waited]
  exact admits_of_some lets

/-! ## Counting successes -/

/-- A breaker tries the service, and has counted the successes of some calls. -/
structure Probing (network : Network σ) (b : Breaker) (calls : List (Attempt σ)) : Prop where
  halfOpen : b.state = .halfOpen
  counted : b.successes = Attempt.successes network calls

/-- A breaker that tries the service lets a call through.  A tracked failure opens the circuit again, and
enough successes close it. -/
theorem probe_step (probing : b.Probing network calls)
    (below : (Attempt.successes network calls : Int) < b.successThreshold) (c : Attempt σ) :
    b.Admits network c ∧
      (b.after network c).successes = Attempt.successes network (calls ++ [c]) ∧
      (b.after network c).state =
        if c.completion network = .trackedFailure then .opened
        else if (Attempt.successes network (calls ++ [c]) : Int) < b.successThreshold then .halfOpen
        else .closed := by
  obtain ⟨halfOpen, counted⟩ := probing
  have lets : b.begin (c.began network) = some b := begin_of_ne_opened (by rw [halfOpen]; nofun) _
  refine ⟨admits_of_some lets, ?_⟩
  rw [after_of_some lets]
  cases how : c.completion network with
  | success =>
    have more : Attempt.successes network (calls ++ [c]) = b.successes + 1 := by
      simp [Attempt.successes, how, counted]
    have next : b.complete (c.ended network) .success = _ := succeed_of_halfOpen halfOpen
    rw [if_neg nofun, next, more]
    split
    · rename_i many
      rw [if_neg (Int.not_lt.mpr many)]
      exact ⟨rfl, rfl⟩
    · rename_i few
      rw [if_pos (Int.not_le.mp few)]
      exact ⟨rfl, halfOpen⟩
  | trackedFailure =>
    have same : Attempt.successes network (calls ++ [c]) = b.successes := by
      simp [Attempt.successes, how, counted]
    rw [if_pos rfl, same]
    exact ⟨rfl, if_pos (.inl halfOpen)⟩
  | untrackedFailure =>
    have same : Attempt.successes network (calls ++ [c]) = Attempt.successes network calls := by
      simp [Attempt.successes, how]
    rw [if_neg nofun, same, if_pos below]
    exact ⟨counted, halfOpen⟩

/-- A breaker goes on trying the service over calls of which none is a tracked failure, as long as there
have not been enough successes. -/
theorem probes (probing : b.Probing network [])
    (untracked : ∀ c ∈ calls, c.completion network ≠ .trackedFailure)
    (below : (Attempt.successes network calls : Int) < b.successThreshold) :
    b.Throughout network (Admits network) calls ∧ (b.afterAll network calls).Probing network calls := by
  induction calls using List.reverseRecOn with
  | nil => exact ⟨throughout_nil, probing⟩
  | append_singleton calls c ih =>
    have fewer : Attempt.successes network calls ≤ Attempt.successes network (calls ++ [c]) := by
      simp [Attempt.successes]
    obtain ⟨admits, probed⟩ := ih (fun c member => untracked c (List.mem_append_left _ member)) (by omega)
    have limit : (b.afterAll network calls).successThreshold = b.successThreshold :=
      (afterAll_limits b calls).successThreshold
    obtain ⟨admitted, successes, state⟩ := probe_step probed (by rw [limit]; omega) c
    rw [if_neg (untracked c (List.mem_append_right _ (List.mem_singleton_self c))), limit,
      if_pos below] at state
    rw [throughout_concat, afterAll_concat]
    exact ⟨⟨admits, admitted⟩, state, successes⟩

/-- The first call that an open breaker lets through is the first with which it tries the service. -/
theorem afterAll_probing {first : Attempt σ} (opened : b.state = .opened)
    (admits : b.Admits network first) (heads : calls.head? = some first) :
    b.afterAll network calls = b.probing.afterAll network calls := by
  obtain ⟨rest, rfl⟩ := List.head?_eq_some_iff.mp heads
  obtain ⟨passed, lets⟩ := admits.begins
  have reset : passed = b.probing := by
    rw [begin_of_opened opened] at lets
    split at lets
    · exact (Option.some.inj lets).symm
    · cases lets
  have again : b.probing.begin (first.began network) = some passed := by
    rw [begin_of_ne_opened (by simp [probing]), reset]
  change (b.after network first).afterAll network rest = (b.probing.after network first).afterAll network rest
  rw [after_of_some lets, after_of_some again]

theorem throughout_probing {first : Attempt σ} (opened : b.state = .opened)
    (admits : b.Admits network first) (heads : calls.head? = some first)
    (each : b.probing.Throughout network (Admits network) calls) :
    b.Throughout network (Admits network) calls := by
  intro earlier c before
  cases earlier with
  | nil =>
    obtain ⟨more, rfl⟩ := before
    cases heads
    exact admits
  | cons head tail =>
    have front : (head :: tail).head? = some first := by
      obtain ⟨more, rfl⟩ := before
      exact heads
    rw [afterAll_probing opened admits front]
    exact each _ _ before

/-! ## Tripping and closing -/

theorem begin_state_ne_opened (lets : b.begin now = some passed) : passed.state ≠ .opened := by
  by_cases opened : b.state = .opened
  · rw [begin_of_opened opened] at lets
    split at lets
    · cases lets
      simp [probing]
    · cases lets
  · rw [begin_of_ne_opened opened] at lets
    cases lets
    exact opened

/-- Only a tracked failure opens the circuit, and the time at which it ended is kept. -/
theorem tracked_of_opened (admits : b.Admits network c) (opened : (b.after network c).state = .opened) :
    c.completion network = .trackedFailure ∧
      (b.after network c).lastFailure = some (c.ended network) := by
  obtain ⟨passed, lets⟩ := admits.begins
  rw [after_of_some lets] at opened ⊢
  have passes := begin_state_ne_opened lets
  cases how : c.completion network with
  | trackedFailure => exact ⟨rfl, rfl⟩
  | untrackedFailure =>
    rw [how] at opened
    exact absurd opened passes
  | success =>
    rw [how] at opened
    change passed.succeed.state = .opened at opened
    by_cases halfOpen : passed.state = .halfOpen
    · rw [succeed_of_halfOpen halfOpen] at opened
      split at opened
      · cases opened
      · exact absurd opened passes
    · rw [succeed_of_ne_halfOpen halfOpen] at opened
      exact absurd opened passes

theorem begin_state_halfOpen (before : b.state ≠ .closed) (lets : b.begin now = some passed) :
    passed.state = .halfOpen := by
  have passes := begin_state_ne_opened lets
  by_cases opened : b.state = .opened
  · rw [begin_of_opened opened] at lets
    split at lets
    · cases lets
      rfl
    · cases lets
  · rw [begin_of_ne_opened opened] at lets
    cases lets
    cases state : b.state with
    | closed => exact absurd state before
    | opened => exact absurd state opened
    | halfOpen => rfl

/-- When the circuit is closed the count of failures is over. -/
theorem failures_of_closed (before : b.state ≠ .closed) (closed : (b.after network c).state = .closed) :
    (b.after network c).failures = 0 := by
  cases lets : b.begin (c.began network) with
  | none =>
    rw [(refuses_of_none lets).after] at closed
    exact absurd closed before
  | some passed =>
    have halfOpen := begin_state_halfOpen before lets
    rw [after_of_some lets] at closed ⊢
    cases how : c.completion network with
    | success =>
      rw [how] at closed
      change passed.succeed.state = .closed at closed
      change passed.succeed.failures = 0
      rw [succeed_of_halfOpen halfOpen] at closed ⊢
      split at closed
      · rename_i many
        rw [if_pos many]
      · cases halfOpen.symm.trans closed
    | trackedFailure =>
      rw [how] at closed
      cases (if_pos (.inl halfOpen)).symm.trans closed
    | untrackedFailure =>
      rw [how] at closed
      cases halfOpen.symm.trans closed

/-- Closing the circuit leaves a breaker that has counted nothing. -/
theorem Closes.counting (closes : b.Closes network calls) :
    (b.afterAll network calls).Counting network [] := by
  obtain ⟨⟨earlier, c, rfl, before⟩, closed⟩ := closes
  refine ⟨closed, ?_⟩
  rw [afterAll_concat] at closed ⊢
  exact failures_of_closed before closed

/-- **What has come of its calls decides what a breaker does.**  This is said of any calls that are sent
through a new breaker, one at a time.  If there were none, or the last one has closed the circuit, calls
are let through until enough in a row have failed, and exactly then the circuit is opened.  If the last
one has opened it, it was a tracked failure; calls are refused as long as the timeout has not passed since
it ended, and the first one after that is let through.  From this one on calls are let through until one
of them is a tracked failure, which opens the circuit again, or enough of them are successes, which close
it. -/
theorem history_decides (network : Network σ) (service : String) (failureThreshold : Int)
    (timeout : Binary64) (successThreshold : Int) (before : List (Attempt σ)) :
    let start := new service failureThreshold timeout successThreshold
    let b := start.afterAll network before
    (before = [] ∨ start.Closes network before → ∀ calls c,
      (∀ earlier, earlier <+: calls → (Attempt.streak network earlier : Int) < failureThreshold) →
      b.Throughout network (Admits network) (calls ++ [c]) ∧
      (b.afterAll network (calls ++ [c])).state =
        if (Attempt.streak network (calls ++ [c]) : Int) < failureThreshold then .closed
        else .opened) ∧
    (∀ failure, start.Trips network before failure →
      failure.completion network = .trackedFailure ∧
      ((failure.ended network).isZero = false → ∀ calls,
        (∀ c ∈ calls, timeout.less ((c.began network).sub (failure.ended network)) = false) →
        b.Throughout network (Refuses network) calls ∧
        ∀ c, timeout.less ((c.began network).sub (failure.ended network)) = true →
          (b.afterAll network calls).Admits network c)) ∧
    (b.state = .opened → ∀ calls c first, (calls ++ [c]).head? = some first → b.Admits network first →
      (∀ c ∈ calls, c.completion network ≠ .trackedFailure) →
      (Attempt.successes network calls : Int) < successThreshold →
      b.Throughout network (Admits network) (calls ++ [c]) ∧
      (b.afterAll network (calls ++ [c])).state =
        if c.completion network = .trackedFailure then .opened
        else if (Attempt.successes network (calls ++ [c]) : Int) < successThreshold then .halfOpen
        else .closed) := by
  intro start b
  have limits : b.SameLimits start := afterAll_limits start before
  refine ⟨?closed, ?opened, ?halfOpen⟩
  case closed =>
    intro fresh calls c below
    have counting : b.Counting network [] := by
      rcases fresh with rfl | closes
      · exact ⟨rfl, rfl⟩
      · exact closes.counting
    obtain ⟨admits, counted⟩ := counts counting (by rw [limits.failureThreshold]; exact below)
    have limit : (b.afterAll network calls).failureThreshold = failureThreshold :=
      (afterAll_limits b calls).failureThreshold.trans limits.failureThreshold
    obtain ⟨admitted, -, state⟩ :=
      count_step counted (by rw [limit]; exact below calls (List.prefix_refl _)) c
    rw [throughout_concat, afterAll_concat, state, limit]
    exact ⟨⟨admits, admitted⟩, rfl⟩
  case opened =>
    rintro failure ⟨⟨earlier, rfl, admits⟩, opened⟩
    have tripped := opened
    rw [afterAll_concat] at tripped
    obtain ⟨tracked, saw⟩ := tracked_of_opened admits tripped
    rw [← afterAll_concat] at saw
    refine ⟨tracked, fun something calls early => ?_⟩
    have refused : b.Throughout network (Refuses network) calls ∧ b.afterAll network calls = b :=
      waits opened saw (by rw [limits.timeout]; exact early)
    obtain ⟨refuses, same⟩ := refused
    refine ⟨refuses, fun c late => ?_⟩
    rw [same]
    exact admits_of_waited opened saw something (by rw [limits.timeout]; exact late)
  case halfOpen =>
    intro opened calls c first heads admits untracked below
    have probing : b.probing.Probing network [] := ⟨rfl, rfl⟩
    have wanted : b.probing.successThreshold = successThreshold := limits.successThreshold
    obtain ⟨admitted, probed⟩ := probes probing untracked (by rw [wanted]; exact below)
    have limit : (b.probing.afterAll network calls).successThreshold = successThreshold :=
      (afterAll_limits b.probing calls).successThreshold.trans wanted
    obtain ⟨last, -, state⟩ := probe_step probed (by rw [limit]; exact below) c
    refine ⟨throughout_probing opened admits heads (throughout_concat.mpr ⟨admitted, last⟩), ?_⟩
    rw [afterAll_probing opened admits heads, afterAll_concat, state, limit]

/-- A network whose state is the time in seconds: a server that is up answers, and any other cannot be
reached. -/
def clockwork : Network Nat where
  send call now :=
    (if call.url = "up" then .response 200 [] else .fault .connectError, now)
  pause milliseconds now := now + milliseconds / 1000
  close := id
  seconds now := .ofInt now

/-- A server cannot be reached twice, and then it is up: within the minute it is not asked, and after that
one answer is enough. -/
theorem history_decides_outage :
    let start := new "shop" 2 (.ofInt 60) 1
    let down : Call := { method := .get, url := "down" }
    let up : Call := { method := .get, url := "up" }
    let before : List (Attempt Nat) := [⟨down, 1⟩, ⟨down, 2⟩]
    let waiting : List (Attempt Nat) := [⟨up, 3⟩, ⟨up, 62⟩]
    start.Trips clockwork before ⟨down, 2⟩ ∧
    (start.afterAll clockwork before).Throughout clockwork (Refuses clockwork) waiting ∧
    (start.afterAll clockwork (before ++ waiting)).Admits clockwork ⟨up, 63⟩ ∧
    (start.afterAll clockwork (before ++ waiting ++ [⟨up, 63⟩])).state = .closed := by
  intro start down up before waiting
  have trips : start.Trips clockwork before ⟨down, 2⟩ := by
    refine ⟨⟨[⟨down, 1⟩], rfl, ?_⟩, by decide +kernel⟩
    have lets : (start.afterAll clockwork [⟨down, 1⟩]).begin (Attempt.began clockwork ⟨down, 2⟩) =
        some (start.afterAll clockwork [⟨down, 1⟩]) := by decide +kernel
    exact admits_of_some lets
  obtain ⟨-, opened, -⟩ := history_decides clockwork "shop" 2 (.ofInt 60) 1 before
  obtain ⟨-, waits⟩ := opened _ trips
  obtain ⟨refuses, admits⟩ := waits (by decide +kernel) waiting (by decide +kernel)
  have late := admits ⟨up, 63⟩ (by decide +kernel)
  rw [← afterAll_append] at late
  obtain ⟨-, -, halfOpen⟩ := history_decides clockwork "shop" 2 (.ofInt 60) 1 (before ++ waiting)
  obtain ⟨-, closes⟩ :=
    halfOpen (by decide +kernel) [] ⟨up, 63⟩ ⟨up, 63⟩ rfl late nofun (by decide +kernel)
  rw [← afterAll_append] at closes
  refine ⟨trips, refuses, late, closes.trans ?_⟩
  decide +kernel

end Breaker

end Storekeeper
