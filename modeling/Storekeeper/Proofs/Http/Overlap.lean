import Storekeeper.Proofs.Http.Circuit

/-!
# Calls that overlap at a breaker

While a call is underway others come and end, so a call that was let through in one state of the breaker
may end in another.  A history is what happens at a breaker, one step after the other: a call comes, or
one that was let through ends.  Any number of calls may be underway, and they end in any order.

* `Traffic.after_send`: a call that is sent while no other happens is a history of at most two steps.
* `Traffic.Sound` says what a history leaves behind, `Traffic.sound_step` that each step keeps it, and
  `Traffic.sound_afterAll` is the run.
* `Traffic.overlap_safe`: the limits hold at every moment; an open breaker lets no call through until the
  timeout has passed since the latest failure, and no call that ends late opens a way around that.
-/

namespace Storekeeper

open Storekeeper.Decimal

/-- A time that a clock shows, later than zero. -/
structure Instant where
  units : Nat
  positive : units ≠ 0
  representable : Binary64.Representable units

/-- The number of seconds that the clock shows. -/
def Instant.time (now : Instant) : Binary64 :=
  .finite false now.units

/-- What happens at a breaker in one step: a call comes, or one that was let through ends. -/
inductive Passage where
  | comes (call : Nat) (now : Instant)
  | ends (call : Nat) (how : Completion) (now : Instant)

namespace Passage

/-- When it happens. -/
def now : Passage → Instant
  | comes _ now => now
  | ends _ _ now => now

/-- When a call has failed, if it has failed in a tracked way. -/
def failure? : Passage → Option Instant
  | ends _ .trackedFailure now => some now
  | _ => none

/-- Whether a call has ended in success. -/
def isSuccess : Passage → Bool
  | ends _ .success _ => true
  | _ => false

/-- When the latest tracked failure was seen. -/
def lastFailure? (history : List Passage) : Option Instant :=
  (history.filterMap failure?).getLast?

/-- The clock never goes back. -/
def Chronological (history : List Passage) : Prop :=
  history.Pairwise fun first second => first.now.units ≤ second.now.units

/-- How many calls have ended in success. -/
def successes (history : List Passage) : Nat :=
  history.countP isSuccess

variable {history : List Passage} {next : Passage}

theorem lastFailure?_of_none (history : List Passage) (next : Passage)
    (quiet : next.failure? = none) : lastFailure? (history ++ [next]) = lastFailure? history := by
  simp [lastFailure?, List.filterMap_append, quiet]

theorem lastFailure?_of_some {now : Instant} (failed : next.failure? = some now) :
    lastFailure? (history ++ [next]) = some now := by
  simp [lastFailure?, List.filterMap_append, failed]

theorem lastFailure?_le {last : Instant} (ordered : Chronological (history ++ [next]))
    (seen : lastFailure? history = some last) : last.units ≤ next.now.units := by
  have member : last ∈ history.filterMap failure? := List.mem_of_getLast? seen
  obtain ⟨failure, among, failed⟩ := List.mem_filterMap.mp member
  have same : failure.now = last := by
    cases failure with
    | comes call now => cases failed
    | ends call how now =>
      cases how with
      | trackedFailure => exact Option.some.inj failed
      | _ => cases failed
  rw [← same]
  exact (List.pairwise_append.mp ordered).2.2 failure among next (List.mem_singleton_self _)

theorem successes_concat (history : List Passage) (next : Passage) :
    successes (history ++ [next]) = successes history + if next.isSuccess then 1 else 0 := by
  simp [successes, List.countP_append, List.countP_singleton]

end Passage

/-- A breaker and the calls it has let through that have not ended yet. -/
structure Traffic where
  breaker : Breaker
  underway : List Nat

namespace Traffic

/-- The traffic after a step. -/
def after (t : Traffic) : Passage → Traffic
  | .comes call now =>
    match t.breaker.begin now.time with
    | some passed => ⟨passed, call :: t.underway⟩
    | none => t
  | .ends call how now => ⟨t.breaker.complete now.time how, t.underway.erase call⟩

/-- The traffic after a history. -/
def afterAll (t : Traffic) (history : List Passage) : Traffic :=
  history.foldl after t

/-- What the breaker does with calls. -/
def state (t : Traffic) : BreakerState :=
  t.breaker.state

/-- Whether a call that comes is let through. -/
def admits (t : Traffic) (now : Instant) : Bool :=
  (t.breaker.begin now.time).isSome

/-- An open breaker has let a call through; it has been half open ever since and has seen so many
successes. -/
def Trial (start : Traffic) (history : List Passage) (successes : Nat) : Prop :=
  ∃ earlier call now probe, history = earlier ++ .comes call now :: probe ∧
    (start.afterAll earlier).state = .opened ∧
    (∀ part, part <+: probe →
      (start.afterAll (earlier ++ .comes call now :: part)).state = .halfOpen) ∧
    Passage.successes probe = successes

/-- What a history leaves behind: the counts are below their limits, and the failure that is known is the
latest one. -/
structure Sound (start : Traffic) (history : List Passage) : Prop where
  limits : (start.afterAll history).breaker.SameLimits start.breaker
  closed : (start.afterAll history).state = .closed →
    ((start.afterAll history).breaker.failures : Int) < start.breaker.failureThreshold
  halfOpen : (start.afterAll history).state = .halfOpen →
    ((start.afterAll history).breaker.successes : Int) < start.breaker.successThreshold ∧
      Trial start history (start.afterAll history).breaker.successes
  opened : (start.afterAll history).state = .opened → (Passage.lastFailure? history).isSome
  failed : (start.afterAll history).breaker.lastFailure =
    (Passage.lastFailure? history).map Instant.time

variable {start t : Traffic} {history : List Passage} {next : Passage} {call : Nat} {now : Instant}
  {b passed : Breaker}

theorem afterAll_concat (t : Traffic) (history : List Passage) (next : Passage) :
    t.afterAll (history ++ [next]) = (t.afterAll history).after next :=
  List.foldl_append

theorem after_admitted (lets : t.breaker.begin now.time = some passed) (call : Nat) :
    t.after (.comes call now) = ⟨passed, call :: t.underway⟩ := by
  simp only [after, lets]

theorem after_refused (lets : t.breaker.begin now.time = none) (call : Nat) :
    t.after (.comes call now) = t := by
  simp only [after, lets]

/-- A call that is sent while no other call comes or ends is a history of two steps, of one if it is
refused. -/
theorem after_send {σ : Type} {network : Network σ} {c : Attempt σ} {began ended : Instant}
    (begins : c.began network = began.time) (finishes : c.ended network = ended.time) (call : Nat) :
    b.after network c =
      ((Traffic.mk b []).afterAll (.comes call began ::
        if (Traffic.mk b []).admits began then [.ends call (c.completion network) ended]
        else [])).breaker := by
  unfold admits
  cases lets : b.begin began.time with
  | none =>
    rw [(Breaker.refuses_of_none (begins ▸ lets)).after]
    change b = ((Traffic.mk b []).after (.comes call began)).breaker
    rw [after_refused lets]
  | some passed =>
    rw [Breaker.after_of_some (begins ▸ lets), finishes]
    change _ = (((Traffic.mk b []).after (.comes call began)).after
      (.ends call (c.completion network) ended)).breaker
    rw [after_admitted lets]
    rfl

/-! ## The trial of a service -/

/-- A trial begins when an open breaker lets a call through. -/
theorem Trial.begun (opened : (start.afterAll history).state = .opened)
    (halfOpen : (start.afterAll (history ++ [.comes call now])).state = .halfOpen) :
    Trial start (history ++ [.comes call now]) 0 := by
  refine ⟨history, call, now, [], rfl, opened, fun part before => ?_, rfl⟩
  rw [List.prefix_nil.mp before]
  exact halfOpen

/-- A trial goes on as long as the breaker is half open. -/
theorem Trial.concat {successes : Nat} (trial : Trial start history successes)
    (halfOpen : (start.afterAll (history ++ [next])).state = .halfOpen) :
    Trial start (history ++ [next]) (successes + if next.isSuccess then 1 else 0) := by
  obtain ⟨earlier, call, now, probe, rfl, opened, throughout, rfl⟩ := trial
  refine ⟨earlier, call, now, probe ++ [next], by simp, opened, fun part before => ?_,
    Passage.successes_concat probe next⟩
  rcases List.prefix_concat_iff.mp before with rfl | before
  · simpa using halfOpen
  · exact throughout part before

/-! ## One step -/

theorem after_limits (t : Traffic) (next : Passage) :
    (t.after next).breaker.SameLimits t.breaker := by
  cases next with
  | comes call now =>
    cases lets : t.breaker.begin now.time with
    | none =>
      rw [after_refused lets]
      exact .refl _
    | some passed =>
      rw [after_admitted lets]
      exact Breaker.begin_limits lets
  | ends call how now => exact Breaker.complete_limits t.breaker now.time how

theorem Sound.limits_after (sound : Sound start history) (next : Passage) :
    (start.afterAll (history ++ [next])).breaker.SameLimits start.breaker := by
  rw [afterAll_concat]
  exact (after_limits _ next).trans sound.limits

theorem sound_nil (start : Traffic) (fresh : start.state = .closed)
    (nothing : start.breaker.failures = 0) (none : start.breaker.lastFailure = none)
    (positive : 1 ≤ start.breaker.failureThreshold) : Sound start [] where
  limits := .refl _
  closed _ := by
    change (start.breaker.failures : Int) < _
    omega
  halfOpen halfOpen := by cases fresh.symm.trans halfOpen
  opened opened := by cases fresh.symm.trans opened
  failed := none

/-- A step keeps what a history leaves behind if the breaker is as before and nothing is counted. -/
theorem sound_of_quiet (sound : Sound start history)
    (same : (start.afterAll (history ++ [next])).breaker = (start.afterAll history).breaker)
    (unfailed : next.failure? = none) (unsuccessful : next.isSuccess = false) :
    Sound start (history ++ [next]) := by
  have state : (start.afterAll (history ++ [next])).state = (start.afterAll history).state :=
    congrArg Breaker.state same
  have seen := Passage.lastFailure?_of_none history next unfailed
  refine ⟨sound.limits_after next, ?closed, ?halfOpen, ?opened, ?failed⟩
  case closed =>
    rw [same, state]
    exact sound.closed
  case halfOpen =>
    intro halfOpen
    obtain ⟨below, trial⟩ := sound.halfOpen (state ▸ halfOpen)
    have more := trial.concat halfOpen
    rw [unsuccessful] at more
    rw [same]
    exact ⟨below, more⟩
  case opened =>
    rw [seen, state]
    exact sound.opened
  case failed =>
    rw [seen, same]
    exact sound.failed

theorem sound_comes (sound : Sound start history) (positive : 1 ≤ start.breaker.successThreshold)
    (call : Nat) (now : Instant) : Sound start (history ++ [.comes call now]) := by
  have next := afterAll_concat start history (.comes call now)
  cases lets : (start.afterAll history).breaker.begin now.time with
  | none =>
    rw [after_refused lets] at next
    exact sound_of_quiet sound (congrArg breaker next) rfl rfl
  | some passed =>
    rw [after_admitted lets] at next
    by_cases opened : (start.afterAll history).state = .opened
    · have probing : passed = (start.afterAll history).breaker.probing := by
        rw [Breaker.begin_of_opened opened] at lets
        split at lets
        · exact (Option.some.inj lets).symm
        · cases lets
      subst probing
      have halfOpen : (start.afterAll (history ++ [.comes call now])).state = .halfOpen :=
        congrArg state next
      have seen := Passage.lastFailure?_of_none history (.comes call now) rfl
      refine ⟨sound.limits_after _, ?closed, ?halfOpen, ?opened, ?failed⟩
      case closed => exact fun closed => nomatch halfOpen.symm.trans closed
      case opened => exact fun opened => nomatch halfOpen.symm.trans opened
      case halfOpen =>
        have nothing : (start.afterAll (history ++ [.comes call now])).breaker.successes = 0 := by
          rw [next]
          rfl
        intro _
        rw [nothing]
        exact ⟨by omega, Trial.begun opened halfOpen⟩
      case failed =>
        rw [seen, next]
        exact sound.failed
    · rw [Breaker.begin_of_ne_opened opened] at lets
      cases lets
      exact sound_of_quiet sound ((congrArg breaker next).trans rfl) rfl rfl

theorem sound_success (sound : Sound start history) (positive : 1 ≤ start.breaker.failureThreshold)
    (call : Nat) (now : Instant) : Sound start (history ++ [.ends call .success now]) := by
  have next : (start.afterAll (history ++ [.ends call .success now])).breaker =
      (start.afterAll history).breaker.succeed :=
    congrArg breaker (afterAll_concat start history (.ends call .success now))
  have seen := Passage.lastFailure?_of_none history (.ends call .success now) rfl
  have limits := sound.limits_after (.ends call .success now)
  by_cases halfOpen : (start.afterAll history).state = .halfOpen
  · obtain ⟨below, trial⟩ := sound.halfOpen halfOpen
    rw [Breaker.succeed_of_halfOpen halfOpen, sound.limits.successThreshold] at next
    split at next
    · have closed : (start.afterAll (history ++ [.ends call .success now])).state = .closed :=
        congrArg Breaker.state next
      refine ⟨limits, fun _ => ?_, fun halfOpen => ?_, fun opened => ?_, ?_⟩
      · rw [next]
        change ((0 : Nat) : Int) < _
        omega
      · cases closed.symm.trans halfOpen
      · cases closed.symm.trans opened
      · rw [seen, next]
        exact sound.failed
    · rename_i few
      have still : (start.afterAll (history ++ [.ends call .success now])).state = .halfOpen :=
        (congrArg Breaker.state next).trans halfOpen
      refine ⟨limits, fun closed => ?_, fun _ => ?_, fun opened => ?_, ?_⟩
      · cases still.symm.trans closed
      · have more := trial.concat still
        rw [next]
        exact ⟨Int.not_le.mp few, more⟩
      · cases still.symm.trans opened
      · rw [seen, next]
        exact sound.failed
  · rw [Breaker.succeed_of_ne_halfOpen halfOpen] at next
    have same : (start.afterAll (history ++ [.ends call .success now])).state =
        (start.afterAll history).state := (congrArg Breaker.state next).trans rfl
    refine ⟨limits, fun _ => ?_, fun tried => ?_, fun opened => ?_, ?_⟩
    · rw [next]
      change ((0 : Nat) : Int) < _
      omega
    · exact absurd (same.symm.trans tried) halfOpen
    · rw [seen]
      exact sound.opened (same.symm.trans opened)
    · rw [seen, next]
      exact sound.failed

theorem sound_failure (sound : Sound start history) (call : Nat) (now : Instant) :
    Sound start (history ++ [.ends call .trackedFailure now]) := by
  have next : (start.afterAll (history ++ [.ends call .trackedFailure now])).breaker =
      (start.afterAll history).breaker.fail now.time :=
    congrArg breaker (afterAll_concat start history (.ends call .trackedFailure now))
  have seen : Passage.lastFailure? (history ++ [.ends call .trackedFailure now]) = some now :=
    Passage.lastFailure?_of_some rfl
  have state : (start.afterAll (history ++ [.ends call .trackedFailure now])).state =
      if (start.afterAll history).state = .halfOpen ∨
          start.breaker.failureThreshold ≤ ((start.afterAll history).breaker.failures + 1 : Nat)
        then .opened else (start.afterAll history).state := by
    rw [← sound.limits.failureThreshold]
    exact congrArg Breaker.state next
  refine ⟨sound.limits_after _, fun closed => ?closed, fun halfOpen => ?halfOpen, fun _ => ?opened,
    ?failed⟩
  case closed =>
    rw [state] at closed
    split at closed
    · cases closed
    · rename_i few
      rw [next]
      exact Int.not_le.mp (not_or.mp few).2
  case halfOpen =>
    rw [state] at halfOpen
    split at halfOpen
    · cases halfOpen
    · rename_i few
      exact absurd halfOpen (not_or.mp few).1
  case opened => exact seen ▸ rfl
  case failed =>
    rw [seen, next]
    rfl

/-- Each step keeps what the history before it has left behind. -/
theorem sound_step (sound : Sound start history) (failures : 1 ≤ start.breaker.failureThreshold)
    (successes : 1 ≤ start.breaker.successThreshold) (next : Passage) :
    Sound start (history ++ [next]) := by
  cases next with
  | comes call now => exact sound_comes sound successes call now
  | ends call how now =>
    cases how with
    | success => exact sound_success sound failures call now
    | trackedFailure => exact sound_failure sound call now
    | untrackedFailure =>
      have next := afterAll_concat start history (.ends call .untrackedFailure now)
      exact sound_of_quiet sound ((congrArg breaker next).trans rfl) rfl rfl

/-- Every history that begins with a new breaker leaves the same behind. -/
theorem sound_afterAll (service : String) {failureThreshold successThreshold : Int} (timeout : Binary64)
    (failures : 1 ≤ failureThreshold) (successes : 1 ≤ successThreshold) (history : List Passage) :
    Sound ⟨.new service failureThreshold timeout successThreshold, []⟩ history := by
  induction history using List.reverseRecOn with
  | nil => exact sound_nil _ rfl rfl rfl failures
  | append_singleton history next ih => exact sound_step ih failures successes next

/-! ## What a step may do -/

/-- An open breaker lets a call through when the timeout has passed since the latest failure. -/
theorem Sound.admits_iff (sound : Sound start history) (opened : (start.afterAll history).state = .opened) :
    ∃ last, Passage.lastFailure? history = some last ∧ ∀ now,
      (start.afterAll history).admits now = start.breaker.timeout.less (now.time.sub last.time) := by
  obtain ⟨last, seen⟩ := Option.isSome_iff_exists.mp (sound.opened opened)
  have failed := sound.failed
  rw [seen] at failed
  change _ = some last.time at failed
  refine ⟨last, seen, fun now => ?_⟩
  have waited : (start.afterAll history).breaker.hasWaited now.time =
      start.breaker.timeout.less (now.time.sub last.time) := by
    simp [Breaker.hasWaited, failed, sound.limits.timeout, Instant.time, Binary64.isZero,
      last.positive]
  unfold admits
  rw [Breaker.begin_of_opened opened, waited]
  split
  · rename_i late
    rw [late]
    rfl
  · rename_i early
    rw [eq_false_of_ne_true early]
    rfl

/-- A call that ends leaves an open breaker open. -/
theorem opened_of_ends (opened : t.state = .opened) (call : Nat) (how : Completion) (now : Instant) :
    (t.after (.ends call how now)).state = .opened := by
  cases how with
  | success =>
    have next : t.breaker.succeed = _ :=
      Breaker.succeed_of_ne_halfOpen (b := t.breaker) fun halfOpen => nomatch opened.symm.trans halfOpen
    exact (congrArg Breaker.state next).trans opened
  | trackedFailure =>
    change (if _ then BreakerState.opened else t.state) = .opened
    rw [opened, ite_self]
  | untrackedFailure => exact opened

/-- A breaker closes only when a call ends in success while it is half open. -/
theorem success_of_closed (other : t.state ≠ .closed) (closed : (t.after next).state = .closed) :
    t.state = .halfOpen ∧ next.isSuccess = true ∧
      t.breaker.successThreshold ≤ ((t.breaker.successes + 1 : Nat) : Int) := by
  cases next with
  | comes call now =>
    cases lets : t.breaker.begin now.time with
    | none =>
      rw [after_refused lets] at closed
      exact absurd closed other
    | some passed =>
      rw [after_admitted lets] at closed
      cases (Breaker.begin_state_halfOpen other lets).symm.trans closed
  | ends call how now =>
    have unopened : t.state ≠ .opened := fun opened =>
      nomatch (opened_of_ends opened call how now).symm.trans closed
    have halfOpen : t.state = .halfOpen := by
      cases state : t.state with
      | closed => exact absurd state other
      | opened => exact absurd state unopened
      | halfOpen => rfl
    cases how with
    | success =>
      refine ⟨halfOpen, rfl, ?_⟩
      change t.breaker.succeed.state = .closed at closed
      rw [Breaker.succeed_of_halfOpen halfOpen] at closed
      split at closed
      · assumption
      · exact absurd closed other
    | trackedFailure =>
      cases (if_pos (.inl halfOpen)).symm.trans closed
    | untrackedFailure => exact absurd closed other

/-- A breaker closes through as many successes as it takes, all of them seen while it was half open. -/
theorem Sound.trial_of_closed (sound : Sound start history)
    (other : (start.afterAll history).state ≠ .closed)
    (closed : ((start.afterAll history).after next).state = .closed) :
    ∃ successes, Trial start history successes ∧ next.isSuccess = true ∧
      ((successes + 1 : Nat) : Int) = start.breaker.successThreshold := by
  obtain ⟨halfOpen, success, many⟩ := success_of_closed other closed
  obtain ⟨below, trial⟩ := sound.halfOpen halfOpen
  rw [sound.limits.successThreshold] at many
  exact ⟨_, trial, success, by omega⟩

/-- **Overlapping calls are no way around a breaker.**  Nothing is asked of a history but that the clock
does not go back, so this is said of any number of calls that come and end in any order.  A closed breaker
has counted fewer failures than open it, a half-open one fewer successes than close it, and an open one
knows the latest tracked failure, also of a call that was let through before.  While it is open a call is
let through exactly when more than the timeout has passed since then by the difference of the clock's
numbers, and so only when it really has; any other call changes nothing.  A call that ends leaves an open breaker
open, and a breaker that is not closed is closed only by the last of as many successes as it takes, seen
without interruption since an open breaker let a call through. -/
theorem overlap_safe (service : String) (failureThreshold successThreshold : Int) (timeout : Binary64)
    (failures : 1 ≤ failureThreshold) (successes : 1 ≤ successThreshold) (number : timeout.IsNumber)
    (history : List Passage) :
    let start : Traffic := ⟨.new service failureThreshold timeout successThreshold, []⟩
    let t := start.afterAll history
    (t.state = .closed → (t.breaker.failures : Int) < failureThreshold) ∧
    (t.state = .halfOpen → (t.breaker.successes : Int) < successThreshold) ∧
    (t.state = .opened → ∃ last, Passage.lastFailure? history = some last ∧
      t.breaker.lastFailure = some last.time ∧
      ∀ call now, Passage.Chronological (history ++ [.comes call now]) →
        (timeout.less (now.time.sub last.time) = true →
          (t.after (.comes call now)).underway = call :: t.underway ∧
            timeout.IsBelow (now.units - last.units)) ∧
        (timeout.less (now.time.sub last.time) = false → t.after (.comes call now) = t)) ∧
    (t.state = .opened → ∀ call how now, (t.after (.ends call how now)).state = .opened) ∧
    (t.state ≠ .closed → ∀ next, (t.after next).state = .closed →
      ∃ seen, Trial start history seen ∧ next.isSuccess = true ∧
        ((seen + 1 : Nat) : Int) = successThreshold) := by
  intro start t
  have sound : Sound start history := sound_afterAll service timeout failures successes history
  refine ⟨sound.closed, fun halfOpen => (sound.halfOpen halfOpen).1, fun opened => ?_,
    opened_of_ends, fun other next => sound.trial_of_closed other⟩
  obtain ⟨last, seen, admitted⟩ := sound.admits_iff opened
  have failed := sound.failed
  rw [seen] at failed
  refine ⟨last, seen, failed, fun call now ordered => ?_⟩
  have decided : t.admits now = timeout.less (now.time.sub last.time) := admitted now
  unfold admits at decided
  constructor
  · intro late
    obtain ⟨passed, lets⟩ := Option.isSome_iff_exists.mp (decided.trans late)
    have since : last.units ≤ now.units := Passage.lastFailure?_le ordered seen
    rw [after_admitted lets]
    exact ⟨rfl, Binary64.isBelow_of_less number now.representable last.positive since late⟩
  · intro early
    have lets := Option.isSome_eq_false_iff.mp (decided.trans early)
    exact after_refused (Option.isNone_iff_eq_none.mp lets) call

end Traffic

/-- A whole number of seconds. -/
def Instant.ofSeconds (n : Nat) (positive : n ≠ 0 := by decide) (small : n ≤ 2 ^ 53 := by decide) :
    Instant where
  units := n * Binary64.one
  positive := Nat.mul_ne_zero positive (Nat.ne_of_gt Binary64.zero_lt_units)
  representable :=
    { onGrid := Binary64.spacing_dvd small 1074
      finite := by
        have least : n < 2 ^ 54 := by omega
        have room : 2 ^ 54 * Binary64.one ≤ Binary64.bound := by decide +kernel
        exact Nat.lt_of_lt_of_le (Nat.mul_lt_mul_of_pos_right least Binary64.zero_lt_units) room }

/-- Three calls are underway when the service fails.  Two of them fail and open the circuit, and the third
ends in success afterwards, which does not close it.  The next call is let through when more than a minute
has passed since the second failure and no sooner, and its success closes the circuit. -/
theorem Traffic.overlap_safe_late :
    let start : Traffic := ⟨.new "shop" 2 (.ofInt 60) 1, []⟩
    let failed : Instant := .ofSeconds 5
    let waited : Instant := .ofSeconds 66
    let failing : List Passage :=
      [.comes 1 (.ofSeconds 1), .comes 2 (.ofSeconds 2), .comes 3 (.ofSeconds 3),
       .ends 1 .trackedFailure (.ofSeconds 4), .ends 2 .trackedFailure failed]
    let late : List Passage := failing ++ [.ends 3 .success (.ofSeconds 6)]
    let trying : List Passage := late ++ [.comes 4 waited]
    (start.afterAll late).state = .opened ∧ (start.afterAll late).breaker.failures = 0 ∧
    (start.afterAll late).after (.comes 4 (.ofSeconds 65)) = start.afterAll late ∧
    (start.afterAll trying).underway = [4] ∧
    (Binary64.ofInt 60).IsBelow (waited.units - failed.units) ∧
    (start.afterAll (trying ++ [.ends 4 .success (.ofSeconds 67)])).state = .closed ∧
    ∃ seen, Trial start trying seen ∧ ((seen + 1 : Nat) : Int) = 1 := by
  intro start failed waited failing late trying
  have number : (Binary64.ofInt 60).IsNumber := Binary64.ofRatio_isNumber _ _ _
  have safe := overlap_safe "shop" 2 1 (.ofInt 60) (by decide) (by decide) number
  obtain ⟨-, -, -, ends, -⟩ := safe failing
  have opened : (start.afterAll late).state = .opened := ends (by decide +kernel) 3 .success _
  obtain ⟨-, -, waits, -, -⟩ := safe late
  obtain ⟨last, seen, -, admits⟩ := waits opened
  have same : last = failed := (Option.some.inj seen).symm
  subst same
  obtain ⟨-, refused⟩ := admits 4 (.ofSeconds 65) (by unfold Passage.Chronological; decide +kernel)
  obtain ⟨passed, -⟩ := admits 4 waited (by unfold Passage.Chronological; decide +kernel)
  obtain ⟨entered, since⟩ := passed (by decide +kernel)
  rw [← afterAll_concat] at entered
  have others : (start.afterAll late).underway = [] := by decide +kernel
  obtain ⟨-, -, -, -, closes⟩ := safe trying
  have closed : ((start.afterAll trying).after (.ends 4 .success (.ofSeconds 67))).state = .closed := by
    decide +kernel
  obtain ⟨seen, trial, -, enough⟩ := closes (by decide +kernel) _ closed
  rw [← afterAll_concat] at closed
  exact ⟨opened, by decide +kernel, refused (by decide +kernel), entered.trans (congrArg _ others), since,
    closed, seen, trial, enough⟩

end Storekeeper
