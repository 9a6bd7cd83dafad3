/-!
# Tallies

A tally says how often each of some things has been counted.
-/

namespace Storekeeper

/-- How often each thing has been counted, in the order of the first counts. -/
abbrev Tally (α : Type) : Type :=
  List (α × Nat)

namespace Tally

variable {α : Type} [DecidableEq α]

/-- The tally with a thing counted once more. -/
def count : Tally α → α → Tally α
  | [], thing => [(thing, 1)]
  | (other, n) :: rest, thing =>
    if other = thing then (other, n + 1) :: rest else (other, n) :: count rest thing

/-- How often a thing has been counted. -/
def of (tally : Tally α) (thing : α) : Nat :=
  ((tally.find? fun entry => entry.1 = thing).map Prod.snd).getD 0

/-- How many counts there have been. -/
def total : List (α × Nat) → Nat
  | [] => 0
  | (_, n) :: rest => n + total rest

/-- Counting adds one to the number of counts. -/
@[simp]
theorem total_count (tally : Tally α) (thing : α) : total (count tally thing) = total tally + 1 := by
  induction tally with
  | nil => rfl
  | cons entry rest ih =>
    obtain ⟨other, n⟩ := entry
    by_cases same : other = thing
    · simp only [count, same, if_true, total]
      omega
    · simp only [count, same, if_false, total, ih]
      omega

/-- Counting a thing adds one to how often it has been counted, and nothing to the others. -/
theorem of_count (tally : Tally α) (thing other : α) :
    (tally.count thing).of other = tally.of other + if thing = other then 1 else 0 := by
  induction tally with
  | nil => by_cases same : thing = other <;> simp [count, of, same]
  | cons entry rest ih =>
    obtain ⟨first, n⟩ := entry
    unfold of at ih ⊢
    by_cases here : first = thing
    · subst here
      by_cases same : first = other <;> simp [count, same]
    · by_cases same : first = other
      · subst same
        simp [count, here, Ne.symm here]
      · simpa [count, here, same] using ih

/-- A tally after one more count of a thing. -/
structure OneMore (before : Tally α) (thing : α) (after : Tally α) : Prop where
  own : after.of thing = before.of thing + 1
  others : ∀ other, other ≠ thing → after.of other = before.of other
  all : total after = total before + 1

theorem oneMore_count (tally : Tally α) (thing : α) : tally.OneMore thing (tally.count thing) where
  own := by rw [of_count, if_pos rfl]
  others other different := by rw [of_count, if_neg (Ne.symm different), Nat.add_zero]
  all := total_count tally thing

/-- In a tally just these things have been counted. -/
structure Counts (tally : Tally α) (things : List α) : Prop where
  each : ∀ thing, tally.of thing = things.count thing
  all : total tally = things.length

theorem counts_nil : Counts ([] : Tally α) [] :=
  ⟨fun _ => rfl, rfl⟩

theorem Counts.count {tally : Tally α} {things : List α} (counts : tally.Counts things) (thing : α) :
    (tally.count thing).Counts (things ++ [thing]) where
  each other := by simp [of_count, counts.each, List.count_append, List.count_singleton]
  all := by rw [total_count, counts.all, List.length_append, List.length_singleton]

theorem OneMore.ne {before after : Tally α} {thing : α} (more : before.OneMore thing after) : after ≠ before := by
  rintro rfl
  exact absurd more.all (by omega)

/-- One of the things that tell of something has been counted once, unless it is left out; and then nothing has. -/
structure OnceUnless (before : Tally α) (out : Prop) (tells : α → Prop) (after : Tally α) : Prop where
  once_iff : (∃ thing, tells thing ∧ before.OneMore thing after) ↔ ¬out
  missed : out → after = before

theorem onceUnless_count {out : Prop} {tells : α → Prop} {thing : α} (counted : ¬out) (told : tells thing)
    (before : Tally α) : before.OnceUnless out tells (before.count thing) where
  once_iff := iff_of_true ⟨thing, told, before.oneMore_count thing⟩ counted
  missed left := absurd left counted

theorem onceUnless_self {out : Prop} (left : out) (before : Tally α) (tells : α → Prop) :
    before.OnceUnless out tells before where
  once_iff := iff_of_false (fun ⟨_, _, more⟩ => more.ne rfl) (not_not_intro left)
  missed _ := rfl

end Tally

end Storekeeper
