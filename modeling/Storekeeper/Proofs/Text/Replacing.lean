import Mathlib.Algebra.GroupWithZero.Nat
import Storekeeper.Text.Replace

/-!
# Replacing a text that begins as it does not go on

If the first character of a text does not come again in it, two of its occurrences never share a character.  So its
occurrences at some places of a text can be told from those in the gaps between these places: the text is a `row` of
gaps.

* `occurrences` is how often a text occurs in another.
* `occurrences_row`, `replaceChars_row`: in a row, the places and the gaps are counted and replaced apart.
* `replaceChars_row_eq_iff`: to replace every occurrence is to replace those between the gaps, just if there are no
  others or nothing changes.
-/

namespace Storekeeper.Text

/-- How often a text occurs in another. -/
def occurrences (part : List Char) : List Char → Nat
  | [] => 0
  | c :: rest => (if part.isPrefixOf (c :: rest) then 1 else 0) + occurrences part rest

theorem replaceChars_cons (old new : List Char) (c : Char) (rest : List Char) :
    replaceChars old new (c :: rest) =
      if old.isPrefixOf (c :: rest) then new ++ replaceChars old new (rest.drop (old.length - 1))
      else c :: replaceChars old new rest := by
  rw [replaceChars]

/-- A first gap and further ones, each behind the same text. -/
def row (mark first : List Char) (others : List (List Char)) : List Char :=
  first ++ others.flatMap (mark ++ ·)

theorem row_cons (mark first gap : List Char) (others : List (List Char)) :
    row mark first (gap :: others) = first ++ mark ++ row mark gap others := by
  simp [row]

theorem length_row (mark first : List Char) (others : List (List Char)) :
    (row mark first others).length = (first ++ others.flatten).length + others.length * mark.length := by
  induction others generalizing first with
  | nil => simp [row]
  | cons gap others ih =>
    rw [row_cons, List.length_append, List.length_append, ih, List.length_cons, Nat.succ_mul]
    simp
    omega

variable {opening : Char} {tail new : List Char}

/-- An occurrence at the front of a text ends there or reaches over. -/
theorem prefix_append_cases {part front after : List Char} (begins : part <+: front ++ after) :
    part <+: front ∨ ∃ c beyond, part = front ++ c :: beyond ∧ c :: beyond <+: after := by
  obtain ⟨rest, same⟩ := begins
  rcases List.append_eq_append_iff.mp same with ⟨between, whole, -⟩ | ⟨beyond, whole, across⟩
  · exact .inl ⟨between, whole.symm⟩
  · cases beyond with
    | nil => exact .inl ⟨[], by rw [List.append_nil, whole, List.append_nil]⟩
    | cons c beyond => exact .inr ⟨c, beyond, whole, rest, across.symm⟩

/-- An occurrence that begins before another one ends before it. -/
theorem prefix_before_iff (once : opening ∉ tail) (c : Char) (front after : List Char) :
    opening :: tail <+: c :: front ++ (opening :: tail ++ after) ↔ opening :: tail <+: c :: front := by
  refine ⟨fun begins => ?_, fun begins => begins.trans (List.prefix_append (c :: front) _)⟩
  rcases prefix_append_cases begins with within | ⟨d, beyond, whole, rest, across⟩
  · exact within
  · -- What reaches over begins like the other occurrence, and is in the tail of the first.
    obtain ⟨rfl, -⟩ := List.cons.inj across
    obtain ⟨-, tails⟩ := List.cons.inj whole
    exact absurd (tails ▸ List.mem_append_right front (List.mem_cons_self ..)) once

/-- Where the first character is missing, no occurrence begins. -/
theorem occurrences_skip {front : List Char} (missing : opening ∉ front) (after : List Char) :
    occurrences (opening :: tail) (front ++ after) = occurrences (opening :: tail) after := by
  induction front with
  | nil => rfl
  | cons c front ih =>
    obtain ⟨different, later⟩ : opening ≠ c ∧ opening ∉ front := by simpa using missing
    rw [List.cons_append, occurrences, ih later]
    simp [different]

/-- No occurrence has a character that does not come in it. -/
theorem occurrences_apart {part : List Char} {c : Char} (foreign : c ∉ part) (filled : part ≠ []) (front after : List Char) :
    occurrences part (front ++ c :: after) = occurrences part front + occurrences part after := by
  induction front with
  | nil =>
    have other : ¬part.isPrefixOf (c :: after) = true := fun begins => by
      obtain ⟨first, rest, rfl⟩ := List.exists_cons_of_ne_nil filled
      obtain ⟨more, same⟩ := List.isPrefixOf_iff_prefix.mp begins
      exact foreign ((List.cons.inj same).1 ▸ List.mem_cons_self ..)
    have here : occurrences part (c :: after) = 0 + occurrences part after := by rw [occurrences, if_neg other]
    exact here
  | cons d front ih =>
    have same : part.isPrefixOf (d :: (front ++ c :: after)) = part.isPrefixOf (d :: front) := by
      rw [Bool.eq_iff_iff, List.isPrefixOf_iff_prefix, List.isPrefixOf_iff_prefix]
      refine ⟨fun begins => ?_, fun begins => begins.trans (List.prefix_append (d :: front) _)⟩
      rw [← List.cons_append] at begins
      rcases prefix_append_cases begins with within | ⟨e, beyond, whole, rest, across⟩
      · exact within
      · obtain ⟨rfl, -⟩ := List.cons.inj across
        exact absurd (whole ▸ List.mem_append_right (d :: front) (List.mem_cons_self ..)) foreign
    rw [List.cons_append, occurrences, ih, same, occurrences]
    omega

theorem occurrences_between (once : opening ∉ tail) (front after : List Char) :
    occurrences (opening :: tail) (front ++ (opening :: tail ++ after)) =
      occurrences (opening :: tail) front + 1 + occurrences (opening :: tail) after := by
  induction front with
  | nil =>
    have begins : (opening :: tail).isPrefixOf (opening :: (tail ++ after)) = true :=
      List.isPrefixOf_iff_prefix.mpr ⟨after, rfl⟩
    have here : occurrences (opening :: tail) (opening :: (tail ++ after)) =
        1 + occurrences (opening :: tail) (tail ++ after) := by rw [occurrences, if_pos begins]
    rw [occurrences_skip once] at here
    rw [List.nil_append, List.cons_append, here, occurrences]
  | cons c front ih =>
    have same : (opening :: tail).isPrefixOf (c :: (front ++ (opening :: tail ++ after))) =
        (opening :: tail).isPrefixOf (c :: front) := by
      rw [Bool.eq_iff_iff, List.isPrefixOf_iff_prefix, List.isPrefixOf_iff_prefix]
      exact prefix_before_iff once c front after
    rw [List.cons_append, occurrences, ih, same, occurrences]
    omega

theorem replaceChars_between (once : opening ∉ tail) (new front after : List Char) :
    replaceChars (opening :: tail) new (front ++ (opening :: tail ++ after)) =
      replaceChars (opening :: tail) new front ++ (new ++ replaceChars (opening :: tail) new after) := by
  fun_induction replaceChars (opening :: tail) new front with
  | case1 =>
    have begins : (opening :: tail).isPrefixOf (opening :: (tail ++ after)) = true :=
      List.isPrefixOf_iff_prefix.mpr ⟨after, rfl⟩
    rw [List.nil_append, List.cons_append, replaceChars_cons, if_pos begins, List.length_cons,
      Nat.add_sub_cancel, List.drop_left, List.nil_append]
  | case2 c front begins ih =>
    have whole : (opening :: tail).isPrefixOf (c :: (front ++ (opening :: tail ++ after))) = true :=
      List.isPrefixOf_iff_prefix.mpr
        ((prefix_before_iff once c front after).mpr (List.isPrefixOf_iff_prefix.mp begins))
    have within : (opening :: tail).length - 1 ≤ front.length := by
      have bound := (List.isPrefixOf_iff_prefix.mp begins).length_le
      rwa [List.length_cons, List.length_cons, Nat.succ_le_succ_iff] at bound
    rw [List.cons_append, replaceChars_cons, if_pos whole, List.drop_append_of_le_length within, ih, List.append_assoc]
  | case3 c front other ih =>
    have whole : ¬(opening :: tail).isPrefixOf (c :: (front ++ (opening :: tail ++ after))) = true := fun begins =>
      other (List.isPrefixOf_iff_prefix.mpr
        ((prefix_before_iff once c front after).mp (List.isPrefixOf_iff_prefix.mp begins)))
    rw [List.cons_append, replaceChars_cons, if_neg whole, ih, List.cons_append]

/-- What occurs in a row is in the gaps or behind one of them. -/
theorem occurrences_row (once : opening ∉ tail) (first : List Char) (others : List (List Char)) :
    occurrences (opening :: tail) (row (opening :: tail) first others) =
      others.length + ((first :: others).map (occurrences (opening :: tail))).sum := by
  induction others generalizing first with
  | nil => simp [row]
  | cons gap others ih =>
    rw [row_cons, List.append_assoc, occurrences_between once, ih]
    simp only [List.length_cons, List.map_cons, List.sum_cons]
    omega

/-- The places between the gaps and the gaps are replaced apart. -/
theorem replaceChars_row (once : opening ∉ tail) (new first : List Char) (others : List (List Char)) :
    replaceChars (opening :: tail) new (row (opening :: tail) first others) =
      row new (replaceChars (opening :: tail) new first) (others.map (replaceChars (opening :: tail) new)) := by
  induction others generalizing first with
  | nil => simp [row]
  | cons gap others ih =>
    rw [row_cons, List.append_assoc, replaceChars_between once, ih, List.map_cons, row_cons, List.append_assoc]

theorem row_map_of_eq {change : List Char → List Char} {first : List Char} {others : List (List Char)} {mark : List Char}
    (kept : ∀ gap ∈ first :: others, change gap = gap) :
    row mark (change first) (others.map change) = row mark first others := by
  rw [kept first (List.mem_cons_self ..),
    List.map_congr_left fun gap member => kept gap (List.mem_cons_of_mem first member), List.map_id']

/-- Gaps of equal lengths can be told from the row. -/
theorem kept_of_row_eq {change : List Char → List Char} {first mark : List Char} {others : List (List Char)}
    (lengths : ∀ gap, (change gap).length = gap.length)
    (same : row mark (change first) (others.map change) = row mark first others) :
    ∀ gap ∈ first :: others, change gap = gap := by
  induction others generalizing first with
  | nil =>
    simpa [row] using same
  | cons gap others ih =>
    rw [List.map_cons, row_cons, row_cons] at same
    obtain ⟨front, rest⟩ := List.append_inj same (by simp [lengths])
    obtain ⟨here, -⟩ := List.append_inj front (lengths first)
    intro each member
    rcases List.mem_cons.mp member with rfl | later
    · exact here
    · exact ih rest each later

theorem drop_of_isPrefixOf {old rest : List Char} {c : Char} (filled : old ≠ [])
    (begins : old.isPrefixOf (c :: rest) = true) : c :: rest = old ++ rest.drop (old.length - 1) := by
  obtain ⟨after, whole⟩ := List.isPrefixOf_iff_prefix.mp begins
  cases old with
  | nil => exact absurd rfl filled
  | cons d old =>
    obtain ⟨rfl, rfl⟩ := List.cons.inj whole
    simp

/-- What does not occur is not replaced. -/
theorem replaceChars_of_none {old : List Char} (new : List Char) {cs : List Char} (none : occurrences old cs = 0) :
    replaceChars old new cs = cs := by
  induction cs with
  | nil => rw [replaceChars]
  | cons c rest ih =>
    rw [occurrences] at none
    obtain ⟨here, later⟩ := Nat.add_eq_zero_iff.mp none
    have other : ¬old.isPrefixOf (c :: rest) = true := fun begins => by simp [begins] at here
    rw [replaceChars_cons, if_neg other, ih later]

/-- To replace a text by itself changes nothing. -/
theorem replaceChars_self {old : List Char} (filled : old ≠ []) (cs : List Char) : replaceChars old old cs = cs := by
  fun_induction replaceChars old old cs with
  | case1 => rfl
  | case2 c rest begins ih => rw [ih, ← drop_of_isPrefixOf filled begins]
  | case3 c rest other ih => rw [ih]

/-- A text gets longer by as much as each of its occurrences does. -/
theorem length_replaceChars (once : opening ∉ tail) (new cs : List Char) :
    (replaceChars (opening :: tail) new cs).length + occurrences (opening :: tail) cs * (opening :: tail).length =
      cs.length + occurrences (opening :: tail) cs * new.length := by
  fun_induction replaceChars (opening :: tail) new cs with
  | case1 => simp [occurrences]
  | case2 c rest begins ih =>
    have whole := drop_of_isPrefixOf (List.cons_ne_nil opening tail) begins
    have counted := occurrences_between once [] (rest.drop ((opening :: tail).length - 1))
    rw [List.nil_append, ← whole] at counted
    have length := congrArg List.length whole
    rw [List.length_append] at length ⊢
    rw [length, counted]
    simp only [occurrences, Nat.zero_add, Nat.add_mul, Nat.one_mul]
    omega
  | case3 c rest other ih =>
    have counted : occurrences (opening :: tail) (c :: rest) = occurrences (opening :: tail) rest := by
      rw [occurrences, if_neg other, Nat.zero_add]
    have longer : ∀ cs : List Char, (c :: cs).length = cs.length + 1 := fun _ => rfl
    rw [counted, longer, longer]
    omega

/-- A text that is not changed by replacing an occurrence by a text of its length has no occurrence, or it is
replaced by itself. -/
theorem eq_or_none_of_replaceChars {cs : List Char} (long : new.length = (opening :: tail).length)
    (same : replaceChars (opening :: tail) new cs = cs) :
    new = opening :: tail ∨ occurrences (opening :: tail) cs = 0 := by
  fun_induction replaceChars (opening :: tail) new cs with
  | case1 => exact .inr rfl
  | case2 c rest begins ih =>
    rw [drop_of_isPrefixOf (List.cons_ne_nil opening tail) begins] at same
    exact .inl (List.append_inj same long).1
  | case3 c rest other ih =>
    rw [occurrences, if_neg other, Nat.zero_add]
    exact ih (List.cons.inj same).2

/-- To replace every occurrence is to replace those between the gaps, just if there are no others or nothing
changes. -/
theorem replaceChars_row_eq_iff (once : opening ∉ tail) (new first : List Char) (others : List (List Char)) :
    replaceChars (opening :: tail) new (row (opening :: tail) first others) = row new first others ↔
      new = opening :: tail ∨ occurrences (opening :: tail) (row (opening :: tail) first others) = others.length := by
  have counted := occurrences_row once first others
  have lengths := length_replaceChars once new (row (opening :: tail) first others)
  constructor
  · intro same
    rw [same, length_row, length_row, counted] at lengths
    generalize extra : ((first :: others).map (occurrences (opening :: tail))).sum = E at counted lengths
    have balance : E * (opening :: tail).length = E * new.length := by
      rw [Nat.add_mul, Nat.add_mul] at lengths
      omega
    rcases Nat.eq_zero_or_pos E with none | some
    · exact .inr (by rw [counted, none, Nat.add_zero])
    · have long : new.length = (opening :: tail).length := (Nat.eq_of_mul_eq_mul_left some balance).symm
      have preserved : ∀ gap, (replaceChars (opening :: tail) new gap).length = gap.length := fun gap => by
        have balanced := length_replaceChars once new gap
        rw [long] at balanced
        omega
      rw [replaceChars_row once] at same
      have kept := kept_of_row_eq preserved same
      by_cases itself : new = opening :: tail
      · exact .inl itself
      · right
        have none : E = 0 := by
          rw [← extra, List.sum_eq_zero_iff_forall_eq_nat]
          intro n member
          obtain ⟨gap, inside, rfl⟩ := List.mem_map.mp member
          exact (eq_or_none_of_replaceChars long (kept gap inside)).resolve_left itself
        rw [counted, none, Nat.add_zero]
  · rintro (rfl | none)
    · exact replaceChars_self (List.cons_ne_nil opening tail) _
    · rw [counted] at none
      have each : ((first :: others).map (occurrences (opening :: tail))).sum = 0 := by omega
      rw [List.sum_eq_zero_iff_forall_eq_nat] at each
      rw [replaceChars_row once]
      exact row_map_of_eq fun gap member =>
        replaceChars_of_none new (each _ (List.mem_map.mpr ⟨gap, member, rfl⟩))

end Storekeeper.Text
