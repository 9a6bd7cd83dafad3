import Mathlib.Data.List.DropRight
import Storekeeper.Text.Blank
import Storekeeper.Text.Line

/-!
# Lines and blanks

* `lines_noBreak`, `lines_of_noBreak`: a line has no break in it, and what has none is one line.
* `filterMap_lines_join`: texts that are joined by a line feed have the lines of both.
* `trim_eq_self_iff`: a text is what is left of it without the blanks at its ends if neither its first nor its
  last character is one.
-/

namespace Storekeeper.Text

variable {cs : List Char}

/-! ## Lines -/

/-- A character that no line feed follows, or that is no carriage return, is looked at by itself. -/
theorem linesFrom_cons {line rest : List Char} {c : Char}
    (alone : ∀ more, c = '\r' → rest = '\n' :: more → False) : linesFrom line (c :: rest) =
      if isBreak c then line.reverse :: lines rest else linesFrom (c :: line) rest := by
  rw [linesFrom]
  · rfl
  · exact alone

theorem linesFrom_of_noBreak (line : List Char) (noBreak : ∀ c ∈ cs, isBreak c = false)
    (some : line.reverse ++ cs ≠ []) : linesFrom line cs = [line.reverse ++ cs] := by
  induction cs generalizing line with
  | nil =>
    unfold linesFrom
    rw [List.append_nil] at some ⊢
    rw [if_neg (by simpa using some)]
  | cons c rest ih =>
    obtain ⟨here, later⟩ := List.forall_mem_cons.mp noBreak
    have alone : ∀ more, c = '\r' → rest = '\n' :: more → False := by
      rintro _ rfl -
      exact absurd here (by decide)
    rw [linesFrom_cons alone, if_neg (by simp [here]), ih (c :: line) later (by simp)]
    simp

theorem lines_of_noBreak (noBreak : ∀ c ∈ cs, isBreak c = false) (some : cs ≠ []) :
    lines cs = [cs] :=
  linesFrom_of_noBreak [] noBreak some

/-- No line has a break in it. -/
theorem linesFrom_noBreak {line : List Char} (noBreak : ∀ c ∈ line, isBreak c = false) :
    ∀ row ∈ linesFrom line cs, ∀ c ∈ row, isBreak c = false := by
  have reversed : ∀ {ds : List Char}, (∀ c ∈ ds, isBreak c = false) →
      ∀ c ∈ ds.reverse, isBreak c = false :=
    fun clear c member => clear c (List.mem_reverse.mp member)
  fun_induction linesFrom line cs with
  | case1 line none => nofun
  | case2 line some =>
    intro row member
    cases List.mem_singleton.mp member
    exact reversed noBreak
  | case3 line rest ih =>
    intro row member
    rcases List.mem_cons.mp member with rfl | later
    · exact reversed noBreak
    · exact ih nofun row later
  | case4 line c rest other isEnd ih =>
    intro row member
    rcases List.mem_cons.mp member with rfl | later
    · exact reversed noBreak
    · exact ih nofun row later
  | case5 line c rest other goesOn ih =>
    refine ih fun d member => ?_
    rcases List.mem_cons.mp member with rfl | earlier
    · exact Bool.not_eq_true _ ▸ goesOn
    · exact noBreak d earlier

theorem lines_noBreak : ∀ row ∈ lines cs, ∀ c ∈ row, isBreak c = false :=
  linesFrom_noBreak nofun

/-- Joined texts have the lines of both, but for an empty line between them. -/
theorem filterMap_linesFrom_join {α : Type} {reading : List Char → Option α} (blank : reading [] = none)
    (line first second : List Char) :
    (linesFrom line (first ++ '\n' :: second)).filterMap reading =
      (linesFrom line first).filterMap reading ++ (lines second).filterMap reading := by
  have feed : ∀ line : List Char,
      linesFrom line ('\n' :: second) = line.reverse :: lines second :=
    fun line => linesFrom_cons nofun
  have joined : ∀ row rows, (row :: (rows ++ lines second)).filterMap reading =
      (row :: rows).filterMap reading ++ (lines second).filterMap reading :=
    fun row rows => List.filterMap_append (l := row :: rows)
  fun_induction linesFrom line first with
  | case1 line none =>
    obtain rfl := List.isEmpty_iff.mp none
    rw [List.nil_append, feed, List.reverse_nil, List.filterMap_cons, blank]
    rfl
  | case2 line some =>
    rw [List.nil_append, feed]
    exact joined line.reverse []
  | case3 line rest ih =>
    rw [List.cons_append, List.cons_append, linesFrom, List.filterMap_cons, ih, List.filterMap_cons]
    split <;> rfl
  | case4 line c rest other isEnd ih =>
    rw [List.cons_append]
    by_cases halved : c = '\r' ∧ rest = []
    · -- The carriage return and the line feed that joins are one break.
      obtain ⟨rfl, rfl⟩ := halved
      rw [List.nil_append, linesFrom]
      exact joined line.reverse []
    · have alone : ∀ more, c = '\r' → rest ++ '\n' :: second = '\n' :: more → False := by
        intro more carriage follows
        cases rest with
        | nil => exact halved ⟨carriage, rfl⟩
        | cons d rest =>
          cases follows
          exact other _ carriage rfl
      rw [linesFrom_cons alone, if_pos isEnd, List.filterMap_cons, lines, ih, List.filterMap_cons]
      split <;> rfl
  | case5 line c rest other goesOn ih =>
    have alone : ∀ more, c = '\r' → rest ++ '\n' :: second = '\n' :: more → False := by
      rintro _ rfl -
      exact goesOn (by decide)
    rw [List.cons_append, linesFrom_cons alone, if_neg goesOn, ih]

/-- The lines of joined texts give what the lines of both give, if an empty line gives nothing. -/
theorem filterMap_lines_join {α : Type} {reading : List Char → Option α} (blank : reading [] = none)
    (first second : List Char) : (lines (first ++ '\n' :: second)).filterMap reading =
      (lines first).filterMap reading ++ (lines second).filterMap reading :=
  filterMap_linesFrom_join blank [] first second

/-! ## Blanks at the ends -/

/-- A break is a blank. -/
theorem isBlank_of_isBreak {c : Char} (ends : isBreak c = true) : isBlank c = true := by
  unfold isBreak at ends
  unfold isBlank isSpace inSpans spaceSpans
  simp only [Bool.or_eq_true, Bool.and_eq_true, decide_eq_true_eq, beq_iff_eq, List.any_cons,
    List.any_nil, Bool.or_false] at ends ⊢
  omega

/-- What is taken off the end leaves the front as it is. -/
theorem dropEnd_front (drop : Char → Bool) (cs : List Char) : dropEnd drop cs <+: cs :=
  List.rdropWhile_prefix drop cs

theorem mem_of_mem_trim {c : Char} (member : c ∈ trim cs) : c ∈ cs :=
  (List.dropWhile_suffix isBlank).subset ((dropEnd_front isBlank _).subset member)

theorem trim_eq_self_iff {cs : List Char} : trim cs = cs ↔
    (∀ c rest, cs = c :: rest → isBlank c = false) ∧
      ∀ front c, cs = front ++ [c] → isBlank c = false := by
  constructor
  · intro same
    have shorter : (trim cs).length ≤ (cs.dropWhile isBlank).length :=
      (dropEnd_front isBlank _).length_le
    rw [same] at shorter
    have clear : cs.dropWhile isBlank = cs :=
      (List.dropWhile_suffix isBlank).eq_of_length_le shorter
    refine ⟨fun c rest whole => ?_, fun front c whole => ?_⟩
    · subst whole
      have first := List.dropWhile_eq_self_iff.mp clear (by simp)
      simpa using first
    · unfold trim dropBoth at same
      rw [clear] at same
      subst whole
      have last := List.rdropWhile_eq_self_iff.mp same (by simp)
      simpa using last
  · rintro ⟨first, last⟩
    have clear : cs.dropWhile isBlank = cs := by
      cases cs with
      | nil => rfl
      | cons c rest => exact List.dropWhile_cons_of_neg (by simp [first c rest rfl])
    unfold trim dropBoth
    rw [clear]
    rcases List.eq_nil_or_concat cs with rfl | ⟨front, c, rfl⟩
    · rfl
    · rw [List.concat_eq_append] at last ⊢
      exact List.rdropWhile_concat_neg isBlank front c (by simp [last front c rfl])

theorem trim_of_noBlank (noBlank : ∀ c ∈ cs, isBlank c = false) : trim cs = cs := by
  refine trim_eq_self_iff.mpr ⟨fun c rest whole => ?_, fun front c whole => ?_⟩
  · exact noBlank c (whole ▸ List.mem_cons_self ..)
  · exact noBlank c (whole ▸ List.mem_append_right front (List.mem_singleton_self c))

/-- Without the blanks at its ends a text has no blanks at its ends. -/
theorem trim_trim (cs : List Char) : trim (trim cs) = trim cs := by
  refine trim_eq_self_iff.mpr ⟨fun c rest whole => ?_, fun front c whole => ?_⟩
  · obtain ⟨more, front⟩ := dropEnd_front isBlank (cs.dropWhile isBlank)
    change trim cs ++ more = _ at front
    have first := List.head?_dropWhile_not isBlank cs
    rw [← front, whole] at first
    exact first
  · have again : (trim cs).rdropWhile isBlank = trim cs := List.rdropWhile_idempotent isBlank _
    rw [whole] at again
    have last := List.rdropWhile_eq_self_iff.mp again (by simp)
    simpa using last

theorem strip_blank {text : String} : strip (" " ++ text) = strip text := by
  have front : (" " ++ text).toList.dropWhile isBlank = text.toList.dropWhile isBlank := by
    rw [String.toList_append]
    exact List.dropWhile_cons_of_pos (by decide)
  unfold strip trim dropBoth
  rw [front]

/-! ## Texts of one line -/

/-- The text is a line: no break is in it. -/
def IsRow (line : String) : Prop :=
  ∀ c ∈ line.toList, isBreak c = false

instance (line : String) : Decidable (IsRow line) :=
  List.decidableBAll (isBreak · = false) line.toList

/-- The text is one line that is not empty, without blanks at its ends. -/
structure IsLine (text : String) : Prop where
  some : text ≠ ""
  stripped : strip text = text
  noBreak : ∀ c ∈ text.toList, isBreak c = false

instance (text : String) : Decidable (IsLine text) :=
  decidable_of_iff (text ≠ "" ∧ strip text = text ∧ IsRow text)
    ⟨fun ⟨given, stripped, noBreak⟩ => ⟨given, stripped, noBreak⟩,
      fun line => ⟨line.some, line.stripped, line.noBreak⟩⟩

end Storekeeper.Text
