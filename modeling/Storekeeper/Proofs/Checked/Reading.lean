import Storekeeper.Checked.Record
import Storekeeper.Checked.Scalar
import Mathlib.Data.List.Forall2

/-!
# What readings keep

A reading has no flaws when its parts have none (`map_ok`, `seq_ok`), and it may be compared with
another up to the places of their flaws (`unplaced`), part by part.  A member, a list or a map whose
parts are read as the values that were written is itself read as what was written (`required_written`,
`optionalMember_written`, `list_written`, `mapping_written`).
-/

namespace Storekeeper.Checked

variable {α β : Type}

/-! ## Readings without flaws -/

/-- A reading that is put through a function has no flaws if it had none before. -/
theorem map_ok {f : α → β} {reading : Checked α} {value : β} (done : f <$> reading = .ok value) :
    ∃ before, reading = .ok before ∧ f before = value := by
  cases reading with
  | ok before =>
    cases done
    exact ⟨before, rfl, rfl⟩
  | flawed flaws => cases done

/-- Two readings side by side have no flaws if neither has. -/
theorem seq_ok {function : Checked (α → β)} {reading : Checked α} {value : β}
    (done : function <*> reading = .ok value) :
    ∃ f before, function = .ok f ∧ reading = .ok before ∧ f before = value := by
  cases function with
  | ok f =>
    cases reading with
    | ok before =>
      cases done
      exact ⟨f, before, rfl, rfl, rfl⟩
    | flawed flaws => cases done
  | flawed flaws => cases reading <;> cases done

theorem within_ok {place : Place} {reading : Checked α} {value : α}
    (done : reading.within place = .ok value) : reading = .ok value := by
  cases reading with
  | ok read => exact done
  | flawed flaws => cases done

@[simp]
theorem map_of_ok (f : α → β) (value : α) : f <$> ok value = ok (f value) :=
  rfl

@[simp]
theorem seq_of_ok (f : α → β) (value : α) : ok f <*> ok value = ok (f value) :=
  rfl

@[simp]
theorem within_of_ok (place : Place) (value : α) : (ok value).within place = ok value :=
  rfl

theorem all_of_ok (values : List α) : all (values.map ok) = ok values := by
  induction values with
  | nil => rfl
  | cons value values ih =>
    rw [List.map_cons, all, ih]
    rfl

/-! ## Members of records -/

section Members

variable {members : Table Json} {name : String} {encode : α → Json} {reading : Json → Checked α}

theorem find?_singleton (members : Table Json) (name : String) :
    find? members [name] = (members.get? name).map (name, ·) := by
  unfold find?
  rw [List.findSome?_cons]
  cases members.get? name <;> rfl

/-- A member that has to be there is there. -/
theorem required_ok {value : α} (done : required members [name] reading = .ok value) :
    ∃ member, members.get? name = some member ∧ reading member = .ok value := by
  unfold required at done
  rw [find?_singleton] at done
  cases given : members.get? name with
  | some member =>
    rw [given] at done
    exact ⟨member, rfl, within_ok done⟩
  | none =>
    rw [given] at done
    cases done

theorem required_written {member : Json} {value : α} (stands : members.get? name = some member)
    (reads : reading member = .ok value) : required members [name] reading = .ok value := by
  unfold required
  rw [find?_singleton, stands]
  simp only [Option.map_some, reads, within_of_ok]

/-- A member that may be missing is read as the value that was written. -/
theorem optionalMember_written {value? : Option α} (stands : members.get? name = value?.map encode)
    (reads : ∀ value, nullable reading (encode value) = .ok (some value)) :
    optionalMember members [name] none (nullable reading) = .ok value? := by
  unfold optionalMember
  rw [find?_singleton, stands]
  cases value? with
  | some value => simp only [Option.map_some, reads, within_of_ok]
  | none => rfl

end Members

/-! ## What was written is read -/

section Written

variable {encode : α → Json} {reading : Json → Checked α}

theorem list_written {values : List α} (reads : ∀ value ∈ values, reading (encode value) = ok value) :
    list reading (.arr (values.map encode)) = ok values := by
  -- the number of an item is only seen in the path of a flaw, so that it is left open
  have items (first : Nat) : itemsFrom reading first (values.map encode) = values.map ok := by
    induction values generalizing first with
    | nil => rfl
    | cons value values ih =>
      rw [List.map_cons, itemsFrom, reads value List.mem_cons_self, within_of_ok,
        ih fun other member => reads other (List.mem_cons_of_mem _ member), List.map_cons]
  rw [list, items, all_of_ok]

theorem mapping_written {table : Table α}
    (reads : ∀ entry ∈ table, reading (encode entry.2) = ok entry.2) :
    mapping reading (.obj (table.map fun entry => (entry.1, encode entry.2))) = ok table := by
  rw [mapping, List.map_map, ← all_of_ok table]
  refine congrArg all (List.map_congr_left fun entry member => ?_)
  simp only [Function.comp, reads entry member, within_of_ok]
  rfl

end Written

/-! ## Readings up to the places of their flaws -/

/-- The reading with its flaws' causes, in order, and not their places. -/
def unplaced : Checked α → Checked α
  | ok value => ok value
  | flawed flaws => flawed (flaws.map fun flaw => ⟨[], flaw.cause⟩)

theorem unplaced_map (f : α → β) (reading : Checked α) :
    (f <$> reading).unplaced = f <$> reading.unplaced := by
  cases reading <;> rfl

theorem unplaced_both (left : Checked α) (right : Checked β) :
    (both left right).unplaced = both left.unplaced right.unplaced := by
  cases left <;> cases right <;> simp [both, unplaced]

theorem unplaced_seq (function : Checked (α → β)) (reading : Checked α) :
    (function <*> reading).unplaced = function.unplaced <*> reading.unplaced := by
  cases function <;> cases reading <;> simp [Seq.seq, both, map, unplaced]

@[simp]
theorem unplaced_within (place : Place) (reading : Checked α) :
    (reading.within place).unplaced = reading.unplaced := by
  cases reading <;> simp [within, unplaced]

/-- Readings one after the other agree if each agrees with its counterpart. -/
theorem unplaced_all {readings others : List (Checked α)}
    (alike : List.Forall₂ (fun reading other => reading.unplaced = other.unplaced) readings others) :
    (all readings).unplaced = (all others).unplaced := by
  induction alike with
  | nil => rfl
  | @cons reading other readings others head _ ih =>
    change ((fun pair : α × List α => pair.1 :: pair.2) <$> both reading (all readings)).unplaced =
      ((fun pair : α × List α => pair.1 :: pair.2) <$> both other (all others)).unplaced
    rw [unplaced_map, unplaced_map, unplaced_both, unplaced_both, head, ih]

theorem unplaced_eq_ok {reading : Checked α} {value : α} :
    reading.unplaced = ok value ↔ reading = ok value := by
  cases reading <;> simp [unplaced]

theorem unplaced_eq_flawed {reading other : Checked α} {flaws : List Flaw}
    (alike : reading.unplaced = other.unplaced) (read : reading = flawed flaws) :
    ∃ others, other = flawed others ∧ others.map Flaw.cause = flaws.map Flaw.cause := by
  subst read
  cases other with
  | ok value => cases alike
  | flawed others =>
    refine ⟨others, rfl, ?_⟩
    have causes := congrArg (List.map Flaw.cause) (Checked.flawed.inj alike)
    simpa [Function.comp_def] using causes.symm

end Storekeeper.Checked
