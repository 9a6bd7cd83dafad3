/-!
# Tables by name

A table holds one entry for a name, in the order in which the names were first entered.  A new
value for a name takes the old one's place.
-/

namespace Storekeeper

/-- Entries by name, in the order of their first entry. -/
abbrev Table (α : Type) : Type :=
  List (String × α)

namespace Table

variable {α : Type}

/-- The entry of a name. -/
def get? (table : Table α) (name : String) : Option α :=
  (table.find? fun entry => entry.1 == name).map Prod.snd

/-- Whether a name has an entry. -/
def has (table : Table α) (name : String) : Bool :=
  table.any fun entry => entry.1 == name

/-- The table with an entry for a name, in the place of the old one or else at the end. -/
def put : Table α → String → α → Table α
  | [], name, value => [(name, value)]
  | (key, old) :: rest, name, value =>
    if key = name then (key, value) :: rest else (key, old) :: put rest name value

/-- The table without a name's entry. -/
def erase (table : Table α) (name : String) : Table α :=
  table.filter fun entry => entry.1 != name

/-- The table with the entries of another put over its own. -/
def overlay (table other : Table α) : Table α :=
  other.foldl (fun table entry => table.put entry.1 entry.2) table

/-- The names, in order. -/
def names (table : Table α) : List String :=
  table.map Prod.fst

@[simp]
theorem get?_nil (name : String) : get? ([] : Table α) name = none :=
  rfl

theorem get?_cons (key name : String) (value : α) (rest : Table α) :
    get? ((key, value) :: rest) name = if key = name then some value else get? rest name := by
  by_cases same : key = name <;> simp [get?, same]

/-- The name just entered has the value just entered. -/
@[simp]
theorem get?_put_self (table : Table α) (name : String) (value : α) :
    get? (put table name value) name = some value := by
  induction table with
  | nil => simp [put, get?_cons]
  | cons entry rest ih =>
    obtain ⟨key, old⟩ := entry
    by_cases same : key = name
    · simp [put, same, get?_cons]
    · simp [put, same, get?_cons, ih]

/-- Entering a name leaves the others as they are. -/
theorem get?_put_of_ne (table : Table α) {name other : String} (value : α)
    (different : name ≠ other) : get? (put table name value) other = get? table other := by
  induction table with
  | nil => simp [put, get?_cons, different]
  | cons entry rest ih =>
    obtain ⟨key, old⟩ := entry
    by_cases same : key = name
    · subst same
      simp [put, get?_cons, different]
    · simp [put, same, get?_cons, ih]

/-- A name that has been erased has no entry. -/
@[simp]
theorem get?_erase_self (table : Table α) (name : String) : get? (erase table name) name = none := by
  induction table with
  | nil => rfl
  | cons entry rest ih =>
    obtain ⟨key, old⟩ := entry
    by_cases same : key = name
    · simpa [erase, same] using ih
    · simpa [erase, same, get?_cons] using ih

/-- Erasing a name leaves the others as they are. -/
theorem get?_erase_of_ne (table : Table α) {name other : String} (different : name ≠ other) :
    get? (erase table name) other = get? table other := by
  induction table with
  | nil => rfl
  | cons entry rest ih =>
    obtain ⟨key, old⟩ := entry
    by_cases same : key = name
    · subst same
      simpa [erase, get?_cons, different] using ih
    · have tail : get? (rest.filter fun entry => entry.1 != name) other = get? rest other := ih
      simp [erase, same, get?_cons, tail]

end Table

end Storekeeper
