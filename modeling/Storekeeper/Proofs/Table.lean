import Storekeeper.Table

/-!
# Laws of tables

What is found in a table is the first entry of a name.  Where a name has one entry only, as in every table
that is built by entering, this is any entry of the name, and the order counts for nothing.

* `get?_eq_some_iff_mem`, `get?_perm`: entries of different names, in any order.
* `names_put`, `nodup_put`: entering a name twice leaves it one entry.
* `get?_overlay`: of a table that is put over another the last entry of a name counts.
* `overlay_overlay`: tables are put over each other in any grouping, if no name is in one twice.
-/

namespace Storekeeper.Table

variable {α : Type} {table other : Table α} {key name : String} {value entry : α}

/-! ## Entries that are found -/

theorem mem_of_get? (found : table.get? name = some value) : (name, value) ∈ table := by
  obtain ⟨⟨key, kept⟩, searched, same⟩ := Option.map_eq_some_iff.mp found
  have keyed : key = name := by simpa using List.find?_some searched
  change kept = value at same
  rw [← keyed, ← same]
  exact List.mem_of_find?_eq_some searched

theorem get?_of_has (present : table.has name = true) : ∃ value, table.get? name = some value := by
  obtain ⟨⟨key, value⟩, member, same⟩ := List.any_eq_true.mp present
  cases found : table.get? name with
  | some value => exact ⟨value, rfl⟩
  | none =>
    have unfound : table.find? (fun entry => entry.1 == name) = none := by
      simpa [get?] using found
    exact absurd same (List.find?_eq_none.mp unfound _ member)

theorem has_iff : table.has name = true ↔ ∃ value, table.get? name = some value := by
  refine ⟨get?_of_has, ?_⟩
  rintro ⟨value, found⟩
  exact List.any_eq_true.mpr ⟨(name, value), mem_of_get? found, beq_self_eq_true name⟩

theorem get?_eq_none (absent : name ∉ table.names) :
    table.get? name = none := by
  induction table with
  | nil => rfl
  | cons entry rest ih =>
    obtain ⟨key, old⟩ := entry
    simp only [names, List.map_cons, List.mem_cons, not_or] at absent
    rw [get?_cons, if_neg (Ne.symm absent.1)]
    exact ih absent.2

theorem get?_of_mem (distinct : table.names.Nodup) (member : (name, value) ∈ table) :
    table.get? name = some value := by
  induction table with
  | nil => cases member
  | cons entry rest ih =>
    obtain ⟨key, old⟩ := entry
    obtain ⟨fresh, tail⟩ := List.nodup_cons.mp distinct
    rw [get?_cons]
    rcases List.mem_cons.mp member with same | later
    · cases same
      rw [if_pos rfl]
    · have different : key ≠ name := by
        rintro rfl
        exact fresh (List.mem_map.mpr ⟨_, later, rfl⟩)
      rw [if_neg different]
      exact ih tail later

/-- Where each name has one entry, what is found are the entries. -/
theorem get?_eq_some_iff_mem (distinct : table.names.Nodup) :
    table.get? name = some value ↔ (name, value) ∈ table :=
  ⟨mem_of_get?, get?_of_mem distinct⟩

/-- In another order the entries are the same. -/
theorem get?_perm (distinct : table.names.Nodup) (shuffled : other.Perm table) (name : String) :
    other.get? name = table.get? name := by
  have again : other.names.Nodup := (shuffled.map Prod.fst).nodup_iff.mpr distinct
  ext value
  rw [get?_eq_some_iff_mem again, get?_eq_some_iff_mem distinct, shuffled.mem_iff]

theorem get?_append (first second : Table α) (name : String) :
    get? (first ++ second) name = (first.get? name <|> second.get? name) := by
  induction first with
  | nil => rfl
  | cons entry rest ih =>
    obtain ⟨key, value⟩ := entry
    rw [List.cons_append, get?_cons, get?_cons]
    split
    · rfl
    · exact ih

theorem get?_flatMap {β : Type} (parts : List β) (part : β → Table α) (name : String) :
    get? (parts.flatMap part) name = parts.findSome? fun x => (part x).get? name := by
  induction parts with
  | nil => rfl
  | cons first rest ih =>
    rw [List.flatMap_cons, get?_append, ih, List.findSome?_cons]
    cases get? (part first) name <;> rfl

/-! ## Entering and taking out -/

/-- Where an entry comes from after another was put. -/
theorem get?_put_some {another : String} {found : α}
    (there : (table.put name value).get? another = some found) :
    (another = name ∧ found = value) ∨ (another ≠ name ∧ table.get? another = some found) := by
  by_cases same : another = name
  · subst same
    rw [get?_put_self] at there
    exact .inl ⟨rfl, (Option.some.inj there).symm⟩
  · rw [get?_put_of_ne _ _ (Ne.symm same)] at there
    exact .inr ⟨same, there⟩

/-- An entry that is there after another was taken out. -/
theorem get?_erase_some {another : String} {found : α}
    (there : (table.erase name).get? another = some found) :
    another ≠ name ∧ table.get? another = some found := by
  by_cases same : another = name
  · rw [same, get?_erase_self] at there
    cases there
  · rw [get?_erase_of_ne _ (Ne.symm same)] at there
    exact ⟨same, there⟩

theorem erase_of_not_mem (missing : name ∉ table.names) : table.erase name = table := by
  refine List.filter_eq_self.mpr fun entry member => ?_
  have different : entry.1 ≠ name := fun same => missing (List.mem_map.mpr ⟨entry, member, same⟩)
  simpa using different

/-- Where each name has one entry, taking out a name that is there takes out just this entry. -/
theorem length_erase (distinct : table.names.Nodup) (found : table.get? name = some value) :
    (table.erase name).length + 1 = table.length := by
  induction table with
  | nil => cases found
  | cons first rest ih =>
    obtain ⟨key, old⟩ := first
    obtain ⟨missing, later⟩ := List.nodup_cons.mp distinct
    by_cases same : key = name
    · subst same
      have first : Table.erase ((key, old) :: rest) key = Table.erase rest key := by simp [erase]
      rw [first, erase_of_not_mem missing, List.length_cons]
    · rw [get?_cons, if_neg same] at found
      have fewer := ih later found
      simpa [erase, same] using fewer

theorem names_put (table : Table α) (name : String) (value : α) :
    (table.put name value).names =
      if name ∈ table.names then table.names else table.names ++ [name] := by
  induction table with
  | nil => rfl
  | cons first rest ih =>
    obtain ⟨key, old⟩ := first
    by_cases same : key = name
    · simp [put, names, same]
    · unfold names at ih ⊢
      by_cases there : name ∈ List.map Prod.fst rest
      · simp [put, same, ih, there]
      · simp [put, same, ih, there, Ne.symm same]

theorem mem_names_put_self (table : Table α) (name : String) (value : α) :
    name ∈ (table.put name value).names := by
  rw [names_put]
  split
  · assumption
  · exact List.mem_append_right _ (List.mem_singleton_self name)

theorem nodup_put (distinct : table.names.Nodup) (name : String) (value : α) :
    (table.put name value).names.Nodup := by
  rw [names_put]
  split
  · exact distinct
  · rename_i missing
    refine List.nodup_append.mpr ⟨distinct, List.pairwise_singleton .., fun other among single member => ?_⟩
    rw [List.mem_singleton.mp member]
    rintro rfl
    exact missing among

theorem nodup_nil : (names ([] : Table α)).Nodup :=
  List.nodup_nil

theorem put_of_not_mem (missing : name ∉ table.names) (value : α) :
    table.put name value = table ++ [(name, value)] := by
  induction table with
  | nil => rfl
  | cons entry rest ih =>
    obtain ⟨key, old⟩ := entry
    obtain ⟨different, later⟩ : name ≠ key ∧ name ∉ Table.names rest := by
      simpa [names] using missing
    simp [put, different.symm, ih later]

theorem put_put_self (table : Table α) (name : String) (value entry : α) :
    (table.put name entry).put name value = table.put name value := by
  induction table with
  | nil => simp [put]
  | cons first rest ih =>
    obtain ⟨key, old⟩ := first
    by_cases same : key = name
    · simp [put, same]
    · simp [put, same, ih]

/-- A name that is there already may be given its value before another name or after it. -/
theorem put_put_of_ne (there : name ∈ table.names) (different : key ≠ name) :
    (table.put key entry).put name value = (table.put name value).put key entry := by
  induction table with
  | nil => cases there
  | cons first rest ih =>
    obtain ⟨held, old⟩ := first
    by_cases here : held = name
    · subst here
      simp [put, different.symm]
    · have later : name ∈ Table.names rest := by
        simpa [names, Ne.symm here] using there
      by_cases other : held = key
      · simp [put, other, different]
      · simp [put, here, other, ih later]

theorem nodup_filter (distinct : table.names.Nodup) (keep : String × α → Bool) :
    (names (table.filter keep)).Nodup :=
  distinct.sublist (List.filter_sublist.map Prod.fst)

/-- Where each name has one entry, dropping entries drops what is found. -/
theorem get?_filter (distinct : table.names.Nodup) (keep : String × α → Bool)
    (name : String) :
    get? (table.filter keep) name = (table.get? name).filter fun value => keep (name, value) := by
  induction table with
  | nil => rfl
  | cons entry rest ih =>
    obtain ⟨key, old⟩ := entry
    obtain ⟨fresh, tail⟩ := List.nodup_cons.mp distinct
    rw [get?_cons]
    by_cases same : key = name
    · subst same
      rw [if_pos rfl]
      cases kept : keep (key, old) with
      | true => rw [List.filter_cons_of_pos kept, get?_cons, if_pos rfl]; simp [Option.filter, kept]
      | false =>
        have later : get? rest key = none := get?_eq_none fresh
        rw [List.filter_cons_of_neg (by simp [kept]), ih tail, later]
        simp [Option.filter, kept]
    · rw [if_neg same, ← ih tail]
      cases kept : keep (key, old) with
      | true => rw [List.filter_cons_of_pos kept, get?_cons, if_neg same]
      | false => rw [List.filter_cons_of_neg (by simp [kept])]

/-! ## Tables over each other -/

theorem get?_overlay (table other : Table α) (name : String) :
    (table.overlay other).get? name = (get? other.reverse name <|> table.get? name) := by
  induction other generalizing table with
  | nil => rfl
  | cons entry rest ih =>
    obtain ⟨key, value⟩ := entry
    have first : (table.overlay ((key, value) :: rest)).get? name =
        ((table.put key value).overlay rest).get? name := rfl
    rw [first, ih, List.reverse_cons, get?_append, get?_cons]
    by_cases same : key = name
    · subst same
      simp
    · rw [get?_put_of_ne _ _ same]
      simp [same]

/-- Where an entry comes from after those of another table were put over a table. -/
theorem get?_overlay_some (found : (table.overlay other).get? name = some value) :
    (name, value) ∈ other ∨ table.get? name = some value := by
  rw [get?_overlay] at found
  cases given : get? other.reverse name with
  | some entered =>
    rw [given] at found
    cases found
    exact .inl (List.mem_reverse.mp (mem_of_get? given))
  | none =>
    rw [given] at found
    exact .inr found

theorem overlay_append (table first second : Table α) :
    table.overlay (first ++ second) = (table.overlay first).overlay second :=
  List.foldl_append

theorem nodup_overlay (distinct : table.names.Nodup) (other : Table α) :
    (table.overlay other).names.Nodup := by
  induction other generalizing table with
  | nil => exact distinct
  | cons first rest ih => exact ih (nodup_put distinct first.1 first.2)

/-- Entries of different names are entered in their order. -/
theorem overlay_eq_append (distinct : (Table.names (table ++ other)).Nodup) :
    table.overlay other = table ++ other := by
  induction other generalizing table with
  | nil => exact (List.append_nil table).symm
  | cons entry rest ih =>
    obtain ⟨key, value⟩ := entry
    have whole : table ++ (key, value) :: rest = table ++ [(key, value)] ++ rest := by simp
    have missing : key ∉ table.names := by
      intro member
      unfold names at distinct member
      rw [List.map_append, List.nodup_append] at distinct
      exact distinct.2.2 key member key (List.mem_cons_self ..) rfl
    rw [whole] at distinct ⊢
    rw [← ih distinct, ← put_of_not_mem missing]
    rfl

/-- A name that is there already, and not in a table, may be given its value before this table is put over
it or after that. -/
theorem put_overlay (there : name ∈ table.names) (missing : name ∉ other.names) :
    (table.put name value).overlay other = (table.overlay other).put name value := by
  induction other generalizing table with
  | nil => rfl
  | cons first rest ih =>
    obtain ⟨key, entry⟩ := first
    obtain ⟨different, later⟩ : name ≠ key ∧ name ∉ Table.names rest := by
      simpa [names] using missing
    have kept : name ∈ (table.put key entry).names := by
      rw [names_put]
      split
      · exact there
      · exact List.mem_append_left _ there
    change ((table.put name value).put key entry).overlay rest =
      ((table.put key entry).overlay rest).put name value
    rw [← put_put_of_ne there different.symm, ih kept later]

/-- What is entered into a table that is put over another one may as well be entered after that. -/
theorem overlay_put (distinct : other.names.Nodup) (table : Table α) (name : String) (value : α) :
    table.overlay (other.put name value) = (table.overlay other).put name value := by
  induction other generalizing table with
  | nil => rfl
  | cons first rest ih =>
    obtain ⟨key, old⟩ := first
    obtain ⟨missing, later⟩ := List.nodup_cons.mp distinct
    by_cases same : key = name
    · subst same
      have replaced : Table.put ((key, old) :: rest) key value = (key, value) :: rest := if_pos rfl
      have again : ((table.put key old).put key value).overlay rest =
          ((table.put key old).overlay rest).put key value :=
        put_overlay (mem_names_put_self table key old) missing
      rw [put_put_self] at again
      rw [replaced]
      exact again
    · have kept : Table.put ((key, old) :: rest) name value = (key, old) :: Table.put rest name value :=
        if_neg same
      rw [kept]
      exact ih later (table.put key old)

/-- Tables may be put over each other in any grouping. -/
theorem overlay_overlay (distinct : other.names.Nodup) (table last : Table α) :
    table.overlay (other.overlay last) = (table.overlay other).overlay last := by
  induction last generalizing other with
  | nil => rfl
  | cons first rest ih =>
    obtain ⟨key, value⟩ := first
    change table.overlay ((other.put key value).overlay rest) =
      ((table.overlay other).put key value).overlay rest
    rw [ih (nodup_put distinct key value), overlay_put distinct]

end Storekeeper.Table
