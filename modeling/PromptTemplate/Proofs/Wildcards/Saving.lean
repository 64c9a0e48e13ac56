/-
# PromptTemplate.Proofs.Wildcards.Saving -- tables that are written and read back

What a table is written as is always read, as the table after all of its entries were
written once more (`read?_eq_writeAll`), so each name loses one more pair of delimiters on
the way.  It is the table again exactly when no name has a delimiter left at either end
(`read?_jsonText_eq_self_iff`): otherwise the longest of the names that do is missing
afterwards.
-/
import Mathlib.Data.Finset.Max
import PromptTemplate.Proofs.Wildcards.Lookup

set_option autoImplicit false

namespace PromptTemplate.Wildcards

/-! ## The object of a table -/

theorem toJson_eq_objectOf (table : Wildcards) : table.toJson = objectOf table.entries :=
  rfl

theorem ofMembers_entries (table : Wildcards) :
    ofMembers table.entries = empty.writeAll table.entries := by
  have kept : keyed table.entries = table.entries := foldl_insertEntry [] table.sorted
  rw [ofMembers_eq_writeAll, kept]

/-- Reading a saved table writes its entries once more, which takes delimiters off again.
-/
theorem read?_eq_writeAll (table : Wildcards) :
    read? table.jsonText = some (empty.writeAll table.entries) := by
  rw [read?, jsonText, toJson_eq_objectOf, Json.read?_compact (wellFormed_objectOf table.entries),
    Option.bind_some, ofJson?_eq_some_iff]
  exact ⟨table.entries, rfl, ofMembers_entries table⟩

/-! ## Reading a table back -/

theorem entries_writeAll (table : Wildcards) {writes : List (Text × List Text)}
    (plain : ∀ write ∈ writes, normalizeName write.1 = write.1) :
    (table.writeAll writes).entries =
      writes.foldl (fun kept write => insertEntry write.1 write.2 kept) table.entries := by
  induction writes generalizing table with
  | nil => rfl
  | cons write writes ih =>
    obtain ⟨here, others⟩ := List.forall_mem_cons.1 plain
    have step : (table.insert write.1 write.2).entries =
        insertEntry write.1 write.2 table.entries :=
      congrArg (insertEntry · write.2 table.entries) here
    rw [List.foldl_cons, ← step]
    exact ih _ others

/-- Names without delimiters are written back as they are. -/
theorem writeAll_entries_eq_self (table : Wildcards)
    (plain : ∀ name ∈ table.names, normalizeName name = name) :
    empty.writeAll table.entries = table := by
  have stored : ∀ entry ∈ table.entries, normalizeName entry.1 = entry.1 := fun entry member =>
    plain entry.1 (List.mem_map_of_mem member)
  have kept : (empty.writeAll table.entries).entries = table.entries := by
    rw [entries_writeAll empty stored]
    exact foldl_insertEntry [] table.sorted
  cases written : empty.writeAll table.entries
  cases table
  simpa only [written, mk.injEq] using kept

/-- The longest name with a delimiter at an end would be there no more. -/
theorem plain_of_writeAll_eq_self {table : Wildcards}
    (same : empty.writeAll table.entries = table) :
    ∀ name ∈ table.names, normalizeName name = name := by
  by_contra some
  push Not at some
  obtain ⟨name, member, changed⟩ := some
  obtain ⟨longest, inside, bound⟩ := Finset.exists_max_image
    (table.names.toFinset.filter fun name => normalizeName name ≠ name) List.length
    ⟨name, by simp [member, changed]⟩
  simp only [Finset.mem_filter, List.mem_toFinset] at inside bound
  obtain ⟨own, shortened⟩ := inside
  -- it is there again, so a stored name has become it, and that name is longer
  rw [← same, mem_names_writeAll] at own
  obtain ⟨entry, stored, becomes⟩ := own.resolve_left (by simp [names, empty])
  have changes : normalizeName entry.1 ≠ entry.1 := by
    intro kept
    rw [kept] at becomes
    exact shortened (becomes ▸ kept)
  have longer := length_normalizeName_lt changes
  rw [becomes] at longer
  exact absurd (bound entry.1 ⟨List.mem_map_of_mem stored, changes⟩) (Nat.not_le.2 longer)

/-- What a table is written as is read as the table whose names have lost one more pair of
delimiters, with the values of the last of the names that become one; this is the table
itself exactly when no name has a delimiter at either end. -/
theorem read?_jsonText_eq_self_iff (table : Wildcards) :
    ∃ again, read? table.jsonText = some again ∧
      (∀ name, name ∈ again.names ↔ ∃ stored ∈ table.names, normalizeName stored = name) ∧
      (∀ name, again.values name = (lastWritten name table.entries).getD []) ∧
      (again = table ↔
        ∀ name ∈ table.names, ¬ ['_', '_'] <+: name ∧ ¬ ['_', '_'] <:+ name) := by
  refine ⟨empty.writeAll table.entries, table.read?_eq_writeAll, ?_, ?_, ?_⟩
  · intro name
    rw [mem_names_writeAll]
    simp [names, empty]
  · exact fun name => values_writeAll empty table.entries name
  · simp only [← normalizeName_eq_self_iff]
    exact ⟨plain_of_writeAll_eq_self, writeAll_entries_eq_self table⟩

/-- What is inserted as `____x____` is stored as `__x__`, and read back as `x`. -/
theorem not_read?_jsonText_layered :
    let table := empty.insert "____x____".toList ["a".toList]
    table.names = ["__x__".toList] ∧
      ∃ again, read? table.jsonText = some again ∧ again.names = ["x".toList] ∧ again ≠ table := by
  intro table
  have names : table.names = ["__x__".toList] := by decide
  have shorter : (empty.writeAll table.entries).names = ["x".toList] := by decide
  refine ⟨names, _, table.read?_eq_writeAll, shorter, fun same => ?_⟩
  rw [same, names] at shorter
  exact absurd shorter (by decide)

end PromptTemplate.Wildcards
