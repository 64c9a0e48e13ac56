/-
# PromptTemplate.Proofs.Wildcards.Writes -- a table after a sequence of writes

A name is stored without one pair of delimiters: it is stored as it is exactly when it has
a delimiter at neither end, and as a shorter name otherwise.  After a sequence of writes a
name has the values of the last write that is stored under it (`values_writeAll`), and the
names are those that were there and those under which something was written
(`mem_names_writeAll`).  Entries with increasing names stay as they are when they are put
in one after another (`foldl_insertEntry`).
-/
import PromptTemplate.Wildcards.Basic

set_option autoImplicit false

namespace PromptTemplate.Wildcards

/-! ## Names and their delimiters -/

theorem dropDelimiter_eq_self_iff (name : Text) :
    dropDelimiter name = name ↔ ¬ ['_', '_'] <+: name := by
  unfold dropDelimiter
  split
  · rename_i rest
    refine iff_of_false (fun same => ?_) (fun none => none (List.prefix_append ['_', '_'] rest))
    have size := congrArg List.length same
    simp only [List.length_cons] at size
    omega
  · rename_i other
    exact iff_of_true rfl fun ⟨rest, same⟩ => other rest same.symm

theorem dropDelimiter_eq_self_or_shorter (name : Text) :
    dropDelimiter name = name ∨ (dropDelimiter name).length < name.length := by
  unfold dropDelimiter
  split
  · right
    simp only [List.length_cons]
    omega
  · exact .inl rfl

theorem normalizeName_of_plain {name : Text} (starts : dropDelimiter name = name)
    (ends : dropDelimiter name.reverse = name.reverse) : normalizeName name = name := by
  rw [normalizeName, starts, ends, List.reverse_reverse]

/-- Either a name has no delimiter at its ends, or normalizing shortens it. -/
theorem plain_or_shorter (name : Text) :
    (dropDelimiter name = name ∧ dropDelimiter name.reverse = name.reverse) ∨
      (normalizeName name).length < name.length := by
  have behind := dropDelimiter_eq_self_or_shorter (dropDelimiter name).reverse
  rw [List.length_reverse] at behind
  rw [normalizeName, List.length_reverse]
  rcases dropDelimiter_eq_self_or_shorter name with starts | shorter
  · rw [starts] at behind ⊢
    exact behind.imp_left fun ends => ⟨rfl, ends⟩
  · right
    rcases behind with same | less
    · rwa [same, List.length_reverse]
    · exact Nat.lt_trans less shorter

/-- A name that is not stored as it is, is stored as a shorter one. -/
theorem length_normalizeName_lt {name : Text} (changed : normalizeName name ≠ name) :
    (normalizeName name).length < name.length :=
  (plain_or_shorter name).resolve_left fun ⟨starts, ends⟩ =>
    changed (normalizeName_of_plain starts ends)

/-- A name is stored as it is if it has a delimiter at neither end. -/
theorem normalizeName_eq_self_iff (name : Text) :
    normalizeName name = name ↔ ¬ ['_', '_'] <+: name ∧ ¬ ['_', '_'] <:+ name := by
  have mirrored : ¬ ['_', '_'] <:+ name ↔ dropDelimiter name.reverse = name.reverse := by
    rw [dropDelimiter_eq_self_iff, ← List.reverse_prefix]
    rfl
  rw [mirrored, ← dropDelimiter_eq_self_iff]
  constructor
  · intro kept
    refine (plain_or_shorter name).resolve_right fun shorter => ?_
    rw [kept] at shorter
    exact Nat.lt_irrefl _ shorter
  · exact fun ⟨starts, ends⟩ => normalizeName_of_plain starts ends

/-! ## Entries in order -/

/-- The greatest name goes to the end. -/
theorem insertEntry_last {name : Text} {values : List Text} {entries : List (Text × List Text)}
    (last : ∀ entry ∈ entries, Text.isBefore entry.1 name = true) :
    insertEntry name values entries = entries ++ [(name, values)] := by
  induction entries with
  | nil => rfl
  | cons entry rest ih =>
    obtain ⟨before, others⟩ := List.forall_mem_cons.1 last
    have after : Text.isBefore name entry.1 = false := by
      refine Bool.eq_false_iff.2 fun less => ?_
      exact absurd (Text.isBefore_trans less before) (by simp [Text.isBefore_irrefl])
    have different : name ≠ entry.1 := by
      rintro rfl
      exact absurd before (by simp [Text.isBefore_irrefl])
    simp only [insertEntry, after, different, if_false, ih others, List.cons_append]
    rfl

/-- Entries with increasing names that are put in one after another stay as they are. -/
theorem foldl_insertEntry (front : List (Text × List Text)) {entries : List (Text × List Text)}
    (sorted : Sorted (front ++ entries)) :
    entries.foldl (fun kept entry => insertEntry entry.1 entry.2 kept) front =
      front ++ entries := by
  induction entries generalizing front with
  | nil => rw [List.foldl_nil, List.append_nil]
  | cons entry rest ih =>
    have last : ∀ own ∈ front, Text.isBefore own.1 entry.1 = true := fun own member =>
      (List.pairwise_append.1 sorted).2.2 own member entry List.mem_cons_self
    rw [List.append_cons] at sorted ⊢
    rw [List.foldl_cons, insertEntry_last last, ih _ sorted]

/-! ## Writes -/

def writeAll (table : Wildcards) (writes : List (Text × List Text)) : Wildcards :=
  writes.foldl (fun table write => table.insert write.1 write.2) table

/-- The values of the last of the writes that is stored under the name. -/
def lastWritten (name : Text) (writes : List (Text × List Text)) : Option (List Text) :=
  (writes.reverse.find? fun write => normalizeName write.1 = name).map fun write => write.2

theorem lastWritten_cons (name : Text) (write : Text × List Text)
    (writes : List (Text × List Text)) :
    lastWritten name (write :: writes) = (lastWritten name writes).or
      (if normalizeName write.1 = name then some write.2 else none) := by
  simp only [lastWritten, List.reverse_cons, List.find?_append, List.find?_singleton]
  cases writes.reverse.find? fun write => normalizeName write.1 = name with
  | some found => rfl
  | none =>
    by_cases here : normalizeName write.1 = name <;> simp [here]

/-- A name has the values of the last write that is stored under it. -/
theorem values_writeAll (table : Wildcards) (writes : List (Text × List Text)) (name : Text) :
    (table.writeAll writes).values name = (lastWritten name writes).getD (table.values name) := by
  induction writes generalizing table with
  | nil => rfl
  | cons write writes ih =>
    have step : table.writeAll (write :: writes) =
        (table.insert write.1 write.2).writeAll writes := rfl
    rw [step, ih, values_insert, lastWritten_cons]
    cases lastWritten name writes with
    | some values => rfl
    | none =>
      by_cases here : normalizeName write.1 = name
      · simp [here]
      · simp [here, Ne.symm here]

theorem mem_names_iff (table : Wildcards) (name : Text) :
    name ∈ table.names ↔ (lookupEntry name table.entries).isSome := by
  unfold names
  induction table.entries with
  | nil => simp [lookupEntry]
  | cons entry rest ih =>
    by_cases here : name = entry.1
    · simp [lookupEntry, here]
    · rw [List.map_cons, List.mem_cons, ih]
      simp [lookupEntry, here]

theorem mem_names_insert (table : Wildcards) (name other : Text) (values : List Text) :
    other ∈ (table.insert name values).names ↔
      other = normalizeName name ∨ other ∈ table.names := by
  rw [mem_names_iff, mem_names_iff, insert, lookupEntry_insertEntry]
  by_cases here : other = normalizeName name <;> simp [here]

/-- The names after the writes are those that were there and those written under. -/
theorem mem_names_writeAll (table : Wildcards) (writes : List (Text × List Text)) (name : Text) :
    name ∈ (table.writeAll writes).names ↔
      name ∈ table.names ∨ ∃ write ∈ writes, normalizeName write.1 = name := by
  induction writes generalizing table with
  | nil => simp [writeAll]
  | cons write writes ih =>
    have step : table.writeAll (write :: writes) =
        (table.insert write.1 write.2).writeAll writes := rfl
    rw [step, ih, mem_names_insert, eq_comm (a := name)]
    simp only [List.mem_cons, exists_eq_or_imp, or_assoc, or_left_comm]

end PromptTemplate.Wildcards
