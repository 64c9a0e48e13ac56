/-
# PromptTemplate.Wildcards.Basic -- a table of wildcard values

A table holds the values of each name, the names in increasing order and without
their delimiters.  Names are ordered by code points, which is the order of their
UTF-8 bytes.  Inserting a name that is already there replaces its values
(`lookup_insert`).
-/
import PromptTemplate.Text.Order
import PromptTemplate.Wildcards.Provider

set_option autoImplicit false

namespace PromptTemplate

namespace Wildcards

/-- The entries have strictly increasing names. -/
def Sorted (entries : List (Text × List Text)) : Prop :=
  entries.Pairwise fun a b => Text.isBefore a.1 b.1 = true

/-- The entries with the values of the name put in its place. -/
def insertEntry (name : Text) (values : List Text) :
    List (Text × List Text) → List (Text × List Text)
  | [] => [(name, values)]
  | (other, old) :: rest =>
    if Text.isBefore name other then (name, values) :: (other, old) :: rest
    else if name = other then (name, values) :: rest
    else (other, old) :: insertEntry name values rest

def lookupEntry (name : Text) : List (Text × List Text) → Option (List Text)
  | [] => none
  | (other, values) :: rest => if name = other then some values else lookupEntry name rest

/-! ## Insertion keeps the order -/

theorem name_of_mem_insertEntry {name : Text} {values : List Text}
    {entries : List (Text × List Text)} {entry : Text × List Text}
    (member : entry ∈ insertEntry name values entries) :
    entry.1 = name ∨ entry ∈ entries := by
  induction entries with
  | nil => simp_all [insertEntry]
  | cons head rest ih =>
    unfold insertEntry at member
    split at member
    · rcases List.mem_cons.1 member with rfl | member
      · exact .inl rfl
      · exact .inr member
    · split at member
      · rcases List.mem_cons.1 member with rfl | member
        · exact .inl rfl
        · exact .inr (List.mem_cons_of_mem _ member)
      · rcases List.mem_cons.1 member with rfl | member
        · exact .inr List.mem_cons_self
        · exact (ih member).imp_right (List.mem_cons_of_mem _)

/-- Insertion keeps the names in order. -/
theorem sorted_insertEntry (name : Text) (values : List Text)
    {entries : List (Text × List Text)} (sorted : Sorted entries) :
    Sorted (insertEntry name values entries) := by
  induction entries with
  | nil => exact List.pairwise_singleton _ _
  | cons head rest ih =>
    obtain ⟨first, tail⟩ := List.pairwise_cons.1 sorted
    unfold insertEntry
    split
    · rename_i less
      refine List.pairwise_cons.2 ⟨fun entry member => ?_, sorted⟩
      rcases List.mem_cons.1 member with rfl | member
      · exact less
      · exact Text.isBefore_trans less (first entry member)
    · split
      · rename_i same
        exact List.pairwise_cons.2 ⟨fun entry member => same ▸ first entry member, tail⟩
      · rename_i notLess different
        refine List.pairwise_cons.2 ⟨fun entry member => ?_, ih tail⟩
        rcases name_of_mem_insertEntry member with same | member
        · rw [same]
          exact Text.isBefore_of_not_isBefore different (Bool.eq_false_iff.2 notLess)
        · exact first entry member

end Wildcards

structure Wildcards where
  entries : List (Text × List Text)
  sorted : Wildcards.Sorted entries

namespace Wildcards

def empty : Wildcards :=
  ⟨[], List.Pairwise.nil⟩

/-- The table with the values of a name, delimited or not, added or replaced. -/
def insert (table : Wildcards) (name : Text) (values : List Text) : Wildcards :=
  ⟨insertEntry (normalizeName name) values table.entries, sorted_insertEntry _ _ table.sorted⟩

def names (table : Wildcards) : List Text :=
  table.entries.map fun entry => entry.1

def size (table : Wildcards) : Nat :=
  table.entries.length

def isEmpty (table : Wildcards) : Bool :=
  table.entries.isEmpty

/-- The values of a name without delimiters; none if it is not there. -/
def values (table : Wildcards) (name : Text) : List Text :=
  (lookupEntry name table.entries).getD []

def provider (table : Wildcards) : Provider :=
  table.values

/-! ## Lookup after insertion -/

/-- An insertion is seen under its name and under no other. -/
theorem lookupEntry_insertEntry (name other : Text) (values : List Text)
    (entries : List (Text × List Text)) :
    lookupEntry other (insertEntry name values entries) =
      if other = name then some values else lookupEntry other entries := by
  induction entries with
  | nil => rfl
  | cons head rest ih =>
    unfold insertEntry
    split
    · rfl
    · split
      · rename_i same
        simp only [lookupEntry, ← same]
        split <;> rfl
      · rename_i different
        simp only [lookupEntry, ih]
        split
        · rename_i here
          simp [here, Ne.symm different]
        · rfl

/-- Values are stored under the name without its delimiters. -/
theorem values_insert (table : Wildcards) (name other : Text) (values : List Text) :
    (table.insert name values).values other =
      if other = normalizeName name then values else table.values other := by
  unfold Wildcards.values insert
  simp only [lookupEntry_insertEntry]
  split <;> rfl

end Wildcards

end PromptTemplate
