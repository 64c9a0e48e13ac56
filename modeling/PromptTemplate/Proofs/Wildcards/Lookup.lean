/-
# PromptTemplate.Proofs.Wildcards.Lookup -- what a name has after reading and writing

A table that was read from a JSON object holds each key of the object once, with the values
of its last occurrence, and the keys were written in the order of their bytes
(`keyed`).  So of several keys that are stored under one name the greatest counts, wherever
it stands in the text (`isLast_keyed_iff`).

After any writes a name has the values of the last write that is stored under it, and only
if there is none those of a key (`values_writeAll_iff`): the writes are followed in order
(`resolve_follows_writes`).
-/
import PromptTemplate.Proofs.Json.ReadBack
import PromptTemplate.Proofs.Json.Types
import PromptTemplate.Proofs.Text.Bytes
import PromptTemplate.Proofs.Wildcards.Writes
import PromptTemplate.Wildcards.Json

set_option autoImplicit false

namespace PromptTemplate.Wildcards

/-! ## The last of a kind -/

/-- The last item of the list of which the property holds. -/
def IsLast {α : Type} (p : α → Prop) (items : List α) (item : α) : Prop :=
  ∃ front back, items = front ++ item :: back ∧ p item ∧ ∀ other ∈ back, ¬ p other

theorem find?_reverse_eq_some_iff {α : Type} {p : α → Prop} [DecidablePred p] {items : List α}
    {item : α} : items.reverse.find? (fun own => p own) = some item ↔ IsLast p items item := by
  rw [List.find?_eq_some_iff_append, IsLast]
  constructor
  · rintro ⟨holds, back, front, split, none⟩
    refine ⟨front.reverse, back.reverse, ?_, by simpa using holds, by simpa using none⟩
    rw [← List.reverse_reverse items, split]
    simp
  · rintro ⟨front, back, rfl, holds, none⟩
    exact ⟨by simpa using holds, back.reverse, front.reverse, by simp, by simpa using none⟩

theorem IsLast.mem {α : Type} {p : α → Prop} {items : List α} {item : α}
    (last : IsLast p items item) : item ∈ items := by
  obtain ⟨front, back, rfl, -⟩ := last
  exact List.mem_append_right front List.mem_cons_self

theorem IsLast.holds {α : Type} {p : α → Prop} {items : List α} {item : α}
    (last : IsLast p items item) : p item := by
  obtain ⟨front, back, rfl, holds, -⟩ := last
  exact holds

/-- In a list in strict order the last item of a kind is the greatest. -/
theorem isLast_iff_of_pairwise {α : Type} {p : α → Prop} {before : α → α → Prop}
    (asymm : ∀ a b, before a b → ¬ before b a) {items : List α} (ordered : items.Pairwise before)
    {item : α} :
    IsLast p items item ↔
      item ∈ items ∧ p item ∧ ∀ other ∈ items, p other → other = item ∨ before other item := by
  constructor
  · intro last
    refine ⟨last.mem, last.holds, fun other member holds => ?_⟩
    obtain ⟨front, back, rfl, -, none⟩ := last
    rcases List.mem_append.1 member with inFront | inBack
    · exact .inr ((List.pairwise_append.1 ordered).2.2 other inFront item List.mem_cons_self)
    · exact .inl ((List.mem_cons.1 inBack).resolve_right fun behind => none other behind holds)
  · rintro ⟨member, holds, greatest⟩
    obtain ⟨front, back, rfl⟩ := List.append_of_mem member
    refine ⟨front, back, rfl, holds, fun other behind own => ?_⟩
    have later : before item other :=
      (List.pairwise_cons.1 (List.pairwise_append.1 ordered).2.1).1 other behind
    have inside : other ∈ front ++ item :: back :=
      List.mem_append_right front (List.mem_cons_of_mem item behind)
    rcases greatest other inside own with rfl | earlier
    · exact asymm _ _ later later
    · exact asymm _ _ later earlier

theorem lastWritten_eq_some_iff {name : Text} {writes : List (Text × List Text)}
    {values : List Text} :
    lastWritten name writes = some values ↔
      ∃ write, IsLast (fun write => normalizeName write.1 = name) writes write ∧
        write.2 = values := by
  simp only [lastWritten, Option.map_eq_some_iff, find?_reverse_eq_some_iff]

theorem lastWritten_eq_none_iff {name : Text} {writes : List (Text × List Text)} :
    lastWritten name writes = none ↔ ∀ write ∈ writes, normalizeName write.1 ≠ name := by
  simp [lastWritten]

/-! ## Keys of an object -/

/-- The members by key, each key once and the keys in order. -/
def keyed (members : List (Text × List Text)) : List (Text × List Text) :=
  members.foldl (fun entries member => insertEntry member.1 member.2 entries) []

theorem sorted_foldl_insertEntry (members : List (Text × List Text))
    {entries : List (Text × List Text)} (sorted : Sorted entries) :
    Sorted (members.foldl (fun kept member => insertEntry member.1 member.2 kept) entries) := by
  induction members generalizing entries with
  | nil => exact sorted
  | cons member rest ih => exact ih (sorted_insertEntry member.1 member.2 sorted)

theorem sorted_keyed (members : List (Text × List Text)) : Sorted (keyed members) :=
  sorted_foldl_insertEntry members List.Pairwise.nil

theorem lookupEntry_foldl_insertEntry (key : Text) (members entries : List (Text × List Text)) :
    lookupEntry key
        (members.foldl (fun kept member => insertEntry member.1 member.2 kept) entries) =
      ((members.reverse.find? fun member => member.1 = key).map fun member => member.2).or
        (lookupEntry key entries) := by
  induction members generalizing entries with
  | nil => rfl
  | cons member rest ih =>
    rw [List.foldl_cons, ih, lookupEntry_insertEntry, List.reverse_cons, List.find?_append,
      List.find?_singleton]
    cases rest.reverse.find? fun member => member.1 = key with
    | some later => rfl
    | none => by_cases here : member.1 = key <;> simp [here, eq_comm (a := key)]

/-- A name stands once in sorted entries, so what is there is what is found. -/
theorem mem_iff_lookupEntry {entries : List (Text × List Text)} (sorted : Sorted entries)
    (entry : Text × List Text) : entry ∈ entries ↔ lookupEntry entry.1 entries = some entry.2 := by
  induction entries with
  | nil => simp [lookupEntry]
  | cons head rest ih =>
    obtain ⟨first, tail⟩ := List.pairwise_cons.1 sorted
    rw [List.mem_cons, ih tail, lookupEntry]
    split
    · rename_i same
      constructor
      · rintro (rfl | behind)
        · rfl
        · have later := first entry ((ih tail).2 behind)
          rw [same, Text.isBefore_irrefl] at later
          exact absurd later Bool.false_ne_true
      · intro values
        exact .inl (Prod.ext same (Option.some.inj values).symm)
    · rename_i different
      constructor
      · rintro (rfl | behind)
        · exact absurd rfl different
        · exact behind
      · exact .inr

/-- An entry by key is the last member with its key. -/
theorem mem_keyed_iff (members : List (Text × List Text)) (entry : Text × List Text) :
    entry ∈ keyed members ↔ IsLast (fun member => member.1 = entry.1) members entry := by
  rw [mem_iff_lookupEntry (sorted_keyed members), keyed, lookupEntry_foldl_insertEntry, lookupEntry,
    Option.or_none, Option.map_eq_some_iff]
  constructor
  · rintro ⟨member, found, values⟩
    have last := find?_reverse_eq_some_iff.1 found
    obtain rfl : member = entry := Prod.ext last.holds values
    exact last
  · exact fun last => ⟨entry, find?_reverse_eq_some_iff.2 last, rfl⟩

theorem exists_mem_keyed_of_mem {members : List (Text × List Text)} {member : Text × List Text}
    (inside : member ∈ members) : ∃ entry ∈ keyed members, entry.1 = member.1 := by
  have found : (members.reverse.find? fun other => other.1 = member.1).isSome := by
    simpa using ⟨member.2, inside⟩
  obtain ⟨entry, found⟩ := Option.isSome_iff_exists.1 found
  have last := find?_reverse_eq_some_iff.1 found
  have same : entry.1 = member.1 := last.holds
  exact ⟨entry, (mem_keyed_iff members entry).2 (by rwa [same]), same⟩

/-- Of the members that are stored under a name the one that counts has the greatest key in
the order of bytes, and is the last with this key. -/
theorem isLast_keyed_iff (name : Text) (members : List (Text × List Text))
    (entry : Text × List Text) :
    IsLast (fun entry => normalizeName entry.1 = name) (keyed members) entry ↔
      normalizeName entry.1 = name ∧
        (∀ member ∈ members, normalizeName member.1 = name →
          member.1 = entry.1 ∨ Text.utf8 member.1 < Text.utf8 entry.1) ∧
        IsLast (fun member => member.1 = entry.1) members entry := by
  have asymm (a b : Text × List Text) (before : Text.isBefore a.1 b.1 = true) :
      ¬ Text.isBefore b.1 a.1 = true := fun after =>
    absurd (Text.isBefore_trans before after) (by simp [Text.isBefore_irrefl])
  rw [isLast_iff_of_pairwise asymm (sorted_keyed members), mem_keyed_iff]
  simp only [Text.isBefore_iff_utf8_lt]
  constructor
  · rintro ⟨last, stored, greatest⟩
    refine ⟨stored, fun member inside own => ?_, last⟩
    obtain ⟨other, listed, same⟩ := exists_mem_keyed_of_mem inside
    rw [← same] at own ⊢
    exact (greatest other listed own).imp_left (congrArg Prod.fst)
  · rintro ⟨stored, greatest, last⟩
    refine ⟨last, stored, fun other listed own => ?_⟩
    refine (greatest other ((mem_keyed_iff members other).1 listed).mem own).imp_left fun same => ?_
    -- two entries by key with one key are one
    have values := (mem_iff_lookupEntry (sorted_keyed members) other).1 listed
    rw [same, (mem_iff_lookupEntry (sorted_keyed members) entry).1
      ((mem_keyed_iff members entry).2 last)] at values
    exact Prod.ext same (Option.some.inj values).symm

/-! ## Values of a name -/

/-- What a name has after the members of an object were read and the writes were made: the
values of the last write that is stored under it; without one those of the last member with
the greatest key that is stored under it; and else nothing. -/
inductive ValuesOf (members writes : List (Text × List Text)) (name : Text) : List Text → Prop where
  | write {write : Text × List Text}
      (last : IsLast (fun write => normalizeName write.1 = name) writes write) :
      ValuesOf members writes name write.2
  | member {member : Text × List Text}
      (unwritten : ∀ write ∈ writes, normalizeName write.1 ≠ name)
      (stored : normalizeName member.1 = name)
      (greatest : ∀ other ∈ members, normalizeName other.1 = name →
        other.1 = member.1 ∨ Text.utf8 other.1 < Text.utf8 member.1)
      (last : IsLast (fun other => other.1 = member.1) members member) :
      ValuesOf members writes name member.2
  | unknown (unwritten : ∀ write ∈ writes, normalizeName write.1 ≠ name)
      (unread : ∀ member ∈ members, normalizeName member.1 ≠ name) :
      ValuesOf members writes name []

theorem ofMembers_eq_writeAll (members : List (Text × List Text)) :
    ofMembers members = empty.writeAll (keyed members) :=
  rfl

/-- A name has the values that the members and the writes give it. -/
theorem values_writeAll_iff (members writes : List (Text × List Text)) (name : Text)
    (values : List Text) :
    ((ofMembers members).writeAll writes).values name = values ↔
      ValuesOf members writes name values := by
  rw [values_writeAll, ofMembers_eq_writeAll, values_writeAll]
  constructor
  · rintro rfl
    cases written : lastWritten name writes with
    | some values =>
      obtain ⟨write, last, rfl⟩ := lastWritten_eq_some_iff.1 written
      exact .write last
    | none =>
      have unwritten := lastWritten_eq_none_iff.1 written
      cases read : lastWritten name (keyed members) with
      | some values =>
        obtain ⟨member, last, rfl⟩ := lastWritten_eq_some_iff.1 read
        obtain ⟨stored, greatest, last⟩ := (isLast_keyed_iff name members member).1 last
        exact .member unwritten stored greatest last
      | none =>
        refine .unknown unwritten fun member inside stored => ?_
        obtain ⟨entry, listed, same⟩ := exists_mem_keyed_of_mem inside
        exact lastWritten_eq_none_iff.1 read entry listed (by rw [same, stored])
  · rintro (⟨last⟩ | ⟨unwritten, stored, greatest, last⟩ | ⟨unwritten, unread⟩)
    · rw [lastWritten_eq_some_iff.2 ⟨_, last, rfl⟩]
      rfl
    · rw [lastWritten_eq_none_iff.2 unwritten, lastWritten_eq_some_iff.2
        ⟨_, (isLast_keyed_iff name members _).2 ⟨stored, greatest, last⟩, rfl⟩]
      rfl
    · have unlisted : ∀ entry ∈ keyed members, normalizeName entry.1 ≠ name := fun entry listed =>
        unread entry ((mem_keyed_iff members entry).1 listed).mem
      rw [lastWritten_eq_none_iff.2 unwritten, lastWritten_eq_none_iff.2 unlisted]
      rfl

/-- Names are looked up in the table as the members that were read and the writes that were
made say, and are listed in the order of their bytes. -/
structure Follows (members writes : List (Text × List Text)) (table : Wildcards) : Prop where
  resolve_iff : ∀ name values, table.provider.resolve name = values ↔
    ValuesOf members writes (normalizeName name) values
  /-- A write is about the names that are stored as its own. -/
  resolve_insert : ∀ name values other, normalizeName other ≠ normalizeName name →
    (table.insert name values).provider.resolve other = table.provider.resolve other
  names_increasing : table.names.Pairwise fun s t => Text.utf8 s < Text.utf8 t
  names_length : table.names.length = table.size

theorem follows_writeAll (members writes : List (Text × List Text)) :
    Follows members writes ((ofMembers members).writeAll writes) where
  resolve_iff name values := values_writeAll_iff members writes (normalizeName name) values
  resolve_insert name values other different := by
    rw [Provider.resolve, Provider.resolve, provider, provider, values_insert, if_neg different]
  names_increasing := by
    simp only [names, List.pairwise_map, ← Text.isBefore_iff_utf8_lt]
    exact Wildcards.sorted _
  names_length := List.length_map _

/-! ## Tables that are read -/

def objectOf (members : List (Text × List Text)) : Json :=
  .ofMembers (members.map fun member => (member.1, .array (member.2.map Json.ofText)))

theorem wellFormed_objectOf (members : List (Text × List Text)) :
    (objectOf members).WellFormed := by
  refine Json.WellFormed.ofMembers fun member inside => ?_
  obtain ⟨own, -, rfl⟩ := List.mem_map.1 inside
  refine .array fun item listed => ?_
  obtain ⟨text, -, rfl⟩ := List.mem_map.1 listed
  exact .string (some text)

/-- A table is read from the objects whose members are lists of texts. -/
theorem ofJson?_eq_some_iff (value : Json) (table : Wildcards) :
    ofJson? value = some table ↔
      ∃ members, value = objectOf members ∧ ofMembers members = table := by
  have inverse : ∀ (member : Text × Json) (own : Text × List Text),
      (member.2.texts?.map fun values => (member.1, values)) = some own ↔
        member = (own.1, .array (own.2.map Json.ofText)) := by
    rintro ⟨key, item⟩ ⟨name, values⟩
    simp only [Option.map_eq_some_iff, Json.texts?_eq_some_iff, Prod.mk.injEq]
    constructor
    · rintro ⟨own, rfl, rfl, rfl⟩
      exact ⟨rfl, rfl⟩
    · rintro ⟨rfl, rfl⟩
      exact ⟨values, rfl, rfl, rfl⟩
  simp only [ofJson?, Option.bind_eq_bind, Option.bind_eq_some_iff, Json.members?_eq_some_iff,
    Json.mapM_eq_some_iff inverse, Option.pure_def, Option.some.injEq]
  constructor
  · rintro ⟨_, rfl, members, rfl, made⟩
    exact ⟨members, rfl, made⟩
  · rintro ⟨members, rfl, made⟩
    exact ⟨_, rfl, members, rfl, made⟩

/-- After any writes to the empty table, or to one that was read from a JSON text, a name has
the values of the last write that is stored under it, and otherwise those of the greatest
of the keys in the text that are stored under it. -/
theorem resolve_follows_writes :
    (∀ writes, Follows [] writes (empty.writeAll writes)) ∧
      ∀ t start, read? t = some start →
        ∃ members, Json.read? t = some (objectOf members) ∧
          ∀ writes, Follows members writes (start.writeAll writes) := by
  refine ⟨follows_writeAll [], fun t start read => ?_⟩
  obtain ⟨value, written, made⟩ := Option.bind_eq_some_iff.1 read
  obtain ⟨members, rfl, rfl⟩ := (ofJson?_eq_some_iff value start).1 made
  exact ⟨members, written, follows_writeAll members⟩

/-- Three spellings of one key, the greatest of them given twice, and two of one write. -/
theorem resolve_follows_writes_spellings :
    let t := "\x7b\"a__\":[\"1\"],\"__a__\":[\"2\"],\"a\":[\"3\"],\"a__\":[\"4\"]\x7d".toList
    let members : List (Text × List Text) :=
      [("a__".toList, ["1".toList]), ("__a__".toList, ["2".toList]), ("a".toList, ["3".toList]),
        ("a__".toList, ["4".toList])]
    let start := ofMembers members
    let writes : List (Text × List Text) :=
      [("b".toList, ["5".toList]), ("__b".toList, ["6".toList])]
    read? t = some start ∧
      (∃ members, Json.read? t = some (objectOf members) ∧
        Follows members writes (start.writeAll writes)) ∧
      (start.writeAll writes).provider.resolve "__a".toList = ["4".toList] ∧
      (start.writeAll writes).provider.resolve "b".toList = ["6".toList] ∧
      (start.writeAll writes).provider.resolve "c".toList = [] := by
  intro t members start writes
  have text : (objectOf members).compact = t := by decide +kernel
  have read : read? t = some start := by
    rw [read?, ← text, Json.read?_compact (wellFormed_objectOf members), Option.bind_some]
    exact (ofJson?_eq_some_iff _ start).2 ⟨members, rfl, rfl⟩
  obtain ⟨members, written, follows⟩ := resolve_follows_writes.2 t start read
  exact ⟨read, ⟨members, written, follows writes⟩, by decide, by decide, by decide⟩

end PromptTemplate.Wildcards
