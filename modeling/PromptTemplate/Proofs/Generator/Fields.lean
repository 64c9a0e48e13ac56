/-
# PromptTemplate.Proofs.Generator.Fields -- configurations are read field by field

A JSON object gives a configuration the fields that it has keys for, in whatever order they
stand and whatever unknown keys stand between them (`Interspersed`); every other field has
its standard value.  A field that is set from what another configuration writes for it has
the value of the other configuration (`set?_get`), and setting one field after another
takes all of them (`foldlM_set?`).

So what a configuration is written as is read as the configuration, and a known key that is
repeated makes the text unreadable (`read?_field_by_field`).
-/
import Mathlib.Data.List.Nodup
import PromptTemplate.Generator.Configuration
import PromptTemplate.Proofs.Json.Numerals
import PromptTemplate.Proofs.Json.ReadBack
import PromptTemplate.Proofs.Json.Types

set_option autoImplicit false

namespace PromptTemplate.Configuration

/-! ## Keys -/

theorem Field.ofKey?_eq_some_iff {name : Text} {field : Field} :
    Field.ofKey? name = some field ↔ name = field.key := by
  constructor
  · intro found
    have same := List.find?_some found
    exact (beq_iff_eq.1 same).symm
  · rintro rfl
    cases field <;> decide

theorem Field.ofKey?_eq_none_iff {name : Text} :
    Field.ofKey? name = none ↔ ∀ field : Field, name ≠ field.key := by
  rw [Option.eq_none_iff_forall_ne_some]
  exact forall_congr' fun field => not_congr Field.ofKey?_eq_some_iff

theorem modeOfJson?_modeName (mode : Mode) : modeOfJson? (.ofText (modeName mode)) = some mode := by
  cases mode <;> decide

theorem size?_toNat (word : UInt64) : (Json.ofNat word.toNat).size? = some word.toNat :=
  Text.size?_ofNat word.toNat_lt

/-! ## Setting fields -/

/-- The configuration with the given fields taken from another one. -/
def taking (base c : Configuration) (fields : List Field) : Configuration where
  mode := if .mode ∈ fields then c.mode else base.mode
  seed := if .seed ∈ fields then c.seed else base.seed
  unlinkSeed := if .unlinkSeed ∈ fields then c.unlinkSeed else base.unlinkSeed
  batches := if .batches ∈ fields then c.batches else base.batches
  freeze := if .freeze ∈ fields then c.freeze else base.freeze
  maxPrompts := if .maxPrompts ∈ fields then c.maxPrompts else base.maxPrompts

theorem taking_nil (base c : Configuration) : base.taking c [] = base := by
  simp only [taking, List.not_mem_nil, if_false]

theorem taking_of_all (base c : Configuration) {fields : List Field}
    (all : ∀ field, field ∈ fields) : base.taking c fields = c := by
  simp only [taking, all, if_true]

theorem taking_taking (base c : Configuration) (field : Field) (fields : List Field) :
    (base.taking c [field]).taking c fields = base.taking c (field :: fields) := by
  have either {α : Type} (own : Field) (x y : α) :
      (if own ∈ fields then x else if own ∈ [field] then x else y) =
        if own ∈ field :: fields then x else y := by
    by_cases first : own = field <;> by_cases later : own ∈ fields <;> simp [first, later]
  simp only [taking, either]

/-- A field that is set from what a configuration writes for it is taken from it. -/
theorem set?_get (base c : Configuration) (field : Field) :
    field.set? base (field.get c) = some (base.taking c [field]) := by
  cases field with
  | mode =>
    rw [Field.get, Field.set?, modeOfJson?_modeName]
    rfl
  | seed =>
    cases seed : c.seed with
    | none => simp [Field.get, Field.set?, seed, Json.optionalSize?, taking]
    | some word =>
      have size : (Json.ofNat word.toNat).optionalSize? = some (some word.toNat) := by
        have size := size?_toNat word
        rw [Json.ofNat] at size ⊢
        rw [Json.optionalSize?.eq_2 _ Json.noConfusion, size]
        rfl
      simp [Field.get, Field.set?, seed, size, taking]
  | batches =>
    rw [Field.get, Field.set?, size?_toNat, Option.map_some, UInt64.ofNat_toNat]
    rfl
  | maxPrompts =>
    rw [Field.get, Field.set?, size?_toNat, Option.map_some, UInt64.ofNat_toNat]
    rfl
  | unlinkSeed => rfl
  | freeze => rfl

/-- Setting fields one after another takes all of them over. -/
theorem foldlM_set? (base c : Configuration) (fields : List Field) :
    (fields.map fun field => (field, field.get c)).foldlM
      (fun base (entry : Field × Json) => entry.1.set? base entry.2) base =
        some (base.taking c fields) := by
  induction fields generalizing base with
  | nil => rw [taking_nil]; rfl
  | cons field fields ih =>
    rw [List.map_cons, List.foldlM_cons, set?_get, Option.bind_eq_bind, Option.bind_some, ih,
      taking_taking]

/-! ## Members of an object -/

/-- The members hold what the configuration writes for the fields, in this order, and any
values under unknown keys between them. -/
inductive Interspersed (c : Configuration) : List Field → List (Text × Json) → Prop where
  | nil : Interspersed c [] []
  | known (field : Field) {fields : List Field} {members : List (Text × Json)}
      (more : Interspersed c fields members) :
      Interspersed c (field :: fields) ((field.key, field.get c) :: members)
  | unknown {key : Text} (value : Json) (other : ∀ field : Field, key ≠ field.key)
      {fields : List Field} {members : List (Text × Json)} (more : Interspersed c fields members) :
      Interspersed c fields ((key, value) :: members)

/-- The values under known keys, with their fields. -/
def knownMembers (members : List (Text × Json)) : List (Field × Json) :=
  members.filterMap fun member => (Field.ofKey? member.1).map fun field => (field, member.2)

theorem knownMembers_cons_known {key : Text} {field : Field} (same : key = field.key)
    (value : Json) (members : List (Text × Json)) :
    knownMembers ((key, value) :: members) = (field, value) :: knownMembers members := by
  refine List.filterMap_cons_some ?_
  rw [Field.ofKey?_eq_some_iff.2 same, Option.map_some]

theorem knownMembers_cons_unknown {key : Text} (other : ∀ field : Field, key ≠ field.key)
    (value : Json) (members : List (Text × Json)) :
    knownMembers ((key, value) :: members) = knownMembers members := by
  refine List.filterMap_cons_none ?_
  rw [Field.ofKey?_eq_none_iff.2 other, Option.map_none]

theorem knownMembers_of_interspersed {c : Configuration} {fields : List Field}
    {members : List (Text × Json)} (between : Interspersed c fields members) :
    knownMembers members = fields.map fun field => (field, field.get c) := by
  induction between with
  | nil => rfl
  | known field _ ih => rw [knownMembers_cons_known rfl, ih, List.map_cons]
  | unknown value other _ ih => rw [knownMembers_cons_unknown other, ih]

theorem interspersed_map (c : Configuration) (fields : List Field) :
    Interspersed c fields (fields.map fun field => (field.key, field.get c)) := by
  induction fields with
  | nil => exact .nil
  | cons field fields ih => exact .known field ih

theorem ofJson?_ofMembers (members : List (Text × Json)) :
    ofJson? (.ofMembers members) =
      if ((knownMembers members).map fun entry => entry.1).Nodup then
        ofFields? (knownMembers members)
      else none := by
  have read := (Json.members?_eq_some_iff (.ofMembers members) members).2 rfl
  rw [Json.ofMembers] at read ⊢
  rw [ofJson?.eq_2 _ fun _ => Json.noConfusion, read]
  rfl

/-- A key of a field that is repeated is repeated among the known members. -/
theorem count_le_count_knownMembers (field : Field) (members : List (Text × Json)) :
    (members.map fun member => member.1).count field.key ≤
      ((knownMembers members).map fun entry => entry.1).count field := by
  induction members with
  | nil => exact Nat.le_refl 0
  | cons member members ih =>
    obtain ⟨key, value⟩ := member
    rw [List.map_cons]
    by_cases same : key = field.key
    · rw [knownMembers_cons_known same, List.map_cons, same, List.count_cons_self,
        List.count_cons_self]
      exact Nat.succ_le_succ ih
    · rw [List.count_cons_of_ne same]
      by_cases known : ∃ other : Field, key = other.key
      · obtain ⟨other, own⟩ := known
        rw [knownMembers_cons_known own, List.map_cons]
        exact Nat.le_trans ih List.count_le_count_cons
      · rw [knownMembers_cons_unknown (not_exists.1 known)]
        exact ih

variable {t : Text} {members : List (Text × Json)}

/-- Fields that are written are taken, and the others are as in the standard
configuration. -/
theorem read?_of_interspersed {c : Configuration} {fields : List Field} (once : fields.Nodup)
    (between : Interspersed c fields members) (written : Json.read? t = some (.ofMembers members)) :
    read? t = some (standard.taking c fields) := by
  have known :
      ((fields.map fun field => (field, field.get c)).map fun entry => entry.1) = fields := by
    rw [List.map_map]
    exact List.map_id fields
  rw [read?, written, Option.bind_some, ofJson?_ofMembers, knownMembers_of_interspersed between,
    known, if_pos once]
  exact foldlM_set? standard c fields

/-- A field that is written twice is refused; neither value is preferred. -/
theorem read?_of_repeated {field : Field}
    (twice : 2 ≤ (members.map fun member => member.1).count field.key)
    (written : Json.read? t = some (.ofMembers members)) : read? t = none := by
  rw [read?, written, Option.bind_some, ofJson?_ofMembers, if_neg]
  intro once
  have single := List.nodup_iff_count_le_one.1 once field
  exact absurd (Nat.le_trans twice (count_le_count_knownMembers field members)) (by omega)

/-! ## The object of a configuration -/

theorem wellFormed_get (c : Configuration) (field : Field) : (field.get c).WellFormed := by
  cases field with
  | mode => exact .string _
  | seed =>
    cases seed : c.seed with
    | none => rw [Field.get, seed]; exact .null
    | some word => rw [Field.get, seed]; exact Json.wellFormed_ofNat _
  | unlinkSeed => exact .bool _
  | batches => exact Json.wellFormed_ofNat _
  | freeze => exact .bool _
  | maxPrompts => exact Json.wellFormed_ofNat _

theorem read?_jsonText (c : Configuration) : read? c.jsonText = some c := by
  have all (field : Field) : field ∈ Field.all := by cases field <;> decide
  have written : Json.read? c.jsonText =
      some (.ofMembers (Field.all.map fun field => (field.key, field.get c))) := by
    refine Json.read?_compact (Json.WellFormed.ofMembers fun member inside => ?_)
    obtain ⟨field, -, rfl⟩ := List.mem_map.1 inside
    exact wellFormed_get c field
  rw [read?_of_interspersed (by decide) (interspersed_map c Field.all) written,
    taking_of_all standard c all]

/-- A text that writes some fields of a configuration in any order, with anything under
unknown keys between them, is read as the standard configuration with these fields taken
from it, which is the configuration itself when the fields are all fields; a text in which
a known key stands twice is not read.  Every object has such texts, with any white space
between its tokens, and the compact text of the configuration is one of them. -/
theorem read?_field_by_field (c : Configuration) :
    (∀ fields members, fields.Nodup → Interspersed c fields members → ∀ t,
      Json.read? t = some (.ofMembers members) → read? t = some (standard.taking c fields)) ∧
    (∀ fields : List Field, (∀ field, field ∈ fields) → standard.taking c fields = c) ∧
    (∀ (field : Field) members, 2 ≤ (members.map fun member => member.1).count field.key → ∀ t,
      Json.read? t = some (.ofMembers members) → read? t = none) ∧
    (∀ members : List (Text × Json), (∀ member ∈ members, member.2.WellFormed) → ∀ t,
      Json.Laid (Json.ofMembers members).tokens t → Json.read? t = some (.ofMembers members)) ∧
    read? c.jsonText = some c :=
  ⟨fun _ _ once between _ written => read?_of_interspersed once between written,
    fun _ all => taking_of_all standard c all,
    fun _ _ twice _ written => read?_of_repeated twice written,
    fun _ each _ laid => Json.read?_of_laid (Json.WellFormed.ofMembers each) laid,
    read?_jsonText c⟩

/-- The greatest seed, a mode, and between them an unknown key whose value looks like more of
the same; a second mode makes it unreadable. -/
theorem read?_field_by_field_nested :
    let c : Configuration := { standard with mode := .dummy, seed := some 18446744073709551615 }
    let unknown : Json := .array [.ofMembers [("mode".toList, .bool true)]]
    let members : List (Text × Json) :=
      [(Field.seed.key, Field.seed.get c), ("x".toList, unknown),
        (Field.mode.key, Field.mode.get c)]
    let t := (Json.ofMembers members).compact
    let repeated := (Json.ofMembers ((Field.mode.key, .null) :: members)).compact
    Json.read? t = some (.ofMembers members) ∧ Interspersed c [.seed, .mode] members ∧
      read? t = some (standard.taking c [.seed, .mode]) ∧ standard.taking c [.seed, .mode] = c ∧
      read? repeated = none := by
  intro c unknown members t repeated
  obtain ⟨reads, -, refuses, -⟩ := read?_field_by_field c
  have nested : unknown.WellFormed := by
    refine .array fun item inside => ?_
    obtain rfl := List.mem_singleton.1 inside
    exact Json.WellFormed.ofMembers fun member own => by
      obtain rfl := List.mem_singleton.1 own
      exact .bool true
  have each : ∀ member ∈ (Field.mode.key, .null) :: members, member.2.WellFormed := by
    simp only [members, List.forall_mem_cons]
    exact ⟨.null, wellFormed_get c .seed, nested, wellFormed_get c .mode, nofun⟩
  have between : Interspersed c [.seed, .mode] members :=
    .known .seed (.unknown unknown (fun field => by cases field <;> decide) (.known .mode .nil))
  have written : Json.read? t = some (.ofMembers members) :=
    Json.read?_compact (Json.WellFormed.ofMembers (List.forall_mem_cons.1 each).2)
  exact ⟨written, between, reads _ _ (by decide) between t written, by decide,
    refuses .mode _ (by decide) repeated (Json.read?_compact (Json.WellFormed.ofMembers each))⟩

end PromptTemplate.Configuration
