/-
# PromptTemplate.Proofs.Matching -- the search for distinct values is exact

`Matching.haveDistinctValues` gives the positions a value one after the other and
gives up at the first position for which its search fails.  It is exact
(`haveDistinctValues_iff`): it succeeds just when some choice of a value from every
row holds no value twice.

What a search does is said once (`Search.Meets`).  A search that succeeds moves values
between owners and adds one for its position (`Moved`).  A search that fails has tried
a set of values out of which nothing leads (`Exhausted`): each of them is owned, and
the whole row of its owner is in the set.  Such a set has as many values as owners, so
the position whose row lies in the set as well is one too many
(`Owners.Matches.not_exhausted`), and no choice of distinct values exists.
-/
import PromptTemplate.Matching
import Mathlib.Data.Finset.Card
import Mathlib.Data.List.FinRange
import Mathlib.Data.List.Forall2

set_option autoImplicit false
set_option linter.unusedSectionVars false

namespace PromptTemplate.Matching

variable {ι : Type} [DecidableEq ι]

/-- The values that the position may hold. -/
def rowAt (rows : List (List ι)) (position : Nat) : List ι :=
  rows[position]?.getD []

theorem mem_flatten_of_mem_rowAt {rows : List (List ι)} {position : Nat} {v : ι}
    (member : v ∈ rowAt rows position) : v ∈ rows.flatten := by
  unfold rowAt at member
  cases found : rows[position]? with
  | none => simp [found] at member
  | some row =>
    rw [found, Option.getD_some] at member
    exact List.mem_flatten.2 ⟨row, List.mem_of_getElem? found, member⟩

/-! ## Tables -/

namespace Owners

theorem give_self (owners : Owners ι) (v : ι) (q : Nat) : owners.give v q v = some q := by
  simp [give]

theorem give_of_ne (owners : Owners ι) {u v : ι} (q : Nat) (ne : u ≠ v) :
    owners.give v q u = owners u := by
  simp [give, ne]

/-- A value of another position is not the one that has been given away. -/
theorem of_give_of_ne {owners : Owners ι} {u v : ι} {p q : Nat} (ne : q ≠ p)
    (owned : owners.give v p u = some q) : u ≠ v ∧ owners u = some q := by
  by_cases same : u = v
  · rw [same, give_self] at owned
    exact absurd (Option.some.inj owned).symm ne
  · exact ⟨same, by rwa [give_of_ne _ _ same] at owned⟩

/-- Values are owned by positions that may hold them, and no position owns two. -/
structure Consistent (rows : List (List ι)) (owners : Owners ι) : Prop where
  mem_row : ∀ {v q}, owners v = some q → v ∈ rowAt rows q
  unique : ∀ {u v q}, owners u = some q → owners v = some q → u = v

/-- The positions below a number are those that own a value. -/
structure Matches (rows : List (List ι)) (owners : Owners ι) (count : Nat) : Prop
    extends Consistent rows owners where
  owns_iff : ∀ q, (∃ v, owners v = some q) ↔ q < count

end Owners

/-- A value given to a position of whose row it is keeps every position to its row. -/
theorem mem_rowAt_of_give {rows : List (List ι)} {owners : Owners ι} {value : ι} {position : Nat}
    (inRows : ∀ {v q}, owners v = some q → v ∈ rowAt rows q)
    (inRowAt : value ∈ rowAt rows position) {v : ι} {q : Nat}
    (owned : owners.give value position v = some q) : v ∈ rowAt rows q := by
  by_cases same : v = value
  · subst same
    rw [Owners.give_self] at owned
    exact Option.some.inj owned ▸ inRowAt
  · rw [Owners.give_of_ne _ _ same] at owned
    exact inRows owned

/-! ## What a search does -/

/-- A position that owned only tried values has found one more, in the row and not
tried.  Tried values stay where they are; the other positions own a value each if they
owned one before, and the same one if it had been tried. -/
structure Moved (rows : List (List ι)) (position : Nat) (row tried : List ι)
    (owners moved : Owners ι) : Prop where
  gained : ∃ w ∈ row, w ∉ tried ∧ moved w = some position ∧
    ∀ v, moved v = some position → v = w ∨ owners v = some position
  mem_row : ∀ {v q}, moved v = some q → v ∈ rowAt rows q
  unique : ∀ {u v q}, q ≠ position → moved u = some q → moved v = some q → u = v
  frame : ∀ v ∈ tried, moved v = owners v
  settled : ∀ q, q ≠ position → (∀ v, owners v = some q → v ∈ tried) →
    ∀ v, moved v = some q → owners v = some q
  owns_iff : ∀ q, q ≠ position → ((∃ v, moved v = some q) ↔ ∃ v, owners v = some q)

/-- The row has been tried, and so has the row of the owner of every value tried on the
way. -/
structure Exhausted (rows : List (List ι)) (row tried : List ι) (owners : Owners ι)
    (after : List ι) : Prop where
  grows : tried ⊆ after
  row_subset : row ⊆ after
  closed : ∀ v ∈ after, v ∈ tried ∨ ∃ q, owners v = some q ∧ rowAt rows q ⊆ after

/-- What the result of a search for a value of the row says. -/
def Search.Meets (rows : List (List ι)) (position : Nat) (row tried : List ι)
    (owners : Owners ι) : Search ι → Prop
  | .found moved => Moved rows position row tried owners moved
  | .failed after => Exhausted rows row tried owners after

/-- A search behind further tried values is one behind the first of them. -/
theorem Moved.of_subset {rows : List (List ι)} {position : Nat} {row row' tried tried' : List ι}
    {owners moved : Owners ι} (moves : Moved rows position row tried owners moved)
    (less : tried' ⊆ tried) (more : row ⊆ row') :
    Moved rows position row' tried' owners moved where
  gained := by
    obtain ⟨w, inRow, untried, own, only⟩ := moves.gained
    exact ⟨w, more inRow, fun member => untried (less member), own, only⟩
  mem_row := moves.mem_row
  unique := moves.unique
  frame := fun v member => moves.frame v (less member)
  settled := fun q ne held => moves.settled q ne fun v owned => less (held v owned)
  owns_iff := moves.owns_iff

/-- Taking a free value. -/
theorem Moved.of_free {rows : List (List ι)} {position : Nat} {row tried : List ι}
    {owners : Owners ι} {value : ι} (consistent : owners.Consistent rows)
    (inRow : value ∈ row) (inRowAt : value ∈ rowAt rows position) (untried : value ∉ tried)
    (free : owners value = none) :
    Moved rows position row tried owners (owners.give value position) := by
  refine ⟨⟨value, inRow, untried, Owners.give_self .., fun v owned => ?_⟩, ?_, ?_, ?_, ?_, ?_⟩
  · by_cases same : v = value
    · exact .inl same
    · exact .inr (by rwa [Owners.give_of_ne _ _ same] at owned)
  · intro v q owned
    exact mem_rowAt_of_give consistent.mem_row inRowAt owned
  · intro u v q ne first second
    exact consistent.unique (Owners.of_give_of_ne ne first).2 (Owners.of_give_of_ne ne second).2
  · intro v member
    exact Owners.give_of_ne _ _ fun same => untried (same ▸ member)
  · intro q ne _ v owned
    exact (Owners.of_give_of_ne ne owned).2
  · intro q ne
    constructor
    · rintro ⟨v, owned⟩
      exact ⟨v, (Owners.of_give_of_ne ne owned).2⟩
    · rintro ⟨v, owned⟩
      have different : v ≠ value := by
        rintro rfl
        simp [free] at owned
      exact ⟨v, by rwa [Owners.give_of_ne _ _ different]⟩

/-- Taking a value whose owner has found another one. -/
theorem Moved.of_owned {rows : List (List ι)} {position owner : Nat} {row tried : List ι}
    {owners moved : Owners ι} {value : ι} (consistent : owners.Consistent rows)
    (inRow : value ∈ row) (inRowAt : value ∈ rowAt rows position) (untried : value ∉ tried)
    (busy : ∀ v, owners v = some position → v ∈ tried) (owned : owners value = some owner)
    (moves : Moved rows owner (rowAt rows owner) (value :: tried) owners moved) :
    Moved rows position row tried owners (moved.give value position) := by
  have apart : position ≠ owner := by
    rintro rfl
    exact untried (busy value owned)
  obtain ⟨w, -, fresh, ownsFresh, only⟩ := moves.gained
  have wNe : w ≠ value := fun same => fresh (same ▸ List.mem_cons_self)
  -- the owner has given the value up, so the one it has found is its only one
  have ownerOnly : ∀ {v}, v ≠ value → moved v = some owner → v = w := by
    intro v ne given
    rcases only v given with same | before
    · exact same
    · exact absurd (consistent.unique before owned) ne
  refine ⟨⟨value, inRow, untried, Owners.give_self .., fun v given => ?_⟩, ?_, ?_, ?_, ?_, ?_⟩
  · by_cases same : v = value
    · exact .inl same
    · refine .inr (moves.settled position apart (fun u held => ?_) v ?_)
      · exact List.mem_cons_of_mem value (busy u held)
      · rwa [Owners.give_of_ne _ _ same] at given
  · intro v q given
    exact mem_rowAt_of_give moves.mem_row inRowAt given
  · intro u v q ne first second
    obtain ⟨uNe, first⟩ := Owners.of_give_of_ne ne first
    obtain ⟨vNe, second⟩ := Owners.of_give_of_ne ne second
    by_cases isOwner : q = owner
    · subst isOwner
      rw [ownerOnly uNe first, ownerOnly vNe second]
    · exact moves.unique isOwner first second
  · intro v member
    have ne : v ≠ value := fun same => untried (same ▸ member)
    rw [Owners.give_of_ne _ _ ne]
    exact moves.frame v (List.mem_cons_of_mem value member)
  · intro q ne held v given
    have notOwner : q ≠ owner := by
      rintro rfl
      exact untried (held value owned)
    exact moves.settled q notOwner (fun u holds => List.mem_cons_of_mem value (held u holds)) v
      (Owners.of_give_of_ne ne given).2
  · intro q ne
    by_cases isOwner : q = owner
    · subst isOwner
      exact ⟨fun _ => ⟨value, owned⟩, fun _ => ⟨w, by rwa [Owners.give_of_ne _ _ wNe]⟩⟩
    · rw [← moves.owns_iff q isOwner]
      constructor
      · rintro ⟨v, given⟩
        exact ⟨v, (Owners.of_give_of_ne ne given).2⟩
      · rintro ⟨v, holds⟩
        have different : v ≠ value := by
          rintro rfl
          rw [moves.frame v List.mem_cons_self, owned] at holds
          exact isOwner (Option.some.inj holds).symm
        exact ⟨v, by rwa [Owners.give_of_ne _ _ different]⟩

/-- A value that has been tried before adds nothing to a failed search. -/
theorem Exhausted.of_seen {rows : List (List ι)} {rest tried after : List ι} {owners : Owners ι}
    {value : ι} (seen : value ∈ tried) (later : Exhausted rows rest tried owners after) :
    Exhausted rows (value :: rest) tried owners after where
  grows := later.grows
  row_subset := List.cons_subset.2 ⟨later.grows seen, later.row_subset⟩
  closed := later.closed

/-- The owner of a value finds no other one, and then the rest of the row is tried. -/
theorem Exhausted.of_owned {rows : List (List ι)} {rest tried middle after : List ι}
    {owners : Owners ι} {value : ι} {owner : Nat} (owned : owners value = some owner)
    (search : Exhausted rows (rowAt rows owner) (value :: tried) owners middle)
    (later : Exhausted rows rest middle owners after) :
    Exhausted rows (value :: rest) tried owners after where
  grows := by
    intro v member
    apply later.grows
    exact search.grows (List.mem_cons_of_mem value member)
  row_subset := List.cons_subset.2
    ⟨later.grows (search.grows List.mem_cons_self), later.row_subset⟩
  closed := by
    -- a value is tried before, or on the way to the owner, or on the way behind it
    intro v member
    rcases later.closed v member with inMiddle | leads
    · rcases search.closed v inMiddle with before | ⟨q, other, inside⟩
      · rcases List.mem_cons.1 before with rfl | before
        · exact .inr ⟨owner, owned, fun u held => later.grows (search.row_subset held)⟩
        · exact .inl before
      · exact .inr ⟨q, other, fun u held => later.grows (inside held)⟩
    · exact .inr leads

/-! ## Every search does so -/

def untried (rows : List (List ι)) (tried : List ι) : Nat :=
  (rows.flatten.filter fun v => v ∉ tried).length

theorem untried_le (rows : List (List ι)) {tried after : List ι} (grows : tried ⊆ after) :
    untried rows after ≤ untried rows tried := by
  refine (List.monotone_filter_right rows.flatten fun v kept => ?_).length_le
  simp only [decide_eq_true_eq] at kept ⊢
  exact fun member => kept (grows member)

/-- Trying a value leaves fewer to try, which is the measure of a search. -/
theorem untried_cons_lt {rows : List (List ι)} {tried : List ι} {v : ι}
    (member : v ∈ rows.flatten) (fresh : v ∉ tried) :
    untried rows (v :: tried) < untried rows tried := by
  unfold untried
  generalize rows.flatten = values at member
  have split : (values.filter fun u => u ∉ v :: tried) =
      (values.filter fun u => u ∉ tried).filter fun u => u ≠ v := by
    simp [List.filter_filter, not_or]
  rw [split]
  exact List.length_filter_lt_length_iff_exists.2 ⟨v, by simp [member, fresh], by simp⟩

section Search

variable {rows : List (List ι)} {owners : Owners ι}

/-- Trying the values of a row in turn, when moving an owner is a search. -/
theorem takeFrom_meets (consistent : owners.Consistent rows) {move : Nat → List ι → Search ι}
    {fuel : Nat}
    (moves : ∀ owner tried, (∀ v, owners v = some owner → v ∈ tried) →
      untried rows tried < fuel →
      Search.Meets rows owner (rowAt rows owner) tried owners (move owner tried))
    {position : Nat} (row tried : List ι) (within : row ⊆ rowAt rows position)
    (busy : ∀ v, owners v = some position → v ∈ tried)
    (enough : untried rows tried < fuel + 1) :
    Search.Meets rows position row tried owners (takeFrom move owners position row tried) := by
  induction row generalizing tried with
  | nil =>
    exact ⟨fun _ member => member, List.nil_subset _, fun v member => .inl member⟩
  | cons value rest ih =>
    have withinRest : rest ⊆ rowAt rows position :=
      fun v member => within (List.mem_cons_of_mem value member)
    have inRowAt : value ∈ rowAt rows position := within List.mem_cons_self
    unfold takeFrom
    by_cases seen : value ∈ tried
    · rw [if_pos seen]
      have later := ih tried withinRest busy enough
      generalize takeFrom move owners position rest tried = result at later
      cases result with
      | found moved => exact later.of_subset (fun _ member => member) (List.subset_cons_self ..)
      | failed after => exact Exhausted.of_seen seen later
    · rw [if_neg seen]
      cases owned : owners value with
      | none =>
        exact Moved.of_free consistent List.mem_cons_self inRowAt seen owned
      | some owner =>
        -- the owner may keep its value only if it finds no other
        have ownerBusy : ∀ v, owners v = some owner → v ∈ value :: tried := by
          intro v other
          rw [consistent.unique other owned]
          exact List.mem_cons_self
        have less := untried_cons_lt (mem_flatten_of_mem_rowAt inRowAt) seen
        have search := moves owner (value :: tried) ownerBusy (by omega)
        dsimp only
        generalize move owner (value :: tried) = result at search
        cases result with
        | found moved =>
          exact Moved.of_owned consistent List.mem_cons_self inRowAt seen busy owned search
        | failed middle =>
          -- what was tried for the owner in vain is not tried again for this position
          have grows : tried ⊆ middle := fun v member =>
            search.grows (List.mem_cons_of_mem value member)
          have fewer := untried_le rows grows
          have later := ih middle withinRest (fun v held => grows (busy v held)) (by omega)
          change Search.Meets rows position (value :: rest) tried owners
            (takeFrom move owners position rest middle)
          generalize takeFrom move owners position rest middle = result at later
          cases result with
          | found moved => exact later.of_subset grows (List.subset_cons_self ..)
          | failed after => exact Exhausted.of_owned owned search later

/-- With fuel for all values that are not tried, the result of a search means what it
says. -/
theorem augment_meets (consistent : owners.Consistent rows) (fuel position : Nat)
    (tried : List ι) (busy : ∀ v, owners v = some position → v ∈ tried)
    (enough : untried rows tried < fuel) :
    Search.Meets rows position (rowAt rows position) tried owners
      (augment rows owners fuel position tried) := by
  induction fuel generalizing position tried with
  | zero => exact absurd enough (Nat.not_lt_zero _)
  | succ fuel ih =>
    exact takeFrom_meets consistent ih _ tried (fun _ member => member) busy enough

end Search

/-! ## Distinct values -/

/-- The rows have distinct values: one of every row, none of them twice. -/
def Representable (rows : List (List ι)) : Prop :=
  ∃ values : List ι, values.Nodup ∧ List.Forall₂ (· ∈ ·) values rows

section Representatives

variable {rows : List (List ι)} {owners : Owners ι} {count : Nat}

/-- A search that gives one more position a value leaves one more position matched. -/
theorem Moved.matches {moved : Owners ι} (before : owners.Matches rows count)
    (moves : Moved rows count (rowAt rows count) [] owners moved) :
    moved.Matches rows (count + 1) := by
  obtain ⟨w, -, -, own, only⟩ := moves.gained
  have onlyOne : ∀ {v}, moved v = some count → v = w := by
    intro v given
    rcases only v given with same | held
    · exact same
    · exact absurd ((before.owns_iff count).1 ⟨v, held⟩) (Nat.lt_irrefl count)
  refine ⟨⟨moves.mem_row, fun {u v q} first second => ?_⟩, fun q => ?_⟩
  · by_cases last : q = count
    · subst last
      rw [onlyOne first, onlyOne second]
    · exact moves.unique last first second
  · by_cases last : q = count
    · subst last
      exact ⟨fun _ => Nat.lt_succ_self q, fun _ => ⟨w, own⟩⟩
    · rw [moves.owns_iff q last, before.owns_iff q]
      omega

/-- Where values of the rows send a value: to that of the row of its owner. -/
def Owners.sent (owners : Owners ι) (values : List ι) (v : ι) : ι :=
  (values[(owners v).getD 0]?).getD v

theorem Owners.sent_eq {values : List ι} {v u : ι} {q : Nat} (owned : owners v = some q)
    (found : values[q]? = some u) : owners.sent values v = u := by
  simp [sent, owned, found]

/-- Distinct values of the matched rows and one more leave every search a way out: sent
along the owners they would map the tried values into themselves, injectively but not
onto the value of the row that is one too many. -/
theorem Owners.Matches.not_exhausted (before : owners.Matches rows count) {values : List ι}
    (nodup : values.Nodup) (each : ∀ q ≤ count, ∃ v ∈ rowAt rows q, values[q]? = some v)
    (after : List ι) : ¬ Exhausted rows (rowAt rows count) [] owners after := by
  intro exhausted
  -- every tried value is owned, and its owner's value in the list has been tried as well
  have leads : ∀ v ∈ after, ∃ q u, owners v = some q ∧ q < count ∧ u ∈ after ∧
      values[q]? = some u ∧ owners.sent values v = u := by
    intro v member
    rcases exhausted.closed v member with early | ⟨q, owned, inside⟩
    · exact absurd early List.not_mem_nil
    · have below := (before.owns_iff q).1 ⟨v, owned⟩
      obtain ⟨u, inRow, found⟩ := each q (Nat.le_of_lt below)
      exact ⟨q, u, owned, below, inside inRow, found, Owners.sent_eq owned found⟩
  have position_eq : ∀ {p q : Nat} {u}, values[p]? = some u → values[q]? = some u → p = q := by
    intro p q u first second
    obtain ⟨bound, -⟩ := List.getElem?_eq_some_iff.1 first
    exact (List.getElem?_inj bound nodup).1 (first.trans second.symm)
  have maps : ∀ v ∈ after.toFinset, owners.sent values v ∈ after.toFinset := by
    intro v member
    obtain ⟨q, u, -, -, inside, -, same⟩ := leads v (List.mem_toFinset.1 member)
    exact List.mem_toFinset.2 (same ▸ inside)
  have one_to_one : Set.InjOn (owners.sent values) after.toFinset := by
    intro u uMember v vMember same
    obtain ⟨p, x, uOwned, -, -, uFound, uSent⟩ := leads u (List.mem_toFinset.1 uMember)
    obtain ⟨q, y, vOwned, -, -, vFound, vSent⟩ := leads v (List.mem_toFinset.1 vMember)
    rw [uSent, vSent] at same
    have equal := position_eq uFound (same ▸ vFound)
    exact before.unique uOwned (equal ▸ vOwned)
  have onto := Finset.surjOn_of_injOn_of_card_le (owners.sent values) maps one_to_one le_rfl
  -- the value of the position that is next has been tried, and no owner sends to it
  obtain ⟨last, inRow, found⟩ := each count (Nat.le_refl count)
  obtain ⟨v, member, same⟩ := onto (show last ∈ (after.toFinset : Set ι) by
    simpa using exhausted.row_subset inRow)
  obtain ⟨q, u, -, below, -, found', same'⟩ := leads v (by simpa using member)
  have equal := position_eq found' ((same'.symm.trans same) ▸ found)
  omega

/-- The search for the position that is next has the fuel that it needs. -/
theorem Owners.Matches.augment_meets (before : owners.Matches rows count) :
    Search.Meets rows count (rowAt rows count) [] owners
      (augment rows owners (rows.flatten.length + 1) count []) := by
  refine Matching.augment_meets before.toConsistent _ count [] (fun v held => ?_) ?_
  · exact absurd ((before.owns_iff count).1 ⟨v, held⟩) (Nat.lt_irrefl count)
  · exact Nat.lt_succ_of_le (List.length_filter_le _ _)

theorem matches_of_assign (before : owners.Matches rows count) (more : Nat)
    {assigned : Owners ι} (done : assign rows owners (List.range' count more) = some assigned) :
    assigned.Matches rows (count + more) := by
  induction more generalizing owners count with
  | zero => exact Option.some.inj done ▸ before
  | succ more ih =>
    rw [List.range'_succ, assign] at done
    have search := before.augment_meets
    generalize augment rows owners (rows.flatten.length + 1) count [] = result at search done
    cases result with
    | failed after => cases done
    | found moved =>
      have next := ih (Moved.matches before search) done
      rwa [Nat.add_right_comm, Nat.add_assoc] at next

/-- Where the positions have distinct values at all, none of the searches fails. -/
theorem assign_isSome (before : owners.Matches rows count) (more : Nat)
    {values : List ι} (nodup : values.Nodup)
    (each : ∀ q < count + more, ∃ v ∈ rowAt rows q, values[q]? = some v) :
    (assign rows owners (List.range' count more)).isSome := by
  induction more generalizing owners count with
  | zero => rfl
  | succ more ih =>
    rw [List.range'_succ, assign]
    have search := before.augment_meets
    generalize augment rows owners (rows.flatten.length + 1) count [] = result at search
    cases result with
    | failed after =>
      exact absurd search (before.not_exhausted nodup (fun q le => each q (by omega)) after)
    | found moved => exact ih (Moved.matches before search) fun q below => each q (by omega)

theorem matches_none : Owners.Matches rows (fun _ => none) 0 :=
  ⟨⟨nofun, nofun⟩, fun _ => ⟨nofun, nofun⟩⟩

/-- A table that matches every row shows distinct values. -/
theorem Owners.Matches.representable (full : owners.Matches rows rows.length) :
    Representable rows := by
  have owned : ∀ q : Fin rows.length, ∃ v, owners v = some q.val :=
    fun q => (full.owns_iff q).2 q.isLt
  choose value own using owned
  refine ⟨(List.finRange rows.length).map value, ?_, ?_⟩
  · apply (List.nodup_finRange _).map
    intro p q same
    have equal := (own p).symm.trans (same ▸ own q)
    exact Fin.ext (Option.some.inj equal)
  · refine List.forall₂_iff_get.2 ⟨by simp, fun q _ below => ?_⟩
    have member := full.mem_row (own ⟨q, below⟩)
    simpa [rowAt, below] using member

end Representatives

/-- The search is exact: it succeeds just when the rows have distinct values. -/
theorem haveDistinctValues_iff (rows : List (List ι)) :
    haveDistinctValues rows = true ↔ Representable rows := by
  unfold haveDistinctValues
  rw [List.range_eq_range']
  constructor
  · intro found
    obtain ⟨assigned, done⟩ := Option.isSome_iff_exists.1 found
    have full := matches_of_assign matches_none rows.length done
    rw [Nat.zero_add] at full
    exact full.representable
  · rintro ⟨values, nodup, each⟩
    apply assign_isSome matches_none rows.length nodup
    intro q below
    rw [Nat.zero_add] at below
    have bound : q < values.length := each.length_eq ▸ below
    refine ⟨values[q], ?_, List.getElem?_eq_getElem bound⟩
    simpa [rowAt, below] using each.get bound below

end PromptTemplate.Matching
