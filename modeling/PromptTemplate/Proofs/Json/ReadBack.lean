/-
# PromptTemplate.Proofs.Json.ReadBack -- what is written is read back

Both forms in which a value is written lay out its tokens: the compact form with nothing
between them (`WellFormed.laysOut_compact`), the indented form with line ends and spaces in
front of the items and members, and one space behind each colon
(`WellFormed.laysOut_indented`).  This goes by induction over the value, with any text behind
it in which no number goes on.

So either form is read back as the value, whatever its strings hold and however it is
nested (`read?_compact`, `read?_pretty`), and two values that are written alike are one.
-/
import PromptTemplate.Proofs.Json.Tokens

set_option autoImplicit false

namespace PromptTemplate.Json

open Reader

/-! ## Tokens in a text -/

theorem laid_blank {c : Char} (blank : isBlank c = true) {tokens : List Token} {t : Text}
    (laid : Laid tokens t) : Laid tokens (c :: t) := by
  rw [← laid_skip_iff] at laid ⊢
  rwa [skip, List.dropWhile_cons_of_pos blank]

theorem laid_token (token : Token) {c : Char} {more : Text} (starts : token.text = c :: more)
    (visible : isBlank c = false) {tokens : List Token} {t : Text} (ends : token.EndsBefore t)
    (laid : Laid tokens t) : Laid (token :: tokens) (token.text ++ t) := by
  refine ⟨t, ?_, ends, laid⟩
  rw [starts, List.cons_append, skip_cons visible]

theorem Stops.append {s t : Text} (front : Stops s) (back : Stops t) : Stops (s ++ t) := by
  cases s with
  | nil => exact back
  | cons c s => exact stops_cons (front c rfl) (s ++ t)

/-- The text lays out the tokens in front of anything in which no number goes on. -/
def LaysOut (tokens : List Token) (written : Text) : Prop :=
  ∀ behind t, Laid behind t → Stops t → Laid (tokens ++ behind) (written ++ t)

theorem laysOut_nil : LaysOut [] [] :=
  fun _ _ laid _ => laid

section LaysOut

variable {first next : List Token} {s u : Text}

/-- Two layouts in a row are one, unless a number goes on from the first into the second.
-/
theorem LaysOut.append (front : LaysOut first s) (back : LaysOut next u) (stops : Stops u) :
    LaysOut (first ++ next) (s ++ u) := by
  intro behind t laid ends
  rw [List.append_assoc, List.append_assoc]
  exact front _ _ (back behind t laid ends) (stops.append ends)

theorem LaysOut.blank (back : LaysOut next u) {c : Char} (blank : isBlank c = true) :
    LaysOut next (c :: u) :=
  fun behind t laid ends => laid_blank blank (back behind t laid ends)

theorem LaysOut.newline (back : LaysOut next u) (depth : Nat) :
    LaysOut next (newline depth ++ u) := by
  have spaces (n : Nat) : LaysOut next (List.replicate n ' ' ++ u) := by
    induction n with
    | zero => exact back
    | succ n ih => exact ih.blank (by decide)
  exact (spaces (2 * depth)).blank (by decide)

/-- What stands behind a token that is no number may go on with anything. -/
theorem LaysOut.token (back : LaysOut next u) (token : Token) {c : Char} {more : Text}
    (starts : token.text = c :: more) (visible : isBlank c = false)
    (ends : ∀ t, token.EndsBefore t) : LaysOut (token :: next) (token.text ++ u) := by
  intro behind t laid stops
  rw [List.append_assoc]
  exact laid_token token starts visible (ends _) (back behind t laid stops)

theorem LaysOut.sign (back : LaysOut next u) {c : Char} (visible : isBlank c = false) :
    LaysOut (.sign c :: next) (c :: u) :=
  back.token (.sign c) rfl visible fun _ => trivial

theorem LaysOut.string (back : LaysOut next u) (text : Option Text) :
    LaysOut (.string text :: next) (quote text ++ u) := by
  obtain ⟨body, written, -⟩ := string_quote text []
  rw [List.append_nil] at written
  exact back.token (.string text) written (by decide) fun _ => trivial

theorem laysOut_null : LaysOut [.null] "null".toList :=
  laysOut_nil.token .null rfl (by decide) fun _ => trivial

theorem laysOut_bool (truth : Bool) : LaysOut [.bool truth] (Token.bool truth).text := by
  rw [← List.append_nil (Token.bool truth).text]
  cases truth with
  | false => exact laysOut_nil.token (.bool false) rfl (by decide) fun _ => trivial
  | true => exact laysOut_nil.token (.bool true) rfl (by decide) fun _ => trivial

theorem laysOut_number {written : Text} (whole : Reader.number written = some (written, [])) :
    LaysOut [.number written] written := by
  intro behind t laid stops
  obtain ⟨c, more, starts, first⟩ := exists_cons_of_number whole
  exact laid_token (.number written) starts (isBlank_of_starts first) stops laid

theorem laysOut_string (text : Option Text) : LaysOut [.string text] (quote text) := by
  rw [← List.append_nil (quote text)]
  exact laysOut_nil.string text

end LaysOut

theorem stops_sign {c : Char} (sign : c ∈ [',', ']', '}', '\n']) (t : Text) : Stops (c :: t) := by
  simp only [List.mem_cons, List.not_mem_nil, or_false] at sign
  rcases sign with rfl | rfl | rfl | rfl <;> exact stops_cons (by decide) t

/-! ## The compact form -/

theorem laysOut_compactItems {item : Json} {more : List Json}
    (each : ∀ own ∈ item :: more, LaysOut own.tokens own.compact) :
    LaysOut (itemTokens (item :: more)) (compactItems (item :: more)) := by
  induction more generalizing item with
  | nil =>
    rw [itemTokens, laterItemTokens, compactItems, List.append_nil]
    exact each item List.mem_cons_self
  | cons next more ih =>
    obtain ⟨first, others⟩ := List.forall_mem_cons.1 each
    rw [itemTokens, laterItemTokens, compactItems, List.append_assoc]
    exact first.append ((ih others).sign (by decide)) (stops_sign (by simp) _)

theorem laysOut_compactMembers {member : Option Text × Json} {more : List (Option Text × Json)}
    (each : ∀ own ∈ member :: more, LaysOut own.2.tokens own.2.compact) :
    LaysOut (memberTokens (member :: more)) (compactMembers (member :: more)) := by
  induction more generalizing member with
  | nil =>
    obtain ⟨key, item⟩ := member
    have own : LaysOut item.tokens item.compact := each _ List.mem_cons_self
    rw [memberTokens, laterMemberTokens, compactMembers, List.append_nil, List.append_assoc]
    exact (own.sign (by decide)).string key
  | cons next more ih =>
    obtain ⟨first, others⟩ := List.forall_mem_cons.1 each
    obtain ⟨key, item⟩ := member
    have own : LaysOut item.tokens item.compact := first
    rw [memberTokens, laterMemberTokens, compactMembers]
    simp only [List.append_assoc]
    exact ((own.append ((ih others).sign (by decide)) (stops_sign (by simp) _)).sign
      (by decide)).string key

/-- The compact form lays out the tokens of the value. -/
theorem WellFormed.laysOut_compact {item : Json} (wellFormed : item.WellFormed) :
    LaysOut item.tokens item.compact := by
  induction wellFormed with
  | null =>
    rw [tokens, compact]
    exact laysOut_null
  | bool truth =>
    rw [tokens]
    cases truth <;> exact laysOut_bool _
  | number whole =>
    rw [tokens, compact]
    exact laysOut_number whole
  | string text =>
    rw [tokens, compact]
    exact laysOut_string text
  | @array items _ ih =>
    rw [tokens, compact]
    cases items with
    | nil => exact (laysOut_nil.sign (by decide)).sign (by decide)
    | cons item more =>
      exact ((laysOut_compactItems ih).append (laysOut_nil.sign (by decide))
        (stops_sign (by simp) _)).sign (by decide)
  | @object members _ ih =>
    rw [tokens, compact]
    cases members with
    | nil => exact (laysOut_nil.sign (by decide)).sign (by decide)
    | cons member more =>
      exact ((laysOut_compactMembers ih).append (laysOut_nil.sign (by decide))
        (stops_sign (by simp) _)).sign (by decide)

/-! ## The indented form -/

theorem stops_indentedItems (depth : Nat) (items : List Json) :
    Stops (indentedItems depth items) := by
  cases items with
  | nil => exact stops_nil
  | cons item rest =>
    rw [indentedItems]
    exact stops_sign (by simp) _

theorem stops_indentedMembers (depth : Nat) (members : List (Option Text × Json)) :
    Stops (indentedMembers depth members) := by
  cases members with
  | nil => exact stops_nil
  | cons member rest =>
    rw [indentedMembers]
    exact stops_sign (by simp) _

theorem laysOut_indentedItems {items : List Json} {depth : Nat}
    (each : ∀ item ∈ items, LaysOut item.tokens (item.indented depth)) :
    LaysOut (laterItemTokens items) (indentedItems depth items) := by
  induction items with
  | nil =>
    rw [laterItemTokens, indentedItems]
    exact laysOut_nil
  | cons item rest ih =>
    obtain ⟨own, others⟩ := List.forall_mem_cons.1 each
    rw [laterItemTokens, indentedItems]
    simp only [List.append_assoc]
    exact ((own.append (ih others) (stops_indentedItems depth rest)).newline depth).sign (by decide)

theorem laysOut_indentedMembers {members : List (Option Text × Json)} {depth : Nat}
    (each : ∀ member ∈ members, LaysOut member.2.tokens (member.2.indented depth)) :
    LaysOut (laterMemberTokens members) (indentedMembers depth members) := by
  induction members with
  | nil =>
    rw [laterMemberTokens, indentedMembers]
    exact laysOut_nil
  | cons member rest ih =>
    obtain ⟨first, others⟩ := List.forall_mem_cons.1 each
    obtain ⟨key, item⟩ := member
    have own : LaysOut item.tokens (item.indented depth) := first
    rw [laterMemberTokens, indentedMembers]
    simp only [List.append_assoc]
    have inside := own.append (ih others) (stops_indentedMembers depth rest)
    have valued := (inside.blank (c := ' ') (by decide)).sign (c := ':') (by decide)
    exact ((valued.string key).newline depth).sign (by decide)

/-- The indented form lays out the same tokens, at whatever depth. -/
theorem WellFormed.laysOut_indented {item : Json} (wellFormed : item.WellFormed) (depth : Nat) :
    LaysOut item.tokens (item.indented depth) := by
  induction wellFormed generalizing depth with
  | null =>
    rw [tokens, indented]
    exact laysOut_null
  | bool truth =>
    rw [tokens]
    cases truth <;> exact laysOut_bool _
  | number whole =>
    rw [tokens, indented]
    exact laysOut_number whole
  | string text =>
    rw [tokens, indented]
    exact laysOut_string text
  | @array items _ ih =>
    rw [tokens]
    cases items with
    | nil => exact (laysOut_nil.sign (by decide)).sign (by decide)
    | cons item more =>
      obtain ⟨own, others⟩ := List.forall_mem_cons.1 fun own inside => ih own inside (depth + 1)
      have closing := (laysOut_nil.sign (c := ']') (by decide)).newline depth
      have inside := own.append ((laysOut_indentedItems others).append closing
        (stops_sign (by simp) _)) ((stops_indentedItems (depth + 1) more).append
          (stops_sign (by simp) _))
      rw [indented, itemTokens]
      simp only [List.append_assoc, List.cons_append, List.nil_append]
      exact (inside.newline (depth + 1)).sign (c := '[') (by decide)
  | @object members _ ih =>
    rw [tokens]
    cases members with
    | nil => exact (laysOut_nil.sign (by decide)).sign (by decide)
    | cons member more =>
      obtain ⟨key, item⟩ := member
      obtain ⟨own, others⟩ := List.forall_mem_cons.1 fun own inside => ih own inside (depth + 1)
      have closing := (laysOut_nil.sign (c := '}') (by decide)).newline depth
      have inside := own.append ((laysOut_indentedMembers others).append closing
        (stops_sign (by simp) _)) ((stops_indentedMembers (depth + 1) more).append
          (stops_sign (by simp) _))
      rw [indented, memberTokens]
      simp only [List.append_assoc, List.cons_append, List.nil_append]
      have valued := (inside.blank (c := ' ') (by decide)).sign (c := ':') (by decide)
      exact ((valued.string key).newline (depth + 1)).sign (c := '{') (by decide)

/-! ## Reading back -/

theorem read?_of_laysOut {item : Json} (wellFormed : item.WellFormed) {t : Text}
    (written : LaysOut item.tokens t) : read? t = some item := by
  have laid := written [] [] rfl stops_nil
  rw [List.append_nil, List.append_nil] at laid
  exact read?_of_laid wellFormed laid

/-- The compact form of a value is read as the value. -/
theorem read?_compact {item : Json} (wellFormed : item.WellFormed) :
    read? item.compact = some item :=
  read?_of_laysOut wellFormed wellFormed.laysOut_compact

/-- The indented form of a value is read as the value. -/
theorem read?_pretty {item : Json} (wellFormed : item.WellFormed) :
    read? item.pretty = some item :=
  read?_of_laysOut wellFormed (wellFormed.laysOut_indented 0)

end PromptTemplate.Json
