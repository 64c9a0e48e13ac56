/-
# PromptTemplate.Proofs.Json.Tokens -- a value is read from its tokens, however they are laid out

A value is written as a sequence of tokens: signs, words, numbers and strings (`tokens`).  A
text lays tokens out when they stand in it one after another behind any white space, and
nothing but white space stands behind the last of them (`Laid`).

The reader finds the tokens of a value one after another, so it reads the value from every
text that lays them out (`read?_of_laid`).  This goes by induction over the value, with any
tokens behind it.  A number has no sign at its end, so what stands behind it must not go
on with it.

The readers count their fuel down once for a value and once for an item or a member, so
twice the length of the text is always enough.
-/
import Mathlib.Data.List.DropRight
import PromptTemplate.Proofs.Json.Scalars

set_option autoImplicit false

namespace PromptTemplate.Json

open Reader

/-! ## Tokens -/

/-- A piece of a JSON text without white space between its characters. -/
inductive Token where
  | sign (c : Char)
  | null
  | bool (value : Bool)
  | number (written : Text)
  | string (text : Option Text)

namespace Token

def text : Token → Text
  | .sign c => [c]
  | .null => "null".toList
  | .bool true => "true".toList
  | .bool false => "false".toList
  | .number written => written
  | .string text => quote text

/-- The token ends in front of the text: a number must not go on in it. -/
def EndsBefore : Token → Text → Prop
  | .number _, t => Stops t
  | _, _ => True

end Token

mutual

def tokens : Json → List Token
  | .null => [.null]
  | .bool truth => [.bool truth]
  | .number written => [.number written]
  | .string text => [.string text]
  | .array items => .sign '[' :: itemTokens items ++ [.sign ']']
  | .object members => .sign '{' :: memberTokens members ++ [.sign '}']

def itemTokens : List Json → List Token
  | [] => []
  | item :: rest => tokens item ++ laterItemTokens rest

/-- The tokens of the items behind the first, a comma in front of each. -/
def laterItemTokens : List Json → List Token
  | [] => []
  | item :: rest => .sign ',' :: tokens item ++ laterItemTokens rest

def memberTokens : List (Option Text × Json) → List Token
  | [] => []
  | (key, item) :: rest => .string key :: .sign ':' :: tokens item ++ laterMemberTokens rest

def laterMemberTokens : List (Option Text × Json) → List Token
  | [] => []
  | (key, item) :: rest =>
    .sign ',' :: .string key :: .sign ':' :: tokens item ++ laterMemberTokens rest

end

/-- The tokens stand in the text one after another behind white space, and there is nothing
else in it. -/
def Laid : List Token → Text → Prop
  | [], t => skip t = []
  | token :: tokens, t => ∃ behind, skip t = token.text ++ behind ∧ token.EndsBefore behind ∧
    Laid tokens behind

theorem skip_cons {c : Char} (visible : isBlank c = false) (t : Text) : skip (c :: t) = c :: t := by
  simp [skip, visible]

theorem length_skip_le (t : Text) : (skip t).length ≤ t.length :=
  (List.dropWhile_sublist isBlank).length_le

theorem laid_skip_iff {tokens : List Token} {t : Text} : Laid tokens (skip t) ↔ Laid tokens t := by
  have twice : skip (skip t) = skip t := List.dropWhile_idempotent isBlank t
  cases tokens with
  | nil => rw [Laid, Laid, twice]
  | cons token tokens => rw [Laid, Laid, twice]

theorem laid_sign_iff {c : Char} {tokens : List Token} {t : Text} :
    Laid (.sign c :: tokens) t ↔ ∃ behind, skip t = c :: behind ∧ Laid tokens behind := by
  simp only [Laid, Token.text, Token.EndsBefore, List.singleton_append, true_and]

/-! ## Values -/

/-- The numbers in the value are numbers. -/
inductive WellFormed : Json → Prop where
  | null : WellFormed .null
  | bool (truth : Bool) : WellFormed (.bool truth)
  | number {written : Text} (whole : Reader.number written = some (written, [])) :
    WellFormed (.number written)
  | string (text : Option Text) : WellFormed (.string text)
  | array {items : List Json} (each : ∀ item ∈ items, WellFormed item) : WellFormed (.array items)
  | object {members : List (Option Text × Json)}
    (each : ∀ member ∈ members, WellFormed member.2) : WellFormed (.object members)

theorem WellFormed.ofMembers {members : List (Text × Json)}
    (each : ∀ member ∈ members, member.2.WellFormed) : (Json.ofMembers members).WellFormed := by
  refine .object fun member inside => ?_
  obtain ⟨own, listed, rfl⟩ := List.mem_map.1 inside
  exact each own listed

section Starts

variable {fuel : Nat} {t inner rest : Text}

theorem value_null (found : skip t = Token.null.text ++ rest) :
    value (fuel + 1) t = some (.null, rest) := by
  have word : Token.null.text = ['n', 'u', 'l', 'l'] := by decide
  rw [word] at found
  rw [value, found]
  rfl

theorem value_bool {truth : Bool} (found : skip t = (Token.bool truth).text ++ rest) :
    value (fuel + 1) t = some (.bool truth, rest) := by
  cases truth with
  | false =>
    have word : (Token.bool false).text = ['f', 'a', 'l', 's', 'e'] := by decide
    rw [word] at found
    rw [value, found]
    rfl
  | true =>
    have word : (Token.bool true).text = ['t', 'r', 'u', 'e'] := by decide
    rw [word] at found
    rw [value, found]
    rfl

theorem value_string {text : Option Text} (found : skip t = quote text ++ rest) :
    value (fuel + 1) t = some (.string text, rest) := by
  obtain ⟨body, written, read⟩ := string_quote text rest
  rw [value, found, written]
  simp only [read, Option.map_some]

theorem value_number {written : Text} (whole : Reader.number written = some (written, []))
    (found : skip t = written ++ rest) (stops : Stops rest) :
    value (fuel + 1) t = some (.number written, rest) := by
  have read := number_append stops whole
  obtain ⟨c, behind, rfl, starts⟩ := exists_cons_of_number whole
  rw [value, found]
  rw [List.cons_append] at read ⊢
  split
  case h_7 => rw [read]; rfl
  -- what starts otherwise is no number
  all_goals
    rename_i same
    obtain ⟨rfl, -⟩ := List.cons.inj same
    exact absurd starts (by decide)

theorem value_array_nil (opens : skip t = '[' :: inner) (closes : skip inner = ']' :: rest) :
    value (fuel + 1) t = some (.array [], rest) := by
  rw [value, opens]
  simp only [closes]

theorem value_array_cons (opens : skip t = '[' :: inner) (other : (skip inner).head? ≠ some ']') :
    value (fuel + 1) t = (items fuel (skip inner)).map (Prod.map .array id) := by
  rw [value, opens]
  simp only
  split
  · rename_i same
    exact absurd (by rw [same]; rfl) other
  · rfl

theorem value_object_nil (opens : skip t = '{' :: inner) (closes : skip inner = '}' :: rest) :
    value (fuel + 1) t = some (.object [], rest) := by
  rw [value, opens]
  simp only [closes]

theorem value_object_cons (opens : skip t = '{' :: inner) (other : (skip inner).head? ≠ some '}') :
    value (fuel + 1) t = (members fuel (skip inner)).map (Prod.map .object id) := by
  rw [value, opens]
  simp only
  split
  · rename_i same
    exact absurd (by rw [same]; rfl) other
  · rfl

end Starts

section Steps

variable {fuel : Nat} {t behind rest : Text} {item : Json}

theorem items_last (read : value fuel t = some (item, behind))
    (closes : skip behind = ']' :: rest) :
    items (fuel + 1) t = some ([item], rest) := by
  rw [items, read]
  simp only [Option.bind_eq_bind, Option.bind_some, closes]

theorem items_more (read : value fuel t = some (item, behind)) (comma : skip behind = ',' :: rest) :
    items (fuel + 1) t = (items fuel rest).map (Prod.map (item :: ·) id) := by
  rw [items, read]
  simp only [Option.bind_eq_bind, Option.bind_some, comma]
  rfl

variable {key : Option Text} {afterKey afterColon : Text}

theorem members_last (named : skip t = quote key ++ afterKey)
    (colon : skip afterKey = ':' :: afterColon)
    (read : value fuel afterColon = some (item, behind)) (closes : skip behind = '}' :: rest) :
    members (fuel + 1) t = some ([(key, item)], rest) := by
  obtain ⟨body, written, string⟩ := string_quote key afterKey
  rw [members, named, written]
  simp only [string, Option.bind_eq_bind, Option.bind_some, colon, read, closes]

theorem members_more (named : skip t = quote key ++ afterKey)
    (colon : skip afterKey = ':' :: afterColon)
    (read : value fuel afterColon = some (item, behind)) (comma : skip behind = ',' :: rest) :
    members (fuel + 1) t = (members fuel rest).map (Prod.map ((key, item) :: ·) id) := by
  obtain ⟨body, written, string⟩ := string_quote key afterKey
  rw [members, named, written]
  simp only [string, Option.bind_eq_bind, Option.bind_some, colon, read, comma]
  rfl

end Steps

/-! ## Reading -/

theorem quote_ne_nil (text : Option Text) : quote text ≠ [] := by
  obtain ⟨body, written, -⟩ := string_quote text []
  rw [List.append_nil] at written
  rw [written]
  exact List.cons_ne_nil _ _

theorem isBlank_of_starts {c : Char} (starts : c = '-' ∨ Text.isDigit c = true) :
    isBlank c = false := by
  rcases starts with rfl | digit
  · decide
  · refine Bool.eq_false_iff.2 fun blank => ?_
    simp only [isBlank, Bool.or_eq_true, beq_iff_eq] at blank
    rcases blank with ((rfl | rfl) | rfl) | rfl <;> exact absurd digit (by decide)

/-- The first token of a value starts with no white space and is no closing bracket. -/
theorem WellFormed.exists_token {item : Json} (wellFormed : item.WellFormed) :
    ∃ token more c t, item.tokens = token :: more ∧ token.text = c :: t ∧ isBlank c = false ∧
      c ≠ ']' := by
  cases wellFormed with
  | null => exact ⟨.null, [], 'n', ['u', 'l', 'l'], by rw [tokens], by decide, by decide, by decide⟩
  | bool truth =>
    cases truth with
    | false =>
      exact ⟨.bool false, [], 'f', ['a', 'l', 's', 'e'], by rw [tokens], by decide, by decide,
        by decide⟩
    | true =>
      exact ⟨.bool true, [], 't', ['r', 'u', 'e'], by rw [tokens], by decide, by decide, by decide⟩
  | @number written whole =>
    obtain ⟨c, t, rfl, starts⟩ := exists_cons_of_number whole
    refine ⟨.number (c :: t), [], c, t, by rw [tokens], rfl, isBlank_of_starts starts, ?_⟩
    rintro rfl
    exact absurd starts (by decide)
  | string text =>
    obtain ⟨body, written, -⟩ := string_quote text []
    rw [List.append_nil] at written
    exact ⟨.string text, [], '"', body, by rw [tokens], written, by decide, by decide⟩
  | array => exact ⟨.sign '[', _, '[', [], by rw [tokens]; rfl, rfl, by decide, by decide⟩
  | object => exact ⟨.sign '{', _, '{', [], by rw [tokens]; rfl, rfl, by decide, by decide⟩

/-- Reading anything leaves less text, so fuel for the length is never used up. -/
theorem length_lt_of_skip {t front behind : Text} (found : skip t = front ++ behind)
    (some : front ≠ []) : behind.length < t.length := by
  have whole := length_skip_le t
  have positive := List.length_pos_iff.2 some
  rw [found, List.length_append] at whole
  omega

theorem length_lt_of_sign {t behind : Text} {c : Char} (found : skip t = c :: behind) :
    behind.length < t.length := by
  rw [← List.singleton_append] at found
  exact length_lt_of_skip found (List.cons_ne_nil c [])

/-- The value is read from every text that lays out its tokens, and what lays out the tokens
behind them is left. -/
def ReadFromTokens (item : Json) : Prop :=
  ∀ (fuel : Nat) (t : Text) (behind : List Token), Laid (item.tokens ++ behind) t →
    2 * t.length ≤ fuel →
      ∃ rest, value fuel t = some (item, rest) ∧ Laid behind rest ∧ rest.length < t.length

/-- Items are read one after another, up to the bracket that closes the array. -/
theorem items_of_laid {item : Json} {more : List Json} {behind : List Token}
    (each : ∀ own ∈ item :: more, ReadFromTokens own) {fuel : Nat} {t : Text}
    (laid : Laid (itemTokens (item :: more) ++ .sign ']' :: behind) t)
    (enough : 2 * t.length < fuel) :
    ∃ rest, items fuel t = some (item :: more, rest) ∧ Laid behind rest ∧
      rest.length < t.length := by
  induction more generalizing item fuel t with
  | nil =>
    obtain ⟨fuel, rfl⟩ : ∃ n, fuel = n + 1 := ⟨fuel - 1, by omega⟩
    rw [itemTokens, laterItemTokens, List.append_nil] at laid
    obtain ⟨own, read, laid, shorter⟩ :=
      each item List.mem_cons_self fuel t _ laid (Nat.le_of_lt_succ enough)
    obtain ⟨rest, closes, laid⟩ := laid_sign_iff.1 laid
    have less := length_lt_of_sign closes
    exact ⟨rest, items_last read closes, laid, Nat.lt_trans less shorter⟩
  | cons next more ih =>
    obtain ⟨fuel, rfl⟩ : ∃ n, fuel = n + 1 := ⟨fuel - 1, by omega⟩
    obtain ⟨first, others⟩ := List.forall_mem_cons.1 each
    have tokens : itemTokens (item :: next :: more) ++ .sign ']' :: behind =
        item.tokens ++ .sign ',' :: (itemTokens (next :: more) ++ .sign ']' :: behind) := by
      simp only [itemTokens, laterItemTokens, List.append_assoc, List.cons_append]
    rw [tokens] at laid
    obtain ⟨own, read, laid, shorter⟩ := first fuel t _ laid (Nat.le_of_lt_succ enough)
    obtain ⟨later, comma, laid⟩ := laid_sign_iff.1 laid
    -- the item and its comma are two characters at least, which pays for both calls
    have less := length_lt_of_sign comma
    have enoughLater : 2 * later.length < fuel := by omega
    obtain ⟨rest, readLater, laid, short⟩ := ih others laid enoughLater
    refine ⟨rest, ?_, laid, by omega⟩
    rw [items_more read comma, readLater]
    rfl

theorem member_of_laid {key : Option Text} {item : Json} (reads : ReadFromTokens item) {fuel : Nat}
    {t : Text} {behind : List Token}
    (laid : Laid (.string key :: .sign ':' :: item.tokens ++ behind) t)
    (enough : 2 * t.length ≤ fuel) :
    ∃ afterKey afterColon rest, skip t = quote key ++ afterKey ∧ skip afterKey = ':' :: afterColon ∧
      value fuel afterColon = some (item, rest) ∧ Laid behind rest ∧ rest.length < t.length := by
  obtain ⟨afterKey, named, -, laid⟩ := laid
  obtain ⟨afterColon, colon, laid⟩ := laid_sign_iff.1 laid
  have short := length_lt_of_skip named (quote_ne_nil key)
  have shorter := length_lt_of_sign colon
  obtain ⟨rest, read, laid, less⟩ := reads fuel afterColon behind laid (by omega)
  exact ⟨afterKey, afterColon, rest, named, colon, read, laid, by omega⟩

/-- Members are read one after another, up to the brace that closes the object. -/
theorem members_of_laid {member : Option Text × Json} {more : List (Option Text × Json)}
    {behind : List Token} (each : ∀ own ∈ member :: more, ReadFromTokens own.2) {fuel : Nat}
    {t : Text} (laid : Laid (memberTokens (member :: more) ++ .sign '}' :: behind) t)
    (enough : 2 * t.length < fuel) :
    ∃ rest, members fuel t = some (member :: more, rest) ∧ Laid behind rest ∧
      rest.length < t.length := by
  induction more generalizing member fuel t with
  | nil =>
    obtain ⟨fuel, rfl⟩ : ∃ n, fuel = n + 1 := ⟨fuel - 1, by omega⟩
    rw [memberTokens, laterMemberTokens, List.append_nil] at laid
    obtain ⟨_, _, own, named, colon, read, laid, shorter⟩ :=
      member_of_laid (each member List.mem_cons_self) laid (Nat.le_of_lt_succ enough)
    obtain ⟨rest, closes, laid⟩ := laid_sign_iff.1 laid
    have less := length_lt_of_sign closes
    exact ⟨rest, members_last named colon read closes, laid, Nat.lt_trans less shorter⟩
  | cons next more ih =>
    obtain ⟨fuel, rfl⟩ : ∃ n, fuel = n + 1 := ⟨fuel - 1, by omega⟩
    obtain ⟨first, others⟩ := List.forall_mem_cons.1 each
    have tokens : memberTokens (member :: next :: more) ++ .sign '}' :: behind =
        .string member.1 :: .sign ':' :: member.2.tokens ++
          .sign ',' :: (memberTokens (next :: more) ++ .sign '}' :: behind) := by
      simp only [memberTokens, laterMemberTokens, List.append_assoc, List.cons_append]
    rw [tokens] at laid
    obtain ⟨_, _, own, named, colon, read, laid, shorter⟩ :=
      member_of_laid first laid (Nat.le_of_lt_succ enough)
    obtain ⟨later, comma, laid⟩ := laid_sign_iff.1 laid
    have less := length_lt_of_sign comma
    have enoughLater : 2 * later.length < fuel := by omega
    obtain ⟨rest, readLater, laid, shortest⟩ := ih others laid enoughLater
    refine ⟨rest, ?_, laid, by omega⟩
    rw [members_more named colon read comma, readLater]
    rfl

/-- A value of one token is read when its token is, in front of any text that it ends
before. -/
theorem readFromTokens_of_token {item : Json} (token : Token) (single : item.tokens = [token])
    (visible : token.text ≠ [])
    (read : ∀ (fuel : Nat) (t rest : Text), skip t = token.text ++ rest → token.EndsBefore rest →
      value (fuel + 1) t = some (item, rest)) : ReadFromTokens item := by
  intro fuel t behind laid enough
  rw [single] at laid
  obtain ⟨rest, found, ends, laid⟩ := laid
  have shorter := length_lt_of_skip found visible
  obtain ⟨fuel, rfl⟩ : ∃ n, fuel = n + 1 := ⟨fuel - 1, by omega⟩
  exact ⟨rest, read fuel t rest found ends, laid, shorter⟩

theorem readFromTokens_array {own : List Json} (each : ∀ item ∈ own, item.WellFormed)
    (reads : ∀ item ∈ own, ReadFromTokens item) : ReadFromTokens (.array own) := by
  intro fuel t behind laid enough
  rw [tokens, List.cons_append, List.cons_append, List.append_assoc, List.singleton_append] at laid
  obtain ⟨inner, opens, laid⟩ := laid_sign_iff.1 laid
  have shorter := length_lt_of_sign opens
  obtain ⟨fuel, rfl⟩ : ∃ n, fuel = n + 1 := ⟨fuel - 1, by omega⟩
  cases own with
  | nil =>
    obtain ⟨rest, closes, laid⟩ := laid_sign_iff.1 laid
    have less := length_lt_of_sign closes
    exact ⟨rest, value_array_nil opens closes, laid, Nat.lt_trans less shorter⟩
  | cons item more =>
    have smaller := length_skip_le inner
    have enoughInside : 2 * (skip inner).length < fuel := by omega
    obtain ⟨rest, read, left, less⟩ := items_of_laid reads (laid_skip_iff.2 laid) enoughInside
    obtain ⟨token, later, c, t', split, first, -, other⟩ :=
      (each item List.mem_cons_self).exists_token
    refine ⟨rest, ?_, left, by omega⟩
    rw [value_array_cons opens, read]
    · rfl
    · rw [itemTokens, split] at laid
      obtain ⟨_, found, -⟩ := laid
      rw [found, first]
      exact fun same => other (Option.some.inj same)

theorem readFromTokens_object {own : List (Option Text × Json)}
    (reads : ∀ member ∈ own, ReadFromTokens member.2) : ReadFromTokens (.object own) := by
  intro fuel t behind laid enough
  rw [tokens, List.cons_append, List.cons_append, List.append_assoc, List.singleton_append] at laid
  obtain ⟨inner, opens, laid⟩ := laid_sign_iff.1 laid
  have shorter := length_lt_of_sign opens
  obtain ⟨fuel, rfl⟩ : ∃ n, fuel = n + 1 := ⟨fuel - 1, by omega⟩
  cases own with
  | nil =>
    obtain ⟨rest, closes, laid⟩ := laid_sign_iff.1 laid
    have less := length_lt_of_sign closes
    exact ⟨rest, value_object_nil opens closes, laid, Nat.lt_trans less shorter⟩
  | cons member more =>
    have smaller := length_skip_le inner
    have enoughInside : 2 * (skip inner).length < fuel := by omega
    obtain ⟨rest, read, left, less⟩ := members_of_laid reads (laid_skip_iff.2 laid) enoughInside
    refine ⟨rest, ?_, left, by omega⟩
    rw [value_object_cons opens, read]
    · rfl
    · obtain ⟨key, item⟩ := member
      rw [memberTokens] at laid
      obtain ⟨afterKey, found, -⟩ := laid
      obtain ⟨body, written, -⟩ := string_quote key afterKey
      rw [found, Token.text, written]
      exact fun same => absurd (Option.some.inj same) (by decide)

/-- A value is read from its tokens. -/
theorem WellFormed.readFromTokens {item : Json} (wellFormed : item.WellFormed) :
    ReadFromTokens item := by
  induction wellFormed with
  | null =>
    refine readFromTokens_of_token .null (by rw [tokens]) (by decide) fun fuel t rest found _ => ?_
    exact value_null found
  | bool truth =>
    refine readFromTokens_of_token (.bool truth) (by rw [tokens]) (by cases truth <;> decide)
      fun fuel t rest found _ => ?_
    exact value_bool found
  | string text =>
    refine readFromTokens_of_token (.string text) (by rw [tokens]) (quote_ne_nil text)
      fun fuel t rest found _ => ?_
    exact value_string found
  | number whole =>
    obtain ⟨c, digits, rfl, -⟩ := exists_cons_of_number whole
    refine readFromTokens_of_token (.number (c :: digits)) (by rw [tokens])
      (List.cons_ne_nil c digits) fun fuel t rest found stops => ?_
    exact value_number whole found stops
  | array each reads => exact readFromTokens_array each reads
  | object _ reads => exact readFromTokens_object reads

/-- A value is read from every text that is made of its tokens and white space. -/
theorem read?_of_laid {item : Json} (wellFormed : item.WellFormed) {t : Text}
    (laid : Laid item.tokens t) : read? t = some item := by
  rw [← List.append_nil item.tokens] at laid
  obtain ⟨rest, read, left, -⟩ := wellFormed.readFromTokens (2 * t.length + 1) t [] laid (by omega)
  have blank : skip rest = [] := left
  rw [read?, read]
  simp only [blank, List.isEmpty_nil, if_true]

end PromptTemplate.Json
