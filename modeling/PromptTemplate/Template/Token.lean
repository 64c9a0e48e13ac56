/-
# PromptTemplate.Template.Token -- the tokens of a template text

A token is a visible character or a bracket group, a character of white space, a
wildcard, or one of the three signs of a variant.  The opening brace carries what is
written between it and the first option: the bound and the joiner in front of `$$`,
and the weight of the option; the divider carries the weight of the option behind it.
A sign also carries the text from itself on, which is where an error about it is
reported.

`scan` reads one token and leaves an end of the text that it was given behind the first
character (`scan_suffix`), so `tokens` ends.  A fault is a token too,
and always the last one.
-/
import PromptTemplate.Template.Basic
import PromptTemplate.Template.Error
import PromptTemplate.Template.Group

set_option autoImplicit false

namespace PromptTemplate

/-- A fault, the text from its place on, and the fragment that shows it. -/
structure Stop where
  fault : Fault
  start : Text
  fragment : Text
deriving DecidableEq

/-- A stop that shows all the text from its place on. -/
def Stop.onward (fault : Fault) (start : Text) : Stop :=
  ⟨fault, start, start⟩

/-- The parse error of a stop in the text that it is a suffix of. -/
def Stop.toError (source : Text) (stop : Stop) : ParseError where
  fault := stop.fault
  position := Text.utf8Size source - Text.utf8Size stop.start
  fragment := stop.fragment

inductive Token where
  | text (t : Text)
  | gap
  | wildcard (name : Text)
  | opening (bound : Option Bound) (joiner : Text) (weight : Binary64) (start : Text)
  | divider (weight : Binary64) (start : Text)
  | closing (start : Text)
  | fault (stop : Stop)
deriving DecidableEq

namespace Token

/-! ## Wildcards -/

/-- The text in front of the first `__` and the text behind it. -/
def atDelimiter? : Text → Option (Text × Text)
  | '_' :: '_' :: rest => some ([], rest)
  | c :: rest => (atDelimiter? rest).map fun (name, rest) => (c :: name, rest)
  | [] => none

/-- The wildcard whose name the body starts with. -/
def scanWildcard (start body : Text) : Token × Text :=
  match atDelimiter? body with
  | none => (.fault (.onward .unterminatedWildcard start), [])
  | some ([], _) => (.fault (.onward .emptyWildcard start), [])
  | some (name, rest) => (.wildcard name, rest)

/-! ## Groups -/

def scanGroup (opener closer : Char) (rest : Text) : Token × Text :=
  match Template.splitGroup [closer] rest with
  | (body, .closed rest) => (.text (Template.normalizeGroup (opener :: body)), rest)
  | (_, .mismatched start) => (.fault (.onward .mismatchedGroup start), [])
  | (_, .unclosed) => (.fault (.onward .unclosedGroup (opener :: rest)), [])

/-! ## Variants -/

/-- The text in front of the next `$$` and the text behind it, unless a brace or a
divider comes first. -/
def segment? : Text → Option (Text × Text)
  | '$' :: '$' :: rest => some ([], rest)
  | c :: rest =>
    if c = '{' ∨ c = '}' ∨ c = '|' then none
    else (segment? rest).map fun (segment, rest) => (c :: segment, rest)
  | [] => none

/-- The bound and the joiner in front of the first option, and the text behind them. -/
def header (t : Text) : Except Stop (Option Bound × Text × Text) :=
  match segment? t with
  | none => .ok (none, Template.defaultJoiner, t)
  | some (written, rest) =>
    match Bound.read? written with
    | none => .error ⟨.invalidBound, t, written⟩
    | some bound =>
      match segment? rest with
      | some (joiner, rest) => .ok (some bound, joiner, rest)
      | none => .ok (some bound, Template.defaultJoiner, rest)

/-- The weight in front of an option: digits, digits with a fraction, or a fraction
alone, then `::`. -/
def weight? (t : Text) : Option (Binary64 × Text) :=
  let whole := (Text.trimStart t).takeWhile Text.isDigit
  match (Text.trimStart t).dropWhile Text.isDigit with
  | ':' :: ':' :: rest => if whole.isEmpty then none else some (.ofDecimal whole [], rest)
  | '.' :: rest =>
    let fraction := rest.takeWhile Text.isDigit
    match rest.dropWhile Text.isDigit with
    | ':' :: ':' :: rest =>
      if fraction.isEmpty then none else some (.ofDecimal whole fraction, rest)
    | _ => none
  | _ => none

/-- The weight of an option, one if none is written, and the text behind it. -/
def weight (t : Text) : Binary64 × Text :=
  (weight? t).getD (.one, t)

/-- The opening of a variant in front of its first option. -/
def scanOpening (rest : Text) : Token × Text :=
  match header rest with
  | .error stop => (.fault stop, [])
  | .ok (bound, joiner, body) =>
    (.opening bound joiner (weight body).1 ('{' :: rest), (weight body).2)

/-! ## Tokens -/

/-- The first token of a text that is not empty, and the text behind the token. -/
def scan (c : Char) (rest : Text) : Token × Text :=
  match c, rest with
  | '_', '_' :: body => scanWildcard (c :: rest) body
  | '{', rest => scanOpening rest
  | '|', rest => (.divider (weight rest).1 ('|' :: rest), (weight rest).2)
  | '}', rest => (.closing ('}' :: rest), rest)
  | '(', rest => scanGroup '(' ')' rest
  | '[', rest => scanGroup '[' ']' rest
  | '$', rest => (.fault (.onward (.unexpectedCharacter '$') ('$' :: rest)), [])
  | ')', rest => (.fault (.onward (.unexpectedCharacter ')') (')' :: rest)), [])
  | ']', rest => (.fault (.onward (.unexpectedCharacter ']') (']' :: rest)), [])
  | c, rest => if Text.isSpace c then (.gap, rest) else (.text [c], rest)

/-! ## What is left is the end of the text -/

/-- What is found is the text, cut at a delimiter. -/
theorem eq_of_atDelimiter? {t name rest : Text} (found : atDelimiter? t = some (name, rest)) :
    t = name ++ '_' :: '_' :: rest := by
  fun_induction atDelimiter? t generalizing name rest with
  | case1 behind =>
    obtain ⟨rfl, rfl⟩ := Prod.mk.inj (Option.some.inj found)
    rfl
  | case2 c t _ ih =>
    obtain ⟨⟨front, behind⟩, inner, same⟩ := Option.map_eq_some_iff.1 found
    obtain ⟨rfl, rfl⟩ := Prod.mk.inj same
    rw [ih inner]
    rfl
  | case3 => cases found

theorem eq_of_segment? {t segment rest : Text} (found : segment? t = some (segment, rest)) :
    t = segment ++ '$' :: '$' :: rest := by
  fun_induction segment? t generalizing segment rest with
  | case1 behind =>
    obtain ⟨rfl, rfl⟩ := Prod.mk.inj (Option.some.inj found)
    rfl
  | case2 => cases found
  | case3 c t _ _ ih =>
    obtain ⟨⟨front, behind⟩, inner, same⟩ := Option.map_eq_some_iff.1 found
    obtain ⟨rfl, rfl⟩ := Prod.mk.inj same
    rw [ih inner]
    rfl
  | case4 => cases found

theorem suffix_of_atDelimiter? {t name rest : Text}
    (found : atDelimiter? t = some (name, rest)) : rest <:+ t :=
  ⟨name ++ ['_', '_'], by rw [eq_of_atDelimiter? found, List.append_assoc]; rfl⟩

theorem suffix_of_segment? {t segment rest : Text}
    (found : segment? t = some (segment, rest)) : rest <:+ t :=
  ⟨segment ++ ['$', '$'], by rw [eq_of_segment? found, List.append_assoc]; rfl⟩

theorem suffix_of_weight? {t rest : Text} {w : Binary64} (found : weight? t = some (w, rest)) :
    rest <:+ t := by
  have trimmed : Text.trimStart t <:+ t := List.dropWhile_suffix Text.isSpace
  have dropped : (Text.trimStart t).dropWhile Text.isDigit <:+ t :=
    (List.dropWhile_suffix Text.isDigit).trans trimmed
  simp only [weight?] at found
  split at found
  · rename_i tail shape
    rw [shape] at dropped
    split at found
    · cases found
    · obtain ⟨-, rfl⟩ := Prod.mk.inj (Option.some.inj found)
      exact (List.suffix_append [':', ':'] tail).trans dropped
  · rename_i tail shape
    rw [shape] at dropped
    have behind : tail.dropWhile Text.isDigit <:+ t :=
      ((List.dropWhile_suffix Text.isDigit).trans (List.suffix_cons '.' tail)).trans dropped
    split at found
    · rename_i rest shape
      rw [shape] at behind
      split at found
      · cases found
      · obtain ⟨-, rfl⟩ := Prod.mk.inj (Option.some.inj found)
        exact (List.suffix_append [':', ':'] rest).trans behind
    · cases found
  · cases found

theorem weight_suffix (t : Text) : (weight t).2 <:+ t := by
  unfold weight
  cases found : weight? t with
  | none => exact List.suffix_refl t
  | some read => exact suffix_of_weight? (w := read.1) found

/-- A header is read off the front of a text. -/
theorem suffix_of_header {t joiner rest : Text} {bound : Option Bound}
    (read : header t = .ok (bound, joiner, rest)) : rest <:+ t := by
  unfold header at read
  split at read
  · obtain ⟨-, same⟩ := Prod.mk.inj (Except.ok.inj read)
    exact (Prod.mk.inj same).2 ▸ List.suffix_refl t
  · rename_i first
    have front := suffix_of_segment? first
    split at read
    · cases read
    · split at read
      · rename_i second
        obtain ⟨-, same⟩ := Prod.mk.inj (Except.ok.inj read)
        exact (Prod.mk.inj same).2 ▸ (suffix_of_segment? second).trans front
      · obtain ⟨-, same⟩ := Prod.mk.inj (Except.ok.inj read)
        exact (Prod.mk.inj same).2 ▸ front

theorem scanGroup_suffix (opener closer : Char) (rest : Text) :
    (scanGroup opener closer rest).2 <:+ rest := by
  unfold scanGroup
  split
  · rename_i closed
    exact Template.suffix_of_closed (by rw [closed])
  · exact List.nil_suffix
  · exact List.nil_suffix

/-- The text behind a token is the end of the text behind its first character. -/
theorem scan_suffix (c : Char) (rest : Text) : (scan c rest).2 <:+ rest := by
  unfold scan
  split
  · rename_i body
    unfold scanWildcard
    split
    · exact List.nil_suffix
    · exact List.nil_suffix
    · rename_i found
      exact (suffix_of_atDelimiter? found).trans (List.suffix_cons '_' body)
  · unfold scanOpening
    split
    · exact List.nil_suffix
    · rename_i read
      exact (weight_suffix _).trans (suffix_of_header read)
  · exact weight_suffix _
  · exact List.suffix_refl _
  · exact scanGroup_suffix '(' ')' _
  · exact scanGroup_suffix '[' ']' _
  · exact List.nil_suffix
  · exact List.nil_suffix
  · exact List.nil_suffix
  · split
    · exact List.suffix_refl _
    · exact List.suffix_refl _

def tokens : Text → List Token
  | [] => []
  | c :: rest => (scan c rest).1 :: tokens (scan c rest).2
termination_by t => t.length
decreasing_by
  exact Nat.lt_succ_of_le (scan_suffix c rest).length_le

end Token

end PromptTemplate
