/-
# PromptTemplate.Proofs.Template.Faults -- parse errors tell the truth

What a fault says of the text in front of its place and of the text from there on is
`Fault.Tells`.  It is said of the whole text without comments, so it has to be kept when
more text comes in front (`Fault.Tells.append_left`), and it is shown where the token is
read that stops the parser (`scan_tells`): a fault is found in the text that the token
starts with, however deep in variants that text stands.

For bracket groups the brackets are read once more, without the closers that the parser
waits for: `openBehind` keeps the open brackets themselves, and the parser's search is
shown to await their closers (`Awaits`).
-/
import PromptTemplate.Proofs.Template.Assembly
import PromptTemplate.Proofs.Template.Scanning

set_option autoImplicit false

namespace PromptTemplate

namespace Template

/-! ## Open brackets -/

/-- The brackets that are open behind the text, the innermost one first, given those that
are open in front of it, unless one is closed by the wrong bracket or there is none to
close. -/
def openBehind (opened : List Char) : Text → Option (List Char)
  | [] => some opened
  | c :: rest =>
    if c = '(' ∨ c = '[' then openBehind (c :: opened) rest
    else if c = ')' ∨ c = ']' then
      match opened with
      | [] => none
      | b :: outer => if closerOf? b = some c then openBehind outer rest else none
    else openBehind opened rest

example : openBehind [] "(a[b]".toList = some ['('] ∧ openBehind [] "(a]".toList = none := by
  decide

/-- The text starts with a bracket that is not closed in it, and no bracket in it is closed
by a wrong one. -/
structure StaysOpen (t : Text) : Prop where
  opens : t.head? = some '(' ∨ t.head? = some '['
  open_behind : ∀ front, front ≠ [] → front <+: t →
    ∃ b outer, openBehind [] front = some (b :: outer)

/-- The closers are those of the open brackets. -/
def Awaits (opened awaited : List Char) : Prop :=
  List.Forall₂ (fun b closer => closerOf? b = some closer) opened awaited

variable {opened awaited outer : List Char} {b c : Char} {t body rest : Text} {ends : GroupEnd}

theorem openBehind_of_opener {closer : Char} (opens : closerOf? c = some closer) (t : Text) :
    openBehind opened (c :: t) = openBehind (c :: opened) t := by
  rw [openBehind.eq_def opened (c :: t)]
  exact if_pos (bracket_of_closerOf? opens)

theorem not_opener_of_closerOf?_eq_none (opens : closerOf? c = none) : ¬ (c = '(' ∨ c = '[') := by
  rintro (rfl | rfl)
  · cases opens
  · cases opens

/-- The bracket that closes another one opens none. -/
theorem openBehind_of_closer (opens : closerOf? c = none) (closes : c = ')' ∨ c = ']')
    (closed : closerOf? b = some c) (t : Text) :
    openBehind (b :: outer) (c :: t) = openBehind outer t := by
  rw [openBehind, if_neg (not_opener_of_closerOf?_eq_none opens), if_pos closes]
  exact if_pos closed

theorem openBehind_of_other (opens : closerOf? c = none) (other : ¬ (c = ')' ∨ c = ']'))
    (t : Text) : openBehind opened (c :: t) = openBehind opened t := by
  rw [openBehind.eq_def opened (c :: t)]
  exact (if_neg (not_opener_of_closerOf?_eq_none opens)).trans (if_neg other)

/-- A closing bracket that is not the awaited one is of the other kind. -/
theorem kinds_of_mismatch {closer : Char} (closed : closerOf? b = some closer)
    (closes : c = ')' ∨ c = ']') (other : c ≠ closer) :
    b = '(' ∧ c = ']' ∨ b = '[' ∧ c = ')' := by
  rcases bracket_of_closerOf? closed with rfl | rfl
  · obtain rfl := Option.some.inj closed
    exact .inl ⟨rfl, closes.resolve_left other⟩
  · obtain rfl := Option.some.inj closed
    exact .inr ⟨rfl, closes.resolve_right other⟩

/-- A character ends the group, is a wrong bracket, or leaves brackets open whose closers
the search goes on with. -/
theorem splitGroup_step_of_awaits (awaits : Awaits (b :: outer) awaited) (c : Char) :
    (∀ t, splitGroup awaited (c :: t) = ([c], .closed t)) ∨
      ((b = '(' ∧ c = ']' ∨ b = '[' ∧ c = ')') ∧
        ∀ t, splitGroup awaited (c :: t) = ([], .mismatched (c :: t))) ∨
      ∃ b' outer' inner, Awaits (b' :: outer') inner ∧
        (∀ t, splitGroup awaited (c :: t) = (splitGroup inner t).map (c :: ·) id) ∧
        ∀ t, openBehind (b :: outer) (c :: t) = openBehind (b' :: outer') t := by
  cases opens : closerOf? c with
  | some closer =>
    refine .inr (.inr ⟨c, b :: outer, closer :: awaited, .cons opens awaits, fun t => ?_,
      openBehind_of_opener opens⟩)
    simp only [splitGroup, opens]
  | none =>
    by_cases closes : c = ')' ∨ c = ']'
    · cases awaits with
      | @cons _ closer _ awaited closed awaits =>
        by_cases same : c = closer
        · subst same
          cases awaits with
          | nil => exact .inl fun t => by simp [splitGroup, opens, closes]
          | @cons b' closer' outer awaited closed' awaits =>
            refine .inr (.inr ⟨b', outer, closer' :: awaited, .cons closed' awaits, fun t => ?_,
              openBehind_of_closer opens closes closed⟩)
            simp [splitGroup, opens, closes]
        · refine .inr (.inl ⟨kinds_of_mismatch closed closes same, fun t => ?_⟩)
          simp only [splitGroup, opens, if_pos closes, if_pos same]
    · refine .inr (.inr ⟨b, outer, awaited, awaits, fun t => ?_, openBehind_of_other opens closes⟩)
      simp only [splitGroup, opens, if_neg closes]

/-- As long as the group is not closed some bracket is open. -/
theorem open_of_splitGroup (awaits : Awaits (b :: outer) awaited)
    (found : splitGroup awaited t = (body, ends)) (notClosed : ∀ rest, ends ≠ .closed rest) :
    ∀ front, front <+: body → ∃ b' outer', openBehind (b :: outer) front = some (b' :: outer') := by
  induction t generalizing b outer awaited body with
  | nil =>
    obtain ⟨rfl, -⟩ := Prod.mk.inj found
    intro front within
    obtain rfl := List.prefix_nil.1 within
    exact ⟨b, outer, rfl⟩
  | cons c t ih =>
    rcases splitGroup_step_of_awaits awaits c with
      closed | ⟨-, wrong⟩ | ⟨b', outer', inner, awaits', passes, same⟩
    · rw [closed] at found
      exact absurd (Prod.mk.inj found).2.symm (notClosed t)
    · rw [wrong] at found
      obtain ⟨rfl, -⟩ := Prod.mk.inj found
      intro front within
      obtain rfl := List.prefix_nil.1 within
      exact ⟨b, outer, rfl⟩
    · rw [passes] at found
      obtain ⟨rfl, ending⟩ := Prod.mk.inj found
      intro front within
      rcases List.prefix_cons_iff.1 within with rfl | ⟨later, rfl, inside⟩
      · exact ⟨b, outer, rfl⟩
      · rw [same]
        exact ih awaits' (Prod.ext rfl ending) later inside

/-- A group that is not closed runs to the end of the text. -/
theorem eq_of_unclosed (found : splitGroup awaited t = (body, .unclosed)) : body = t := by
  induction t generalizing awaited body with
  | nil => exact (Prod.mk.inj found).1.symm
  | cons c t ih =>
    rcases splitGroup_step awaited c with ⟨-, closed⟩ | wrong | ⟨inner, passes⟩
    · rw [closed] at found
      cases found
    · rw [wrong] at found
      cases found
    · rw [passes] at found
      obtain ⟨rfl, ending⟩ := Prod.mk.inj found
      exact congrArg (c :: ·) (ih (Prod.ext rfl ending))

/-- The bracket that does not match is not the one that closes the innermost open one. -/
theorem mismatch_of_splitGroup (awaits : Awaits (b :: outer) awaited)
    (found : splitGroup awaited t = (body, .mismatched rest)) :
    t = body ++ rest ∧ ∃ b' outer' c, openBehind (b :: outer) body = some (b' :: outer') ∧
      rest.head? = some c ∧ (b' = '(' ∧ c = ']' ∨ b' = '[' ∧ c = ')') := by
  induction t generalizing b outer awaited body with
  | nil => cases found
  | cons c t ih =>
    rcases splitGroup_step_of_awaits awaits c with
      closed | ⟨kinds, wrong⟩ | ⟨b', outer', inner, awaits', passes, same⟩
    · rw [closed] at found
      cases found
    · rw [wrong] at found
      obtain ⟨rfl, rest⟩ := Prod.mk.inj found
      obtain rfl := GroupEnd.mismatched.inj rest
      exact ⟨rfl, b, outer, c, rfl, rfl, kinds⟩
    · rw [passes] at found
      obtain ⟨rfl, ending⟩ := Prod.mk.inj found
      obtain ⟨whole, b'', outer'', d, later, first, kinds⟩ := ih awaits' (Prod.ext rfl ending)
      exact ⟨congrArg (c :: ·) whole, b'', outer'', d, (same _).trans later, first, kinds⟩

/-- The text from the opening bracket of a group that is not closed in what was read. -/
theorem staysOpen_of_splitGroup {opener closer : Char} (brackets : closerOf? opener = some closer)
    (found : splitGroup [closer] t = (body, ends)) (notClosed : ∀ rest, ends ≠ .closed rest) :
    StaysOpen (opener :: body) where
  opens := by simpa using bracket_of_closerOf? brackets
  open_behind := by
    intro front nonempty within
    obtain rfl | ⟨later, rfl, inside⟩ := List.prefix_cons_iff.1 within
    · exact absurd rfl nonempty
    · rw [openBehind_of_opener brackets]
      exact open_of_splitGroup (.cons brackets .nil) found notClosed later inside

end Template

/-! ## What a fault says -/

open Template Token

/-- The fault and its fragment describe the text: it is cut where the fault is, and all
that they say of the text in front of it and of the text from there on holds. -/
def Fault.Tells (before behind fragment : Text) : Fault → Prop
  | .unexpectedCharacter c =>
    fragment = behind ∧ c ∈ ['|', '}', '$', ')', ']'] ∧ behind.head? = some c
  | .unclosedVariant => fragment = behind ∧ behind.head? = some '{'
  | .invalidBound =>
    before.getLast? = some '{' ∧ fragment ++ ['$', '$'] <+: behind ∧
      (∀ c ∈ fragment, ¬ (c = '{' ∨ c = '}' ∨ c = '|')) ∧ ¬ ['$', '$'] <:+: fragment ∧
      Bound.read? fragment = none
  | .unterminatedWildcard =>
    fragment = behind ∧ ∃ body, behind = '_' :: '_' :: body ∧ ¬ ['_', '_'] <:+: body
  | .emptyWildcard => fragment = behind ∧ ['_', '_', '_', '_'] <+: behind
  | .unclosedGroup => fragment = behind ∧ StaysOpen behind
  | .mismatchedGroup =>
    fragment = behind ∧ ∃ group b outer c, group <:+ before ∧ StaysOpen group ∧
      openBehind [] group = some (b :: outer) ∧ behind.head? = some c ∧
      (b = '(' ∧ c = ']' ∨ b = '[' ∧ c = ')')

/-- More text in front changes nothing. -/
theorem Fault.Tells.append_left {before behind fragment : Text} {fault : Fault}
    (tells : fault.Tells before behind fragment) (front : Text) :
    fault.Tells (front ++ before) behind fragment := by
  cases fault with
  | invalidBound =>
    obtain ⟨brace, rest⟩ := tells
    exact ⟨by rw [List.getLast?_append, brace]; rfl, rest⟩
  | mismatchedGroup =>
    obtain ⟨whole, group, b, outer, c, inside, rest⟩ := tells
    exact ⟨whole, group, b, outer, c, inside.trans (List.suffix_append front before), rest⟩
  | _ => exact tells

/-- The stop stands in the text, and what it says there is true. -/
def Stop.TellsIn (t : Text) (stop : Stop) : Prop :=
  ∃ before, t = before ++ stop.start ∧ stop.fault.Tells before stop.start stop.fragment

theorem Stop.TellsIn.of_suffix {s t : Text} {stop : Stop} (tells : stop.TellsIn s)
    (inside : s <:+ t) : stop.TellsIn t := by
  obtain ⟨before, rfl, tells⟩ := tells
  obtain ⟨front, rfl⟩ := inside
  exact ⟨front ++ before, (List.append_assoc ..).symm, tells.append_left front⟩

/-- A stop that shows the text from its beginning on. -/
theorem Stop.tellsIn_onward {t : Text} {fault : Fault} (tells : fault.Tells [] t t) :
    (Stop.onward fault t).TellsIn t :=
  ⟨[], rfl, tells⟩

namespace Token

theorem no_delimiter_of_atDelimiter?_eq_none {t : Text} (notFound : atDelimiter? t = none) :
    ¬ ['_', '_'] <:+: t := by
  fun_induction atDelimiter? t with
  | case1 => cases notFound
  | case2 c t noDelimiter ih =>
    rw [pair_infix_cons_iff]
    rintro (inside | ⟨half, first⟩)
    · exact ih (Option.map_eq_none_iff.1 notFound) inside
    · obtain ⟨rest, rfl⟩ := List.head?_eq_some_iff.1 first
      exact noDelimiter rest half rfl
  | case3 => exact fun inside => absurd inside.length_le (by simp)

variable {stop : Stop}

theorem scanWildcard_tells {body : Text}
    (stops : (scanWildcard ('_' :: '_' :: body) body).1.StopsAt stop) :
    stop.TellsIn ('_' :: '_' :: body) := by
  unfold scanWildcard at stops
  split at stops
  · rename_i notFound
    obtain rfl := stops
    exact Stop.tellsIn_onward ⟨rfl, body, rfl, no_delimiter_of_atDelimiter?_eq_none notFound⟩
  · rename_i rest found
    obtain rfl := stops
    refine Stop.tellsIn_onward ⟨rfl, rest, ?_⟩
    rw [eq_of_atDelimiter? found]
    rfl
  · exact stops.elim

theorem scanGroup_tells {opener closer : Char} {rest : Text}
    (brackets : closerOf? opener = some closer)
    (stops : (scanGroup opener closer rest).1.StopsAt stop) : stop.TellsIn (opener :: rest) := by
  unfold scanGroup at stops
  split at stops
  · exact stops.elim
  · rename_i body start found
    obtain rfl := stops
    obtain ⟨rfl, b, outer, c, opened, first, kinds⟩ :=
      mismatch_of_splitGroup (.cons brackets .nil) found
    refine ⟨opener :: body, rfl, rfl, opener :: body, b, outer, c, List.suffix_refl _,
      staysOpen_of_splitGroup brackets found nofun, ?_, first, kinds⟩
    rw [openBehind_of_opener brackets]
    exact opened
  · rename_i body found
    obtain rfl := stops
    obtain rfl := eq_of_unclosed found
    exact Stop.tellsIn_onward ⟨rfl, staysOpen_of_splitGroup brackets found nofun⟩

theorem scanOpening_tells {rest : Text} (stops : (scanOpening rest).1.StopsAt stop) :
    stop.TellsIn ('{' :: rest) := by
  unfold scanOpening header at stops
  cases found : segment? rest with
  | none =>
    simp only [found] at stops
    obtain rfl := stops
    exact Stop.tellsIn_onward ⟨rfl, rfl⟩
  | some read =>
    obtain ⟨written, behind⟩ := read
    obtain ⟨shape, noSigns, noPair⟩ := segment?_eq_some_iff.1 found
    cases bounds : Bound.read? written with
    | none =>
      simp only [found, bounds] at stops
      obtain rfl := stops
      refine ⟨['{'], rfl, rfl, ⟨behind, ?_⟩, noSigns, (no_pair_concat_iff.1 noPair).1, bounds⟩
      rw [shape, List.append_assoc]
      rfl
    | some bound =>
      have onward : stop = .onward .unclosedVariant ('{' :: rest) := by
        simp only [found, bounds] at stops
        split at stops
        · rename_i failed
          split at failed <;> cases failed
        · exact stops
      rw [onward]
      exact Stop.tellsIn_onward ⟨rfl, rfl⟩

/-- A stop that the first token is the cause of tells the truth. -/
theorem scan_tells {c : Char} {rest : Text} (stops : (scan c rest).1.StopsAt stop) :
    stop.TellsIn (c :: rest) := by
  have unexpected : ∀ {d : Char}, d ∈ ['|', '}', '$', ')', ']'] →
      stop = .onward (.unexpectedCharacter d) (d :: rest) → stop.TellsIn (d :: rest) := by
    rintro d special rfl
    exact Stop.tellsIn_onward ⟨rfl, special, rfl⟩
  unfold scan at stops
  split at stops
  · exact scanWildcard_tells stops
  · exact scanOpening_tells stops
  · exact unexpected (by decide) stops
  · exact unexpected (by decide) stops
  · exact scanGroup_tells rfl stops
  · exact scanGroup_tells rfl stops
  · exact unexpected (by decide) stops
  · exact unexpected (by decide) stops
  · exact unexpected (by decide) stops
  · split at stops
    · exact stops.elim
    · exact stops.elim

/-- Where a token stops the parser, the stop tells the truth about the text. -/
theorem tellsIn_of_mem_tokens {t : Text} {token : Token} (member : token ∈ tokens t)
    (stops : token.StopsAt stop) : stop.TellsIn t := by
  fun_induction tokens t with
  | case1 => cases member
  | case2 c rest ih =>
    rcases List.mem_cons.1 member with rfl | later
    · exact scan_tells stops
    · exact (ih later).of_suffix ((scan_suffix c rest).trans (List.suffix_cons c rest))

end Token

namespace Template

/-! ## Parse errors -/

/-- Every stop of an assembly tells the truth about the text. -/
theorem tellsIn_of_assemble {t : Text} {pieces : List Piece} {stop : Stop}
    (failed : assemble [] pieces (tokens t) = .error stop) : stop.TellsIn t := by
  rcases exists_stopsAt_of_assemble failed with ⟨v, member, -⟩ | ⟨token, member, stops⟩
  · cases member
  · exact tellsIn_of_mem_tokens member stops

/-- A parse error stands at a character boundary of the text without comments, and what
its fault and its fragment say of the text there is true. -/
theorem parse_error_tells {t : Text} {e : ParseError} (failed : parse t = .error e) :
    ∃ before behind, stripComments t = before ++ behind ∧
      e.position = Text.utf8Size before ∧ e.position ≤ Text.utf8Size (stripComments t) ∧
      e.fault.Tells before behind e.fragment := by
  obtain ⟨stop, found, rfl⟩ := parse_eq_error_iff.1 failed
  obtain ⟨before, whole, tells⟩ := tellsIn_of_assemble found
  refine ⟨before, stop.start, whole, ?_, Nat.sub_le _ _, tells⟩
  rw [Stop.toError, whole, Text.utf8Size_append, Nat.add_sub_cancel]

/-- The wrong bracket stands in a variant, behind a character of two bytes. -/
theorem parse_error_tells_nested :
    parse "é\x7ba|(b]".toList = .error ⟨.mismatchedGroup, 7, [']']⟩ ∧
      ∃ before behind, stripComments "é\x7ba|(b]".toList = before ++ behind ∧
        7 = Text.utf8Size before ∧ 7 ≤ Text.utf8Size (stripComments "é\x7ba|(b]".toList) ∧
        Fault.mismatchedGroup.Tells before behind [']'] := by
  have failed : parse "é\x7ba|(b]".toList = .error ⟨.mismatchedGroup, 7, [']']⟩ := by
    with_unfolding_all rfl
  exact ⟨failed, parse_error_tells failed⟩

end Template

end PromptTemplate
