/-
# PromptTemplate.Proofs.Template.Framing -- a complete text is read alike wherever it stands

The parser looks ahead for the closing delimiter of a wildcard, the closing bracket of a
group, the `$$` of a header and the `::` of a weight.  In a text that parses none of these
searches runs past the end of the text: wildcards and groups are closed in it, and a
header or a weight is searched for only where a variant is open, so that the search meets
the closing brace at the latest (`closing_mem_of_assemble`).

Hence a token is read alike in front of whatever follows the text (`scan_append`), and a
text that parses is read as the same pieces wherever it stands: behind any pieces, inside
any open variants, and in front of anything but an underscore
(`exists_readsAs_of_parse`).
-/
import PromptTemplate.Proofs.Template.Assembly
import PromptTemplate.Proofs.Template.RoundTrip

set_option autoImplicit false

namespace PromptTemplate

/-- What stands in front of a character, when the front does not hold it. -/
theorem append_cons_eq_append_iff {α : Type} {c : α} {t rest front behind : List α}
    (absent : c ∉ front) :
    t ++ c :: rest = front ++ behind ↔
      ∃ inner, t = front ++ inner ∧ behind = inner ++ c :: rest := by
  rw [List.append_eq_append_iff]
  constructor
  · rintro (⟨own, rfl, shape⟩ | found)
    · cases own with
      | nil => exact ⟨[], by simp, by simpa using shape.symm⟩
      | cons d own =>
        obtain ⟨rfl, -⟩ := List.cons.inj shape
        simp at absent
    · exact found
  · exact .inr

namespace Token

open Template

/-! ## Searches that look no further -/

section Finds

variable {α : Type} {find : Text → Option (α × Text)} {Written : α → Text → Prop}

/-- The search finds what is written at the front of a text, whatever follows it. -/
def Finds (find : Text → Option (α × Text)) (Written : α → Text → Prop) : Prop :=
  ∀ t a rest, find t = some (a, rest) ↔ ∃ front, Written a front ∧ t = front ++ rest

/-- Nothing is found just when nothing is written at the front. -/
theorem Finds.eq_none_iff (finds : Finds find Written) {t : Text} :
    find t = none ↔ ∀ a front, Written a front → ¬ front <+: t := by
  constructor
  · rintro notFound a front written ⟨rest, rfl⟩
    have found := (finds (front ++ rest) a rest).2 ⟨front, written, rfl⟩
    rw [notFound] at found
    cases found
  · intro absent
    refine Option.eq_none_iff_forall_ne_some.2 fun read found => ?_
    obtain ⟨front, written, rfl⟩ := (finds t read.1 read.2).1 found
    exact absent read.1 front written (List.prefix_append front read.2)

/-- A search does not look past a character that nothing that it finds can hold. -/
theorem Finds.append_cons (finds : Finds find Written) {c : Char}
    (absent : ∀ a front, Written a front → c ∉ front) (t rest : Text) :
    find (t ++ c :: rest) = (find t).map (Prod.map id (· ++ c :: rest)) := by
  apply Option.ext
  rintro ⟨a, behind⟩
  rw [finds, Option.map_eq_some_iff]
  constructor
  · rintro ⟨front, written, shape⟩
    obtain ⟨inner, own, rfl⟩ := (append_cons_eq_append_iff (absent a front written)).1 shape
    exact ⟨(a, inner), (finds t a inner).2 ⟨front, written, own⟩, rfl⟩
  · rintro ⟨⟨a', inner⟩, found, same⟩
    obtain ⟨rfl, rfl⟩ := Prod.mk.inj same
    obtain ⟨front, written, rfl⟩ := (finds t a' inner).1 found
    exact ⟨front, written, List.append_assoc ..⟩

/-- The search does not go beyond a character that can be in nothing that is written. -/
theorem Finds.append_of_mem (finds : Finds find Written) {c : Char}
    (absent : ∀ a front, Written a front → c ∉ front) {t : Text} (inside : c ∈ t) (s : Text) :
    find (t ++ s) = (find t).map (Prod.map id (· ++ s)) := by
  obtain ⟨before, behind, rfl⟩ := List.append_of_mem inside
  rw [List.append_assoc, List.cons_append, finds.append_cons absent, finds.append_cons absent,
    Option.map_map]
  congr 1
  funext found
  simp [Prod.map]

end Finds

/-- The text of a segment of a header, with its delimiter. -/
def WritesSegment (segment front : Text) : Prop :=
  front = segment ++ ['$', '$'] ∧ (∀ c ∈ segment, ¬ (c = '{' ∨ c = '}' ∨ c = '|')) ∧
    ¬ ['$', '$'] <:+: segment ++ ['$']

/-- The text of the weight of an option, with the white space in front of it and its
delimiter. -/
def WritesLeadingWeight (w : Binary64) (front : Text) : Prop :=
  ∃ space written, (∀ c ∈ space, Text.isSpace c = true) ∧ WritesWeight written w ∧
    front = space ++ (written ++ [':', ':'])

theorem finds_segment? : Finds segment? WritesSegment := by
  intro t segment rest
  rw [segment?_eq_some_iff]
  constructor
  · rintro ⟨rfl, free⟩
    exact ⟨_, ⟨rfl, free⟩, by simp⟩
  · rintro ⟨_, ⟨rfl, free⟩, rfl⟩
    exact ⟨by simp, free⟩

theorem finds_weight? : Finds weight? WritesLeadingWeight := by
  intro t w rest
  rw [weight?_eq_some_iff]
  constructor
  · rintro ⟨space, written, spaces, writes, rfl⟩
    exact ⟨_, ⟨space, written, spaces, writes, rfl⟩, by simp⟩
  · rintro ⟨_, ⟨space, written, spaces, writes, rfl⟩, rfl⟩
    exact ⟨space, written, spaces, writes, by simp⟩

theorem sign_not_mem_segment {c : Char} (sign : IsSign c) (segment front : Text)
    (writes : WritesSegment segment front) : c ∉ front := by
  obtain ⟨rfl, noSigns, -⟩ := writes
  intro member
  rcases List.mem_append.1 member with inside | delimiter
  · exact noSigns c inside sign
  · rcases sign with rfl | rfl | rfl <;> simp at delimiter

theorem digit_or_point_of_writesWeight {t : Text} {w : Binary64} (writes : WritesWeight t w) :
    ∀ c ∈ t, Text.isDigit c = true ∨ c = '.' := by
  intro c member
  cases writes with
  | digits _ all => exact .inl (List.all_eq_true.1 all c member)
  | fraction _ all all' =>
    rcases List.mem_append.1 member with inside | inside
    · exact .inl (List.all_eq_true.1 all c inside)
    · rcases List.mem_cons.1 inside with point | inside
      · exact .inr point
      · exact .inl (List.all_eq_true.1 all' c inside)

theorem sign_not_mem_weight {c : Char} (sign : IsSign c) (w : Binary64) (front : Text)
    (writes : WritesLeadingWeight w front) : c ∉ front := by
  obtain ⟨space, written, spaces, writes, rfl⟩ := writes
  intro member
  rcases List.mem_append.1 member with inside | inside
  · have visible := spaces c inside
    rcases sign with rfl | rfl | rfl <;> exact absurd visible (by decide)
  · rcases List.mem_append.1 inside with inside | delimiter
    · have decimal := digit_or_point_of_writesWeight writes c inside
      rcases sign with rfl | rfl | rfl <;> exact absurd decimal (by decide)
    · rcases sign with rfl | rfl | rfl <;> simp at delimiter

theorem segment?_append_sign {c : Char} (sign : IsSign c) (t rest : Text) :
    segment? (t ++ c :: rest) = (segment? t).map (Prod.map id (· ++ c :: rest)) :=
  finds_segment?.append_cons (sign_not_mem_segment sign) t rest

theorem weight?_append_sign {c : Char} (sign : IsSign c) (t rest : Text) :
    weight? (t ++ c :: rest) = (weight? t).map (Prod.map id (· ++ c :: rest)) :=
  finds_weight?.append_cons (sign_not_mem_weight sign) t rest

theorem segment?_append_of_mem {t : Text} (inside : '}' ∈ t) (s : Text) :
    segment? (t ++ s) = (segment? t).map (Prod.map id (· ++ s)) :=
  finds_segment?.append_of_mem (sign_not_mem_segment (.inr (.inl rfl))) inside s

theorem weight_append_of_mem {t : Text} (inside : '}' ∈ t) (s : Text) :
    weight (t ++ s) = Prod.map id (· ++ s) (weight t) := by
  rw [weight, weight,
    finds_weight?.append_of_mem (sign_not_mem_weight (.inr (.inl rfl))) inside s]
  cases weight? t <;> rfl

/-- Behind a segment the closing brace is still to come. -/
theorem closing_mem_of_segment? {t segment rest : Text}
    (found : segment? t = some (segment, rest)) (inside : '}' ∈ t) : '}' ∈ rest := by
  obtain ⟨noSigns, -⟩ := no_delimiter_of_segment? found
  rw [eq_of_segment? found] at inside
  rcases List.mem_append.1 inside with front | behind
  · exact absurd (.inr (.inl rfl)) (noSigns _ front)
  · simpa using behind

/-- A header that the closing brace follows is read alike whatever comes behind. -/
theorem header_append_of_mem {t joiner rest : Text} {bound : Option Bound}
    (read : header t = .ok (bound, joiner, rest)) (inside : '}' ∈ t) (s : Text) :
    header (t ++ s) = .ok (bound, joiner, rest ++ s) ∧ '}' ∈ rest := by
  unfold header at read ⊢
  rw [segment?_append_of_mem inside]
  cases first : segment? t with
  | none =>
    rw [first] at read
    obtain ⟨rfl, same⟩ := Prod.mk.inj (Except.ok.inj read)
    obtain ⟨rfl, rfl⟩ := Prod.mk.inj same
    exact ⟨rfl, inside⟩
  | some found =>
    obtain ⟨written, behind⟩ := found
    have later := closing_mem_of_segment? first inside
    rw [first] at read
    simp only [Option.map_some, Prod.map, id, segment?_append_of_mem later] at read ⊢
    cases bounds : Bound.read? written with
    | none =>
      rw [bounds] at read
      cases read
    | some own =>
      rw [bounds] at read
      cases second : segment? behind with
      | none =>
        rw [second] at read
        obtain ⟨rfl, same⟩ := Prod.mk.inj (Except.ok.inj read)
        obtain ⟨rfl, rfl⟩ := Prod.mk.inj same
        exact ⟨rfl, later⟩
      | some found =>
        rw [second] at read
        obtain ⟨rfl, same⟩ := Prod.mk.inj (Except.ok.inj read)
        obtain ⟨rfl, rfl⟩ := Prod.mk.inj same
        exact ⟨rfl, closing_mem_of_segment? second later⟩

/-! ## Tokens -/

/-- The token when more text follows that behind it. -/
def inFrontOf (s : Text) : Token → Token
  | .opening bound joiner weight start => .opening bound joiner weight (start ++ s)
  | .divider weight start => .divider weight (start ++ s)
  | .closing start => .closing (start ++ s)
  | token => token

/-- A wildcard is scanned alike whatever follows it. -/
theorem scanWildcard_append {start body : Text}
    (sound : ∀ stop, (scanWildcard start body).1 ≠ .fault stop) (start' s : Text) :
    scanWildcard start' (body ++ s) =
      ((scanWildcard start body).1.inFrontOf s, (scanWildcard start body).2 ++ s) := by
  unfold scanWildcard at sound ⊢
  cases found : atDelimiter? body with
  | none => simp [found] at sound
  | some read =>
    obtain ⟨name, rest⟩ := read
    have later := atDelimiter?_append (no_delimiter_of_atDelimiter? found) (rest ++ s)
    rw [eq_of_atDelimiter? found, List.append_assoc, List.cons_append, List.cons_append, later]
    cases name with
    | nil => simp [found] at sound
    | cons c name => simp [inFrontOf]

/-- A group is scanned alike whatever follows it. -/
theorem scanGroup_append {opener closer : Char} {rest : Text}
    (sound : ∀ stop, (scanGroup opener closer rest).1 ≠ .fault stop) (s : Text) :
    scanGroup opener closer (rest ++ s) =
      ((scanGroup opener closer rest).1.inFrontOf s, (scanGroup opener closer rest).2 ++ s) := by
  unfold scanGroup at sound ⊢
  rcases found : splitGroup [closer] rest with ⟨body, ends⟩
  cases ends with
  | closed behind =>
    obtain ⟨rfl, whatever⟩ := splitGroup_append found
    rw [List.append_assoc, whatever]
    rfl
  | mismatched start => simp [found] at sound
  | unclosed => simp [found] at sound

/-- An opening in front of a closing brace is scanned alike whatever follows. -/
theorem scanOpening_append {rest : Text} (sound : ∀ stop, (scanOpening rest).1 ≠ .fault stop)
    (inside : '}' ∈ rest) (s : Text) :
    scanOpening (rest ++ s) = ((scanOpening rest).1.inFrontOf s, (scanOpening rest).2 ++ s) := by
  unfold scanOpening at sound ⊢
  cases read : header rest with
  | error stop => simp [read] at sound
  | ok found =>
    obtain ⟨bound, joiner, body⟩ := found
    obtain ⟨whole, later⟩ := header_append_of_mem read inside s
    simp only [whole, weight_append_of_mem later]
    rfl

/-- A token is read alike in front of anything but an underscore, if it is no fault and,
where a header or a weight is read, the closing brace is still to come. -/
theorem scan_append {c : Char} {rest s : Text} (sound : ∀ stop, (scan c rest).1 ≠ .fault stop)
    (inside : c = '{' ∨ c = '|' → '}' ∈ rest) (behind : s.head? ≠ some '_') :
    scan c (rest ++ s) = ((scan c rest).1.inFrontOf s, (scan c rest).2 ++ s) := by
  by_cases other : c ∈ ['{', '|', '}', '(', '[', '$', ')', ']']
  · simp only [List.mem_cons, List.not_mem_nil, or_false] at other
    rcases other with rfl | rfl | rfl | rfl | rfl | rfl | rfl | rfl
    · exact scanOpening_append sound (inside (.inl rfl)) s
    · simp only [scan_bar, weight_append_of_mem (inside (.inr rfl))]
      rfl
    · rfl
    · exact scanGroup_append sound s
    · exact scanGroup_append sound s
    · exact absurd rfl (sound _)
    · exact absurd rfl (sound _)
    · exact absurd rfl (sound _)
  · by_cases delimiter : c = '_' ∧ rest.head? = some '_'
    · obtain ⟨rfl, first⟩ := delimiter
      obtain ⟨body, rfl⟩ := List.head?_eq_some_iff.1 first
      exact scanWildcard_append sound _ s
    · rw [not_and] at delimiter
      have alone : c = '_' → (rest ++ s).head? ≠ some '_' := by
        intro half
        cases rest with
        | nil => exact behind
        | cons d rest => exact delimiter half
      rw [scan_other other delimiter, scan_other other alone]
      split <;> rfl

end Token

namespace Template

open Token

/-! ## Complete texts -/

/-- Only a closing brace is read as one. -/
theorem eq_of_scan_closing {c : Char} {rest start : Text}
    (read : (scan c rest).1 = .closing start) : c = '}' := by
  revert read
  fun_cases scan c rest with
  | case1 body =>
    unfold scanWildcard
    split <;> nofun
  | case2 =>
    unfold scanOpening
    split <;> nofun
  | case4 => exact fun _ => rfl
  | case5 =>
    unfold scanGroup
    split <;> nofun
  | case6 =>
    unfold scanGroup
    split <;> nofun
  | _ => nofun

/-- Behind an opening brace or a divider a variant is open. -/
theorem ne_nil_of_advance {outer later : List OpenVariant} {pieces next : List Piece} {c : Char}
    {rest : Text} (sign : c = '{' ∨ c = '|')
    (step : advance outer pieces (scan c rest).1 = .ok (later, next)) : later ≠ [] := by
  rintro rfl
  rcases sign with rfl | rfl
  · rw [scan_brace, scanOpening] at step
    split at step
    · cases step
    · cases step
  · rw [scan_bar] at step
    cases outer with
    | nil => cases step
    | cons v outer => cases step

/-- Where a variant is open the closing brace is still to come. -/
theorem closing_mem_of_assemble {outer : List OpenVariant} {pieces : List Piece} {t : Text}
    {template : Template} (isOpen : outer ≠ [])
    (read : assemble outer pieces (tokens t) = .ok template) : '}' ∈ t := by
  fun_induction tokens t generalizing outer pieces with
  | case1 =>
    obtain ⟨v, outer, rfl⟩ := List.exists_cons_of_ne_nil isOpen
    cases read
  | case2 c rest ih =>
    obtain ⟨later, next, step, read⟩ := assemble_cons_eq_ok_iff.1 read
    by_cases closed : later = []
    · obtain ⟨v, outer, rfl⟩ := List.exists_cons_of_ne_nil isOpen
      subst closed
      obtain ⟨start, closes⟩ := eq_closing_of_advance step
      rw [eq_of_scan_closing closes]
      exact List.mem_cons_self
    · exact List.mem_cons_of_mem c ((scan_suffix c rest).subset (ih closed read))

/-- The open variants and the pieces of the second kind are those of the first, on top of
the variants below and behind the pieces in front; where variants start is left open. -/
inductive Atop (below : List OpenVariant) (front : List Piece) :
    List OpenVariant → List Piece → List OpenVariant → List Piece → Prop where
  | bottom (pieces : List Piece) : Atop below front [] pieces below (pieces ++ front)
  | inside {outer outer' : List OpenVariant} {before' : List Piece} (v : OpenVariant)
    (start : Text) (pieces : List Piece) (under : Atop below front outer v.before outer' before') :
    Atop below front (v :: outer) pieces ({ v with start, before := before' } :: outer') pieces

section Atop

variable {below : List OpenVariant} {front : List Piece} {outer outer' later : List OpenVariant}
  {pieces pieces' next : List Piece}

theorem Atop.push (atop : Atop below front outer pieces outer' pieces') (p : Piece) :
    Atop below front outer (p :: pieces) outer' (p :: pieces') := by
  cases atop with
  | bottom => exact .bottom (p :: pieces)
  | inside v start _ under => exact .inside v start (p :: pieces) under

/-- A token does the same on top of other variants and pieces, as long as it closes none
of them. -/
theorem Atop.advance {token : Token} (atop : Atop below front outer pieces outer' pieces')
    (step : advance outer pieces token = .ok (later, next)) (s : Text) :
    ∃ later' next', advance outer' pieces' (token.inFrontOf s) = .ok (later', next') ∧
      Atop below front later next later' next' := by
  cases token with
  | opening bound joiner weight start =>
    obtain ⟨rfl, rfl⟩ := Prod.mk.inj (Except.ok.inj step)
    exact ⟨_, _, rfl, .inside _ (start ++ s) [] atop⟩
  | divider weight start =>
    cases atop with
    | bottom => cases step
    | inside v start' _ under =>
      obtain ⟨rfl, rfl⟩ := Prod.mk.inj (Except.ok.inj step)
      exact ⟨_, _, rfl, .inside _ start' [] under⟩
  | closing start =>
    cases atop with
    | bottom => cases step
    | inside v start' _ under =>
      obtain ⟨rfl, rfl⟩ := Prod.mk.inj (Except.ok.inj step)
      exact ⟨_, _, rfl, under.push _⟩
  | fault stop => cases step
  | _ =>
    obtain ⟨rfl, rfl⟩ := Prod.mk.inj (Except.ok.inj step)
    exact ⟨_, _, rfl, atop.push _⟩

end Atop

/-- A text that is read to its end is read as the same pieces on top of any open variants
and pieces, in front of anything but an underscore. -/
theorem exists_pieces_atop {outer : List OpenVariant} {pieces : List Piece} {t : Text}
    {template : Template} (read : assemble outer pieces (tokens t) = .ok template) :
    ∃ all, template = ofPieces all.reverse ∧
      (∀ limit, AssemblySound limit outer pieces (tokens t) → PiecesSound limit all.reverse) ∧
      ∀ below front outer' pieces' s, Atop below front outer pieces outer' pieces' →
        s.head? ≠ some '_' →
          assemble outer' pieces' (tokens (t ++ s)) = assemble below (all ++ front) (tokens s) := by
  fun_induction tokens t generalizing outer pieces with
  | case1 =>
    cases outer with
    | nil =>
      refine ⟨pieces, (Except.ok.inj read).symm, fun limit sound => sound.pieces_sound,
        fun below front outer' pieces' s atop _ => ?_⟩
      cases atop
      rfl
    | cons v outer => cases read
  | case2 c rest ih =>
    obtain ⟨later, next, step, read⟩ := assemble_cons_eq_ok_iff.1 read
    obtain ⟨all, same, kept, whatever⟩ := ih read
    refine ⟨all, same, fun limit sound => kept limit (sound.advance step),
      fun below front outer' pieces' s atop behind => ?_⟩
    have sound : ∀ stop, (scan c rest).1 ≠ .fault stop := by
      intro stop fault
      rw [fault] at step
      cases step
    have inside : c = '{' ∨ c = '|' → '}' ∈ rest := by
      intro sign
      exact (scan_suffix c rest).subset
        (closing_mem_of_assemble (ne_nil_of_advance sign step) read)
    -- the token and what it does are the same in front of `s`, and so is the rest by induction
    obtain ⟨later', next', step', atop'⟩ := atop.advance step s
    rw [List.cons_append, tokens_cons, scan_append sound inside behind,
      assemble_of_advance step', whatever below front later' next' s atop' behind]

/-- A text without comments that parses is read as its pieces wherever it stands. -/
theorem exists_readsAs_of_parse {t : Text} {template : Template} (free : CommentFree t)
    (read : parse t = .ok template) :
    ∃ pieces limit, ReadsAs t pieces ∧ PiecesSound limit pieces ∧ template = ofPieces pieces := by
  rw [parse_eq_ok_iff, stripComments_eq_self free] at read
  obtain ⟨all, same, kept, whatever⟩ := exists_pieces_atop read
  refine ⟨all.reverse, max Text.sizeLimit (t.length + 1), fun outer before rest behind => ?_,
    kept _ (assemblySound_tokens (Nat.le_max_left _ _) free (by omega)), same⟩
  rw [List.reverse_reverse]
  exact whatever outer before outer before rest (.bottom []) behind

end Template

end PromptTemplate
