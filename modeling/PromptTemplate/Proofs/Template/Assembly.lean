/-
# PromptTemplate.Proofs.Template.Assembly -- one token after the other

What a token does to the open variants and to the pieces at hand (`advance`) does not
depend on the tokens behind it, so tokens are assembled by advancing from one to the next
(`assemble_cons`).

The assembly stops at a token that is a fault, at a sign that stands outside every
variant, or at the end of the text, in front of which the innermost open variant is not
closed (`exists_stopsAt_of_assemble`).  Where it stops depends on where the open variants
start, but not on what has been read of them (`assemble_error_congr`).
-/
import PromptTemplate.Proofs.Results
import PromptTemplate.Template.Parser

set_option autoImplicit false

namespace PromptTemplate

namespace Token

/-- The stop is one that the token can be the cause of. -/
def StopsAt (stop : Stop) : Token → Prop
  | .opening _ _ _ start => stop = .onward .unclosedVariant start
  | .divider _ start => stop = .onward (.unexpectedCharacter '|') start
  | .closing start => stop = .onward (.unexpectedCharacter '}') start
  | .fault own => stop = own
  | _ => False

end Token

namespace Template

/-! ## One token -/

/-- The open variants and the pieces at hand behind a token. -/
def advance (outer : List OpenVariant) (pieces : List Piece) :
    Token → Except Stop (List OpenVariant × List Piece)
  | .text t => .ok (outer, .text t :: pieces)
  | .gap => .ok (outer, .gap :: pieces)
  | .wildcard name => .ok (outer, .node (.wildcard name) :: pieces)
  | .opening bound joiner weight start =>
    .ok (⟨start, bound, joiner, [], weight, pieces⟩ :: outer, [])
  | .divider weight start =>
    match outer with
    | [] => .error (.onward (.unexpectedCharacter '|') start)
    | v :: outer => .ok ({ v with options := v.endOption pieces, weight } :: outer, [])
  | .closing start =>
    match outer with
    | [] => .error (.onward (.unexpectedCharacter '}') start)
    | v :: outer => .ok (outer, .node (v.close pieces) :: v.before)
  | .fault stop => .error stop

variable {outer outer' later later' : List OpenVariant} {pieces pieces' next : List Piece}
  {token : Token} {tokens : List Token} {stop : Stop} {template : Template}

/-- A run of the assembly is one step and the run from there on. -/
theorem assemble_cons (outer : List OpenVariant) (pieces : List Piece) (token : Token)
    (tokens : List Token) :
    assemble outer pieces (token :: tokens) =
      advance outer pieces token >>= fun behind => assemble behind.1 behind.2 tokens := by
  cases token with
  | divider weight start => cases outer <;> rfl
  | closing start => cases outer <;> rfl
  | _ => rfl

theorem assemble_of_advance (step : advance outer pieces token = .ok (later, next)) :
    assemble outer pieces (token :: tokens) = assemble later next tokens := by
  rw [assemble_cons, step]
  rfl

theorem assemble_cons_eq_ok_iff :
    assemble outer pieces (token :: tokens) = .ok template ↔
      ∃ later next, advance outer pieces token = .ok (later, next) ∧
        assemble later next tokens = .ok template := by
  rw [assemble_cons, except_bind_eq_ok, Prod.exists]

theorem assemble_cons_eq_error_iff :
    assemble outer pieces (token :: tokens) = .error stop ↔
      advance outer pieces token = .error stop ∨
        ∃ later next, advance outer pieces token = .ok (later, next) ∧
          assemble later next tokens = .error stop := by
  rw [assemble_cons, except_bind_eq_error, Prod.exists]

/-- Only a closing brace takes the last open variant away. -/
theorem eq_closing_of_advance {v : OpenVariant}
    (step : advance (v :: outer) pieces token = .ok ([], next)) :
    ∃ start, token = .closing start := by
  cases token with
  | closing start => exact ⟨start, rfl⟩
  | fault own => cases step
  | _ => cases step

/-! ## Where the assembly stops -/

/-- A step fails only with a stop that its token can be the cause of. -/
theorem stopsAt_of_advance (failed : advance outer pieces token = .error stop) :
    token.StopsAt stop := by
  cases token with
  | divider weight start =>
    cases outer with
    | nil => exact (Except.error.inj failed).symm
    | cons v outer => cases failed
  | closing start =>
    cases outer with
    | nil => exact (Except.error.inj failed).symm
    | cons v outer => cases failed
  | fault own => exact (Except.error.inj failed).symm
  | _ => cases failed

/-- A variant that is open behind a token was open in front of it or starts with it. -/
theorem start_of_advance (step : advance outer pieces token = .ok (later, next)) :
    ∀ v ∈ later, (∃ u ∈ outer, u.start = v.start) ∨
      token.StopsAt (.onward .unclosedVariant v.start) := by
  intro v member
  cases token with
  | opening bound joiner weight start =>
    obtain ⟨rfl, -⟩ := Prod.mk.inj (Except.ok.inj step)
    rcases List.mem_cons.1 member with rfl | member
    · exact .inr rfl
    · exact .inl ⟨v, member, rfl⟩
  | divider weight start =>
    cases outer with
    | nil => cases step
    | cons u outer =>
      obtain ⟨rfl, -⟩ := Prod.mk.inj (Except.ok.inj step)
      rcases List.mem_cons.1 member with rfl | member
      · exact .inl ⟨u, List.mem_cons_self, rfl⟩
      · exact .inl ⟨v, List.mem_cons_of_mem u member, rfl⟩
  | closing start =>
    cases outer with
    | nil => cases step
    | cons u outer =>
      obtain ⟨rfl, -⟩ := Prod.mk.inj (Except.ok.inj step)
      exact .inl ⟨v, List.mem_cons_of_mem u member, rfl⟩
  | fault own => cases step
  | _ =>
    obtain ⟨rfl, -⟩ := Prod.mk.inj (Except.ok.inj step)
    exact .inl ⟨v, member, rfl⟩

/-- The assembly stops at a token or in front of a variant that was open before. -/
theorem exists_stopsAt_of_assemble (failed : assemble outer pieces tokens = .error stop) :
    (∃ v ∈ outer, stop = .onward .unclosedVariant v.start) ∨
      ∃ token ∈ tokens, token.StopsAt stop := by
  induction tokens generalizing outer pieces with
  | nil =>
    cases outer with
    | nil => cases failed
    | cons v outer => exact .inl ⟨v, List.mem_cons_self, (Except.error.inj failed).symm⟩
  | cons token tokens ih =>
    rcases assemble_cons_eq_error_iff.1 failed with here | ⟨later, next, step, failed⟩
    · exact .inr ⟨token, List.mem_cons_self, stopsAt_of_advance here⟩
    · rcases ih failed with ⟨v, member, rfl⟩ | ⟨other, member, stops⟩
      · rcases start_of_advance step v member with ⟨u, member, same⟩ | stops
        · exact .inl ⟨u, member, by rw [same]⟩
        · exact .inr ⟨token, List.mem_cons_self, stops⟩
      · exact .inr ⟨other, List.mem_cons_of_mem token member, stops⟩

/-! ## What has been read does not matter -/

/-- With open variants that start alike a token stops the assembly alike, or leaves open
variants that start alike. -/
theorem advance_congr (same : outer.map (·.start) = outer'.map (·.start))
    (pieces pieces' : List Piece) (token : Token) :
    (∃ stop, advance outer pieces token = .error stop ∧
        advance outer' pieces' token = .error stop) ∨
      ∃ later next later' next', advance outer pieces token = .ok (later, next) ∧
        advance outer' pieces' token = .ok (later', next') ∧
        later.map (·.start) = later'.map (·.start) := by
  cases token with
  | opening bound joiner weight start =>
    exact .inr ⟨_, _, _, _, rfl, rfl, congrArg (start :: ·) same⟩
  | divider weight start =>
    cases outer with
    | nil =>
      obtain rfl := List.map_eq_nil_iff.1 same.symm
      exact .inl ⟨_, rfl, rfl⟩
    | cons v outer =>
      cases outer' with
      | nil => cases same
      | cons v' outer' => exact .inr ⟨_, _, _, _, rfl, rfl, same⟩
  | closing start =>
    cases outer with
    | nil =>
      obtain rfl := List.map_eq_nil_iff.1 same.symm
      exact .inl ⟨_, rfl, rfl⟩
    | cons v outer =>
      cases outer' with
      | nil => cases same
      | cons v' outer' => exact .inr ⟨_, _, _, _, rfl, rfl, (List.cons.inj same).2⟩
  | fault stop => exact .inl ⟨stop, rfl, rfl⟩
  | _ => exact .inr ⟨_, _, _, _, rfl, rfl, same⟩

/-- Where the assembly stops depends on the starts of the open variants only. -/
theorem assemble_error_congr (same : outer.map (·.start) = outer'.map (·.start))
    (failed : assemble outer pieces tokens = .error stop) :
    assemble outer' pieces' tokens = .error stop := by
  induction tokens generalizing outer pieces outer' pieces' with
  | nil =>
    cases outer with
    | nil => cases failed
    | cons v outer =>
      cases outer' with
      | nil => cases same
      | cons v' outer' =>
        obtain rfl := Except.error.inj failed
        have start : v.start = v'.start := (List.cons.inj same).1
        rw [assemble, start]
  | cons token tokens ih =>
    rcases advance_congr same pieces pieces' token with
      ⟨own, here, there⟩ | ⟨later, next, later', next', here, there, same⟩
    · rw [assemble_cons, here] at failed
      rw [assemble_cons, there]
      exact failed
    · rw [assemble_of_advance here] at failed
      rw [assemble_of_advance there]
      exact ih same failed

/-! ## Parsing -/

theorem parse_eq_ok_iff {t : Text} :
    parse t = .ok template ↔ assemble [] [] (Token.tokens (stripComments t)) = .ok template := by
  unfold parse parseStripped
  cases assemble [] [] (Token.tokens (stripComments t)) <;> simp

/-- A text fails as the assembly of its tokens does, its comments not counted in the
position. -/
theorem parse_eq_error_iff {t : Text} {e : ParseError} :
    parse t = .error e ↔ ∃ stop, assemble [] [] (Token.tokens (stripComments t)) = .error stop ∧
      stop.toError (stripComments t) = e := by
  unfold parse parseStripped
  cases assemble [] [] (Token.tokens (stripComments t)) <;> simp

end Template

end PromptTemplate
