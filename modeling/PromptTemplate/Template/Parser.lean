/-
# PromptTemplate.Template.Parser -- from template text to template tree

A template text is stripped of its comments and cut into tokens.  The tokens are
read from left to right with the variants that are still open on a stack
(`assemble`), so variants nest.  What stands between the signs of variants is a
list of pieces, and `gather` makes of it the parts of a sequence: text between two
other pieces is one literal, its words joined by single spaces.

A divider or a closing brace outside every variant is a fault, and so is the end of
the text inside one; the innermost open variant is the one reported.  The first
fault in the order of the text is the one reported.
-/
import PromptTemplate.Template.Comment
import PromptTemplate.Template.Token
import PromptTemplate.Text.Joining

set_option autoImplicit false

namespace PromptTemplate.Template

/-! ## Pieces -/

/-- What a sequence is made of: text that belongs to one word with the text beside it,
white space, and templates. -/
inductive Piece where
  | text (t : Text)
  | gap
  | node (template : Template)

/-- What the pieces from some place on make: the rest of the word at that place, the
words behind it up to the next template, and the parts from that template on. -/
structure Gathered where
  word : Text
  words : List Text
  parts : List Template

namespace Gathered

def empty : Gathered :=
  ⟨[], [], []⟩

/-- All the words up to the next template. -/
def allWords (g : Gathered) : List Text :=
  if g.word.isEmpty then g.words else g.word :: g.words

/-- All the parts: the words make one literal, if there are any. -/
def allParts (g : Gathered) : List Template :=
  if g.allWords.isEmpty then g.parts
  else .literal (Text.joinAll [' '] g.allWords) :: g.parts

def add : Piece → Gathered → Gathered
  | .text t, g => { g with word := t ++ g.word }
  | .gap, g => { g with word := [], words := g.allWords }
  | .node template, g => ⟨[], [], template :: g.allParts⟩

end Gathered

def gather (pieces : List Piece) : List Template :=
  (pieces.foldr Gathered.add Gathered.empty).allParts

def ofPieces (pieces : List Piece) : Template :=
  .ofParts (gather pieces)

/-! ## Open variants -/

/-- A variant whose closing brace has not been read: the text from its opening brace
on, its bound and joiner, the options that are complete, the weight of the option
being read, and the pieces in front of the variant; options and pieces latest first. -/
structure OpenVariant where
  start : Text
  bound : Option Bound
  joiner : Text
  options : List (Weighted Template)
  weight : Binary64
  before : List Piece

namespace OpenVariant

/-- The options, latest first, when the option being read is made of the pieces, latest
first. -/
def endOption (v : OpenVariant) (pieces : List Piece) : List (Weighted Template) :=
  ⟨v.weight, ofPieces pieces.reverse⟩ :: v.options

/-- The variant when its last option is made of the pieces, latest first. -/
def close (v : OpenVariant) (pieces : List Piece) : Template :=
  .ofOptions (v.endOption pieces).reverse v.bound v.joiner

end OpenVariant

/-- The tree of the tokens, given the open variants, the innermost one first, and the
pieces read since the last sign of a variant, latest first. -/
def assemble (outer : List OpenVariant) (pieces : List Piece) :
    List Token → Except Stop Template
  | [] =>
    match outer with
    | [] => .ok (ofPieces pieces.reverse)
    | v :: _ => .error (.onward .unclosedVariant v.start)
  | .text t :: rest => assemble outer (.text t :: pieces) rest
  | .gap :: rest => assemble outer (.gap :: pieces) rest
  | .wildcard name :: rest => assemble outer (.node (.wildcard name) :: pieces) rest
  | .opening bound joiner weight start :: rest =>
    assemble (⟨start, bound, joiner, [], weight, pieces⟩ :: outer) [] rest
  | .divider weight start :: rest =>
    match outer with
    | [] => .error (.onward (.unexpectedCharacter '|') start)
    | v :: outer =>
      assemble ({ v with options := v.endOption pieces, weight } :: outer) [] rest
  | .closing start :: rest =>
    match outer with
    | [] => .error (.onward (.unexpectedCharacter '}') start)
    | v :: outer => assemble outer (.node (v.close pieces) :: v.before) rest
  | .fault stop :: _ => .error stop

/-! ## Texts -/

/-- The template that a text without comments writes. -/
def parseStripped (source : Text) : Except ParseError Template :=
  match assemble [] [] (Token.tokens source) with
  | .ok template => .ok template
  | .error stop => .error (stop.toError source)

/-- The template that a text writes: always a sequence with the default separator. -/
def parse (t : Text) : Except ParseError Template :=
  parseStripped (stripComments t)

/-! ## Every template text is a sequence -/

theorem exists_parts_of_assemble {outer : List OpenVariant} {pieces : List Piece}
    {tokens : List Token} {template : Template}
    (read : assemble outer pieces tokens = .ok template) :
    ∃ parts, template = .ofParts parts := by
  fun_induction assemble outer pieces tokens with
  | case1 pieces => exact ⟨_, (Except.ok.inj read).symm⟩
  | case2 => cases read
  | case3 _ _ _ _ ih => exact ih read
  | case4 _ _ _ ih => exact ih read
  | case5 _ _ _ _ ih => exact ih read
  | case6 _ _ _ _ _ _ _ ih => exact ih read
  | case7 => cases read
  | case8 _ _ _ _ _ _ ih => exact ih read
  | case9 => cases read
  | case10 _ _ _ _ _ ih => exact ih read
  | case11 => cases read

/-- What a text writes is a sequence with the default separator. -/
theorem exists_parts_of_parse {t : Text} {template : Template} (read : parse t = .ok template) :
    ∃ parts, template = .ofParts parts := by
  unfold parse parseStripped at read
  split at read
  · rename_i found
    obtain rfl := Except.ok.inj read
    exact exists_parts_of_assemble found
  · cases read

/-- Words are joined by one space, and a group is glued to the word it touches. -/
example : (match parse " two  words{a|}x( y ) ".toList with
    | .ok t => t.equals (.ofParts [.literal "two words".toList,
        .ofOptions [⟨.one, .ofParts [.literal ['a']]⟩, ⟨.one, .ofParts []⟩] none [','],
        .literal "x(y)".toList])
    | .error _ => false) = true := by
  decide +kernel

end PromptTemplate.Template
