/-
# PromptTemplate.Template.Group -- bracket groups

A group runs from a round or square bracket to the bracket that closes it.  Its
contents are not read as a template; only its white space is tidied: a run of white
space beside a round bracket or a colon goes, and any other run becomes one space.
-/
import PromptTemplate.Text.Space

set_option autoImplicit false

namespace PromptTemplate.Template

/-! ## White space in a group -/

/-- Round brackets and the colon absorb the white space beside them. -/
def absorbsSpace (c : Char) : Bool :=
  c == '(' || c == ')' || c == ':'

/-- The tidied text, given whether the last visible character absorbs the space behind
it and whether white space has been passed since. -/
def tidyFrom (absorbed passed : Bool) : Text → Text
  | [] => if passed && !absorbed then [' '] else []
  | c :: rest =>
    if Text.isSpace c then tidyFrom absorbed true rest
    else if absorbsSpace c then c :: tidyFrom true false rest
    else if passed && !absorbed then ' ' :: c :: tidyFrom false false rest
    else c :: tidyFrom false false rest

/-- The group with each run of white space beside a round bracket or a colon gone and
each other run one space. -/
def normalizeGroup (group : Text) : Text :=
  tidyFrom false false group

example : normalizeGroup "( high\t emphasis : 0.4 )".toList = "(high emphasis:0.4)".toList := by
  decide

/-! ## Where a group ends -/

/-- How the search for the end of a group ends: with the text behind the closing
bracket, with the text from a bracket that does not match, or at the end of the text. -/
inductive GroupEnd where
  | closed (rest : Text)
  | mismatched (start : Text)
  | unclosed
deriving DecidableEq

def closerOf? (c : Char) : Option Char :=
  if c = '(' then some ')' else if c = '[' then some ']' else none

/-- The text up to the bracket that closes the last of the awaited closers, and how the
search ends. -/
def splitGroup (awaited : List Char) : Text → Text × GroupEnd
  | [] => ([], .unclosed)
  | c :: rest =>
    match closerOf? c with
    | some closer => ((splitGroup (closer :: awaited) rest).map (c :: ·) id)
    | none =>
      if c = ')' ∨ c = ']' then
        match awaited with
        | [] => ([], .mismatched (c :: rest))
        | closer :: outer =>
          if c ≠ closer then ([], .mismatched (c :: rest))
          else if outer.isEmpty then ([c], .closed rest)
          else (splitGroup outer rest).map (c :: ·) id
      else (splitGroup awaited rest).map (c :: ·) id

/-- What is left behind a group is the end of the text. -/
theorem suffix_of_closed {awaited : List Char} {t rest : Text}
    (closed : (splitGroup awaited t).2 = .closed rest) : rest <:+ t := by
  induction t generalizing awaited with
  | nil => cases closed
  | cons c t ih =>
    unfold splitGroup at closed
    split at closed
    · exact (ih closed).trans (List.suffix_cons c t)
    · split at closed
      · split at closed
        · cases closed
        · split at closed
          · cases closed
          · split at closed
            · exact GroupEnd.closed.inj closed ▸ List.suffix_cons c t
            · exact (ih closed).trans (List.suffix_cons c t)
      · exact (ih closed).trans (List.suffix_cons c t)

end PromptTemplate.Template
