/-
# PromptTemplate.Random.Source -- where random words come from

A word source is a value that gives words of 32 and of 64 bits, each with the source
that is left.  It holds finitely many words: every word taken makes what remains
smaller, so a draw that refuses words ends.

A script is a list of 64-bit words to be given out once.  A 32-bit word is the low
half of the next of them.
-/
set_option autoImplicit false

namespace PromptTemplate

class WordSource (σ : Type) where
  next32 : σ → Option (UInt32 × σ)
  next64 : σ → Option (UInt64 × σ)
  /-- No more words than this can be taken. -/
  remaining : σ → Nat
  remaining_next32 : ∀ {s rest : σ} {w : UInt32}, next32 s = some (w, rest) →
    remaining rest < remaining s
  remaining_next64 : ∀ {s rest : σ} {w : UInt64}, next64 s = some (w, rest) →
    remaining rest < remaining s

/-- Words to be given out in order, and the number of those given out. -/
structure Script where
  words : List UInt64
  used : Nat

namespace Script

def ofWords (words : List UInt64) : Script :=
  ⟨words, 0⟩

def next (s : Script) : Option (UInt64 × Script) :=
  match s.words with
  | [] => none
  | w :: rest => some (w, ⟨rest, s.used + 1⟩)

theorem length_of_next {s rest : Script} {w : UInt64} (taken : s.next = some (w, rest)) :
    rest.words.length < s.words.length := by
  unfold next at taken
  split at taken
  · simp at taken
  · rename_i shape
    simp only [Option.some.injEq, Prod.mk.injEq] at taken
    rw [← taken.2, shape]
    exact Nat.lt_succ_self _

instance : WordSource Script where
  next32 s := s.next.map fun taken => (taken.1.toUInt32, taken.2)
  next64 s := s.next
  remaining s := s.words.length
  remaining_next32 taken := by
    simp only [Option.map_eq_some_iff, Prod.mk.injEq, Prod.exists] at taken
    obtain ⟨_, _, inner, _, rfl⟩ := taken
    exact length_of_next inner
  remaining_next64 taken := length_of_next taken

end Script

end PromptTemplate
