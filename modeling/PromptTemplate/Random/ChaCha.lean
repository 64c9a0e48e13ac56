/-
# PromptTemplate.Random.ChaCha -- the seeded source

The words of a seed are the ChaCha stream of twelve rounds whose key is drawn from the
seed by a permuted congruential generator; the nonce is zero and the blocks are
counted from zero with 64 bits.  A 32-bit word is the next word of the stream; a
64-bit word is the next two, the first of them the low half.

A block is four rows of four words.  A round works on the four columns at once, so
it is written on whole rows; turning the rows lines the diagonals up as columns.
-/
import PromptTemplate.Random.Source

set_option autoImplicit false

namespace PromptTemplate.ChaCha

/-! ## Rows -/

structure Row where
  a : UInt32
  b : UInt32
  c : UInt32
  d : UInt32
deriving DecidableEq, Repr

namespace Row

def zipWith (f : UInt32 → UInt32 → UInt32) (x y : Row) : Row :=
  ⟨f x.a y.a, f x.b y.b, f x.c y.c, f x.d y.d⟩

/-- Every word turned left by so many bits. -/
def turnBits (n : UInt32) (x : Row) : Row :=
  let turn := fun (w : UInt32) => (w <<< n) ||| (w >>> (32 - n))
  ⟨turn x.a, turn x.b, turn x.c, turn x.d⟩

/-- The words moved one place to the left, the first to the end. -/
def turn (x : Row) : Row :=
  ⟨x.b, x.c, x.d, x.a⟩

def toList (x : Row) : List UInt32 :=
  [x.a, x.b, x.c, x.d]

end Row

/-! ## Blocks -/

structure Block where
  r0 : Row
  r1 : Row
  r2 : Row
  r3 : Row
deriving DecidableEq, Repr

namespace Block

def columnRound (x : Block) : Block :=
  let add := Row.zipWith (· + ·)
  let xor := Row.zipWith (· ^^^ ·)
  let a := add x.r0 x.r1
  let d := (xor x.r3 a).turnBits 16
  let c := add x.r2 d
  let b := (xor x.r1 c).turnBits 12
  let a := add a b
  let d := (xor d a).turnBits 8
  let c := add c d
  let b := (xor b c).turnBits 7
  ⟨a, b, c, d⟩

/-- A round on the columns and one on the diagonals. -/
def doubleRound (x : Block) : Block :=
  let y := columnRound x
  let z := columnRound ⟨y.r0, y.r1.turn, y.r2.turn.turn, y.r3.turn.turn.turn⟩
  ⟨z.r0, z.r1.turn.turn.turn, z.r2.turn.turn, z.r3.turn⟩

def doubleRounds : Nat → Block → Block
  | 0, x => x
  | n + 1, x => doubleRounds n x.doubleRound

def add (x y : Block) : Block :=
  let add := Row.zipWith (· + ·)
  ⟨add x.r0 y.r0, add x.r1 y.r1, add x.r2 y.r2, add x.r3 y.r3⟩

def toList (x : Block) : List UInt32 :=
  x.r0.toList ++ x.r1.toList ++ x.r2.toList ++ x.r3.toList

end Block

/-! ## Keys -/

structure Key where
  low : Row
  high : Row
deriving DecidableEq, Repr

/-- One step of the generator that draws keys. -/
def keyStep (state : UInt64) : UInt64 :=
  state * 6364136223846793005 + 11634580027462260723

/-- The word of a state of the generator: its high bits mixed, then turned right by its
five highest. -/
def keyWord (state : UInt64) : UInt32 :=
  let mixed := (((state >>> 18) ^^^ state) >>> 27).toUInt32
  let places := (state >>> 59).toUInt32
  (mixed >>> places) ||| (mixed <<< ((32 - places) % 32))

/-- Four words of the generator, and its state behind them. -/
def keyRow (state : UInt64) : Row × UInt64 :=
  let s1 := keyStep state
  let s2 := keyStep s1
  let s3 := keyStep s2
  let s4 := keyStep s3
  (⟨keyWord s1, keyWord s2, keyWord s3, keyWord s4⟩, s4)

def Key.ofSeed (seed : UInt64) : Key :=
  let (low, state) := keyRow seed
  ⟨low, (keyRow state).1⟩

/-! ## The stream -/

def initialBlock (key : Key) (counter : UInt64) : Block :=
  ⟨⟨0x61707865, 0x3320646e, 0x79622d32, 0x6b206574⟩, key.low, key.high,
    ⟨counter.toUInt32, (counter >>> 32).toUInt32, 0, 0⟩⟩

/-- A block of the stream: twelve rounds, added to the block they start from. -/
def streamBlock (key : Key) (counter : UInt64) : Block :=
  let start := initialBlock key counter
  (start.doubleRounds 6).add start

end ChaCha

/-- A place in the stream of a key: the words of the present block that are left, and
the number of the next block. -/
structure ChaCha where
  key : ChaCha.Key
  pending : List UInt32
  block : Nat

namespace ChaCha

def ofSeed (seed : UInt64) : ChaCha :=
  ⟨Key.ofSeed seed, [], 0⟩

/-- The stream has this many blocks, 2 to the power 64. -/
def blockCount : Nat := 0x10000000000000000

def remaining (s : ChaCha) : Nat :=
  s.pending.length + 16 * (blockCount - s.block)

def next32 (s : ChaCha) : Option (UInt32 × ChaCha) :=
  match s.pending with
  | w :: rest => some (w, ⟨s.key, rest, s.block⟩)
  | [] =>
    if s.block < blockCount then
      match (streamBlock s.key (UInt64.ofNat s.block)).toList with
      | w :: rest => some (w, ⟨s.key, rest, s.block + 1⟩)
      | [] => none
    else none

/-- The next two words of the stream, the first of them the low half. -/
def next64 (s : ChaCha) : Option (UInt64 × ChaCha) :=
  match s.next32 with
  | none => none
  | some (low, s) => s.next32.map fun (high, s) => (low.toUInt64 ||| (high.toUInt64 <<< 32), s)

theorem Block.length_toList (x : Block) : x.toList.length = 16 := rfl

/-- Every word that is taken brings the end of the stream nearer. -/
theorem remaining_of_next32 {s rest : ChaCha} {w : UInt32} (taken : s.next32 = some (w, rest)) :
    rest.remaining < s.remaining := by
  unfold next32 at taken
  split at taken
  · rename_i shape
    simp only [Option.some.injEq, Prod.mk.injEq] at taken
    rw [← taken.2]
    simp [remaining, shape]
  · rename_i shape
    split at taken
    · rename_i more
      split at taken
      · rename_i words
        have size := congrArg List.length words
        rw [Block.length_toList] at size
        simp only [List.length_cons] at size
        simp only [Option.some.injEq, Prod.mk.injEq] at taken
        rw [← taken.2]
        simp only [remaining, shape, List.length_nil]
        omega
      · simp at taken
    · simp at taken

theorem remaining_of_next64 {s rest : ChaCha} {w : UInt64} (taken : s.next64 = some (w, rest)) :
    rest.remaining < s.remaining := by
  unfold next64 at taken
  split at taken
  · simp at taken
  · rename_i first
    simp only [Option.map_eq_some_iff, Prod.mk.injEq, Prod.exists] at taken
    obtain ⟨_, _, second, _, rfl⟩ := taken
    exact Nat.lt_trans (remaining_of_next32 second) (remaining_of_next32 first)

instance : WordSource ChaCha where
  next32 := next32
  next64 := next64
  remaining := remaining
  remaining_next32 := remaining_of_next32
  remaining_next64 := remaining_of_next64

/-- The first 64-bit words of two seeds. -/
example : (ofSeed 0).next64.map (fun taken => taken.1) = some 13486662071293341567 ∧
    (ofSeed 42).next64.map (fun taken => taken.1) = some 9713269763989775522 := by
  decide +kernel

end ChaCha

end PromptTemplate
