/-
# PromptTemplate.Json.Reader -- reading JSON

Strict JSON: white space is the space, the tab and the two line ends; no comments,
no trailing commas, no leading zeros, no raw control character in a string, and
nothing but white space behind the value.

The readers take a text and give what they read with the text behind it.  Nested
values are read with fuel; a value nests no deeper than its text is long, so twice
the length always suffices.
-/
import PromptTemplate.Json.Basic

set_option autoImplicit false

namespace PromptTemplate.Json.Reader

/-- JSON's own white space. -/
def isBlank (c : Char) : Bool :=
  c == ' ' || c == '\n' || c == '\r' || c == '\t'

def skip (t : Text) : Text :=
  t.dropWhile isBlank

/-! ## Strings -/

/-- A part of a string: a character, or a 16-bit unit written as four hexadecimal
digits. -/
inductive Part where
  | char (c : Char)
  | unit (n : Nat)
deriving DecidableEq

/-- The character of a one-letter escape. -/
def escaped? (c : Char) : Option Char :=
  if c = '"' ∨ c = '\\' ∨ c = '/' then some c
  else if c = 'b' then some '\x08'
  else if c = 'f' then some '\x0c'
  else if c = 'n' then some '\n'
  else if c = 'r' then some '\r'
  else if c = 't' then some '\t'
  else none

def hexDigit? (c : Char) : Option Nat :=
  if '0' ≤ c ∧ c ≤ '9' then some (c.toNat - '0'.toNat)
  else if 'a' ≤ c ∧ c ≤ 'f' then some (c.toNat - 'a'.toNat + 10)
  else if 'A' ≤ c ∧ c ≤ 'F' then some (c.toNat - 'A'.toNat + 10)
  else none

def unit? (a b c d : Char) : Option Nat := do
  return (((← hexDigit? a) * 16 + (← hexDigit? b)) * 16 + (← hexDigit? c)) * 16 + (← hexDigit? d)

/-- The parts of a string up to its closing quote, and the text behind the quote. -/
def parts : Text → Option (List Part × Text)
  | [] => none
  | '"' :: rest => some ([], rest)
  | '\\' :: 'u' :: a :: b :: c :: d :: rest => do
    let n ← unit? a b c d
    let (more, rest) ← parts rest
    some (.unit n :: more, rest)
  | '\\' :: c :: rest => do
    let c ← escaped? c
    let (more, rest) ← parts rest
    some (.char c :: more, rest)
  | c :: rest =>
    if c < ' ' then none
    else do
      let (more, rest) ← parts rest
      some (.char c :: more, rest)

/-- The first half of a surrogate pair. -/
def isHighHalf (n : Nat) : Bool :=
  0xD800 ≤ n && n ≤ 0xDBFF

/-- The second half of a surrogate pair. -/
def isLowHalf (n : Nat) : Bool :=
  0xDC00 ≤ n && n ≤ 0xDFFF

/-- The text that the parts of a string write, unless half of a surrogate pair
stands alone. -/
def assemble : List Part → Option Text
  | [] => some []
  | .char c :: rest => (assemble rest).map (c :: ·)
  | .unit high :: .unit low :: rest =>
    if isHighHalf high ∧ isLowHalf low then
      (assemble rest).map (Char.ofNat (0x10000 + (high - 0xD800) * 0x400 + (low - 0xDC00)) :: ·)
    else if isHighHalf high ∨ isLowHalf high then none
    else (assemble (.unit low :: rest)).map (Char.ofNat high :: ·)
  | .unit n :: rest =>
    if isHighHalf n ∨ isLowHalf n then none
    else (assemble rest).map (Char.ofNat n :: ·)

/-- A string behind its opening quote. -/
def string (t : Text) : Option (Option Text × Text) :=
  (parts t).map fun (read, rest) => (assemble read, rest)

/-! ## Numbers -/

/-- One or more digits. -/
def digits (t : Text) : Option (Text × Text) :=
  let (read, rest) := t.span Text.isDigit
  if read.isEmpty then none else some (read, rest)

/-- The digits before the point: zero alone, or digits that do not start with zero. -/
def whole : Text → Option (Text × Text)
  | '0' :: rest => some (['0'], rest)
  | t => digits t

/-- A point and digits, if there is a point. -/
def fraction : Text → Option (Text × Text)
  | '.' :: rest => (digits rest).map fun (read, rest) => ('.' :: read, rest)
  | t => some ([], t)

def exponentSign : Text → Text × Text
  | '+' :: rest => (['+'], rest)
  | '-' :: rest => (['-'], rest)
  | t => ([], t)

def exponent : Text → Option (Text × Text)
  | c :: rest =>
    if c = 'e' ∨ c = 'E' then
      let (sign, rest) := exponentSign rest
      (digits rest).map fun (read, rest) => (c :: sign ++ read, rest)
    else some ([], c :: rest)
  | [] => some ([], [])

def unsigned (t : Text) : Option (Text × Text) := do
  let (a, t) ← whole t
  let (b, t) ← fraction t
  let (c, t) ← exponent t
  some (a ++ b ++ c, t)

/-- A number, as it is written. -/
def number : Text → Option (Text × Text)
  | '-' :: rest => (unsigned rest).map fun (read, rest) => ('-' :: read, rest)
  | t => unsigned t

/-! ## Values -/

mutual

/-- A value, behind white space. -/
def value : Nat → Text → Option (Json × Text)
  | 0, _ => none
  | fuel + 1, t =>
    match skip t with
    | 'n' :: 'u' :: 'l' :: 'l' :: rest => some (.null, rest)
    | 't' :: 'r' :: 'u' :: 'e' :: rest => some (.bool true, rest)
    | 'f' :: 'a' :: 'l' :: 's' :: 'e' :: rest => some (.bool false, rest)
    | '"' :: rest => (string rest).map fun (text, rest) => (.string text, rest)
    | '[' :: rest =>
      match skip rest with
      | ']' :: rest => some (.array [], rest)
      | rest => (items fuel rest).map fun (read, rest) => (.array read, rest)
    | '{' :: rest =>
      match skip rest with
      | '}' :: rest => some (.object [], rest)
      | rest => (members fuel rest).map fun (read, rest) => (.object read, rest)
    | rest => (number rest).map fun (read, rest) => (.number read, rest)

/-- One or more items, up to the bracket that closes the array. -/
def items : Nat → Text → Option (List Json × Text)
  | 0, _ => none
  | fuel + 1, t => do
    let (item, rest) ← value fuel t
    match skip rest with
    | ']' :: rest => some ([item], rest)
    | ',' :: rest => (items fuel rest).map fun (more, rest) => (item :: more, rest)
    | _ => none

/-- One or more members, up to the brace that closes the object. -/
def members : Nat → Text → Option (List (Option Text × Json) × Text)
  | 0, _ => none
  | fuel + 1, t =>
    match skip t with
    | '"' :: rest => do
      let (key, rest) ← string rest
      match skip rest with
      | ':' :: rest => do
        let (item, rest) ← value fuel rest
        match skip rest with
        | '}' :: rest => some ([(key, item)], rest)
        | ',' :: rest => (members fuel rest).map fun (more, rest) => ((key, item) :: more, rest)
        | _ => none
      | _ => none
    | _ => none

end

end Reader

/-- The value that the whole text writes. -/
def read? (t : Text) : Option Json :=
  match Reader.value (2 * t.length + 1) t with
  | some (value, rest) => if (Reader.skip rest).isEmpty then some value else none
  | none => none

end PromptTemplate.Json
