/-
# PromptTemplate.Text.Space -- texts and their white space

A text is a list of characters.  Positions in a text are counted in bytes of its
UTF-8 form (`utf8Size`), so the position of a suffix is the size of the whole
less the size of the suffix.

White space is the Unicode property White_Space: the line and paragraph controls
U+0009 to U+000D, U+0085, U+2028 and U+2029, and the space separators.  The
information separators U+001C to U+001F, U+180E, U+200B and U+FEFF are not white
space.
-/
set_option autoImplicit false

namespace PromptTemplate

abbrev Text := List Char

namespace Text

/-- The bytes of the UTF-8 form. -/
def utf8Size : Text → Nat
  | [] => 0
  | c :: rest => c.utf8Size + utf8Size rest

@[simp] theorem utf8Size_append (s t : Text) : utf8Size (s ++ t) = utf8Size s + utf8Size t := by
  induction s with
  | nil => simp [utf8Size]
  | cons c s ih => simp [utf8Size, ih, Nat.add_assoc]

/-! ## White space -/

/-- The Unicode property White_Space. -/
def isSpace (c : Char) : Bool :=
  let n := c.toNat
  (0x9 ≤ n && n ≤ 0xD) || n == 0x20 || n == 0x85 || n == 0xA0 || n == 0x1680 ||
    (0x2000 ≤ n && n ≤ 0x200A) || n == 0x2028 || n == 0x2029 || n == 0x202F ||
    n == 0x205F || n == 0x3000

def trimStart (t : Text) : Text :=
  t.dropWhile isSpace

def trimEnd (t : Text) : Text :=
  (t.reverse.dropWhile isSpace).reverse

def trim (t : Text) : Text :=
  trimEnd (trimStart t)

/-- Text that starts with a visible character keeps its start. -/
theorem trimStart_cons_of_visible {c : Char} (t : Text) (visible : isSpace c = false) :
    trimStart (c :: t) = c :: t := by
  simp [trimStart, visible]

/-- A byte order mark and a zero width space are visible; a no-break space is not. -/
example : isSpace '\ufeff' = false ∧ isSpace '\u200b' = false ∧ isSpace '\u00a0' = true := by
  decide

end Text

end PromptTemplate
