/-
# PromptTemplate.Text.Quoted -- texts quoted in messages

A message quotes a text between double quotes.  The quote, the backslash, the tab,
the line controls and the null character have short escapes; any other unprintable
character is written as its code point between braces, in lower-case hexadecimal
without leading zeros.  A single quote stands for itself.
-/
import PromptTemplate.Text.Numeral
import PromptTemplate.Text.Unprintable

set_option autoImplicit false

namespace PromptTemplate.Text

def quoteChar (c : Char) : Text :=
  if c = '"' then ['\\', '"']
  else if c = '\\' then ['\\', '\\']
  else if c = '\n' then ['\\', 'n']
  else if c = '\r' then ['\\', 'r']
  else if c = '\t' then ['\\', 't']
  else if c = '\x00' then ['\\', '0']
  else if isUnprintable c then ['\\', 'u', '{'] ++ hexOfNat c.toNat ++ ['}']
  else [c]

/-- The text between double quotes. -/
def quoted (t : Text) : Text :=
  ['"'] ++ t.flatMap quoteChar ++ ['"']

example : quoted ['a', '"', '\u00ad', 'é'] = "\"a\\\"\\u\x7bad\x7dé\"".toList := by
  decide +kernel

end PromptTemplate.Text
