/-
# PromptTemplate.Json.Printer -- writing JSON

A string escapes the quote, the backslash and the controls below the space, five of
them with a letter and the others as four hexadecimal digits; every other character
stands for itself.  A string without a text is written as one half of a surrogate
pair, which reads back as a string without a text.

The compact form has no white space.  The indented form has one item or member a
line, two spaces deeper than its bracket, and a space behind each colon; an empty
array or object stays on its line.
-/
import PromptTemplate.Json.Basic

set_option autoImplicit false

namespace PromptTemplate.Json

/-! ## Strings -/

/-- A control character as four hexadecimal digits. -/
def unitEscape (c : Char) : Text :=
  let hex := Text.hexOfNat c.toNat
  ['\\', 'u'] ++ List.replicate (4 - hex.length) '0' ++ hex

def escapeChar (c : Char) : Text :=
  if c = '"' then ['\\', '"']
  else if c = '\\' then ['\\', '\\']
  else if c = '\x08' then ['\\', 'b']
  else if c = '\x0c' then ['\\', 'f']
  else if c = '\n' then ['\\', 'n']
  else if c = '\r' then ['\\', 'r']
  else if c = '\t' then ['\\', 't']
  else if c < ' ' then unitEscape c
  else [c]

def quote : Option Text → Text
  | some t => ['"'] ++ t.flatMap escapeChar ++ ['"']
  | none => "\"\\ud800\"".toList

/-! ## The compact form -/

mutual

def compact : Json → Text
  | .null => "null".toList
  | .bool true => "true".toList
  | .bool false => "false".toList
  | .number written => written
  | .string text => quote text
  | .array items => ['['] ++ compactItems items ++ [']']
  | .object members => ['{'] ++ compactMembers members ++ ['}']

def compactItems : List Json → Text
  | [] => []
  | [item] => compact item
  | item :: next :: rest => compact item ++ [','] ++ compactItems (next :: rest)

def compactMembers : List (Option Text × Json) → Text
  | [] => []
  | [(key, item)] => quote key ++ [':'] ++ compact item
  | (key, item) :: next :: rest =>
    quote key ++ [':'] ++ compact item ++ [','] ++ compactMembers (next :: rest)

end

/-! ## The indented form -/

/-- A line end and the spaces of a depth. -/
def newline (depth : Nat) : Text :=
  '\n' :: List.replicate (2 * depth) ' '

mutual

/-- The indented form of a value that starts on a line of the given depth. -/
def indented (depth : Nat) : Json → Text
  | .null => "null".toList
  | .bool true => "true".toList
  | .bool false => "false".toList
  | .number written => written
  | .string text => quote text
  | .array [] => ['[', ']']
  | .array (item :: rest) =>
    ['['] ++ newline (depth + 1) ++ indented (depth + 1) item ++
      indentedItems (depth + 1) rest ++ newline depth ++ [']']
  | .object [] => ['{', '}']
  | .object ((key, item) :: rest) =>
    ['{'] ++ newline (depth + 1) ++ quote key ++ [':', ' '] ++ indented (depth + 1) item ++
      indentedMembers (depth + 1) rest ++ newline depth ++ ['}']

/-- The items behind the first, each on a line of the given depth. -/
def indentedItems (depth : Nat) : List Json → Text
  | [] => []
  | item :: rest =>
    [','] ++ newline depth ++ indented depth item ++ indentedItems depth rest

def indentedMembers (depth : Nat) : List (Option Text × Json) → Text
  | [] => []
  | (key, item) :: rest =>
    [','] ++ newline depth ++ quote key ++ [':', ' '] ++ indented depth item ++
      indentedMembers depth rest

end

/-- The indented form of a whole document. -/
def pretty (value : Json) : Text :=
  indented 0 value

end PromptTemplate.Json
