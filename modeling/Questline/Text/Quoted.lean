import Questline.Text.CharClass

/-!
# Quoted texts

Two ways to put a text between quotes.  `quoteAscii` is the form of data files
kept within ASCII: two-character escapes where there is one, otherwise the
UTF-16 units in base sixteen.  `quoteLiteral` is the form in which a text is
shown inside a listing: single quotes unless only those occur in it, and
characters that cannot be shown escaped by their code point.
-/

namespace Questline.Text

def hexDigit (n : Nat) : Char := (Nat.digitChar (n % 16))

/-- The last `width` digits of `n` in base sixteen. -/
def hexText : Nat → Nat → List Char
  | 0, _ => []
  | width + 1, n => hexText width (n / 16) ++ [hexDigit n]

def unitEscape (unit : Nat) : List Char := '\\' :: 'u' :: hexText 4 unit

/-- The UTF-16 units of a character, escaped. -/
def escapeUnits (n : Nat) : List Char :=
  if n < 0x10000 then unitEscape n
  else unitEscape (0xd800 + (n - 0x10000) / 0x400) ++ unitEscape (0xdc00 + (n - 0x10000) % 0x400)

def escapeAscii (c : Char) : List Char :=
  if c = '"' then ['\\', '"']
  else if c = '\\' then ['\\', '\\']
  else if c = '\n' then ['\\', 'n']
  else if c = '\r' then ['\\', 'r']
  else if c = '\t' then ['\\', 't']
  else if c.toNat = 8 then ['\\', 'b']
  else if c.toNat = 12 then ['\\', 'f']
  else if 32 ≤ c.toNat ∧ c.toNat < 127 then [c]
  else escapeUnits c.toNat

def quoteAsciiChars (cs : List Char) : List Char := '"' :: cs.flatMap escapeAscii ++ ['"']

def quoteAscii (s : String) : String := .ofList (quoteAsciiChars s.toList)

def escapeLiteral (quote c : Char) : List Char :=
  if c = quote ∨ c = '\\' then ['\\', c]
  else if c = '\n' then ['\\', 'n']
  else if c = '\r' then ['\\', 'r']
  else if c = '\t' then ['\\', 't']
  else if isPrintable c then [c]
  else if c.toNat < 0x100 then '\\' :: 'x' :: hexText 2 c.toNat
  else if c.toNat < 0x10000 then '\\' :: 'u' :: hexText 4 c.toNat
  else '\\' :: 'U' :: hexText 8 c.toNat

def literalQuote (cs : List Char) : Char :=
  if '\'' ∈ cs ∧ '"' ∉ cs then '"' else '\''

def quoteLiteral (s : String) : String :=
  let quote := literalQuote s.toList
  .ofList (quote :: s.toList.flatMap (escapeLiteral quote) ++ [quote])

end Questline.Text
