import SingleFile.Text
import SingleFile.Text.Printable

/-!
# Quoted text

How a text is shown inside messages and listings. It stands in single
quotes, or in double quotes when it holds a single quote and no double
one. A backslash and the quote in use are escaped, line feed, carriage
return and tab have short escapes, and every other unprintable character
is written by its code point in lower-case hexadecimal digits.
-/

namespace SingleFile

namespace Text

/-- A digit below sixteen. -/
private def hexDigit (n : Nat) : Char :=
  if n < 10 then Char.ofNat (48 + n) else Char.ofNat (87 + n)

/-- The last `width` hexadecimal digits of a number. -/
def hex : (width n : Nat) → Text
  | 0, _ => []
  | width + 1, n => hex width (n / 16) ++ [hexDigit (n % 16)]

/-- The quote a text is shown in. -/
def quoteOf (t : Text) : Char :=
  if t.contains '\'' && !t.contains '"' then '"' else '\''

/-- How one character is written between the given quotes. -/
def escaped (quote c : Char) : Text :=
  if c = quote ∨ c = '\\' then ['\\', c]
  else if c = '\n' then ['\\', 'n']
  else if c = '\r' then ['\\', 'r']
  else if c = '\t' then ['\\', 't']
  else if isPrintable c then [c]
  else if c.toNat < 0x100 then ['\\', 'x'] ++ hex 2 c.toNat
  else if c.toNat < 0x10000 then ['\\', 'u'] ++ hex 4 c.toNat
  else ['\\', 'U'] ++ hex 8 c.toNat

/-- The text in quotes. -/
def quoted (t : Text) : Text :=
  let quote := quoteOf t
  quote :: t.flatMap (escaped quote) ++ [quote]

end Text

/-- A text in quotes, as messages hold it. -/
def quoted (t : Text) : String := (Text.quoted t).toStr

end SingleFile
