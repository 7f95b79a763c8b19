/-
**Quoted text.**

A text inside a message stands between single quotes, or between double quotes when it holds
single ones and no double ones. Backslashes and the quote are escaped, as are characters that are
not shown.
-/

import GrokEvents.Text.Printable

namespace GrokEvents.Text

/-- The quote to put around a text. -/
def quoteFor (text : Text) : Char :=
  if text.contains '\x27' && !text.contains '"' then '"' else '\x27'

/-- A character inside a quoted text. -/
def quotedChar (quote char : Char) : Text :=
  if char = quote || char = '\\' then ['\\', char]
  else if char = '\t' then ['\\', 't']
  else if char = '\n' then ['\\', 'n']
  else if char = '\r' then ['\\', 'r']
  else if isPrintable char then [char]
  else if char.toNat < 256 then '\\' :: 'x' :: hexadecimal 2 char.toNat
  else if char.toNat < 65536 then '\\' :: 'u' :: hexadecimal 4 char.toNat
  else '\\' :: 'U' :: hexadecimal 8 char.toNat

/-- A text in quotes. -/
def quoted (text : Text) : Text :=
  let quote := quoteFor text
  quote :: text.flatMap (quotedChar quote) ++ [quote]

end GrokEvents.Text
