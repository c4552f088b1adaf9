/-
  SenderPolicy.Text.Quoted — a text as a message shows it, in quotes.

  Single quotes stand around it, or double ones when it holds a single quote and no double one.
  The quote and the backslash get a backslash; a character that cannot be shown becomes `\t`, `\n`,
  `\r` or its code point in hexadecimal.
-/

import SenderPolicy.Text.Hex
import SenderPolicy.Text.Printable

namespace SenderPolicy.Text

def escapeChar (quote c : Char) : List Char :=
  if c == quote || c == '\\' then ['\\', c]
  else if c == '\t' then ['\\', 't']
  else if c == '\n' then ['\\', 'n']
  else if c == '\r' then ['\\', 'r']
  else if isPrintable c then [c]
  else if c.toNat < 0x100 then '\\' :: 'x' :: hexFixed 2 c.toNat
  else if c.toNat < 0x10000 then '\\' :: 'u' :: hexFixed 4 c.toNat
  else '\\' :: 'U' :: hexFixed 8 c.toNat

def quoteFor (cs : List Char) : Char := if cs.contains '\'' && !cs.contains '"' then '"' else '\''

def quoted (s : String) : String :=
  let quote := quoteFor s.toList
  String.ofList (quote :: s.toList.flatMap (escapeChar quote) ++ [quote])

example : quoted "a\nb\\" = "'a\\nb\\\\'" := by decide
example : quoted "it's" = "\"it's\"" := by decide
example : quoted "\x00" = "'\\x00'" := by decide

end SenderPolicy.Text
