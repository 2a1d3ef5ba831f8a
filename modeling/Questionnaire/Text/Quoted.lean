import Questionnaire.Text.Printable

/-!
Texts in double quotes, as messages show them.

A quote, a backslash and the three common control characters are written with a backslash; any
other character that has no glyph of its own is written by its number, as in `\u{301}`.
-/

namespace Questionnaire.Text

/-- At least `width` hexadecimal digits of a number. -/
def hexDigits (upper : Bool) (width n : Nat) : List Char :=
  let digits := (Nat.toDigits 16 n).map fun c => if upper then c.toUpper else c
  List.replicate (width - digits.length) '0' ++ digits

/-- One character as it stands between double quotes. -/
def escapeChar (c : Char) : List Char :=
  if c = '\x00' then ['\\', '0']
  else if c = '\t' then ['\\', 't']
  else if c = '\r' then ['\\', 'r']
  else if c = '\n' then ['\\', 'n']
  else if c = '"' then ['\\', '"']
  else if c = '\\' then ['\\', '\\']
  else if isPrintable c then [c]
  else ['\\', 'u', '\x7b'] ++ hexDigits false 1 c.toNat ++ ['\x7d']

def quote (s : String) : String :=
  String.ofList ('"' :: (s.toList.flatMap escapeChar ++ ['"']))

end Questionnaire.Text
