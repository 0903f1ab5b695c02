import ClassSynthesis.Text.DefaultIgnorable
import ClassSynthesis.Text.GraphemeExtend
import ClassSynthesis.Text.Unprintable

/-!
# Quoted text

Text inside a rendered value stands between quotation marks. Quotation marks, backslashes and the
four usual control characters are escaped by a backslash and a letter. Marks that would be drawn on
the character before them, and characters without a visible form, are written by code point, so that
a reader sees every character of the text and none merges with a quotation mark.
-/

namespace ClassSynthesis.Text

/-- A code point in braces, in lower-case hexadecimal without leading zeros. -/
def codePointEscape (c : Char) : List Char :=
  ['\\', 'u', '\x7b'] ++ Nat.toDigits 16 c.toNat ++ ['\x7d']

/-- The character would not show by itself: it is drawn on the one before it, ignored in display, or
of a category without a visible form. -/
def isHidden (c : Char) : Bool := isAttachedMark c || isDefaultIgnorable c || isUnprintable c

/-- One character as it stands between quotation marks. -/
def quotedChar (c : Char) : List Char :=
  if c == '\x00' then ['\\', '0']
  else if c == '\t' then ['\\', 't']
  else if c == '\n' then ['\\', 'n']
  else if c == '\r' then ['\\', 'r']
  else if c == '"' then ['\\', '"']
  else if c == '\\' then ['\\', '\\']
  else if isHidden c then codePointEscape c
  else [c]

/-- The text between quotation marks, with every character escaped that needs it. -/
def quoted (text : String) : String :=
  String.ofList (['"'] ++ text.toList.flatMap quotedChar ++ ['"'])

end ClassSynthesis.Text
