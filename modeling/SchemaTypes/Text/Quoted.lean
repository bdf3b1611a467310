import SchemaTypes.Unicode.GraphemeExtend
import SchemaTypes.Unicode.Unprintable
set_option autoImplicit false

/-!
The quoted form of a text inside a message: the text between double quotes, with the quote, the
backslash, the tab, the line feed, the carriage return and the NUL character written as backslash
escapes, and every mark that extends a grapheme or character that does not print written as
`\u{hex}` with its code point in lowercase hexadecimal.
-/

namespace SchemaTypes.Text

open SchemaTypes.Unicode

def hexDigits (n : Nat) : List Char := Nat.toDigits 16 n

def unicodeEscape (c : Char) : List Char :=
  ['\\', 'u', '\x7b'] ++ hexDigits c.toNat ++ ['\x7d']

def quoteChar (c : Char) : List Char :=
  match c with
  | '\x00' => ['\\', '0']
  | '\t' => ['\\', 't']
  | '\r' => ['\\', 'r']
  | '\n' => ['\\', 'n']
  | '\\' => ['\\', '\\']
  | '"' => ['\\', '"']
  | _ => if isGraphemeExtend c || isUnprintable c then unicodeEscape c else [c]

/-- The quoted form of a text. -/
def quote (s : String) : String :=
  String.ofList ('"' :: s.toList.flatMap quoteChar ++ ['"'])

end SchemaTypes.Text
