set_option autoImplicit false

/-!
Literals of the declaration language: double-quoted string literals, numeric literals, unions of
literal types and property names. A string literal escapes the quote, the backslash and every
character below U+0020, so it reads back as the text it was written from.
-/

namespace SchemaTypes.Script

def hex4 (n : Nat) : List Char :=
  let ds := Nat.toDigits 16 n
  List.replicate (4 - ds.length) '0' ++ ds

def escapeChar (c : Char) : List Char :=
  match c with
  | '"' => ['\\', '"']
  | '\\' => ['\\', '\\']
  | '\n' => ['\\', 'n']
  | '\r' => ['\\', 'r']
  | '\t' => ['\\', 't']
  | _ => if c.toNat < 0x20 then '\\' :: 'u' :: hex4 c.toNat else [c]

def quoteChars (cs : List Char) : List Char := '"' :: cs.flatMap escapeChar ++ ['"']

/-- The string literal that denotes a text. -/
def stringLiteral (s : String) : String := String.ofList (quoteChars s.toList)

def isDigit (c : Char) : Bool := '0' ≤ c && c ≤ '9'

def isFractionOrEnd : List Char → Bool
  | [] => true
  | '.' :: r => !r.isEmpty && r.all isDigit
  | _ => false

def isUnsignedNumber : List Char → Bool
  | '0' :: r => isFractionOrEnd r
  | c :: r => isDigit c && isFractionOrEnd (r.dropWhile isDigit)
  | [] => false

def isNumericLiteral (s : String) : Bool :=
  match s.toList with
  | '-' :: r => isUnsignedNumber r
  | r => isUnsignedNumber r

def unionMembers (values : List String) : List String :=
  values.flatMap fun v => if isNumericLiteral v then [stringLiteral v, v] else [stringLiteral v]

/-- A union of literal types, its members joined by a bar. -/
def literalUnion (values : List String) : String := " | ".intercalate (unionMembers values)

def isNameStart (c : Char) : Bool :=
  ('A' ≤ c && c ≤ 'Z') || ('a' ≤ c && c ≤ 'z') || c == '_' || c == '$'

def isNamePart (c : Char) : Bool := isNameStart c || isDigit c

/-- Whether a text is a plain property name: a letter, `_` or `$`, then letters, digits, `_` or `$`,
all ASCII. -/
def isPlainName (s : String) : Bool :=
  match s.toList with
  | c :: r => isNameStart c && r.all isNamePart
  | [] => false

def propertyName (name : String) : String :=
  if isPlainName name then name else stringLiteral name

end SchemaTypes.Script
