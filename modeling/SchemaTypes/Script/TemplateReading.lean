import SchemaTypes.Script.LiteralReading
set_option autoImplicit false

/-!
Reading the text of a template literal, as the declaration language reads the text of a template
literal type: up to its first substitution `${` or its closing backquote. The text denotes its
characters, except that a carriage return, alone or before a line feed, denotes a line feed; a
backslash starts an escape, and a backslash before a line end continues the line and denotes
nothing. Escapes by code point in braces are not read.
-/

namespace SchemaTypes.Script

def isLineTerminator (c : Char) : Bool :=
  c == '\n' || c == '\r' || c == '\u2028' || c == '\u2029'

def templateEscape? (e : Char) : Option Char :=
  match e with
  | 'b' => some '\x08'
  | 't' => some '\t'
  | 'n' => some '\n'
  | 'v' => some '\x0b'
  | 'f' => some '\x0c'
  | 'r' => some '\r'
  | _ => if isDigit e || e == 'x' || e == 'u' || isLineTerminator e then none else some e

/-- Reads the text of a template up to its first substitution or its closing backquote. -/
def readTemplateText : List Char → Option (List Char × List Char)
  | [] => none
  | '\x60' :: r => some ([], '\x60' :: r)
  | '$' :: '\x7b' :: r => some ([], '$' :: '\x7b' :: r)
  | '\r' :: '\n' :: r => withFirst '\n' (readTemplateText r)
  | '\r' :: r => withFirst '\n' (readTemplateText r)
  | '\\' :: '\r' :: '\n' :: r => readTemplateText r
  | '\\' :: '0' :: r =>
    if r.head?.any isDigit then none else withFirst '\x00' (readTemplateText r)
  | '\\' :: 'x' :: a :: b :: r =>
    match hexValue? a, hexValue? b with
    | some x, some y => withFirst (Char.ofNat (x * 16 + y)) (readTemplateText r)
    | _, _ => none
  | '\\' :: 'u' :: a :: b :: c :: d :: r =>
    match hexChar? a b c d with
    | some x => withFirst x (readTemplateText r)
    | none => none
  | '\\' :: e :: r =>
    if isLineTerminator e then readTemplateText r
    else
      match templateEscape? e with
      | some x => withFirst x (readTemplateText r)
      | none => none
  | ['\\'] => none
  | c :: r => withFirst c (readTemplateText r)

end SchemaTypes.Script
