import SchemaTypes.Script.Literal
import SchemaTypes.Text.Blank
import SchemaTypes.Text.Lines
set_option autoImplicit false

/-!
The layout of declarations: indentation, doc comments, property lines, object types, repeatable
types and type aliases. Doc comment lines write every `*/` of their text as `*\/`, so that text
cannot end the comment early.
-/

namespace SchemaTypes.Script

open SchemaTypes.Text

def indent (depth : Nat) : String := String.ofList (List.replicate (2 * depth) ' ')

def escapeCommentEnd : List Char → List Char
  | '*' :: '/' :: r => '*' :: '\\' :: '/' :: escapeCommentEnd r
  | c :: r => c :: escapeCommentEnd r
  | [] => []

def docLine (text : String) : String :=
  match dropBlankEnd text.toList with
  | [] => " *"
  | cs => " * " ++ String.ofList (escapeCommentEnd cs)

/-- A doc comment around a body at a depth: the opening line, each line of the body, and the
closing line, all indented. -/
def docComment (body : String) (depth : Nat) : String :=
  let pad := indent depth
  pad ++ "/**\n" ++ String.join ((lines body).map fun line => pad ++ line ++ "\n") ++ pad ++ " */\n"

/-- A property line at a depth. A name that is already a string literal is kept; any other becomes
a property key. -/
def field (depth : Nat) (name : String) (optional : Bool) (type : String) : String :=
  let key := if name.toList.head? = some '"' then name else propertyName name
  indent depth ++ key ++ (if optional then "?" else "") ++ ": " ++ type ++ ";\n"

def absentType : String := "undefined"

/-- A property that must be absent, which keeps the arms of a choice apart. -/
def absentField (depth : Nat) (name : String) : String := field depth name true absentType

/-- An object type around property lines, its closing brace at a depth; `{}` when there are
none. -/
def record (fields : String) (depth : Nat) : String :=
  if fields.isEmpty then "\x7b\x7d" else "\x7b\n" ++ fields ++ indent depth ++ "\x7d"

def repeatableName : String := "Repeatable"

def repeatable (type : String) : String := repeatableName ++ "<" ++ type ++ ">"

/-- An exported type alias. -/
def declaration (identifier expr : String) : String :=
  "export type " ++ identifier ++ " = " ++ expr ++ ";"

end SchemaTypes.Script
