import SchemaTypes.Script.Layout
import SchemaTypes.Config
set_option autoImplicit false

/-!
The helper types that every set of declarations starts with: `Repeatable`, the element type that
may carry namespace declarations, and the document type with its optional XML declaration. The
attribute prefix of the configuration appears in their keys; in the template literal type of the
namespace declarations it is escaped for a template: backslashes first, then backquotes, then the
start of a substitution.
-/

namespace SchemaTypes.Script

def elementTypeName : String := "XmlElement"

def documentTypeName : String := "XmlDocument"

def escapeBackslash : List Char → List Char
  | [] => []
  | '\\' :: r => '\\' :: '\\' :: escapeBackslash r
  | c :: r => c :: escapeBackslash r

def escapeBackquote : List Char → List Char
  | [] => []
  | c :: r => if c = '\x60' then '\\' :: c :: escapeBackquote r else c :: escapeBackquote r

def escapeSubstitution : List Char → List Char
  | [] => []
  | '$' :: '\x7b' :: r => '\\' :: '$' :: '\x7b' :: escapeSubstitution r
  | c :: r => c :: escapeSubstitution r

def templateText (cs : List Char) : List Char :=
  escapeSubstitution (escapeBackquote (escapeBackslash cs))

/-- The key of an attribute property: the string literal of the prefixed name. -/
def attributeKey (config : Config) (name : String) : String :=
  stringLiteral (config.attributePrefix ++ name)

/-- The index signature of namespace declarations with a prefix. -/
def namespaceSignature (config : Config) : String :=
  "  [xmlns: \x60" ++ String.ofList (templateText (config.attributePrefix ++ "xmlns:").toList) ++
    "$\x7bstring\x7d\x60]: string;\n"

/-- The helper types, as text. -/
def preamble (config : Config) : String :=
  let prolog := String.join (["version", "encoding", "standalone"].map fun name =>
    field 2 (attributeKey config name) true "string")
  "/** One or more occurrences; a single occurrence is not wrapped in an array. */\n" ++
  "export type " ++ repeatableName ++ "<T> = T | T[];\n\n" ++
  "/** Namespace declarations the parser may report on any element. */\n" ++
  "export type " ++ elementTypeName ++ " = \x7b\n" ++
  field 1 (attributeKey config "xmlns") true "string" ++
  namespaceSignature config ++
  "\x7d;\n\n" ++
  "/** A parsed document, including its optional XML declaration. */\n" ++
  "export type " ++ documentTypeName ++ " = \x7b\n" ++
  field 1 "?xml" true (record prolog 1) ++
  "\x7d;\n"

end SchemaTypes.Script
