import SchemaTypes.Table
import SchemaTypes.Component.Render
import SchemaTypes.Component.Resolver
import SchemaTypes.Xml.Node
set_option autoImplicit false

/-!
The schema of one target namespace, possibly put together from several documents: its element,
type and attribute declarations by local name, and the prefixes its documents bind. A later
declaration of a name replaces the earlier one in its place, and a later binding of a prefix
replaces the earlier one. Top-level attributes are only reached through references, so they are
never rendered on their own.
-/

namespace SchemaTypes.Registry

open SchemaTypes.Component SchemaTypes.Xml

/-- The declarations of one target namespace. -/
structure Schema where
  targetNamespace : String
  elements : Table ElementDecl := {}
  types : Table TypeDefinition := {}
  attributes : Table AttributeDecl := {}
  aliases : List (String × String) := []

namespace Schema

/-- The schema of a namespace with nothing declared. -/
def empty (ns : String) : Schema := { targetNamespace := ns }

def bindAlias (s : Schema) (b : String × String) : Schema :=
  { s with aliases := (s.aliases.filter (·.1 != b.1)) ++ [b] }

def bindAliases (s : Schema) (bindings : List Binding) : Schema :=
  bindings.foldl (fun s b => match b.name with
    | some p => s.bindAlias (p, b.uri)
    | none => s) s

def resolver (s : Schema) : Resolver := ⟨s.targetNamespace, s.aliases⟩

def addElement (s : Schema) (d : ElementDecl) : Schema :=
  { s with elements := s.elements.insert d.name d }

def addType (s : Schema) (t : TypeDefinition) : Schema :=
  { s with types := s.types.insert t.name t }

def addAttribute (s : Schema) (a : AttributeDecl) : Schema :=
  { s with attributes := s.attributes.insert a.name a }

end Schema

/-- A top-level declaration of a document, as it is registered: an element, a type or an
attribute. -/
inductive Declaration where
  | element (d : ElementDecl)
  | type (t : TypeDefinition)
  | attribute (a : AttributeDecl)

/-- The name a declaration is registered under. -/
def Declaration.name : Declaration → String
  | .element d => d.name
  | .type t => t.name
  | .attribute a => a.name

namespace Schema

/-- Registers a declaration in the table of its kind. -/
def register (s : Schema) : Declaration → Schema
  | .element d => s.addElement d
  | .type t => s.addType t
  | .attribute a => s.addAttribute a

/-- The declarations of the schema: every type, then every element, in registration order. -/
def render (env : RenderEnv) (s : Schema) : Except SchemaError String := do
  let types ← s.types.values.mapM (·.renderDeclaration env)
  let elements ← s.elements.values.mapM (·.renderDeclaration env)
  return "\n\n".intercalate (types ++ elements)

end Schema

def xsBuiltinTypes : List (String × String) := [
  ("anyType", "unknown"), ("anySimpleType", "string"), ("anyAtomicType", "string"),
  ("string", "string"), ("boolean", "boolean"), ("decimal", "number"), ("float", "number"),
  ("double", "number"), ("duration", "string"), ("dateTime", "string"), ("time", "string"),
  ("date", "string"), ("gYearMonth", "string"), ("gYear", "string"), ("gMonthDay", "string"),
  ("gDay", "string"), ("gMonth", "string"), ("hexBinary", "string"), ("base64Binary", "string"),
  ("anyURI", "string"), ("QName", "string"), ("NOTATION", "string"),
  ("normalizedString", "string"), ("token", "string"), ("language", "string"),
  ("NMTOKEN", "string"), ("NMTOKENS", "string"), ("Name", "string"), ("NCName", "string"),
  ("ID", "string"), ("IDREF", "string"), ("IDREFS", "string"), ("ENTITY", "string"),
  ("ENTITIES", "string"), ("integer", "number"), ("nonPositiveInteger", "number"),
  ("negativeInteger", "number"), ("long", "number"), ("int", "number"), ("short", "number"),
  ("byte", "number"), ("nonNegativeInteger", "number"), ("unsignedLong", "number"),
  ("unsignedInt", "number"), ("unsignedShort", "number"), ("unsignedByte", "number"),
  ("positiveInteger", "number"), ("yearMonthDuration", "string"), ("dayTimeDuration", "string"),
  ("dateTimeStamp", "string")]

def builtinSchema (ns mark : String) (types : List (String × String)) : Schema :=
  types.foldl (fun s (n, e) => s.addType (.builtin n e mark)) (Schema.empty ns)

def builtinSchemas : List Schema :=
  [builtinSchema xsNamespace "Xs" xsBuiltinTypes,
   builtinSchema dsNamespace "Ds" [("SignatureType", "unknown")]]

end SchemaTypes.Registry
