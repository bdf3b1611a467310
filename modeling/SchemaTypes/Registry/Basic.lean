import SchemaTypes.Registry.Schema
import SchemaTypes.Location.Basic
set_option autoImplicit false

/-!
The registry of every schema read so far, keyed by target namespace in the order the namespaces
were first met, together with the locations already read and the namespace each targets. Reading
only registers declarations; references between them are looked up when rendering, through the
lookups of `Registry.renderEnv`.
-/

namespace SchemaTypes

open SchemaTypes.Component SchemaTypes.Location SchemaTypes.Registry SchemaTypes.Script

/-- The schemas read so far and the locations they were read from. -/
structure Registry where
  config : Config
  schemas : Table Schema
  loaded : List (LocationKey × String) := []

namespace Registry

/-- A registry holding only the built-in schemas. -/
def new (config : Config) : Registry :=
  { config, schemas := builtinSchemas.foldl (fun t s => t.insert s.targetNamespace s) {} }

def naming (r : Registry) : NamingPolicy := ⟨r.config.stripPrefixes⟩

def schema? (r : Registry) (ns : String) : Option Schema := r.schemas.get? ns

/-- The registry with a schema for a namespace, an empty one if there was none. -/
def ensureSchema (r : Registry) (ns : String) : Registry :=
  if r.schemas.contains ns then r else { r with schemas := r.schemas.insert ns (.empty ns) }

def entry (r : Registry) (ns : String) : Schema := (r.schema? ns).getD (.empty ns)

def modifySchema (r : Registry) (ns : String) (f : Schema → Schema) : Registry :=
  { r with schemas := r.schemas.modify ns f }

def loadedNamespace? (r : Registry) (k : LocationKey) : Option String := r.loaded.lookup k

def recordLoaded (r : Registry) (k : LocationKey) (ns : String) : Registry :=
  { r with loaded := (r.loaded.filter (·.1 != k)) ++ [(k, ns)] }

def typeDefinition? (r : Registry) (q : QName) : Option TypeDefinition :=
  (r.schema? q.ns).bind (·.types.get? q.localName)

def element? (r : Registry) (q : QName) : Option ElementDecl :=
  (r.schema? q.ns).bind (·.elements.get? q.localName)

def attribute? (r : Registry) (q : QName) : Option AttributeDecl :=
  (r.schema? q.ns).bind (·.attributes.get? q.localName)

def typeIdentifier? (r : Registry) (q : QName) : Option String :=
  (r.typeDefinition? q).map (·.identifier r.naming)

def elementCount (r : Registry) : Nat :=
  (r.schemas.values.map (·.elements.size)).foldl (· + ·) 0

/-- What rendering looks up in this registry. -/
def renderEnv (r : Registry) : RenderEnv where
  config := r.config
  naming := r.naming
  typeIdentifier? := r.typeIdentifier?
  element? := r.element?
  attribute? := r.attribute?
  elementCount := r.elementCount

/-- The declarations of all schemas after the helper types: each schema's block, leaving out
empty ones, an empty line between blocks and a line end at the end. -/
def render (r : Registry) : Except SchemaError String := do
  let env := r.renderEnv
  let blocks ← r.schemas.values.mapM (·.render env)
  return "\n\n".intercalate (Text.trimEnd (preamble r.config) :: blocks.filter (· ≠ "")) ++ "\n"

def namespaces (r : Registry) : List String := r.schemas.keys

end Registry

end SchemaTypes
