import SchemaTypes.Component.Facets
set_option autoImplicit false

/-!
The components of a schema, reduced to what describes the parsed trees: type references, simple
types, attribute declarations and uses, element declarations with their types, complex types as
attribute uses and alternative content models, and particles. A type reference keeps the qualified
name it resolved to; it is looked up only when rendering, so it may name a type declared later or
in another document.
-/

namespace SchemaTypes.Component

def xsNamespace : String := "http://www.w3.org/2001/XMLSchema"

def dsNamespace : String := "http://www.w3.org/2000/09/xmldsig#"

/-- A reference to a named type, with the qualified name it resolved to, if any. -/
structure TypeRef where
  target : Option QName
  written : String
  deriving Repr, DecidableEq, Inhabited

def TypeRef.ofQName (q : QName) : TypeRef := ⟨some q, q.display⟩

def TypeRef.anyType : TypeRef := .ofQName ⟨xsNamespace, "anyType"⟩

def TypeRef.anySimpleType : TypeRef := .ofQName ⟨xsNamespace, "anySimpleType"⟩

/-- A simple type: a restriction of a base type with facets. Anonymous types take the name of the
declaration that holds them. -/
structure SimpleType where
  name : String
  base : TypeRef
  facets : Facets
  annotations : Option Annotations
  deriving Repr, DecidableEq, Inhabited

/-- The type of an attribute: named, or a simple type of its own. -/
inductive AttributeType where
  | named (r : TypeRef)
  | simple (t : SimpleType)
  deriving Repr, DecidableEq, Inhabited

/-- An attribute declaration with the `use` and `fixed` of its place. -/
structure AttributeDecl where
  name : String
  type : Option AttributeType
  required : Bool
  fixed : Option String
  annotations : Option Annotations
  deriving Repr, DecidableEq, Inhabited

/-- An attribute of a complex type: declared in place, or a reference to a top-level
declaration. -/
inductive AttributeUse where
  | decl (d : AttributeDecl)
  | ref (target : QName) (required : Bool) (fixed : Option String)
  deriving Repr, DecidableEq, Inhabited

def AttributeUse.isRequired : AttributeUse → Bool
  | .decl d => d.required
  | .ref _ r _ => r

mutual

/-- An element declaration: name, type, occurrence and documentation. -/
inductive ElementDecl where
  | mk (name : String) (type : ElementType) (occurs : Occurs) (annotations : Option Annotations)

/-- The type of an element: named, or a complex or simple type of its own. -/
inductive ElementType where
  | named (r : TypeRef)
  | complex (t : ComplexType)
  | simple (t : SimpleType)

/-- A complex type: the base it extends or restricts, the type of its text, its attribute uses,
and its alternative content models, each a list of particles. -/
inductive ComplexType where
  | mk (name : String) (base : Option TypeRef) (text : Option TypeRef)
      (attributes : List AttributeUse) (variants : List (List Particle))
      (annotations : Option Annotations)

/-- A member of a content model: an element declared in place, or a reference to a top-level
element with the occurrence of its place. -/
inductive Particle where
  | element (e : ElementDecl)
  | ref (target : QName) (occurs : Occurs)

end

instance : Inhabited ElementDecl := ⟨.mk "" (.named default) ⟨0, .unbounded⟩ none⟩

namespace ElementDecl

def name : ElementDecl → String
  | mk n _ _ _ => n

def occurs : ElementDecl → Occurs
  | mk _ _ o _ => o

def annotations : ElementDecl → Option Annotations
  | mk _ _ _ a => a

def type : ElementDecl → ElementType
  | mk _ t _ _ => t

end ElementDecl

namespace ComplexType

def name : ComplexType → String
  | mk n .. => n

def annotations : ComplexType → Option Annotations
  | mk _ _ _ _ _ a => a

end ComplexType

/-- The name under which a particle appears in the parsed tree. -/
def Particle.fieldName : Particle → String
  | .element e => e.name
  | .ref q _ => q.localName

def Occurs.fold (own group : Occurs) : Occurs :=
  ⟨if group.min == 0 then 0 else own.min,
   if group.max.isRepeatable then .unbounded else own.max⟩

/-- A particle with the occurrence of an enclosing group applied. -/
def Particle.foldOccurs (group : Occurs) : Particle → Particle
  | .element (.mk n t o a) => .element (.mk n t (o.fold group) a)
  | .ref q o => .ref q (o.fold group)

/-- A type definition: built in, or a simple or complex type. A built-in type stands for a fixed
type expression and has an identifier with a mark of its namespace in front. -/
inductive TypeDefinition where
  | builtin (name expression mark : String)
  | simple (t : SimpleType)
  | complex (t : ComplexType)

def TypeDefinition.name : TypeDefinition → String
  | .builtin n _ _ => n
  | .simple t => t.name
  | .complex t => t.name

end SchemaTypes.Component
