import SchemaTypes.Component.Declaration
import SchemaTypes.Script.Preamble
import SchemaTypes.Script.Naming
set_option autoImplicit false

/-!
Rendering components as type declarations. Named types are looked up when rendering and render as
their identifier, or `unknown` when nothing is registered under the name. An element becomes a
property, optional when it may be absent and `Repeatable` when it may repeat; an attribute becomes a
property under the attribute prefix. A complex type is the intersection of its base (or the element
type), a record of its text and attributes, and its content: one record for a single alternative,
or a union of records for several, where each record marks the properties of the other
alternatives as absent.

An element reference renders the referenced declaration with the occurrence of its place. The
references met while rendering one property are rendered by a function passed down, which
`referenceField` builds with a bound on how deeply references nest.
-/

namespace SchemaTypes.Component

open SchemaTypes.Script

/-- What rendering looks up: the configuration, the naming of identifiers, the identifiers of
registered types, and the registered elements and attributes. -/
structure RenderEnv where
  config : Config
  naming : NamingPolicy
  typeIdentifier? : QName → Option String
  element? : QName → Option ElementDecl
  attribute? : QName → Option AttributeDecl
  elementCount : Nat

def unknownType : String := "unknown"

def looseScalarType : String := "string | number"

/-- The type expression of a type reference. -/
def TypeRef.render (env : RenderEnv) (r : TypeRef) : String :=
  (r.target.bind env.typeIdentifier?).getD unknownType

/-- The type expression of a simple type: its enumerated values, or else its base. -/
def SimpleType.renderExpr (env : RenderEnv) (t : SimpleType) : String :=
  if t.facets.enumeration.isEmpty then t.base.render env
  else literalUnion (t.facets.enumeration.map (·.value))

def EnumerationValue.docEntry (v : EnumerationValue) : String :=
  match v.annotations with
  | some a => docLine ("- " ++ stringLiteral v.value ++ ": " ++ a.summary)
  | none => docLine ("- " ++ stringLiteral v.value)

/-- The doc comment body of a simple type: its documentation, its documented values, its facets;
sections apart by an empty line. -/
def SimpleType.renderDoc (t : SimpleType) : Option String :=
  let own := t.annotations.map (·.renderDoc)
  let values :=
    if t.facets.enumeration.any (·.annotations.isSome) then
      some ("\n".intercalate (docLine "Possible values:" :: t.facets.enumeration.map (·.docEntry)))
    else none
  let facets :=
    match t.facets.describe with
    | [] => none
    | ls => some ("\n".intercalate (ls.map docLine))
  match own.toList ++ values.toList ++ facets.toList with
  | [] => none
  | sections => some (("\n" ++ docLine "" ++ "\n").intercalate sections)

def docFor (a : Option Annotations) (depth : Nat) : String :=
  (a.map fun a => docComment a.renderDoc depth).getD ""

/-- An attribute as a property, required or not, with a fixed value if one is given; a fixed
value overrides the declared type. -/
def AttributeDecl.fieldWith (env : RenderEnv) (d : AttributeDecl) (depth : Nat) (required : Bool)
    (fixed : Option String) : String :=
  let type :=
    match fixed, d.type with
    | some f, _ => literalUnion [f]
    | none, some (.named r) => r.render env
    | none, some (.simple t) => t.renderExpr env
    | none, none => looseScalarType
  docFor d.annotations depth ++
    field depth (env.config.attributePrefix ++ d.name) (!required) type

/-- An attribute use as a property; a reference takes the use's requirement, and its fixed value
or else the declaration's. -/
def AttributeUse.renderField (env : RenderEnv) (depth : Nat) : AttributeUse → Except SchemaError String
  | .decl d => .ok (d.fieldWith env depth d.required d.fixed)
  | .ref q required fixed =>
    match env.attribute? q with
    | some target => .ok (target.fieldWith env depth required (fixed.or target.fixed))
    | none => .error (.unresolvedAttribute q)

def renderAttributeUses (env : RenderEnv) (depth : Nat) :
    List AttributeUse → Except SchemaError String
  | [] => .ok ""
  | a :: rest => do
    let f ← a.renderField env depth
    return f ++ (← renderAttributeUses env depth rest)

abbrev ReferenceField := QName → Occurs → Nat → Except SchemaError String

def absentNames (own : List String) (others : List String) : List String :=
  (others.foldl (fun (seen, acc) n => if seen.contains n then (seen, acc) else (seen ++ [n], acc ++ [n]))
    (own, [])).2

def othersOf {α : Type} (xs : List α) (i : Nat) : List α :=
  xs.eraseIdx i

/-- The content members of a complex type, from its alternatives and their rendered properties:
nothing for none, one record for one, and a union of records for several. -/
def variantMembers (depth : Nat) (variants : List (List Particle)) (fields : List String) :
    List String :=
  match variants, fields with
  | [], _ => []
  | [_], [f] => if f.isEmpty then [] else [record f depth]
  | _, _ =>
    let names := variants.map (·.map Particle.fieldName)
    let arms := (List.range fields.length).zip fields |>.map fun (i, f) =>
      let absent := absentNames (names.getD i []) (othersOf names i).flatten
      record (f ++ String.join (absent.map (absentField (depth + 1)))) depth
    ["(" ++ " | ".intercalate arms ++ ")"]

mutual

/-- An element as a property with the occurrence of its place; its documentation comes first when
asked for. -/
def ElementDecl.fieldWith (env : RenderEnv) (refs : ReferenceField) (depth : Nat) (occurs : Occurs)
    (withDoc : Bool) : ElementDecl → Except SchemaError String
  | .mk name type _ annotations => do
    let t ← ElementType.renderExpr env refs depth type
    let t := if occurs.max.isRepeatable then repeatable t else t
    let doc := if withDoc then docFor annotations depth else ""
    return doc ++ field depth name (occurs.min == 0) t

/-- The type expression of an element's type. -/
def ElementType.renderExpr (env : RenderEnv) (refs : ReferenceField) (depth : Nat) :
    ElementType → Except SchemaError String
  | .named r => .ok (r.render env)
  | .complex t => ComplexType.renderExpr env refs depth t
  | .simple t => .ok (t.renderExpr env)

/-- The type expression of a complex type, its records closing at a depth. -/
def ComplexType.renderExpr (env : RenderEnv) (refs : ReferenceField) (depth : Nat) :
    ComplexType → Except SchemaError String
  | .mk _ base text attributes variants _ => do
    let baseExpr := match base with
      | some b => b.render env
      | none => elementTypeName
    let textExpr := text.map (·.render env)
    let textField := match textExpr with
      | some t => field (depth + 1) env.config.textNodeName false t
      | none => ""
    let attrFields := textField ++ (← renderAttributeUses env (depth + 1) attributes)
    let fields ← renderVariants env refs (depth + 1) variants
    let members := [baseExpr] ++ (if attrFields.isEmpty then [] else [record attrFields depth]) ++
      variantMembers depth variants fields
    let expr := " & ".intercalate members
    return match textExpr with
      | some t => if attributes.any (·.isRequired) then expr else t ++ " | (" ++ expr ++ ")"
      | none => expr

def renderVariants (env : RenderEnv) (refs : ReferenceField) (depth : Nat) :
    List (List Particle) → Except SchemaError (List String)
  | [] => .ok []
  | v :: vs => do
    let f ← renderParticles env refs depth v
    return f :: (← renderVariants env refs depth vs)

def renderParticles (env : RenderEnv) (refs : ReferenceField) (depth : Nat) :
    List Particle → Except SchemaError String
  | [] => .ok ""
  | p :: ps => do
    let f ← Particle.renderField env refs depth p
    return f ++ (← renderParticles env refs depth ps)

/-- A particle as a property. -/
def Particle.renderField (env : RenderEnv) (refs : ReferenceField) (depth : Nat) :
    Particle → Except SchemaError String
  | .element e => ElementDecl.fieldWith env refs depth e.occurs true e
  | .ref q occurs => refs q occurs depth

end

/-- Renders element references that nest at most `fuel` deep; running out is reported as a cycle. -/
def referenceField (env : RenderEnv) : Nat → ReferenceField
  | 0 => fun q _ _ =>
    match env.element? q with
    | some _ => .error (.referenceCycle q)
    | none => .error (.unresolvedElement q)
  | fuel + 1 => fun q occurs depth =>
    match env.element? q with
    | some d => d.fieldWith env (referenceField env fuel) depth occurs true
    | none => .error (.unresolvedElement q)

def RenderEnv.references (env : RenderEnv) : ReferenceField := referenceField env (env.elementCount + 1)

def TypeDefinition.identifier (naming : NamingPolicy) : TypeDefinition → String
  | .builtin n _ mark => mark ++ naming.toIdentifier n
  | t => naming.toIdentifier t.name

/-- The declaration of a type definition. -/
def TypeDefinition.renderDeclaration (env : RenderEnv) (t : TypeDefinition) :
    Except SchemaError String :=
  match t with
  | .builtin _ expression _ => .ok (declaration (t.identifier env.naming) expression)
  | .simple s =>
    let doc := match s.renderDoc with
      | some body => docComment body 0
      | none => ""
    .ok (doc ++ declaration (t.identifier env.naming) (s.renderExpr env))
  | .complex c => do
    let expr ← ComplexType.renderExpr env env.references 0 c
    return docFor c.annotations 0 ++ declaration (t.identifier env.naming) expr

def ElementDecl.identifier (env : RenderEnv) (d : ElementDecl) : String :=
  env.naming.toIdentifier d.name ++ "Element"

/-- The declaration of a document whose root is an element; the documentation stands on the
declaration and not on the property. -/
def ElementDecl.renderDeclaration (env : RenderEnv) (d : ElementDecl) : Except SchemaError String := do
  let f ← ElementDecl.fieldWith env env.references 1 d.occurs false d
  return docFor d.annotations 0 ++
    declaration (d.identifier env) (documentTypeName ++ " & " ++ record f 0)

end SchemaTypes.Component
