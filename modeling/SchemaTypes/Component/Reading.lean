import SchemaTypes.Component.Resolver
import SchemaTypes.Xml.Height
set_option autoImplicit false

/-!
Reading the components of a schema from the elements of its documents. Elements are matched by
local name whatever their namespace, and attributes only when unprefixed. An element declaration
takes its type from a `complexType` child, else a `simpleType` child, else its `type` attribute,
else `xs:anyType`. A complex type takes its base and content from `complexContent` or
`simpleContent`; each `sequence` of its content is one alternative and each member of a `choice`
another. Groups occur once unless stated otherwise, elements any number of times.

Reading descends from an element to its children, so it ends by the height of the tree.
-/

namespace SchemaTypes.Component

open SchemaTypes.Xml

def elementOccurs : Occurs := ⟨0, .unbounded⟩

def groupOccurs : Occurs := ⟨1, .count 1⟩

/-- Reads a simple type; anonymous types take the name of the declaration that holds them. A
simple type without `restriction` (a list or a union) is taken as `xs:anySimpleType`. -/
def SimpleType.ofNode (r : Resolver) (n : Node) (name : String) : Except SchemaError SimpleType := do
  let annotations := Annotations.ofNode? n
  match n.childNamed? "restriction" with
  | none => return ⟨name, .anySimpleType, {}, annotations⟩
  | some restriction =>
    let base ← match restriction.attribute? "base" with
      | some b => do pure (TypeRef.ofQName (← r.structural b))
      | none => pure .anySimpleType
    let facets ← Facets.ofNode restriction
    return ⟨name, base, facets, annotations⟩

/-- Reads an attribute declaration. -/
def AttributeDecl.ofNode (r : Resolver) (n : Node) : Except SchemaError AttributeDecl := do
  let name ← requiredText n "attribute" "name"
  let type ← match n.childNamed? "simpleType" with
    | some st => do pure (some (.simple (← SimpleType.ofNode r st name)))
    | none => pure ((n.attribute? "type").map fun t => .named (r.typeRef t))
  return {
    name
    type
    required := n.attribute? "use" == some "required"
    fixed := n.attribute? "fixed"
    annotations := Annotations.ofNode? n }

def AttributeUse.ofNode? (r : Resolver) (n : Node) : Except SchemaError (Option AttributeUse) := do
  let use := n.attribute? "use"
  if use == some "prohibited" then return none
  match n.attribute? "ref" with
  | some target =>
    return some (.ref (← r.structural target) (use == some "required") (n.attribute? "fixed"))
  | none => return some (.decl (← AttributeDecl.ofNode r n))

/-- What a complex type derives from: the base it extends or restricts, the type of its text, and
the element that holds its attributes and content model, which is no higher than the type. -/
def derivationOf (r : Resolver) (ct : Node) :
    Except SchemaError (Option TypeRef × Option TypeRef × {c : Node // c.height ≤ ct.height}) :=
  match hc : ct.childNamed? "complexContent" with
  | some cc =>
    have hcc := Node.height_lt_of_mem_children (Node.mem_children_of_childNamed hc)
    match he : cc.childNamed? "extension" with
    | some ext => do
      have := Node.height_lt_of_mem_children (Node.mem_children_of_childNamed he)
      let base ← r.structural (← requiredText ext "extension" "base")
      return (some (.ofQName base), none, ⟨ext, by omega⟩)
    | none =>
      match hr : cc.childNamed? "restriction" with
      | some res =>
        have := Node.height_lt_of_mem_children (Node.mem_children_of_childNamed hr)
        .ok (none, none, ⟨res, by omega⟩)
      | none => .ok (none, none, ⟨ct, Nat.le_refl _⟩)
  | none =>
    match hs : ct.childNamed? "simpleContent" with
    | some sc =>
      have hsc := Node.height_lt_of_mem_children (Node.mem_children_of_childNamed hs)
      match he : sc.childNamed? "extension" with
      | some ext => do
        have := Node.height_lt_of_mem_children (Node.mem_children_of_childNamed he)
        let base ← requiredText ext "extension" "base"
        return (none, some (r.typeRef base), ⟨ext, by omega⟩)
      | none =>
        match hr : sc.childNamed? "restriction" with
        | some res => do
          have := Node.height_lt_of_mem_children (Node.mem_children_of_childNamed hr)
          let base ← r.structural (← requiredText res "restriction" "base")
          return (some (.ofQName base), none, ⟨res, by omega⟩)
        | none => .ok (none, none, ⟨ct, Nat.le_refl _⟩)
    | none => .ok (none, none, ⟨ct, Nat.le_refl _⟩)

-- The hypothesis naming the chosen child is used only by the termination proof.
set_option linter.unusedVariables false in
mutual

/-- Reads an element declaration. -/
def ElementDecl.ofNode (r : Resolver) (e : Node) : Except SchemaError ElementDecl := do
  let name ← requiredText e "element" "name"
  let type ← match hc : e.childNamed? "complexType" with
    | some ct => do pure (.complex (← ComplexType.ofNode r ct name))
    | none =>
      match e.childNamed? "simpleType" with
      | some st => do pure (.simple (← SimpleType.ofNode r st name))
      | none =>
        match e.attribute? "type" with
        | some t => pure (.named (r.typeRef t))
        | none => pure (.named .anyType)
  let occurs ← occursOf e elementOccurs
  return .mk name type occurs (Annotations.ofNode? e)
termination_by (e.height, 0)
decreasing_by
  exact Prod.Lex.left _ _ (Node.height_lt_of_mem_children (Node.mem_children_of_childNamed hc))

/-- Reads a particle: a reference to a top-level element, or an element declared in place. -/
def Particle.ofNode (r : Resolver) (e : Node) : Except SchemaError Particle :=
  match e.attribute? "ref" with
  | some target => do
    let occurs ← occursOf e elementOccurs
    return .ref (← r.structural target) occurs
  | none => do return .element (← ElementDecl.ofNode r e)
termination_by (e.height, 1)
decreasing_by exact Prod.Lex.right _ Nat.zero_lt_one

def ComplexType.ofSequence (r : Resolver) (s : Node) : Except SchemaError (List Particle) := do
  let group ← occursOf s groupOccurs
  let mut particles := []
  for h : child in s.elementChildren do
    if child.localName? == some "element" then
      let p ← Particle.ofNode r child
      particles := particles ++ [p.foldOccurs group]
  return particles
termination_by (s.height, 2)
decreasing_by
  have := Node.height_lt_of_mem_children (Node.mem_children_of_mem_elementChildren h)
  exact Prod.Lex.left _ _ this

def ComplexType.ofChoice (r : Resolver) (c : Node) : Except SchemaError (List (List Particle)) := do
  let group ← occursOf c groupOccurs
  let mut variants := []
  for h : child in c.elementChildren do
    match child.localName? with
    | some "element" =>
      let p ← Particle.ofNode r child
      variants := variants ++ [[p.foldOccurs group]]
    | some "sequence" =>
      let ps ← ComplexType.ofSequence r child
      variants := variants ++ [ps.map (·.foldOccurs group)]
    | _ => pure ()
  return variants
termination_by (c.height, 2)
decreasing_by
  all_goals
    have := Node.height_lt_of_mem_children (Node.mem_children_of_mem_elementChildren h)
    exact Prod.Lex.left _ _ this

/-- Reads a complex type; anonymous types take the name of the declaration that holds them. -/
def ComplexType.ofNode (r : Resolver) (ct : Node) (name : String) :
    Except SchemaError ComplexType := do
  let (base, text, content) ← derivationOf r ct
  let mut attributes := []
  let mut variants := []
  for h : child in content.1.elementChildren do
    match child.localName? with
    | some "attribute" =>
      match ← AttributeUse.ofNode? r child with
      | some a => attributes := attributes ++ [a]
      | none => pure ()
    | some "sequence" => variants := variants ++ [← ComplexType.ofSequence r child]
    | some "choice" => variants := variants ++ (← ComplexType.ofChoice r child)
    | _ => pure ()
  return .mk name base text attributes variants (Annotations.ofNode? ct)
termination_by (ct.height, 3)
decreasing_by
  all_goals
    have := Node.height_lt_of_mem_children (Node.mem_children_of_mem_elementChildren h)
    have := content.2
    exact Prod.Lex.left _ _ (by omega)

end

end SchemaTypes.Component
