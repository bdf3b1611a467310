import SchemaTypes.Component.Annotations
import SchemaTypes.Component.Value
set_option autoImplicit false

/-!
The constraining facets of a simple type that its declaration keeps: the lower bound as written,
digit counts, length bounds, the patterns and the enumerated values. They are read by a left fold
over the children of a restriction in document order: each facet overwrites its field, `length`
sets both length bounds, patterns are joined as alternatives and values are appended.
-/

namespace SchemaTypes.Component

open SchemaTypes.Xml

/-- An enumerated value and its documentation. -/
structure EnumerationValue where
  value : String
  annotations : Option Annotations
  deriving Repr, DecidableEq, Inhabited

/-- The facets of a simple type. -/
structure Facets where
  minInclusive : Option String := none
  totalDigits : Option Nat := none
  fractionDigits : Option Nat := none
  minLength : Option Nat := none
  maxLength : Option Nat := none
  pattern : Option String := none
  enumeration : List EnumerationValue := []
  deriving Repr, DecidableEq, Inhabited

namespace Facets

def addPattern (earlier : Option String) (p : String) : String :=
  match earlier with
  | some q => q ++ " | " ++ p
  | none => p

def step (f : Facets) (child : Node) : Except SchemaError Facets :=
  match child.localName? with
  | some "minInclusive" => do
    return { f with minInclusive := some (← requiredText child "minInclusive" "value") }
  | some "totalDigits" => do
    return { f with totalDigits := some (← requiredCount child "totalDigits" "value") }
  | some "fractionDigits" => do
    return { f with fractionDigits := some (← requiredCount child "fractionDigits" "value") }
  | some "minLength" => do
    return { f with minLength := some (← requiredCount child "minLength" "value") }
  | some "maxLength" => do
    return { f with maxLength := some (← requiredCount child "maxLength" "value") }
  | some "length" => do
    let n ← requiredCount child "length" "value"
    return { f with minLength := some n, maxLength := some n }
  | some "pattern" => do
    let p ← requiredText child "pattern" "value"
    return { f with pattern := some (addPattern f.pattern p) }
  | some "enumeration" => do
    let v ← requiredText child "enumeration" "value"
    return { f with enumeration := f.enumeration ++ [⟨v, Annotations.ofNode? child⟩] }
  | _ => .ok f

/-- The facets of a restriction element. -/
def ofNode (restriction : Node) : Except SchemaError Facets :=
  restriction.elementChildren.foldlM step {}

def describe (f : Facets) : List String :=
  (f.minInclusive.map ("Min: " ++ ·)).toList ++
  (f.totalDigits.map fun n => "Total digits: " ++ toString n).toList ++
  (f.fractionDigits.map fun n => "Fraction digits: " ++ toString n).toList ++
  (f.minLength.map fun n => "Min length: " ++ toString n).toList ++
  (f.maxLength.map fun n => "Max length: " ++ toString n).toList ++
  (f.pattern.map ("Pattern: " ++ ·)).toList

end Facets

end SchemaTypes.Component
