import SchemaTypes.Component.Error
import SchemaTypes.Xml.Node
import SchemaTypes.Text.Blank
set_option autoImplicit false

/-!
Attribute values of schema documents. A value is read after trimming white space from both ends; a
value that cannot be read is an error that quotes it as written. Counts are unsigned 64-bit
numbers: an optional plus sign and one or more ASCII digits, at most 2^64 - 1. An upper bound of
occurrences is a count or exactly `unbounded`.
-/

namespace SchemaTypes.Component

open SchemaTypes.Xml SchemaTypes.Text

def maxCount : Nat := Nat.pow 2 64 - 1

def isAsciiDigit (c : Char) : Bool := '0' ≤ c && c ≤ '9'

def digitsNumber (ds : List Char) : Nat :=
  ds.foldl (fun n d => 10 * n + (d.toNat - '0'.toNat)) 0

/-- Reads a count: an optional `+`, then one or more ASCII digits whose value is at most
`maxCount`. -/
def readCount? (s : String) : Option Nat :=
  let ds := match s.toList with
    | '+' :: r => r
    | r => r
  if ds.isEmpty || !ds.all isAsciiDigit then none
  else
    let n := digitsNumber ds
    if n ≤ maxCount then some n else none

/-- An upper bound of occurrences. -/
inductive MaxOccurs where
  | unbounded
  | count (n : Nat)
  deriving Repr, DecidableEq, Inhabited

def MaxOccurs.isRepeatable : MaxOccurs → Bool
  | .unbounded => true
  | .count n => n > 1

/-- Reads an upper bound: `unbounded` or a count. -/
def MaxOccurs.read? (s : String) : Option MaxOccurs :=
  if s == "unbounded" then some .unbounded else (readCount? s).map .count

/-- How often a particle may occur. -/
structure Occurs where
  min : Nat
  max : MaxOccurs
  deriving Repr, DecidableEq, Inhabited

/-- The value of an attribute read by `convert` after trimming, none when it is absent. -/
def actualValue {α : Type} (convert : String → Option α) (n : Node) (attr : String) :
    Except SchemaError (Option α) :=
  match n.attribute? attr with
  | none => .ok none
  | some raw =>
    match convert (trim raw) with
    | some v => .ok (some v)
    | none => .error (.invalidValue attr raw)

def requiredText (n : Node) (element attr : String) : Except SchemaError String :=
  match n.attribute? attr with
  | some raw => .ok (trim raw)
  | none => .error (.missingAttribute element attr)

def requiredCount (n : Node) (element attr : String) : Except SchemaError Nat := do
  match ← actualValue readCount? n attr with
  | some v => pure v
  | none => throw (.missingAttribute element attr)

/-- The occurrence written on an element, with defaults for absent attributes. The lower bound is
read first. -/
def occursOf (n : Node) (default : Occurs) : Except SchemaError Occurs := do
  let min ← actualValue readCount? n "minOccurs"
  let max ← actualValue MaxOccurs.read? n "maxOccurs"
  return ⟨min.getD default.min, max.getD default.max⟩

end SchemaTypes.Component
