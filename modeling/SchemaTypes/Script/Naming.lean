import SchemaTypes.Text.PascalCase
set_option autoImplicit false

/-!
Identifiers of declared types. At most one prefix is removed from a name, the first of the list
that the name starts with, and only when the rest starts with an alphabetic character; the result
is then written in Pascal case.
-/

namespace SchemaTypes.Script

open SchemaTypes.Text SchemaTypes.Unicode

/-- The prefixes that are removed from names before they become identifiers. -/
structure NamingPolicy where
  stripPrefixes : List String := []
  deriving Repr, DecidableEq, Inhabited

def restAfter (name pre : List Char) : Option (List Char) :=
  if pre.isPrefixOf name then some (name.drop pre.length) else none

def NamingPolicy.strip (policy : NamingPolicy) (name : String) : List Char :=
  match policy.stripPrefixes.findSome? (fun pre => restAfter name.toList pre.toList) with
  | some rest@(c :: _) => if isAlphabetic c then rest else name.toList
  | _ => name.toList

/-- The identifier for a name. -/
def NamingPolicy.toIdentifier (policy : NamingPolicy) (name : String) : String :=
  String.ofList ((wordsOf (policy.strip name)).flatMap capitalize)

end SchemaTypes.Script
