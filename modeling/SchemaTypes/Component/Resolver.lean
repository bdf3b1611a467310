import SchemaTypes.Component.Declaration
import SchemaTypes.Xml.Node
set_option autoImplicit false

/-!
Resolving the qualified names written in a schema document. An unprefixed name belongs to the
target namespace; a prefixed name to the namespace the prefix is bound to, where `xml` is bound to
the XML namespace unless the schema binds it otherwise. A name with more than one colon, or with a
prefix that is not bound, does not resolve. A reference used as a type renders as `unknown` when it
does not resolve; one that the structure of a declaration depends on is an error.
-/

namespace SchemaTypes.Component

open SchemaTypes.Xml

/-- What resolving needs: the target namespace and the prefixes bound so far. -/
structure Resolver where
  targetNamespace : String
  aliases : List (String × String)
  deriving Repr, Inhabited

namespace Resolver

/-- The qualified name a written name resolves to. -/
def resolve? (r : Resolver) (written : String) : Option QName :=
  match (written.toList.splitOn ':').map String.ofList with
  | [loc] => some ⟨r.targetNamespace, loc⟩
  | [pre, loc] =>
    match r.aliases.lookup pre with
    | some ns => some ⟨ns, loc⟩
    | none => if pre == "xml" then some ⟨xmlNamespace, loc⟩ else none
  | _ => none

def typeRef (r : Resolver) (written : String) : TypeRef := ⟨r.resolve? written, written⟩

def structural (r : Resolver) (written : String) : Except SchemaError QName :=
  match r.resolve? written with
  | some q => .ok q
  | none => .error (.malformedReference written)

end Resolver

end SchemaTypes.Component
