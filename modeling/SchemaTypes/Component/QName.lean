set_option autoImplicit false

/-!
Qualified names: a namespace and a local name. A name in the empty namespace is shown as its local
name, any other as the namespace in braces, a colon and the local name.
-/

namespace SchemaTypes.Component

/-- A qualified name. -/
structure QName where
  ns : String
  localName : String
  deriving Repr, DecidableEq, Inhabited, Hashable

def QName.display (q : QName) : String :=
  if q.ns.isEmpty then q.localName else "\x7b" ++ q.ns ++ "\x7d:" ++ q.localName

end SchemaTypes.Component
