set_option autoImplicit false

/-!
Options shared by reading schemas and writing declarations.
-/

namespace SchemaTypes

/-- Options shared by reading schemas and writing declarations. -/
structure Config where
  stripPrefixes : List String := []
  attributePrefix : String := "@_"
  textNodeName : String := "#text"
  allowDtd : Bool := false
  deriving Repr, DecidableEq, Inhabited

end SchemaTypes
