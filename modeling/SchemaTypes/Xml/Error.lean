set_option autoImplicit false

/-!
Why a text is not a well-formed document, as far as the reader tells causes apart.
-/

namespace SchemaTypes.Xml

/-- Why a text is not a well-formed document. -/
inductive XmlError where
  | unexpectedEnd
  | unexpected (c : Char)
  | forbiddenChar (c : Char)
  | invalidName
  | invalidReference
  | unknownEntity (name : String)
  | entityLoop
  | invalidComment
  | invalidCharData
  | dtdNotAllowed
  | misplacedDeclaration
  | unknownPrefix (name : String)
  | reservedNamespace
  | reservedElementPrefix
  | duplicateNamespace (name : String)
  | duplicateAttribute (name : String)
  | mismatchedEndTag (name : String)
  | noRoot
  | unexpectedMarkup
  | exhausted
  deriving Repr, DecidableEq, Inhabited

end SchemaTypes.Xml
