import SchemaTypes.Component.QName
import SchemaTypes.Text.Quoted
set_option autoImplicit false

/-!
Why loading or rendering schemas fails, and the message for each cause. Texts taken from documents
are quoted in messages, with escapes for characters that would not print.
-/

namespace SchemaTypes.Component

open SchemaTypes.Text

/-- Why loading or rendering schemas fails. -/
inductive SchemaError where
  | read (location : String)
  | parse (location : String)
  | invalidLocation (text : String)
  | notASchema (location found : String)
  | malformedReference (name : String)
  | unresolvedElement (target : QName)
  | unresolvedAttribute (target : QName)
  | missingAttribute (element attr : String)
  | invalidValue (attr value : String)
  | referenceCycle (target : QName)
  deriving Repr, DecidableEq, Inhabited

def SchemaError.message : SchemaError → String
  | .read loc => "failed to read " ++ loc
  | .parse loc => "failed to parse " ++ loc
  | .invalidLocation s => "invalid schema location " ++ quote s
  | .notASchema loc found => "expected <schema> as the root of " ++ loc ++ ", found <" ++ found ++ ">"
  | .malformedReference s => "failed to resolve the qualified name " ++ quote s ++ " to a namespace"
  | .unresolvedElement q => "element reference " ++ q.display ++ " does not name a registered element"
  | .unresolvedAttribute q =>
    "attribute reference " ++ q.display ++ " does not name a registered attribute"
  | .missingAttribute e a => "<" ++ e ++ "> is missing the " ++ quote a ++ " attribute"
  | .invalidValue a v => "invalid value " ++ quote v ++ " for " ++ quote a
  | .referenceCycle q => "element reference " ++ q.display ++ " leads back to itself"

end SchemaTypes.Component
