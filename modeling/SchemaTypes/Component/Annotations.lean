import SchemaTypes.Xml.Node
import SchemaTypes.Script.Layout
set_option autoImplicit false

/-!
The documentation of a declaration: the texts of the `documentation` children of its `annotation`
children, in order. Nested markup is kept as tags so that fragments of XHTML stay readable; a text
is trimmed and dropped when nothing is left.
-/

namespace SchemaTypes.Component

open SchemaTypes.Xml SchemaTypes.Script SchemaTypes.Text

mutual

def contentText : Node → String
  | .element _ _ _ _ cs => childrenText cs
  | _ => ""

def childrenText : List Node → String
  | [] => ""
  | .text t :: r => t ++ childrenText r
  | .element loc ns as bs cs :: r =>
    "<" ++ loc ++ ">" ++ contentText (.element loc ns as bs cs) ++ "</" ++ loc ++ ">" ++
      childrenText r
  | _ :: r => childrenText r

end

/-- The documentation texts of a declaration, in order; never empty. -/
structure Annotations where
  documentation : List String
  deriving Repr, DecidableEq, Inhabited

namespace Annotations

def ofNode? (n : Node) : Option Annotations :=
  let texts := ((n.childrenNamed "annotation").flatMap (·.childrenNamed "documentation")).map
    fun d => trim (contentText d)
  match texts.filter (· ≠ "") with
  | [] => none
  | docs => some ⟨docs⟩

def entryLines (entry : String) : List String := (lines entry).map fun l => docLine (trim l)

/-- The documentation as doc comment body lines, with an empty line between texts. -/
def renderDoc (a : Annotations) : String :=
  let rec go : List String → List String
    | [] => []
    | [e] => entryLines e
    | e :: rest => entryLines e ++ [docLine ""] ++ go rest
  "\n".intercalate (go a.documentation)

def summary (a : Annotations) : String := " ".intercalate (a.documentation.flatMap words)

end Annotations

end SchemaTypes.Component
