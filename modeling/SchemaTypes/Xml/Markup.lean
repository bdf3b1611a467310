import SchemaTypes.Xml.Lexeme
import SchemaTypes.Xml.Node
set_option autoImplicit false

/-!
Markup that holds no elements: comments, processing instructions, character data sections, and
the namespace rules of a start tag. A comment may not hold `--` nor end with `-`; a processing
instruction may not be an XML declaration. A start tag's declarations bind prefixes for the element
and its descendants; the prefixes `xml` and `xmlns` and their namespaces are reserved. An attribute
whose local name is `xmlns` declares the default namespace, whatever its prefix (unless that prefix
is `xmlns`, which makes it a prefix declaration).
-/

namespace SchemaTypes.Xml

def containsText (cs : List Char) (lit : String) : Bool :=
  match cs with
  | [] => lit.isEmpty
  | _ :: r => startsWith cs lit || containsText r lit

def takeComment (cs : List Char) : Except XmlError (String × List Char) := do
  let (body, rest) ← takeUntil (startsWith · "-->") [] cs
  let rest ← expectText "-->" rest
  if containsText body "--" || body.getLast? == some '-' then throw .invalidComment
  return (String.ofList body, rest)

def takeInstruction (cs : List Char) : Except XmlError ((String × String) × List Char) := do
  let (target, rest) ← takeName cs
  let (body, rest) ← takeUntil (startsWith · "?>") [] (skipBlanks rest)
  let rest ← expectText "?>" rest
  return ((target, String.ofList body), rest)

/-- A text with its line ends normalised: a carriage return and a following line feed become one
line feed, and a carriage return alone becomes a line feed. -/
def normalizeLineEnds (cs : List Char) : List Char :=
  let rec go (buf : List Char) : List Char → List Char
    | [] => buf.reverse
    | c :: r => go (pushText buf c r.isEmpty) r
  go [] cs

def takeCharData (cs : List Char) : Except XmlError (String × List Char) := do
  let (body, rest) ← takeUntil (startsWith · "]]>") [] cs
  let rest ← expectText "]]>" rest
  return (String.ofList (normalizeLineEnds body), rest)

def pushNode (acc : List Node) (n : Node) : List Node :=
  match n, acc with
  | .text s, .text t :: rest => .text (t ++ s) :: rest
  | _, _ => n :: acc

def flushText (acc : List Node) (buf : List Char) : List Node :=
  if buf.isEmpty then acc else pushNode acc (.text (String.ofList buf.reverse))

abbrev RawAttribute := String × String × String

def sortAttribute (acc : List Binding × List RawAttribute) (a : RawAttribute) :
    Except XmlError (List Binding × List RawAttribute) :=
  let (decls, others) := acc
  let (pre, loc, v) := a
  if pre == "xmlns" then
    if v == xmlnsNamespace then .error .reservedNamespace
    else if loc == "xml" && v != xmlNamespace then .error .reservedNamespace
    else if loc != "xml" && v == xmlNamespace then .error .reservedNamespace
    else if decls.any (·.name == some loc) then .error (.duplicateNamespace loc)
    else if v == xmlNamespace then .ok (decls, others)
    else .ok (decls ++ [⟨some loc, v⟩], others)
  else if loc == "xmlns" then
    if v == xmlNamespace || v == xmlnsNamespace then .error .reservedNamespace
    else .ok (decls ++ [⟨none, v⟩], others)
  else .ok (decls, others ++ [a])

def enterScope (own inherited : List Binding) : List Binding :=
  own ++ inherited.filter fun b => !own.any (·.name == b.name)

def lookupPrefix (scope : List Binding) (pre : String) : Except XmlError (Option String) :=
  if pre.isEmpty then .ok ((scope.find? (·.name == none)).map (·.uri))
  else
    match scope.find? (·.name == some pre) with
    | some b => .ok (some b.uri)
    | none => .error (.unknownPrefix pre)

def resolveAttributes (scope : List Binding) : List RawAttribute → List Attribute →
    Except XmlError (List Attribute)
  | [], acc => .ok acc.reverse
  | (pre, loc, v) :: rest, acc => do
    let ns ← if pre == "xml" then pure (some xmlNamespace)
      else if pre.isEmpty then pure none
      else lookupPrefix scope pre
    if acc.any fun a => a.ns == ns && a.localName == loc then throw (.duplicateAttribute loc)
    resolveAttributes scope rest (⟨ns, loc, v⟩ :: acc)

def resolveStartTag (inherited : List Binding) (pre : String) (written : List RawAttribute) :
    Except XmlError (Option String × List Attribute × List Binding) := do
  let (own, others) ← written.foldlM sortAttribute ([], [])
  let scope := enterScope own inherited
  let attrs ← resolveAttributes scope others []
  let ns ← lookupPrefix scope pre
  return (ns, attrs, scope)

end SchemaTypes.Xml
