import SchemaTypes.Xml.Markup
set_option autoImplicit false

/-!
Reading a document into its tree. The text may start with a byte order mark and an XML declaration;
comments, processing instructions and blanks may stand before and after the root element, and a
document type definition before it when it is allowed. Its internal entities are expanded in
attribute values and in content, where they may hold markup; references nest at most ten deep, and
one reference in the document may lead to at most 255 more.

In content, text keeps its characters except that line ends are normalised; a character given by a
reference in the document is kept as it is, and so is the character after it. In attribute values
tab, line feed and carriage return become spaces, while characters given by references in the
document are kept.

The reader takes a budget of steps and fails when it runs out; `Document.read` gives a budget that
no document of the text's length can use up.
-/

namespace SchemaTypes.Xml

abbrev Entities := List (String × List Char)

def maxEntityDepth : Nat := 10

def maxEntityReferences : Nat := 255

def countReference (depth refs : Nat) : Except XmlError Nat :=
  if depth == 0 then .ok refs
  else if refs == maxEntityReferences then .error .entityLoop
  else .ok (refs + 1)

def enterEntity (depth : Nat) : Except XmlError Nat :=
  if depth < maxEntityDepth then .ok (depth + 1) else .error .entityLoop

def leaveEntity (depth refs : Nat) : Nat := if depth == 0 then 0 else refs

def entityText (ents : Entities) (name : String) : Except XmlError (List Char) :=
  match ents.lookup name with
  | some value => .ok value
  | none => .error (.unknownEntity name)

def decodeAttribute (ents : Entities) :
    Nat → Nat → Nat → List Char → List Char → Except XmlError (List Char × Nat)
  | 0, _, _, _, _ => .error .exhausted
  | fuel + 1, depth, refs, cs, buf =>
    match cs with
    | [] => .ok (buf, refs)
    | '&' :: r =>
      match takeReference r with
      | .error e => .error e
      | .ok (.char ch, rest) =>
        if depth == 0 then decodeAttribute ents fuel depth refs rest (ch :: buf)
        else if ch == '<' then .error .invalidReference
        else decodeAttribute ents fuel depth refs rest (pushAttr buf ch none)
      | .ok (.entity name, rest) =>
        match entityText ents name, countReference depth refs, enterEntity depth with
        | .ok value, .ok refs, .ok inner =>
          match decodeAttribute ents fuel inner refs value buf with
          | .ok (buf, refs) => decodeAttribute ents fuel depth (leaveEntity depth refs) rest buf
          | .error e => .error e
        | .error e, _, _ => .error e
        | _, .error e, _ => .error e
        | _, _, .error e => .error e
    | c :: r => decodeAttribute ents fuel depth refs r (pushAttr buf c r.head?)

def endsValue (q : Char) : List Char → Bool
  | d :: _ => d == q || d == '<'
  | [] => false

def readAttributes (ents : Entities) :
    Nat → Nat → Nat → List Char → List RawAttribute →
      Except XmlError ((List RawAttribute × Bool) × Nat × List Char)
  | 0, _, _, _, _ => .error .exhausted
  | fuel + 1, depth, refs, cs, acc =>
    let blank := match cs with
      | c :: _ => isBlank c
      | [] => false
    match skipBlanks cs with
    | '/' :: r => (expectChar '>' r).map fun rest => ((acc.reverse, true), refs, rest)
    | '>' :: r => .ok ((acc.reverse, false), refs, r)
    | [] => .error .unexpectedEnd
    | cs@(c :: _) =>
      if !blank then .error (.unexpected c)
      else
        let attr : Except XmlError (RawAttribute × Nat × List Char) := do
          let ((pre, loc), r) ← takeQName cs
          let r ← takeEquals r
          let (q, r) ← takeQuote r
          let (raw, r) ← takeUntil (endsValue q) [] r
          let r ← expectChar q r
          let (buf, refs) ← decodeAttribute ents fuel depth refs raw []
          return ((pre, loc, String.ofList buf.reverse), refs, r)
        match attr with
        | .ok (a, refs, r) => readAttributes ents fuel depth refs r (a :: acc)
        | .error e => .error e

def startsMarkup : List Char → Bool
  | '<' :: _ => true
  | _ => false

mutual

def readElement (ents : Entities) :
    Nat → List Binding → Nat → Nat → List Char → Except XmlError (Node × Nat × List Char)
  | 0, _, _, _, _ => .error .exhausted
  | fuel + 1, inherited, depth, refs, cs =>
    match takeQName cs with
    | .error e => .error e
    | .ok ((pre, loc), rest) =>
      if pre == "xmlns" then .error .reservedElementPrefix else
      match readAttributes ents fuel depth refs rest [] with
      | .error e => .error e
      | .ok ((written, empty), refs, rest) =>
        match resolveStartTag inherited pre written with
        | .error e => .error e
        | .ok (ns, attrs, scope) =>
          if empty then .ok (.element loc ns attrs scope [], refs, rest)
          else
            match readContent ents fuel scope depth (some (pre, loc)) refs [] rest with
            | .error e => .error e
            | .ok (children, refs, rest) =>
              .ok (.element loc ns attrs scope children.reverse, refs, rest)

def readContent (ents : Entities) :
    Nat → List Binding → Nat → Option (String × String) → Nat → List Node → List Char →
      Except XmlError (List Node × Nat × List Char)
  | 0, _, _, _, _, _, _ => .error .exhausted
  | fuel + 1, scope, depth, closing, refs, acc, cs =>
    match cs with
    | [] => if closing.isNone then .ok (acc, refs, []) else .error .unexpectedEnd
    | '<' :: '/' :: r =>
      match takeQName r with
      | .error e => .error e
      | .ok (name, rest) =>
        match expectChar '>' (skipBlanks rest) with
        | .error e => .error e
        | .ok rest =>
          if closing == some name then .ok (acc, refs, rest)
          else .error (.mismatchedEndTag name.2)
    | '<' :: '!' :: _ =>
      if startsWith cs "<!--" then
        match takeComment (cs.drop 4) with
        | .ok (body, rest) => readContent ents fuel scope depth closing refs (.comment body :: acc) rest
        | .error e => .error e
      else if startsWith cs "<![CDATA[" then
        match takeCharData (cs.drop 9) with
        | .ok (body, rest) =>
          let acc := if body.isEmpty then acc else pushNode acc (.text body)
          readContent ents fuel scope depth closing refs acc rest
        | .error e => .error e
      else .error .unexpectedMarkup
    | '<' :: '?' :: r =>
      if startsWith cs "<?xml " then .error .misplacedDeclaration
      else
        match takeInstruction r with
        | .ok ((target, body), rest) =>
          readContent ents fuel scope depth closing refs (.instruction target body :: acc) rest
        | .error e => .error e
    | ['<'] => .error .unexpectedMarkup
    | '<' :: r =>
      match readElement ents fuel scope depth refs r with
      | .ok (n, refs, rest) => readContent ents fuel scope depth closing refs (n :: acc) rest
      | .error e => .error e
    | _ =>
      match takeUntil startsMarkup [] cs with
      | .error e => .error e
      | .ok (raw, rest) =>
        if containsText raw "]]>" then .error .invalidCharData
        else
          match expandText ents fuel scope depth refs raw [] false acc with
          | .ok (acc, refs) => readContent ents fuel scope depth closing refs acc rest
          | .error e => .error e

def expandText (ents : Entities) :
    Nat → List Binding → Nat → Nat → List Char → List Char → Bool → List Node →
      Except XmlError (List Node × Nat)
  | 0, _, _, _, _, _, _, _ => .error .exhausted
  | fuel + 1, scope, depth, refs, cs, buf, asIs, acc =>
    match cs with
    | [] => .ok (flushText acc buf, refs)
    | '&' :: r =>
      match takeReference r with
      | .error e => .error e
      | .ok (.char ch, rest) =>
        if depth == 0 then expandText ents fuel scope depth refs rest (ch :: buf) true acc
        else expandText ents fuel scope depth refs rest (pushText buf ch rest.isEmpty) asIs acc
      | .ok (.entity name, rest) =>
        match entityText ents name, countReference depth refs, enterEntity depth with
        | .ok value, .ok refs, .ok inner =>
          match readContent ents fuel scope inner none refs (flushText acc buf) value with
          | .ok (acc, refs, _) =>
            expandText ents fuel scope depth (leaveEntity depth refs) rest [] false acc
          | .error e => .error e
        | .error e, _, _ => .error e
        | _, .error e, _ => .error e
        | _, _, .error e => .error e
    | c :: r =>
      if asIs then expandText ents fuel scope depth refs r (c :: buf) false acc
      else expandText ents fuel scope depth refs r (pushText buf c r.isEmpty) false acc

end

def skipMisc : Nat → List Char → Except XmlError (List Char)
  | 0, _ => .error .exhausted
  | fuel + 1, cs =>
    let cs := skipBlanks cs
    if startsWith cs "<!--" then
      match takeComment (cs.drop 4) with
      | .ok (_, rest) => skipMisc fuel rest
      | .error e => .error e
    else if startsWith cs "<?" then
      if startsWith cs "<?xml " then .error .misplacedDeclaration
      else
        match takeInstruction (cs.drop 2) with
        | .ok (_, rest) => skipMisc fuel rest
        | .error e => .error e
    else .ok cs

def declarationBlanks (cs : List Char) : Except XmlError (List Char) :=
  match cs with
  | c :: _ =>
    if isBlank c then .ok (skipBlanks cs)
    else if startsWith cs "?>" then .ok cs
    else .error (.unexpected c)
  | [] => .ok cs

def takePseudoAttribute (cs : List Char) : Except XmlError (List Char) := do
  let (_, r) ← takeQName cs
  let r ← takeEquals r
  let (q, r) ← takeQuote r
  expectChar q (r.dropWhile fun c => c != q && c != '<')

def readDeclaration (cs : List Char) : Except XmlError (List Char) := do
  let r ← declarationBlanks (cs.drop 5)
  if !startsWith r "version" then throw (unexpectedAt r)
  let r ← declarationBlanks (← takePseudoAttribute r)
  let r ← if startsWith r "encoding" then declarationBlanks (← takePseudoAttribute r) else pure r
  let r ← if startsWith r "standalone" then takePseudoAttribute r else pure r
  expectText "?>" (skipBlanks r)

def takeLiteral (cs : List Char) : Except XmlError (List Char × List Char) := do
  let (q, r) ← takeQuote cs
  let (lit, r) := r.span (· != q)
  let r ← expectChar q r
  return (lit, r)

def takeExternalId (cs : List Char) : Except XmlError (Option (List Char)) :=
  if startsWith cs "SYSTEM" then do
    let (_, r) ← takeLiteral (← needBlanks (cs.drop 6))
    return some r
  else if startsWith cs "PUBLIC" then do
    let (_, r) ← takeLiteral (← needBlanks (cs.drop 6))
    let (_, r) ← takeLiteral (← needBlanks r)
    return some r
  else .ok none

def readEntityDeclaration (cs : List Char) :
    Except XmlError (Option (String × List Char) × List Char) := do
  let r ← needBlanks cs
  let (general, r) ← match r with
    | '%' :: r => do pure (false, ← needBlanks r)
    | _ => pure (true, r)
  let (name, r) ← takeName r
  let r ← needBlanks r
  let (entity, r) ← match r with
    | '"' :: _ | '\'' :: _ => do
      let (value, r) ← takeLiteral r
      pure (some (name, value), r)
    | 'S' :: _ | 'P' :: _ => do
      match ← takeExternalId r with
      | none => throw (unexpectedAt r)
      | some r =>
        if general && startsWith (skipBlanks r) "NDATA" then
          let (_, r) ← takeName (← needBlanks ((skipBlanks r).drop 5))
          pure (none, r)
        else pure (none, r)
    | _ => throw (unexpectedAt r)
  let r ← expectChar '>' (skipBlanks r)
  return (entity, r)

def readInternalSubset : Nat → Entities → List Char → Except XmlError (Entities × List Char)
  | 0, _, _ => .error .exhausted
  | fuel + 1, ents, cs =>
    let cs := skipBlanks cs
    if startsWith cs "<!ENTITY" then
      match readEntityDeclaration (cs.drop 8) with
      | .ok (some e, rest) => readInternalSubset fuel (ents ++ [e]) rest
      | .ok (none, rest) => readInternalSubset fuel ents rest
      | .error e => .error e
    else if startsWith cs "<!--" then
      match takeComment (cs.drop 4) with
      | .ok (_, rest) => readInternalSubset fuel ents rest
      | .error e => .error e
    else if startsWith cs "<?" then
      if startsWith cs "<?xml " then .error .misplacedDeclaration
      else
        match takeInstruction (cs.drop 2) with
        | .ok (_, rest) => readInternalSubset fuel ents rest
        | .error e => .error e
    else if startsWith cs "<!ELEMENT" || startsWith cs "<!ATTLIST" || startsWith cs "<!NOTATION" then
      match (cs.dropWhile (· != '>')) with
      | _ :: rest => readInternalSubset fuel ents rest
      | [] => .error .unexpectedEnd
    else
      match cs with
      | [] => .ok (ents, [])
      | ']' :: r =>
        match skipBlanks r with
        | '>' :: rest => .ok (ents, rest)
        | rest => .error (unexpectedAt rest)
      | c :: _ => .error (.unexpected c)

def readDoctype (cs : List Char) : Except XmlError (Entities × List Char) := do
  let r ← needBlanks (cs.drop 9)
  let (_, r) ← takeName r
  let r := skipBlanks r
  let r := match ← takeExternalId r with
    | some r => r
    | none => r
  match skipBlanks r with
  | '>' :: rest => return ([], rest)
  | '[' :: rest => readInternalSubset (rest.length + 1) [] rest
  | rest => throw (unexpectedAt rest)

def readingBudget (textLength entityLength : Nat) : Nat :=
  4 * (textLength + 1) * ((maxEntityReferences + 1) * (entityLength + 1) + 1)

/-- Reads a document. A document type definition is refused unless `allowDtd` holds. -/
def Document.read (allowDtd : Bool) (text : String) : Except XmlError Document := do
  let cs := match text.toList with
    | '\uFEFF' :: r => r
    | r => r
  let misc := skipMisc (cs.length + 1)
  let cs ← if startsWith cs "<?xml " then readDeclaration cs else pure cs
  let cs ← misc cs
  let (ents, cs) ← if startsWith cs "<!DOCTYPE" then
      if allowDtd then do
        let (ents, r) ← readDoctype cs
        pure (ents, ← misc r)
      else throw .dtdNotAllowed
    else pure ([], cs)
  let fuel := readingBudget cs.length (ents.foldl (fun n e => n + e.2.length) 0)
  match skipBlanks cs with
  | '<' :: r =>
    let (root, _, rest) ← readElement ents fuel [] 0 0 r
    let rest ← misc rest
    if rest.isEmpty then return ⟨root⟩ else throw .unexpectedMarkup
  | rest =>
    let rest ← misc rest
    if rest.isEmpty then throw .noRoot else throw .unexpectedMarkup

end SchemaTypes.Xml
