set_option autoImplicit false

/-!
File paths with `/` as separator, kept as written. Two paths are the same when their components
are: repeated separators, a trailing separator and `.` components after the start do not count,
while `..` does. Joining a relative path adds a separator unless the base is empty or ends with
one; joining an absolute path gives that path. The parent of a path drops its last component.
-/

namespace SchemaTypes.Location

/-- A file path as written. -/
structure DocPath where
  text : String
  deriving Repr, DecidableEq, Inhabited

/-- A component of a path. -/
inductive Component where
  | root
  | current
  | parent
  | normal (name : String)
  deriving Repr, DecidableEq, Inhabited

namespace DocPath

def startsCurrent : List Char → Bool
  | ['.'] => true
  | '.' :: '/' :: _ => true
  | _ => false

def classify (piece : List Char) : Component :=
  if piece = ['.', '.'] then .parent else .normal (String.ofList piece)

def components (p : DocPath) : List Component :=
  let cs := p.text.toList
  let named := (cs.splitOn '/').filter fun piece => piece ≠ [] ∧ piece ≠ ['.']
  (if cs.head? = some '/' then [.root] else if startsCurrent cs then [.current] else []) ++
    named.map classify

def isAbsolute (p : DocPath) : Bool := p.text.toList.head? = some '/'

def join (p : DocPath) (q : String) : DocPath :=
  if q.toList.head? = some '/' then ⟨q⟩
  else
    match p.text.toList.getLast? with
    | none => ⟨q⟩
    | some '/' => ⟨p.text ++ q⟩
    | some _ => ⟨p.text ++ "/" ++ q⟩

def splitLast (cs : List Char) : List Char × List Char :=
  match cs.reverse.span (· ≠ '/') with
  | (piece, []) => ([], piece.reverse)
  | (piece, _ :: before) => (before.reverse, piece.reverse)

def isVoid (piece : List Char) : Bool := piece.isEmpty || piece == ['.']

def trimEnd : Nat → List Char → List Char
  | 0, cs => cs
  | fuel + 1, cs =>
    if cs.isEmpty then cs
    else
      let (before, piece) := splitLast cs
      if isVoid piece then trimEnd fuel before else cs

def beforeLast : Nat → List Char → Option (List Char)
  | 0, _ => none
  | fuel + 1, cs =>
    if cs.isEmpty then none
    else
      let (before, piece) := splitLast cs
      if isVoid piece then beforeLast fuel before else some before

def parent? (p : DocPath) : Option DocPath :=
  let cs := p.text.toList
  let headLen := if cs.head? = some '/' || startsCurrent cs then 1 else 0
  let body := cs.drop headLen
  match beforeLast (body.length + 1) body with
  | some before => some ⟨String.ofList (cs.take headLen ++ trimEnd (before.length + 1) before)⟩
  | none => if startsCurrent cs then some ⟨""⟩ else none

end DocPath

end SchemaTypes.Location
