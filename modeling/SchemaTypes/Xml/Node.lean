set_option autoImplicit false

/-!
The tree of a document: elements with their attributes, the namespace declarations in scope, and
their children; text; comments; processing instructions. Names carry the namespace that their prefix
is bound to. Look-ups match elements by local name and attributes only when they are unprefixed.
-/

namespace SchemaTypes.Xml

def xmlNamespace : String := "http://www.w3.org/XML/1998/namespace"

def xmlnsNamespace : String := "http://www.w3.org/2000/xmlns/"

/-- A namespace declaration: a prefix, or none for the default namespace, and its URI. -/
structure Binding where
  name : Option String
  uri : String
  deriving Repr, DecidableEq, Inhabited

/-- An attribute: the namespace of its prefix (none when it has no prefix), its local name and its
value. -/
structure Attribute where
  ns : Option String
  localName : String
  value : String
  deriving Repr, DecidableEq, Inhabited

/-- A node of a document tree. An element lists the namespace declarations in scope, its own first
and then those it inherits and does not redeclare. -/
inductive Node where
  | element (localName : String) (ns : Option String) (attributes : List Attribute)
      (bindings : List Binding) (children : List Node)
  | text (content : String)
  | comment (content : String)
  | instruction (target : String) (content : String)
  deriving Repr, Inhabited

mutual

def Node.decEq : (a b : Node) → Decidable (a = b)
  | .element l n as bs cs, .element l' n' as' bs' cs' =>
    if h : l = l' ∧ n = n' ∧ as = as' ∧ bs = bs' then
      match Node.decEqList cs cs' with
      | isTrue hc => isTrue (by obtain ⟨rfl,rfl,rfl,rfl⟩ := h; rw [hc])
      | isFalse hc => isFalse fun e => by cases e; exact hc rfl
    else isFalse fun e => by cases e; exact h ⟨rfl,rfl,rfl,rfl⟩
  | .text a, .text b =>
    if h : a = b then isTrue (h ▸ rfl) else isFalse fun e => by cases e; exact h rfl
  | .comment a, .comment b =>
    if h : a = b then isTrue (h ▸ rfl) else isFalse fun e => by cases e; exact h rfl
  | .instruction t c, .instruction t' c' =>
    if h : t = t' ∧ c = c' then isTrue (by rw [h.1,h.2])
    else isFalse fun e => by cases e; exact h ⟨rfl,rfl⟩
  | .element .., .text _ | .element .., .comment _ | .element .., .instruction ..
  | .text _, .element .. | .text _, .comment _ | .text _, .instruction ..
  | .comment _, .element .. | .comment _, .text _ | .comment _, .instruction ..
  | .instruction .., .element .. | .instruction .., .text _ | .instruction .., .comment _ =>
    isFalse Node.noConfusion

def Node.decEqList : (as bs : List Node) → Decidable (as = bs)
  | [], [] => isTrue rfl
  | a :: as, b :: bs =>
    match Node.decEq a b, Node.decEqList as bs with
    | isTrue h, isTrue hs => isTrue (by rw [h,hs])
    | isFalse h, _ => isFalse fun e => h (List.cons.inj e).1
    | _, isFalse hs => isFalse fun e => hs (List.cons.inj e).2
  | [], _ :: _ | _ :: _, [] => isFalse fun e => nomatch e

end

instance : DecidableEq Node := Node.decEq

namespace Node

def localName? : Node → Option String
  | element n .. => some n
  | _ => none

def isElement : Node → Bool
  | element .. => true
  | _ => false

def children : Node → List Node
  | element _ _ _ _ cs => cs
  | _ => []

def attributes : Node → List Attribute
  | element _ _ as _ _ => as
  | _ => []

def bindings : Node → List Binding
  | element _ _ _ bs _ => bs
  | _ => []

/-- The value of the unprefixed attribute with a local name. -/
def attribute? (n : Node) (name : String) : Option String :=
  (n.attributes.find? fun a => a.ns.isNone && a.localName == name).map (·.value)

def isElementNamed (tag : String) (n : Node) : Bool := n.isElement && n.localName? == some tag

def childrenNamed (n : Node) (tag : String) : List Node := n.children.filter (isElementNamed tag)

def childNamed? (n : Node) (tag : String) : Option Node := n.children.find? (isElementNamed tag)

/-- The element children of a node, in document order. -/
def elementChildren (n : Node) : List Node := n.children.filter isElement

end Node

/-- A document: its root element. -/
structure Document where
  root : Node
  deriving Repr, DecidableEq, Inhabited

end SchemaTypes.Xml
