import SchemaTypes.Registry.Basic
import SchemaTypes.Component.Reading
import SchemaTypes.Xml.Reader
set_option autoImplicit false

/-!
Reading schema documents into a registry. A location is read at most once: it is recorded with the
namespace it targets before its imports are followed and before its root is checked, so that a
document that includes itself, directly or not, is not read again, and a later load of the location
gives the schema of the recorded namespace. The imports and includes of a document are loaded first,
depth first; an import of a namespace the registry already has is skipped, which also ends import
cycles. Then the document's prefixes are bound and its declarations registered: elements, simple
types, complex types, attributes, each as soon as it is read, so that an error keeps the ones before
it.

Every nested load reads a document not read before, so nesting is bounded by the number of
documents; loading is given one more level than that.
-/

namespace SchemaTypes.Registry

open SchemaTypes.Component SchemaTypes.Location SchemaTypes.Xml

/-- The documents a registry may read, by location. -/
structure Source where
  documents : List (LocationKey × String) := []

namespace Source

def fetch? (src : Source) (loc : Location) : Option String := src.documents.lookup loc.key

def insert (src : Source) (loc : Location) (text : String) : Source :=
  ⟨(src.documents.filter (·.1 != loc.key)) ++ [(loc.key, text)]⟩

def ofDocuments (docs : List (String × String)) : Except SchemaError Source :=
  docs.foldlM (fun src (locator, text) =>
    match Location.parse? locator ⟨"/"⟩ with
    | some loc => .ok (src.insert loc text)
    | none => .error (.invalidLocation locator)) {}

end Source

abbrev Step (α : Type) := Registry × Except SchemaError α

def directiveTarget (reg : Registry) (loc : Location) (d : Node) :
    Except SchemaError (Option Location) :=
  let tag := d.localName?
  if tag != some "import" && tag != some "include" then .ok none
  else if tag == some "import" && (reg.schema? ((d.attribute? "namespace").getD "")).isSome then
    .ok none
  else
    match d.attribute? "schemaLocation" with
    | none => .ok none
    | some sl =>
      match loc.join? sl with
      | none => .error (.invalidLocation sl)
      | some target => .ok (some target)

def followDirectives (load : Registry → Location → Step String) (loc : Location) :
    Registry → List Node → Step Unit
  | reg, [] => (reg, .ok ())
  | reg, d :: rest =>
    match directiveTarget reg loc d with
    | .error e => (reg, .error e)
    | .ok none => followDirectives load loc reg rest
    | .ok (some target) =>
      match load reg target with
      | (reg, .ok _) => followDirectives load loc reg rest
      | (reg, .error e) => (reg, .error e)

def registerEach (ns : String) (res : Resolver) (read : Resolver → Node → Except SchemaError Declaration) :
    Registry → List Node → Step Unit
  | reg, [] => (reg, .ok ())
  | reg, n :: rest =>
    match read res n with
    | .ok d => registerEach ns res read (reg.modifySchema ns (·.register d)) rest
    | .error e => (reg, .error e)

def bindPrefixes (reg : Registry) (ns : String) (root : Node) : Registry :=
  (reg.ensureSchema ns).modifySchema ns (·.bindAliases root.bindings)

def readElement (r : Resolver) (n : Node) : Except SchemaError Declaration := do
  return .element (← ElementDecl.ofNode r n)

def readSimpleType (r : Resolver) (n : Node) : Except SchemaError Declaration := do
  let name ← requiredText n "simpleType" "name"
  return .type (.simple (← SimpleType.ofNode r n name))

def readComplexType (r : Resolver) (n : Node) : Except SchemaError Declaration := do
  let name ← requiredText n "complexType" "name"
  return .type (.complex (← ComplexType.ofNode r n name))

def readAttribute (r : Resolver) (n : Node) : Except SchemaError Declaration := do
  return .attribute (← AttributeDecl.ofNode r n)

def declarationReaders : List ((Resolver → Node → Except SchemaError Declaration) × String) :=
  [(readElement, "element"), (readSimpleType, "simpleType"), (readComplexType, "complexType"),
   (readAttribute, "attribute")]

def registerDeclarations (reg : Registry) (ns : String) (res : Resolver) (root : Node) : Step Unit :=
  declarationReaders.foldl (fun (reg, outcome) (read, tag) =>
    match outcome with
    | .ok () => registerEach ns res read reg (root.childrenNamed tag)
    | .error e => (reg, .error e)) (reg, .ok ())

def ingestWith (load : Registry → Location → Step String) (reg : Registry) (root : Node)
    (loc : Location) : Step String :=
  let ns := (root.attribute? "targetNamespace").getD ""
  let reg := reg.recordLoaded loc.key ns
  if root.localName? != some "schema" then
    (reg, .error (.notASchema loc.display (root.localName?.getD "")))
  else
    let reg := reg.ensureSchema ns
    match followDirectives load loc reg root.elementChildren with
    | (reg, .error e) => (reg, .error e)
    | (reg, .ok ()) =>
      let reg := reg.bindPrefixes ns root
      match registerDeclarations reg ns (reg.entry ns).resolver root with
      | (reg, .error e) => (reg, .error e)
      | (reg, .ok ()) => (reg, .ok ns)

/-- Loads the document at a location and what it imports, with nesting bounded by `fuel`. Gives
the namespace whose schema the load yields. -/
def loadAt (src : Source) : Nat → Registry → Location → Step String
  | fuel, reg, loc =>
    match reg.loadedNamespace? loc.key with
    | some ns => (reg.ensureSchema ns, .ok ns)
    | none =>
      match fuel, src.fetch? loc with
      | fuel + 1, some text =>
        match Document.read reg.config.allowDtd text with
        | .error _ => (reg, .error (.parse loc.display))
        | .ok doc =>
          match ingestWith (loadAt src fuel) reg doc.root loc with
          | (reg, .ok ns) => (reg.ensureSchema ns, .ok ns)
          | (reg, .error e) => (reg, .error e)
      | _, _ => (reg, .error (.read loc.display))

/-- Loads the document at a location and everything it imports or includes. -/
def load (src : Source) (reg : Registry) (loc : Location) : Step String :=
  loadAt src (src.documents.length + 1) reg loc

def ingest (src : Source) (reg : Registry) (root : Node) (loc : Location) : Step String :=
  match ingestWith (loadAt src (src.documents.length + 1)) reg root loc with
  | (reg, .ok ns) => (reg.ensureSchema ns, .ok ns)
  | (reg, .error e) => (reg, .error e)

end SchemaTypes.Registry
