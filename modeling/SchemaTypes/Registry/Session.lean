import SchemaTypes.Registry.Load
set_option autoImplicit false

/-!
Commands on a registry with a source of documents, one after another: each sees the registry that
the ones before it left, including what a failed command changed before it failed. Locators are
taken relative to `/`.
-/

namespace SchemaTypes.Registry

open SchemaTypes.Component SchemaTypes.Location SchemaTypes.Xml

/-- The names a schema declares and the prefixes its documents bind, sorted by prefix and then
by namespace. -/
structure Summary where
  targetNamespace : String
  elements : List String
  types : List String
  attributes : List String
  aliases : List (String × String)
  deriving Repr, DecidableEq, Inhabited

def aliasLe (a b : String × String) : Bool := a.1 < b.1 || (a.1 == b.1 && a.2 ≤ b.2)

def Schema.summary (s : Schema) : Summary where
  targetNamespace := s.targetNamespace
  elements := s.elements.keys
  types := s.types.keys
  attributes := s.attributes.keys
  aliases := s.aliases.mergeSort aliasLe

/-- A command on a registry. -/
inductive Command where
  | load (locator : String)
  | ingest (locator : String) (text : String)
  | render
  | renderSchema (ns : String)
  | namespaces
  | schema (ns : String)
  | typeIdentifier (ns name : String)
  | toIdentifier (name : String)
  deriving Repr, DecidableEq, Inhabited

/-- What a command gives. -/
inductive Reply where
  | summary (s : Summary)
  | text (s : String)
  | maybeText (s : Option String)
  | maybeSummary (s : Option Summary)
  | names (xs : List String)
  deriving Repr, DecidableEq, Inhabited

/-- Why a command fails. -/
inductive CommandError where
  | schema (e : SchemaError)
  | malformedXml
  deriving Repr, DecidableEq, Inhabited

def locate (locator : String) : Except CommandError Location :=
  match Location.parse? locator ⟨"/"⟩ with
  | some loc => .ok loc
  | none => .error (.schema (.invalidLocation locator))

def summaryAfter (step : Step String) : Registry × Except CommandError Reply :=
  match step with
  | (reg, .ok ns) =>
    match reg.schema? ns with
    | some s => (reg, .ok (.summary s.summary))
    | none => (reg, .ok (.summary (Schema.empty ns).summary))
  | (reg, .error e) => (reg, .error (.schema e))

/-- Runs one command. -/
def run (src : Source) (reg : Registry) : Command → Registry × Except CommandError Reply
  | .load locator =>
    match locate locator with
    | .ok loc => summaryAfter (reg.load src loc)
    | .error e => (reg, .error e)
  | .ingest locator text =>
    match locate locator with
    | .error e => (reg, .error e)
    | .ok loc =>
      match Document.read false text with
      | .error _ => (reg, .error .malformedXml)
      | .ok doc => summaryAfter (reg.ingest src doc.root loc)
  | .render =>
    match reg.render with
    | .ok t => (reg, .ok (.text t))
    | .error e => (reg, .error (.schema e))
  | .renderSchema ns =>
    match reg.schema? ns with
    | none => (reg, .ok (.maybeText none))
    | some s =>
      match s.render reg.renderEnv with
      | .ok t => (reg, .ok (.maybeText (some t)))
      | .error e => (reg, .error (.schema e))
  | .namespaces => (reg, .ok (.names reg.namespaces))
  | .schema ns => (reg, .ok (.maybeSummary ((reg.schema? ns).map (·.summary))))
  | .typeIdentifier ns name => (reg, .ok (.maybeText (reg.typeIdentifier? ⟨ns, name⟩)))
  | .toIdentifier name => (reg, .ok (.text (reg.naming.toIdentifier name)))

end SchemaTypes.Registry
