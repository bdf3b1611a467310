import SchemaTypes.Proofs.ReferenceBound
import SchemaTypes.Proofs.SelfContainedLoads
import SchemaTypes.Proofs.TableLaws
import SchemaTypes.Registry.Basic
set_option autoImplicit false

/-!
When rendering a registry ends. Element references render the referenced declaration in place,
so rendering without a bound on how deeply references nest would not end where an element is
reached again through its own references. Rendering a registry with a given depth for references
(`Registry.renderWithin`) runs out exactly there: the depth the registry gives, one more than it
has elements, is enough wherever some depth is, and where it runs out every depth does
(`render_runs_out_iff_every_depth_does`). Loading a schema with an element whose anonymous type
refers to the element itself gives a registry that renders without end.
-/

namespace SchemaTypes

open SchemaTypes.Component SchemaTypes.Script

namespace Component

def TypeDefinition.renderDeclarationWith (env : RenderEnv) (refs : ReferenceField) :
    TypeDefinition → Except SchemaError String
  | .complex c => do
    let expr ← ComplexType.renderExpr env refs 0 c
    return docFor c.annotations 0 ++ declaration ((TypeDefinition.complex c).identifier env.naming) expr
  | t => t.renderDeclaration env

theorem TypeDefinition.renderDeclaration_eq_with (env : RenderEnv) (t : TypeDefinition) :
    t.renderDeclaration env = t.renderDeclarationWith env env.references := by
  cases t <;> rfl

def ElementDecl.renderDeclarationWith (env : RenderEnv) (refs : ReferenceField) (d : ElementDecl) :
    Except SchemaError String := do
  let f ← ElementDecl.fieldWith env refs 1 d.occurs false d
  return docFor d.annotations 0 ++
    declaration (d.identifier env) (documentTypeName ++ " & " ++ record f 0)

theorem ElementDecl.renderDeclaration_eq_with (env : RenderEnv) (d : ElementDecl) :
    d.renderDeclaration env = d.renderDeclarationWith env env.references := rfl

section Declarations

variable (env : RenderEnv) {refs refs' : ReferenceField}

theorem TypeDefinition.renderDeclarationWith_approx (h : ∀ q o d, Approx (refs q o d) (refs' q o d))
    (t : TypeDefinition) : Approx (t.renderDeclarationWith env refs) (t.renderDeclarationWith env refs') := by
  cases t with
  | complex c => exact (ComplexType.renderExpr_approx env h 0 c).bind fun _ => .refl _
  | builtin => exact .refl _
  | simple => exact .refl _

theorem TypeDefinition.outcome_renderDeclarationWith (h : SameOutcomes refs refs') (t : TypeDefinition) :
    outcome (t.renderDeclarationWith env refs) = outcome (t.renderDeclarationWith env refs') := by
  cases t with
  | complex c => exact outcome_bind (ComplexType.outcome_renderExpr env h c 0 0) fun _ _ => outcome_pure _ _
  | builtin => rfl
  | simple => rfl

theorem ElementDecl.renderDeclarationWith_approx (h : ∀ q o d, Approx (refs q o d) (refs' q o d))
    (d : ElementDecl) : Approx (d.renderDeclarationWith env refs) (d.renderDeclarationWith env refs') :=
  (ElementDecl.fieldWith_approx env h 1 d.occurs false d).bind fun _ => .refl _

theorem ElementDecl.outcome_renderDeclarationWith (h : SameOutcomes refs refs') (d : ElementDecl) :
    outcome (d.renderDeclarationWith env refs) = outcome (d.renderDeclarationWith env refs') :=
  outcome_bind (ElementDecl.outcome_fieldWith env h d 1 1 d.occurs d.occurs false false) fun _ _ =>
    outcome_pure _ _

end Declarations

theorem Approx.mapM {α β : Type} {f g : α → Except SchemaError β} :
    ∀ (l : List α), (∀ x ∈ l, Approx (f x) (g x)) → Approx (l.mapM f) (l.mapM g)
  | [], _ => .refl _
  | x :: l, h => by
    simp only [List.mapM_cons]
    exact (h x List.mem_cons_self).bind fun _ =>
      (Approx.mapM l fun y hy => h y (List.mem_cons_of_mem x hy)).bind fun _ => .refl _

theorem outcome_mapM {α β : Type} {f g : α → Except SchemaError β} :
    ∀ (l : List α), (∀ x ∈ l, outcome (f x) = outcome (g x)) → outcome (l.mapM f) = outcome (l.mapM g)
  | [], _ => rfl
  | x :: l, h => by
    simp only [List.mapM_cons]
    exact outcome_bind (h x List.mem_cons_self) fun _ _ =>
      outcome_bind (outcome_mapM l fun y hy => h y (List.mem_cons_of_mem x hy)) fun _ _ => outcome_pure _ _

end Component

namespace Registry

def Schema.renderWith (env : RenderEnv) (refs : ReferenceField) (s : Schema) :
    Except SchemaError String := do
  let types ← s.types.values.mapM (·.renderDeclarationWith env refs)
  let elements ← s.elements.values.mapM (·.renderDeclarationWith env refs)
  return "\n\n".intercalate (types ++ elements)

theorem Schema.render_eq_with (env : RenderEnv) (s : Schema) :
    s.render env = s.renderWith env env.references := by
  simp only [Schema.render,Schema.renderWith,TypeDefinition.renderDeclaration_eq_with,
    ElementDecl.renderDeclaration_eq_with]

section Schemas

variable (env : RenderEnv) {refs refs' : ReferenceField}

theorem Schema.renderWith_approx (h : ∀ q o d, Approx (refs q o d) (refs' q o d)) (s : Schema) :
    Approx (s.renderWith env refs) (s.renderWith env refs') :=
  (Approx.mapM _ fun t _ => TypeDefinition.renderDeclarationWith_approx env h t).bind fun _ =>
    (Approx.mapM _ fun d _ => ElementDecl.renderDeclarationWith_approx env h d).bind fun _ => .refl _

theorem Schema.outcome_renderWith (h : SameOutcomes refs refs') (s : Schema) :
    outcome (s.renderWith env refs) = outcome (s.renderWith env refs') :=
  outcome_bind (outcome_mapM _ fun t _ => TypeDefinition.outcome_renderDeclarationWith env h t) fun _ _ =>
    outcome_bind (outcome_mapM _ fun d _ => ElementDecl.outcome_renderDeclarationWith env h d) fun _ _ =>
      outcome_pure _ _

end Schemas

/-- Renders a registry with a given depth for element references. -/
def renderWithin (r : Registry) (n : Nat) : Except SchemaError String := do
  let env := r.renderEnv
  let blocks ← r.schemas.values.mapM (·.renderWith env (referenceField env n))
  return "\n\n".intercalate (Text.trimEnd (preamble r.config) :: blocks.filter (· ≠ "")) ++ "\n"

theorem render_eq_renderWithin (r : Registry) : r.render = r.renderWithin (r.elementCount + 1) := by
  simp only [render,renderWithin,Schema.render_eq_with]
  rfl

theorem renderWithin_approx (r : Registry) {n m : Nat} (h : n ≤ m) :
    Approx (r.renderWithin n) (r.renderWithin m) :=
  (Approx.mapM _ fun s _ => Schema.renderWith_approx _ (referenceField_approx _ h) s).bind fun _ =>
    .refl _

theorem outcome_renderWithin (r : Registry) {n m : Nat}
    (h : SameOutcomes (referenceField r.renderEnv n) (referenceField r.renderEnv m)) :
    outcome (r.renderWithin n) = outcome (r.renderWithin m) :=
  outcome_bind (outcome_mapM _ fun s _ => Schema.outcome_renderWith _ h s) fun _ _ => outcome_pure _ _

def elementNames (r : Registry) : List QName :=
  r.schemas.entries.flatMap fun e => e.2.elements.keys.map fun n => ⟨e.1,n⟩

theorem length_elementNames (r : Registry) : r.elementNames.length = r.elementCount := by
  simp [elementNames,elementCount,List.length_flatMap,Table.keys,Table.values,Table.size,
    List.sum_eq_foldl,Function.comp_def]

theorem mem_elementNames {r : Registry} {q : QName} (h : (r.renderEnv.element? q).isSome) :
    q ∈ r.elementNames := by
  obtain ⟨d,hd⟩ := Option.isSome_iff_exists.1 h
  simp only [renderEnv,element?,Option.bind_eq_some_iff] at hd
  obtain ⟨s,hs,hd⟩ := hd
  have hse := Table.mem_entries_of_get? hs
  have hde := Table.mem_entries_of_get? hd
  simp only [elementNames,List.mem_flatMap,List.mem_map]
  exact ⟨(q.ns,s),hse,q.localName,List.mem_map_of_mem hde,rfl⟩

/-- Rendering runs out of reference depth exactly when every depth does; otherwise more depth renders
the same. -/
theorem render_runs_out_iff_every_depth_does (r : Registry) :
    ((∃ q, r.render = .error (.referenceCycle q)) ↔
      ∀ n, ∃ q, r.renderWithin n = .error (.referenceCycle q)) ∧
    ((∀ q, r.render ≠ .error (.referenceCycle q)) →
      ∀ n, r.elementCount + 1 ≤ n → r.renderWithin n = r.render) := by
  have hnames : ∀ q, (r.renderEnv.element? q).isSome → q ∈ r.elementNames :=
    fun _ => mem_elementNames
  have hlen : r.elementNames.length ≤ r.elementCount := (length_elementNames r).le
  have hsettle : ∀ n, r.elementCount + 1 ≤ n →
      outcome (r.renderWithin n) = outcome (r.renderWithin (r.elementCount + 1)) := fun n hn =>
    outcome_renderWithin r ((referenceField_settles _ hnames hlen (by omega)).symm.trans
      (referenceField_settles _ hnames hlen (by omega)))
  rw [render_eq_renderWithin]
  simp only [← outcome_eq_exhausted]
  refine ⟨⟨fun hx n => ?_,fun h => h _⟩,fun hx n hn => ?_⟩
  · rcases Nat.lt_or_ge n (r.elementCount + 1) with hn | hn
    · by_contra hne
      rw [(renderWithin_approx r hn.le).eq hne] at hne
      exact hne hx
    · rw [hsettle n hn,hx]
  · exact ((renderWithin_approx r hn).eq fun h => (outcome_eq_exhausted.1 h).elim hx).symm

def selfReferencingElement : ElementDecl :=
  .mk "E" (.complex (.mk "E" none none [] [[.ref ⟨"urn:a","E"⟩ ⟨0,.unbounded⟩]] none))
    ⟨0,.unbounded⟩ none

/-- A schema whose element `E` refers to itself from within its anonymous type. -/
def selfReferencingSource : Source :=
  ⟨[(.path [.root,.normal "a.xsd"],
    "<xs:schema xmlns:xs=\"http://www.w3.org/2001/XMLSchema\" targetNamespace=\"urn:a\" xmlns:a=\"urn:a\">" ++
      "<xs:element name=\"E\"><xs:complexType><xs:sequence><xs:element ref=\"a:E\"/></xs:sequence>" ++
      "</xs:complexType></xs:element></xs:schema>")]⟩

def xsElement (tag : String) (attributes : List Xml.Attribute) (children : List Xml.Node) : Xml.Node :=
  .element tag (some "http://www.w3.org/2001/XMLSchema") attributes
    [⟨some "xs","http://www.w3.org/2001/XMLSchema"⟩,⟨some "a","urn:a"⟩] children

def selfReferencingNode : Xml.Node :=
  xsElement "element" [⟨none,"name","E"⟩]
    [xsElement "complexType" [] [xsElement "sequence" [] [xsElement "element" [⟨none,"ref","a:E"⟩] []]]]

def selfReferencingRoot : Xml.Node :=
  xsElement "schema" [⟨none,"targetNamespace","urn:a"⟩] [selfReferencingNode]

/-- The registry that loading `selfReferencingSource` leaves: `selfReferencingElement` registered in
the schema of `urn:a`, where the prefixes of the document are bound. -/
def selfReferencing : Registry :=
  ((prepared (Registry.new {}) selfReferencingRoot (.path ⟨"/a.xsd"⟩)).registerAll "urn:a"
    [.element selfReferencingElement]).ensureSchema "urn:a"

/-- Loading a schema with a self-referencing element gives a registry whose rendering runs out at
every depth. -/
theorem selfReferencing_render_runs_out :
    (run selfReferencingSource (Registry.new {}) (.load "/a.xsd")).1 = selfReferencing ∧
    (∃ evs, Session selfReferencingSource (Registry.new {}) selfReferencing evs) ∧
    ∃ q, selfReferencing.render = .error (.referenceCycle q) := by
  have he : ElementDecl.ofNode ⟨"urn:a",[("xs","http://www.w3.org/2001/XMLSchema"),("a","urn:a")]⟩
      selfReferencingNode = .ok selfReferencingElement := by
    rw [ElementDecl.ofNode_of_complexType (e := selfReferencingNode) rfl]
    simp (disch := decide) only [ComplexType.ofNode_of_no_content,ComplexType.ofSequence_eq,xsElement,
      Xml.Node.elementChildren,Xml.Node.children,List.filter_cons,Xml.Node.isElement,if_true,List.filter_nil,
      List.mapM_cons,List.mapM_nil,contentMember,sequenceMember,Xml.Node.localName?,Particle.ofNode]
    with_unfolding_all rfl
  have hds : (declarationNodes selfReferencingRoot).mapM
      (fun x => x.1 ⟨"urn:a",[("xs","http://www.w3.org/2001/XMLSchema"),("a","urn:a")]⟩ x.2) =
        .ok [.element selfReferencingElement] := by
    rw [show declarationNodes selfReferencingRoot = [(readElement,selfReferencingNode)] from rfl]
    simp only [List.mapM_cons,List.mapM_nil,readElement,he]
    rfl
  have hrun : (run selfReferencingSource (Registry.new {}) (.load "/a.xsd")).1 = selfReferencing := by
    refine run_load_of_selfContained rfl rfl rfl (eq_ok_of_toOption (by decide +kernel)) rfl (by decide) ?_
    exact hds
  exact ⟨hrun,exists_session_of_run_eq _ hrun,outcome_eq_exhausted.1 (by decide +kernel)⟩

end Registry

end SchemaTypes
