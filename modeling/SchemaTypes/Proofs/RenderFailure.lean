import SchemaTypes.Proofs.SelfContainedLoads
set_option autoImplicit false

/-!
Why rendering fails. Rendering meets element and attribute references in a fixed order: schema by
schema in table order, in each the types and then the elements, in each complex type the attribute
uses before the particles of its alternatives, and an element reference is followed into the
declaration it names, as deep as rendering goes (`Registry.reached`). A type reference is never met
this way: one that names nothing renders as `unknown`. Rendering fails with the error of the first
reference it meets that names nothing registered, or that lies deeper than rendering follows
references (`errorOf_render`). Where rendering does not run out of depth, which is where rendering
without a bound would end (`render_runs_out_iff_every_depth_does`), its error is that of the first
unresolved element or attribute reference, and there is no other
(`render_fails_at_the_first_unresolved_reference`).
-/

namespace SchemaTypes

open SchemaTypes.Script

namespace Component

/-- A reference that rendering meets: to an element, to an attribute, or to an element whose
declaration lies deeper than rendering follows references. -/
inductive Reached where
  | elementRef (q : QName)
  | attributeRef (q : QName)
  | tooDeep (q : QName)
  deriving DecidableEq

/-- The error for a reference that names nothing registered. -/
def Reached.unresolved? (env : RenderEnv) : Reached → Option SchemaError
  | .elementRef q => if (env.element? q).isSome then none else some (.unresolvedElement q)
  | .attributeRef q => if (env.attribute? q).isSome then none else some (.unresolvedAttribute q)
  | .tooDeep _ => none

def Reached.failure? (env : RenderEnv) : Reached → Option SchemaError
  | .tooDeep q => some (.referenceCycle q)
  | x => x.unresolved? env

def firstFailure (env : RenderEnv) (l : List Reached) : Option SchemaError :=
  l.findSome? (·.failure? env)

def errorOf {α : Type} : Except SchemaError α → Option SchemaError
  | .ok _ => none
  | .error e => some e

/-- The attribute a use refers to, if it is a reference. -/
def AttributeUse.reached : AttributeUse → List Reached
  | .decl _ => []
  | .ref q _ _ => [.attributeRef q]

mutual

/-- The references met rendering an element declaration, given those met from each element
reference. -/
def ElementDecl.reached (refs : QName → List Reached) : ElementDecl → List Reached
  | .mk _ type _ _ => ElementType.reached refs type

/-- The references met rendering the type of an element. -/
def ElementType.reached (refs : QName → List Reached) : ElementType → List Reached
  | .named _ => []
  | .complex t => ComplexType.reached refs t
  | .simple _ => []

/-- The references met rendering a complex type: its attribute uses, then its alternatives. -/
def ComplexType.reached (refs : QName → List Reached) : ComplexType → List Reached
  | .mk _ _ _ attributes variants _ =>
    attributes.flatMap AttributeUse.reached ++ variantsReached refs variants

def variantsReached (refs : QName → List Reached) : List (List Particle) → List Reached
  | [] => []
  | v :: vs => particlesReached refs v ++ variantsReached refs vs

def particlesReached (refs : QName → List Reached) : List Particle → List Reached
  | [] => []
  | p :: ps => Particle.reached refs p ++ particlesReached refs ps

/-- The references met rendering a particle. -/
def Particle.reached (refs : QName → List Reached) : Particle → List Reached
  | .element e => ElementDecl.reached refs e
  | .ref q _ => refs q

end

def referenceReached (env : RenderEnv) : Nat → QName → List Reached
  | 0, q => .elementRef q :: if (env.element? q).isSome then [.tooDeep q] else []
  | fuel + 1, q => .elementRef q ::
    match env.element? q with
    | some d => d.reached (referenceReached env fuel)
    | none => []

/-- The references met rendering the declaration of a type definition; only complex types have
any. -/
def TypeDefinition.reached (refs : QName → List Reached) : TypeDefinition → List Reached
  | .complex c => c.reached refs
  | _ => []

/-! ## Rendering stops at the first failing reference -/

section Failure

variable (env : RenderEnv)

@[simp] theorem errorOf_pure {α : Type} (a : α) : errorOf (pure a : Except SchemaError α) = none := rfl

theorem errorOf_eq_some {α : Type} {x : Except SchemaError α} {e : SchemaError} :
    errorOf x = some e ↔ x = .error e := by
  cases x <;> simp [errorOf]

@[simp] theorem firstFailure_nil : firstFailure env [] = none := rfl

theorem firstFailure_append (l l' : List Reached) :
    firstFailure env (l ++ l') = (firstFailure env l).or (firstFailure env l') :=
  List.findSome?_append

theorem firstFailure_cons_of_resolved {x : Reached} (hx : x.failure? env = none) (l : List Reached) :
    firstFailure env (x :: l) = firstFailure env l := by
  simp [firstFailure,hx]

variable {env}

theorem errorOf_bind {α β : Type} {x : Except SchemaError α} {f : α → Except SchemaError β}
    {l l' : List Reached} (hx : errorOf x = firstFailure env l)
    (hf : ∀ a, errorOf (f a) = firstFailure env l') : errorOf (x >>= f) = firstFailure env (l ++ l') := by
  rw [firstFailure_append,← hx]
  cases x with
  | ok a => exact hf a
  | error e => rfl

theorem errorOf_bind_pure {α β : Type} {x : Except SchemaError α} {g : α → β} {l : List Reached}
    (hx : errorOf x = firstFailure env l) :
    errorOf (x >>= fun a => pure (g a)) = firstFailure env l := by
  rw [← hx]
  cases x <;> rfl

theorem errorOf_mapM {α β : Type} {f : α → Except SchemaError β} {g : α → List Reached} :
    ∀ (xs : List α), (∀ x ∈ xs, errorOf (f x) = firstFailure env (g x)) →
      errorOf (xs.mapM f) = firstFailure env (xs.flatMap g)
  | [], _ => rfl
  | x :: xs, h => by
    rw [List.mapM_cons,List.flatMap_cons]
    exact errorOf_bind (h x List.mem_cons_self) fun _ =>
      errorOf_bind_pure (errorOf_mapM xs fun y hy => h y (List.mem_cons_of_mem x hy))

variable (env)

theorem errorOf_renderAttributeUses (depth : Nat) :
    ∀ uses : List AttributeUse,
      errorOf (renderAttributeUses env depth uses) = firstFailure env (uses.flatMap AttributeUse.reached)
  | [] => rfl
  | a :: rest => by
    simp only [renderAttributeUses,List.flatMap_cons]
    refine errorOf_bind ?_ fun _ => errorOf_bind_pure (errorOf_renderAttributeUses depth rest)
    cases a with
    | decl d => rfl
    | ref q required fixed =>
      simp only [AttributeUse.renderField,AttributeUse.reached]
      cases hq : env.attribute? q with
      | some target => simp [firstFailure,Reached.failure?,Reached.unresolved?,hq,errorOf]
      | none => simp [firstFailure,Reached.failure?,Reached.unresolved?,hq,errorOf]

set_option linter.unusedSectionVars false

variable {refs : ReferenceField} {walk : QName → List Reached}
  (h : ∀ q o d, errorOf (refs q o d) = firstFailure env (walk q))
include h

mutual

theorem ElementDecl.errorOf_fieldWith :
    ∀ (e : ElementDecl) (depth : Nat) (occurs : Occurs) (withDoc : Bool),
      errorOf (e.fieldWith env refs depth occurs withDoc) = firstFailure env (e.reached walk)
  | .mk _ type _ _, depth, _, _ => by
    simp only [ElementDecl.fieldWith,ElementDecl.reached]
    exact errorOf_bind_pure (ElementType.errorOf_renderExpr type depth)

theorem ElementType.errorOf_renderExpr :
    ∀ (t : ElementType) (depth : Nat),
      errorOf (t.renderExpr env refs depth) = firstFailure env (t.reached walk)
  | .named _, _ => rfl
  | .complex t, depth => by
    simp only [ElementType.renderExpr,ElementType.reached]
    exact ComplexType.errorOf_renderExpr t depth
  | .simple _, _ => rfl

theorem ComplexType.errorOf_renderExpr :
    ∀ (c : ComplexType) (depth : Nat),
      errorOf (c.renderExpr env refs depth) = firstFailure env (c.reached walk)
  | .mk _ _ _ attributes variants _, depth => by
    simp only [ComplexType.renderExpr,ComplexType.reached]
    exact errorOf_bind (errorOf_renderAttributeUses env (depth + 1) attributes) fun _ =>
      errorOf_bind_pure (errorOf_renderVariants variants (depth + 1))

theorem errorOf_renderVariants :
    ∀ (vs : List (List Particle)) (depth : Nat),
      errorOf (renderVariants env refs depth vs) = firstFailure env (variantsReached walk vs)
  | [], _ => rfl
  | v :: vs, depth => by
    simp only [renderVariants,variantsReached]
    exact errorOf_bind (errorOf_renderParticles v depth) fun _ =>
      errorOf_bind_pure (errorOf_renderVariants vs depth)

theorem errorOf_renderParticles :
    ∀ (ps : List Particle) (depth : Nat),
      errorOf (renderParticles env refs depth ps) = firstFailure env (particlesReached walk ps)
  | [], _ => rfl
  | p :: ps, depth => by
    simp only [renderParticles,particlesReached]
    exact errorOf_bind (Particle.errorOf_renderField p depth) fun _ =>
      errorOf_bind_pure (errorOf_renderParticles ps depth)

theorem Particle.errorOf_renderField :
    ∀ (p : Particle) (depth : Nat),
      errorOf (p.renderField env refs depth) = firstFailure env (p.reached walk)
  | .element e, depth => by
    simp only [Particle.renderField,Particle.reached]
    exact ElementDecl.errorOf_fieldWith e depth e.occurs true
  | .ref q occurs, depth => by
    simp only [Particle.renderField,Particle.reached]
    exact h q occurs depth

end

end Failure

theorem errorOf_referenceField (env : RenderEnv) :
    ∀ (fuel : Nat) (q : QName) (o : Occurs) (d : Nat),
      errorOf (referenceField env fuel q o d) = firstFailure env (referenceReached env fuel q)
  | 0, q, _, _ => by
    simp only [referenceField,referenceReached]
    cases hq : env.element? q with
    | some e => simp [firstFailure,Reached.failure?,Reached.unresolved?,hq,errorOf]
    | none => simp [firstFailure,Reached.failure?,Reached.unresolved?,hq,errorOf]
  | fuel + 1, q, o, d => by
    simp only [referenceField,referenceReached]
    cases hq : env.element? q with
    | some e =>
      rw [firstFailure_cons_of_resolved env (by simp [Reached.failure?,Reached.unresolved?,hq])]
      exact ElementDecl.errorOf_fieldWith env (errorOf_referenceField env fuel) e d o true
    | none => simp [firstFailure,Reached.failure?,Reached.unresolved?,hq,errorOf]

theorem firstFailure_eq_unresolved (env : RenderEnv) :
    ∀ l : List Reached, (∀ q, firstFailure env l ≠ some (.referenceCycle q)) →
      firstFailure env l = l.findSome? (·.unresolved? env)
  | [], _ => rfl
  | x :: l, h => by
    have hfx : x.failure? env = x.unresolved? env := by
      cases x with
      | elementRef q => rfl
      | attributeRef q => rfl
      | tooDeep q => exact (h q rfl).elim
    simp only [firstFailure,List.findSome?_cons] at h ⊢
    rw [hfx] at h ⊢
    cases hu : x.unresolved? env with
    | some e => rfl
    | none =>
      simp only [hu] at h
      exact firstFailure_eq_unresolved env l h

theorem unresolved?_eq_some {env : RenderEnv} {x : Reached} {e : SchemaError}
    (h : x.unresolved? env = some e) :
    (∃ q, x = .elementRef q ∧ e = .unresolvedElement q ∧ env.element? q = none) ∨
      ∃ q, x = .attributeRef q ∧ e = .unresolvedAttribute q ∧ env.attribute? q = none := by
  cases x with
  | elementRef q =>
    cases hq : env.element? q <;> simp_all [Reached.unresolved?]
  | attributeRef q =>
    cases hq : env.attribute? q <;> simp_all [Reached.unresolved?]
  | tooDeep q => cases h

end Component

namespace Registry

open SchemaTypes.Component

/-- The references met rendering a registry, in order: schema by schema, the types of each and
then its elements, following element references as deep as rendering does. -/
def reached (r : Registry) : List Reached :=
  let walk := referenceReached r.renderEnv (r.elementCount + 1)
  r.schemas.values.flatMap fun s =>
    s.types.values.flatMap (TypeDefinition.reached walk) ++ s.elements.values.flatMap (ElementDecl.reached walk)

theorem errorOf_render (r : Registry) : errorOf r.render = firstFailure r.renderEnv r.reached := by
  have hrefs := errorOf_referenceField r.renderEnv (r.elementCount + 1)
  have htype : ∀ t : TypeDefinition, errorOf (t.renderDeclaration r.renderEnv) =
      firstFailure r.renderEnv (t.reached (referenceReached r.renderEnv (r.elementCount + 1))) := by
    intro t
    cases t with
    | builtin => rfl
    | simple => rfl
    | complex c =>
      simp only [TypeDefinition.renderDeclaration,TypeDefinition.reached]
      exact errorOf_bind_pure (ComplexType.errorOf_renderExpr r.renderEnv hrefs c 0)
  have helement : ∀ d : ElementDecl, errorOf (d.renderDeclaration r.renderEnv) =
      firstFailure r.renderEnv (d.reached (referenceReached r.renderEnv (r.elementCount + 1))) :=
    fun d => errorOf_bind_pure (ElementDecl.errorOf_fieldWith r.renderEnv hrefs d 1 d.occurs false)
  simp only [render,reached,Schema.render]
  exact errorOf_bind_pure (errorOf_mapM _ fun s _ =>
    errorOf_bind (errorOf_mapM _ fun t _ => htype t) fun _ =>
      errorOf_bind_pure (errorOf_mapM _ fun d _ => helement d))

/-- Where rendering does not run out of depth, it fails exactly at the first element or attribute
reference that names nothing registered. -/
theorem render_fails_at_the_first_unresolved_reference (r : Registry)
    (hends : ∀ q, r.render ≠ .error (.referenceCycle q)) :
    (∀ e, r.render = .error e ↔ r.reached.findSome? (·.unresolved? r.renderEnv) = some e) ∧
    ((∃ e, r.render = .error e) ↔ ∃ x ∈ r.reached, (x.unresolved? r.renderEnv).isSome) ∧
    (∀ e, r.render = .error e →
      (∃ q, e = .unresolvedElement q ∧ r.element? q = none) ∨
        ∃ q, e = .unresolvedAttribute q ∧ r.attribute? q = none) ∧
    ∀ t : TypeRef, t.target.bind r.typeDefinition? = none → t.render r.renderEnv = unknownType := by
  have hfirst : firstFailure r.renderEnv r.reached = r.reached.findSome? (·.unresolved? r.renderEnv) := by
    refine firstFailure_eq_unresolved _ _ fun q hq => hends q ?_
    rw [← errorOf_render] at hq
    exact errorOf_eq_some.1 hq
  have herror : ∀ e, r.render = .error e ↔ r.reached.findSome? (·.unresolved? r.renderEnv) = some e := by
    intro e
    rw [← hfirst,← errorOf_render,errorOf_eq_some]
  refine ⟨herror,?_,fun e he => ?_,fun t ht => ?_⟩
  · simp only [herror,← Option.isSome_iff_exists,List.isSome_findSome?,List.any_eq_true]
  · obtain ⟨x,-,hx⟩ := List.exists_of_findSome?_eq_some ((herror e).1 he)
    rcases unresolved?_eq_some hx with ⟨q,-,rfl,hq⟩ | ⟨q,-,rfl,hq⟩
    · exact .inl ⟨q,rfl,hq⟩
    · exact .inr ⟨q,rfl,hq⟩
  · obtain ⟨target,written⟩ := t
    cases target with
    | none => rfl
    | some q =>
      simp only [Option.bind_some] at ht
      simp [TypeRef.render,renderEnv,typeIdentifier?,ht]

def danglingReferences : ComplexType :=
  .mk "T" none none [.ref ⟨"urn:t","missingAttribute"⟩ false none]
    [[.ref ⟨"urn:t","missingElement"⟩ ⟨0,.unbounded⟩]] none

/-- A schema whose complex type `T` refers to an attribute and an element it does not declare. -/
def danglingSource : Source :=
  ⟨[(.path [.root,.normal "t.xsd"],
    "<schema targetNamespace='urn:t' xmlns:t='urn:t'><complexType name='T'>" ++
      "<attribute ref='t:missingAttribute'/><sequence><element ref='t:missingElement'/></sequence>" ++
      "</complexType></schema>")]⟩

def danglingNode : Xml.Node :=
  .element "complexType" none [⟨none,"name","T"⟩] [⟨some "t","urn:t"⟩]
    [.element "attribute" none [⟨none,"ref","t:missingAttribute"⟩] [⟨some "t","urn:t"⟩] [],
     .element "sequence" none [] [⟨some "t","urn:t"⟩]
      [.element "element" none [⟨none,"ref","t:missingElement"⟩] [⟨some "t","urn:t"⟩] []]]

def danglingRoot : Xml.Node :=
  .element "schema" none [⟨none,"targetNamespace","urn:t"⟩] [⟨some "t","urn:t"⟩] [danglingNode]

/-- The registry that loading `danglingSource` leaves: `danglingReferences` registered as a type of
`urn:t`, where the prefix of the document is bound. -/
def danglingRegistry : Registry :=
  ((prepared (Registry.new {}) danglingRoot (.path ⟨"/t.xsd"⟩)).registerAll "urn:t"
    [.type (.complex danglingReferences)]).ensureSchema "urn:t"

/-- Loading `danglingSource` gives `danglingRegistry`, whose rendering ends and fails at the
attribute reference, which comes before the element reference. -/
theorem danglingRegistry_fails_at_its_attribute :
    (run danglingSource (Registry.new {}) (.load "/t.xsd")).1 = danglingRegistry ∧
    (∃ evs, Session danglingSource (Registry.new {}) danglingRegistry evs) ∧
    (∀ q, danglingRegistry.render ≠ .error (.referenceCycle q)) ∧
    (∀ e, danglingRegistry.render = .error e ↔
      danglingRegistry.reached.findSome? (·.unresolved? danglingRegistry.renderEnv) = some e) ∧
    ((∃ e, danglingRegistry.render = .error e) ↔
      ∃ x ∈ danglingRegistry.reached, (x.unresolved? danglingRegistry.renderEnv).isSome) ∧
    (∀ e, danglingRegistry.render = .error e →
      (∃ q, e = .unresolvedElement q ∧ danglingRegistry.element? q = none) ∨
        ∃ q, e = .unresolvedAttribute q ∧ danglingRegistry.attribute? q = none) ∧
    ∀ t : TypeRef, t.target.bind danglingRegistry.typeDefinition? = none →
      t.render danglingRegistry.renderEnv = unknownType := by
  have hT : readComplexType ⟨"urn:t",[("t","urn:t")]⟩ danglingNode = .ok (.type (.complex danglingReferences)) := by
    simp (disch := decide) only [readComplexType,danglingNode,ComplexType.ofNode_of_no_content,ComplexType.ofSequence_eq,
      Xml.Node.elementChildren,Xml.Node.children,List.filter_cons,Xml.Node.isElement,if_true,List.filter_nil,
      List.mapM_cons,List.mapM_nil,contentMember,sequenceMember,Xml.Node.localName?,Particle.ofNode]
    with_unfolding_all rfl
  have hds : (declarationNodes danglingRoot).mapM (fun x => x.1 ⟨"urn:t",[("t","urn:t")]⟩ x.2) =
      .ok [.type (.complex danglingReferences)] := by
    rw [show declarationNodes danglingRoot = [(readComplexType,danglingNode)] from rfl]
    simp only [List.mapM_cons,List.mapM_nil,hT]
    rfl
  have hrun : (run danglingSource (Registry.new {}) (.load "/t.xsd")).1 = danglingRegistry := by
    refine run_load_of_selfContained rfl rfl rfl (eq_ok_of_toOption (by decide +kernel)) rfl (by decide) ?_
    exact hds
  have hr : danglingRegistry.render = .error (.unresolvedAttribute ⟨"urn:t","missingAttribute"⟩) :=
    errorOf_eq_some.1 (by decide +kernel)
  have hends : ∀ q, danglingRegistry.render ≠ .error (.referenceCycle q) := by
    intro q h
    rw [hr] at h
    cases h
  exact ⟨hrun,exists_session_of_run_eq _ hrun,hends,
    render_fails_at_the_first_unresolved_reference danglingRegistry hends⟩

end Registry

end SchemaTypes
