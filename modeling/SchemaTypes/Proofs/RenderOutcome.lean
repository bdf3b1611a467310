import SchemaTypes.Component.Render
set_option autoImplicit false

/-!
How rendering depends on the renderer it is given for element references. A rendering gives a
text, fails with an error, or runs out of reference depth (`Outcome`). Which of the three a
component's rendering comes to is fixed by what the reference renderer comes to, whatever depth and
occurrence it is asked at (`ComplexType.outcome_renderExpr`). And a reference renderer that gives
the same as another or runs out renders every component the same as the other or runs out
(`ComplexType.renderExpr_approx`).
-/

namespace SchemaTypes.Component

/-- What a rendering comes to: a text, an error, or running out of reference depth. -/
inductive Outcome where
  | done
  | failed (e : SchemaError)
  | exhausted
  deriving DecidableEq

def outcome {α : Type} : Except SchemaError α → Outcome
  | .ok _ => .done
  | .error (.referenceCycle _) => .exhausted
  | .error e => .failed e

theorem outcome_eq_done {α : Type} {x : Except SchemaError α} : outcome x = .done ↔ ∃ a, x = .ok a := by
  cases x with
  | ok a => simp [outcome]
  | error e => cases e <;> simp [outcome]

theorem outcome_eq_exhausted {α : Type} {x : Except SchemaError α} :
    outcome x = .exhausted ↔ ∃ q, x = .error (.referenceCycle q) := by
  cases x with
  | ok a => simp [outcome]
  | error e => cases e <;> simp [outcome]

theorem outcome_pure {α β : Type} (a : α) (b : β) :
    outcome (pure a : Except SchemaError α) = outcome (pure b : Except SchemaError β) := rfl

theorem outcome_error {α β : Type} (e : SchemaError) :
    outcome (Except.error e : Except SchemaError α) = outcome (Except.error e : Except SchemaError β) := by
  cases e <;> rfl

theorem outcome_bind {α α' β β' : Type} {x : Except SchemaError α} {x' : Except SchemaError α'}
    {f : α → Except SchemaError β} {f' : α' → Except SchemaError β'} (hx : outcome x = outcome x')
    (hf : ∀ a a', outcome (f a) = outcome (f' a')) : outcome (x >>= f) = outcome (x' >>= f') := by
  cases x with
  | ok a =>
    cases x' with
    | ok a' => exact hf a a'
    | error e' =>
      obtain ⟨_,h⟩ := outcome_eq_done.1 hx.symm
      cases h
  | error e =>
    cases x' with
    | ok a' =>
      obtain ⟨_,h⟩ := outcome_eq_done.1 hx
      cases h
    | error e' =>
      show outcome (Except.error e : Except SchemaError β) = outcome (Except.error e' : Except SchemaError β')
      rw [outcome_error e,outcome_error e']
      exact hx

def Approx {α : Type} (x y : Except SchemaError α) : Prop := outcome x = .exhausted ∨ x = y

namespace Approx

variable {α β : Type}

theorem refl (x : Except SchemaError α) : Approx x x := .inr rfl

theorem trans {x y z : Except SchemaError α} (h : Approx x y) (h' : Approx y z) : Approx x z := by
  rcases h with h | rfl
  · exact .inl h
  · exact h'

theorem eq {x y : Except SchemaError α} (h : Approx x y) (hx : outcome x ≠ .exhausted) : x = y :=
  h.resolve_left hx

theorem bind {x x' : Except SchemaError α} {f f' : α → Except SchemaError β} (hx : Approx x x')
    (hf : ∀ a, Approx (f a) (f' a)) : Approx (x >>= f) (x' >>= f') := by
  rcases hx with hx | rfl
  · obtain ⟨q,rfl⟩ := outcome_eq_exhausted.1 hx
    exact .inl hx
  · cases x with
    | ok a => exact hf a
    | error e => exact .inr rfl

end Approx

theorem outcome_renderAttributeUses (env : RenderEnv) :
    ∀ (uses : List AttributeUse) (depth depth' : Nat),
      outcome (renderAttributeUses env depth uses) = outcome (renderAttributeUses env depth' uses)
  | [], _, _ => rfl
  | a :: rest, depth, depth' => by
    refine outcome_bind ?_ fun _ _ => outcome_bind (outcome_renderAttributeUses env rest depth depth')
      fun _ _ => outcome_pure _ _
    cases a with
    | decl d => exact outcome_pure _ _
    | ref q required fixed =>
      simp only [AttributeUse.renderField]
      cases env.attribute? q with
      | some target => exact outcome_pure _ _
      | none => rfl

section Approximation

set_option linter.unusedSectionVars false

variable (env : RenderEnv) {refs refs' : ReferenceField}
  (h : ∀ q o d, Approx (refs q o d) (refs' q o d))
include h

mutual

theorem ElementDecl.fieldWith_approx (depth : Nat) (occurs : Occurs) (withDoc : Bool) :
    ∀ e : ElementDecl,
      Approx (e.fieldWith env refs depth occurs withDoc) (e.fieldWith env refs' depth occurs withDoc)
  | .mk _ type _ _ => by
    simp only [ElementDecl.fieldWith]
    exact (ElementType.renderExpr_approx depth type).bind fun _ => .refl _

theorem ElementType.renderExpr_approx (depth : Nat) :
    ∀ t : ElementType, Approx (t.renderExpr env refs depth) (t.renderExpr env refs' depth)
  | .named _ => by simp only [ElementType.renderExpr]; exact .refl _
  | .complex t => by simp only [ElementType.renderExpr]; exact ComplexType.renderExpr_approx depth t
  | .simple _ => by simp only [ElementType.renderExpr]; exact .refl _

theorem ComplexType.renderExpr_approx (depth : Nat) :
    ∀ c : ComplexType, Approx (c.renderExpr env refs depth) (c.renderExpr env refs' depth)
  | .mk _ _ _ _ variants _ => by
    simp only [ComplexType.renderExpr]
    exact (Approx.refl _).bind fun _ => (renderVariants_approx (depth + 1) variants).bind fun _ => .refl _

theorem renderVariants_approx (depth : Nat) :
    ∀ vs : List (List Particle), Approx (renderVariants env refs depth vs) (renderVariants env refs' depth vs)
  | [] => by simp only [renderVariants]; exact .refl _
  | v :: vs => by
    simp only [renderVariants]
    exact (renderParticles_approx depth v).bind fun _ => (renderVariants_approx depth vs).bind fun _ => .refl _

theorem renderParticles_approx (depth : Nat) :
    ∀ ps : List Particle, Approx (renderParticles env refs depth ps) (renderParticles env refs' depth ps)
  | [] => by simp only [renderParticles]; exact .refl _
  | p :: ps => by
    simp only [renderParticles]
    exact (Particle.renderField_approx depth p).bind fun _ => (renderParticles_approx depth ps).bind fun _ => .refl _

theorem Particle.renderField_approx (depth : Nat) :
    ∀ p : Particle, Approx (p.renderField env refs depth) (p.renderField env refs' depth)
  | .element e => by
    simp only [Particle.renderField]
    exact ElementDecl.fieldWith_approx depth e.occurs true e
  | .ref q occurs => by
    simp only [Particle.renderField]
    exact h q occurs depth

end

end Approximation

section Outcomes

set_option linter.unusedSectionVars false

variable (env : RenderEnv) {refs refs' : ReferenceField}
  (h : ∀ q o d o' d', outcome (refs q o d) = outcome (refs' q o' d'))
include h

mutual

theorem ElementDecl.outcome_fieldWith :
    ∀ (e : ElementDecl) (depth depth' : Nat) (occurs occurs' : Occurs) (withDoc withDoc' : Bool),
      outcome (e.fieldWith env refs depth occurs withDoc) =
        outcome (e.fieldWith env refs' depth' occurs' withDoc')
  | .mk _ type _ _, depth, depth', _, _, _, _ => by
    simp only [ElementDecl.fieldWith]
    exact outcome_bind (ElementType.outcome_renderExpr type depth depth') fun _ _ => outcome_pure _ _

theorem ElementType.outcome_renderExpr :
    ∀ (t : ElementType) (depth depth' : Nat),
      outcome (t.renderExpr env refs depth) = outcome (t.renderExpr env refs' depth')
  | .named _, _, _ => by simp only [ElementType.renderExpr]
  | .complex t, depth, depth' => by
    simp only [ElementType.renderExpr]
    exact ComplexType.outcome_renderExpr t depth depth'
  | .simple _, _, _ => by simp only [ElementType.renderExpr]

theorem ComplexType.outcome_renderExpr :
    ∀ (c : ComplexType) (depth depth' : Nat),
      outcome (c.renderExpr env refs depth) = outcome (c.renderExpr env refs' depth')
  | .mk _ _ _ attributes variants _, depth, depth' => by
    simp only [ComplexType.renderExpr]
    exact outcome_bind (outcome_renderAttributeUses env attributes (depth + 1) (depth' + 1)) fun _ _ =>
      outcome_bind (outcome_renderVariants variants (depth + 1) (depth' + 1)) fun _ _ => outcome_pure _ _

theorem outcome_renderVariants :
    ∀ (vs : List (List Particle)) (depth depth' : Nat),
      outcome (renderVariants env refs depth vs) = outcome (renderVariants env refs' depth' vs)
  | [], _, _ => by simp only [renderVariants]
  | v :: vs, depth, depth' => by
    simp only [renderVariants]
    exact outcome_bind (outcome_renderParticles v depth depth') fun _ _ =>
      outcome_bind (outcome_renderVariants vs depth depth') fun _ _ => outcome_pure _ _

theorem outcome_renderParticles :
    ∀ (ps : List Particle) (depth depth' : Nat),
      outcome (renderParticles env refs depth ps) = outcome (renderParticles env refs' depth' ps)
  | [], _, _ => by simp only [renderParticles]
  | p :: ps, depth, depth' => by
    simp only [renderParticles]
    exact outcome_bind (Particle.outcome_renderField p depth depth') fun _ _ =>
      outcome_bind (outcome_renderParticles ps depth depth') fun _ _ => outcome_pure _ _

theorem Particle.outcome_renderField :
    ∀ (p : Particle) (depth depth' : Nat),
      outcome (p.renderField env refs depth) = outcome (p.renderField env refs' depth')
  | .element e, depth, depth' => by
    simp only [Particle.renderField]
    exact ElementDecl.outcome_fieldWith e depth depth' e.occurs e.occurs true true
  | .ref q occurs, depth, depth' => by
    simp only [Particle.renderField]
    exact h q occurs depth occurs depth'

end

end Outcomes

end SchemaTypes.Component
