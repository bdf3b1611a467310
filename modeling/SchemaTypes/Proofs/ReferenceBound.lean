import Mathlib.Data.Finset.Card
import SchemaTypes.Proofs.RenderOutcome
set_option autoImplicit false

/-!
How much reference depth rendering needs. With more depth the reference renderer gives the same or
the one with less runs out (`referenceField_approx`). Which references run out shrinks with the
depth, and once it stays the same for one more level it stays the same for good; as only
registered elements can run out, it settles within as many levels as there are registered
elements (`referenceField_settles`). From there on, a reference that runs out runs out at every
depth: its rendering would never end.
-/

namespace SchemaTypes.Component

section Bound

variable (env : RenderEnv)

theorem referenceField_of_unregistered {q : QName} (h : env.element? q = none) (n : Nat) (o : Occurs)
    (d : Nat) : referenceField env n q o d = .error (.unresolvedElement q) := by
  cases n <;> simp [referenceField,h]

theorem referenceField_approx_succ :
    ∀ (n : Nat) (q : QName) (o : Occurs) (d : Nat),
      Approx (referenceField env n q o d) (referenceField env (n + 1) q o d)
  | 0, q, o, d => by
    simp only [referenceField]
    cases env.element? q with
    | some e => exact .inl rfl
    | none => exact .refl _
  | n + 1, q, o, d => by
    simp only [referenceField]
    cases env.element? q with
    | some e => exact ElementDecl.fieldWith_approx env (referenceField_approx_succ n) d o true e
    | none => exact .refl _

theorem referenceField_approx {n m : Nat} (h : n ≤ m) (q : QName) (o : Occurs) (d : Nat) :
    Approx (referenceField env n q o d) (referenceField env m q o d) := by
  induction h with
  | refl => exact .refl _
  | step _ ih => exact ih.trans (referenceField_approx_succ env _ q o d)

def SameOutcomes (refs refs' : ReferenceField) : Prop :=
  ∀ q o d o' d', outcome (refs q o d) = outcome (refs' q o' d')

theorem SameOutcomes.symm {refs refs' : ReferenceField} (h : SameOutcomes refs refs') :
    SameOutcomes refs' refs :=
  fun q o d o' d' => (h q o' d' o d).symm

theorem SameOutcomes.trans {refs refs' refs'' : ReferenceField} (h : SameOutcomes refs refs')
    (h' : SameOutcomes refs' refs'') : SameOutcomes refs refs'' :=
  fun q o d o' d' => (h q o d o d).trans (h' q o d o' d')

theorem sameOutcomes_referenceField_succ {n m : Nat}
    (h : SameOutcomes (referenceField env n) (referenceField env m)) :
    SameOutcomes (referenceField env (n + 1)) (referenceField env (m + 1)) := by
  intro q o d o' d'
  simp only [referenceField]
  cases env.element? q with
  | some e => exact ElementDecl.outcome_fieldWith env h e d d' o o' true true
  | none => rfl

theorem sameOutcomes_referenceField_self (n : Nat) :
    SameOutcomes (referenceField env n) (referenceField env n) := by
  induction n with
  | zero =>
    intro q o d o' d'
    simp only [referenceField]
  | succ n ih => exact sameOutcomes_referenceField_succ env ih

theorem sameOutcomes_referenceField_succ_of_stable {k : Nat}
    (h : SameOutcomes (referenceField env k) (referenceField env (k + 1))) {m : Nat} (hm : k ≤ m) :
    SameOutcomes (referenceField env m) (referenceField env (m + 1)) := by
  induction hm with
  | refl => exact h
  | step _ ih => exact sameOutcomes_referenceField_succ env ih

theorem sameOutcomes_referenceField_of_stable {k : Nat}
    (h : SameOutcomes (referenceField env k) (referenceField env (k + 1))) {m : Nat} (hm : k ≤ m) :
    SameOutcomes (referenceField env k) (referenceField env m) := by
  induction hm with
  | refl => exact sameOutcomes_referenceField_self env k
  | @step m hkm ih => exact ih.trans (sameOutcomes_referenceField_succ_of_stable env h hkm)

def exhaustedAt (names : List QName) (n : Nat) : Finset QName :=
  names.toFinset.filter fun q => outcome (referenceField env n q default 0) = .exhausted

variable {names : List QName}

theorem exhaustedAt_succ_subset (n : Nat) : exhaustedAt env names (n + 1) ⊆ exhaustedAt env names n := by
  intro q hq
  simp only [exhaustedAt,Finset.mem_filter] at hq ⊢
  refine ⟨hq.1,?_⟩
  by_contra hne
  rw [(referenceField_approx_succ env n q default 0).eq hne] at hne
  exact hne hq.2

variable (hnames : ∀ q, (env.element? q).isSome → q ∈ names)
include hnames

theorem sameOutcomes_of_exhaustedAt_eq {n : Nat}
    (h : exhaustedAt env names (n + 1) = exhaustedAt env names n) :
    SameOutcomes (referenceField env n) (referenceField env (n + 1)) := by
  intro q o d o' d'
  rw [sameOutcomes_referenceField_self env n q o d default 0,
    sameOutcomes_referenceField_self env (n + 1) q o' d' default 0]
  by_cases hq : outcome (referenceField env n q default 0) = .exhausted
  · have hreg : (env.element? q).isSome := by
      cases he : env.element? q with
      | some e => rfl
      | none => simp [referenceField_of_unregistered env he,outcome] at hq
    have hmem : q ∈ exhaustedAt env names (n + 1) := by
      rw [h]
      simp [exhaustedAt,hnames q hreg,hq]
    simp only [exhaustedAt,Finset.mem_filter] at hmem
    rw [hq,hmem.2]
  · rw [(referenceField_approx_succ env n q default 0).eq hq]

theorem card_exhaustedAt_add {j : Nat}
    (hj : ∀ i < j, ¬SameOutcomes (referenceField env i) (referenceField env (i + 1))) :
    (exhaustedAt env names j).card + j ≤ names.length := by
  induction j with
  | zero => exact (Finset.card_filter_le _ _).trans (List.toFinset_card_le names)
  | succ j ih =>
    have hlt : (exhaustedAt env names (j + 1)).card < (exhaustedAt env names j).card := by
      refine Finset.card_lt_card (Finset.ssubset_iff_subset_ne.2 ⟨exhaustedAt_succ_subset env j,?_⟩)
      exact fun h => hj j (by omega) (sameOutcomes_of_exhaustedAt_eq env hnames h)
    have := ih fun i hi => hj i (by omega)
    omega

theorem referenceField_settles {k : Nat} (hk : names.length ≤ k) {m : Nat} (hm : k ≤ m) :
    SameOutcomes (referenceField env k) (referenceField env m) := by
  have hstable : SameOutcomes (referenceField env k) (referenceField env (k + 1)) := by
    by_contra hne
    have hj : ∀ i < k + 1, ¬SameOutcomes (referenceField env i) (referenceField env (i + 1)) := by
      intro i hi hs
      exact hne (sameOutcomes_referenceField_succ_of_stable env hs (by omega))
    have := card_exhaustedAt_add env hnames hj
    omega
  exact sameOutcomes_referenceField_of_stable env hstable hm

end Bound

end SchemaTypes.Component
