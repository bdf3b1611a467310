import SchemaTypes.Component.Render
import SchemaTypes.Proofs.DeclarationReading
set_option autoImplicit false

/-!
Reading the facets of a restriction. Each child is read on its own, whatever the children before
it gave, into the value it holds (`FacetValue.read`); the value is then applied to the facets read
so far (`step_eq_read`), so reading is a left fold of the values in document order
(`ofNode_eq`). A child fails exactly when it is a facet without `value` or a count facet whose
value is no count, and reading fails with the error of the first such child (`ofNode_eq_error_iff`).

The facets fall into groups that set their own fields and nothing else: `minInclusive`;
`totalDigits`; `fractionDigits`; `minLength`, `maxLength` and `length`; `pattern`; `enumeration`. A
value sets the fields of its group from those fields alone (`FacetValue.restrictTo_apply`), so the
fields of a group are fixed by the children of that group in their order (`restrictTo_foldl`).
Children of different groups may therefore be exchanged without changing what reading gives.
-/

namespace SchemaTypes.Component

open SchemaTypes.Xml

/-! ## Groups of facets -/

/-- The groups of facets that set the same fields. -/
inductive FacetGroup where
  | minInclusive
  | totalDigits
  | fractionDigits
  | length
  | pattern
  | enumeration
  deriving DecidableEq, Repr

def facetGroup (c : Node) : Option FacetGroup :=
  match c.localName? with
  | some "minInclusive" => some .minInclusive
  | some "totalDigits" => some .totalDigits
  | some "fractionDigits" => some .fractionDigits
  | some "minLength" => some .length
  | some "maxLength" => some .length
  | some "length" => some .length
  | some "pattern" => some .pattern
  | some "enumeration" => some .enumeration
  | _ => none

def Facets.restrictTo : FacetGroup → Facets → Facets
  | .minInclusive, f => { minInclusive := f.minInclusive }
  | .totalDigits, f => { totalDigits := f.totalDigits }
  | .fractionDigits, f => { fractionDigits := f.fractionDigits }
  | .length, f => { minLength := f.minLength, maxLength := f.maxLength }
  | .pattern, f => { pattern := f.pattern }
  | .enumeration, f => { enumeration := f.enumeration }

theorem Facets.eq_of_restrictTo {f g : Facets} (h : ∀ k, f.restrictTo k = g.restrictTo k) : f = g := by
  have h₁ := h .minInclusive
  have h₂ := h .totalDigits
  have h₃ := h .fractionDigits
  have h₄ := h .length
  have h₅ := h .pattern
  have h₆ := h .enumeration
  cases f
  cases g
  simp_all [restrictTo]

/-! ## The value of one child -/

theorem map_eq_ok {ε α β : Type} {f : α → β} {x : Except ε α} {b : β} (h : f <$> x = .ok b) :
    ∃ a, x = .ok a ∧ f a = b := by
  cases x with
  | error e => cases h
  | ok a => exact ⟨a,rfl,by cases h; rfl⟩

/-- What one child of a restriction gives, read apart from the children before it. -/
inductive FacetValue where
  | minInclusive (s : String)
  | totalDigits (n : Nat)
  | fractionDigits (n : Nat)
  | minLength (n : Nat)
  | maxLength (n : Nat)
  | length (n : Nat)
  | pattern (p : String)
  | enumeration (v : EnumerationValue)
  | ignored

namespace FacetValue

def read (c : Node) : Except SchemaError FacetValue :=
  match c.localName? with
  | some "minInclusive" => minInclusive <$> requiredText c "minInclusive" "value"
  | some "totalDigits" => totalDigits <$> requiredCount c "totalDigits" "value"
  | some "fractionDigits" => fractionDigits <$> requiredCount c "fractionDigits" "value"
  | some "minLength" => minLength <$> requiredCount c "minLength" "value"
  | some "maxLength" => maxLength <$> requiredCount c "maxLength" "value"
  | some "length" => length <$> requiredCount c "length" "value"
  | some "pattern" => pattern <$> requiredText c "pattern" "value"
  | some "enumeration" =>
    (fun v => enumeration ⟨v, Annotations.ofNode? c⟩) <$> requiredText c "enumeration" "value"
  | _ => pure ignored

def apply (f : Facets) : FacetValue → Facets
  | minInclusive s => { f with minInclusive := some s }
  | totalDigits n => { f with totalDigits := some n }
  | fractionDigits n => { f with fractionDigits := some n }
  | minLength n => { f with minLength := some n }
  | maxLength n => { f with maxLength := some n }
  | length n => { f with minLength := some n, maxLength := some n }
  | pattern p => { f with pattern := some (Facets.addPattern f.pattern p) }
  | enumeration v => { f with enumeration := f.enumeration ++ [v] }
  | ignored => f

def group : FacetValue → Option FacetGroup
  | minInclusive _ => some .minInclusive
  | totalDigits _ => some .totalDigits
  | fractionDigits _ => some .fractionDigits
  | minLength _ | maxLength _ | length _ => some .length
  | pattern _ => some .pattern
  | enumeration _ => some .enumeration
  | ignored => none

theorem group_of_read {c : Node} {v : FacetValue} (h : read c = .ok v) : v.group = facetGroup c := by
  unfold read at h
  unfold facetGroup
  split at h
  case h_9 =>
    cases h
    rfl
  all_goals
    obtain ⟨x,-,rfl⟩ := map_eq_ok h
    rfl

theorem restrictTo_apply (f : Facets) (v : FacetValue) (k : FacetGroup) :
    (v.apply f).restrictTo k = (v.apply (f.restrictTo k)).restrictTo k := by
  cases v <;> cases k <;> rfl

theorem restrictTo_apply_of_ne {f : Facets} {v : FacetValue} {k : FacetGroup} (h : v.group ≠ some k) :
    (v.apply f).restrictTo k = f.restrictTo k := by
  cases v <;> cases k <;> simp_all [group,apply,Facets.restrictTo]

end FacetValue

theorem Facets.step_eq_read (f : Facets) (c : Node) :
    Facets.step f c = (fun v => v.apply f) <$> FacetValue.read c := by
  unfold Facets.step FacetValue.read
  generalize c.localName? = k
  split
  case h_9 => simp_all [pure,Except.pure,Functor.map,Except.map,FacetValue.apply]
  all_goals
    simp only [bind_pure_comp,Functor.map_map]
    rfl

/-! ## Folds of values -/

theorem foldlM_step (cs : List Node) (f : Facets) :
    cs.foldlM Facets.step f = (fun vs => vs.foldl FacetValue.apply f) <$> cs.mapM FacetValue.read := by
  induction cs generalizing f with
  | nil => rfl
  | cons c cs ih =>
    rw [List.foldlM_cons,Facets.step_eq_read,List.mapM_cons]
    cases FacetValue.read c with
    | error e => rfl
    | ok v =>
      simp only [Functor.map,Except.map,bind,Except.bind,ih]
      cases cs.mapM FacetValue.read <;> rfl

theorem Facets.ofNode_eq (r : Node) : Facets.ofNode r =
    (fun vs => vs.foldl FacetValue.apply {}) <$> r.elementChildren.mapM FacetValue.read :=
  foldlM_step _ _

theorem restrictTo_foldl (k : FacetGroup) : ∀ (vs : List FacetValue) (f f' : Facets),
    f.restrictTo k = f'.restrictTo k →
      (vs.foldl FacetValue.apply f).restrictTo k =
        ((vs.filter (·.group == some k)).foldl FacetValue.apply f').restrictTo k
  | [], f, f', h => h
  | v :: vs, f, f', h => by
    by_cases hv : v.group = some k
    · have hstep : (v.apply f).restrictTo k = (v.apply f').restrictTo k := by
        rw [FacetValue.restrictTo_apply,h,← FacetValue.restrictTo_apply]
      rw [List.foldl_cons,List.filter_cons_of_pos (by simpa using hv),List.foldl_cons]
      exact restrictTo_foldl k vs _ _ hstep
    · rw [List.foldl_cons,List.filter_cons_of_neg (by simpa using hv)]
      exact restrictTo_foldl k vs _ _ ((FacetValue.restrictTo_apply_of_ne hv).trans h)

theorem mapM_read_filter (k : FacetGroup) : ∀ {cs : List Node} {vs : List FacetValue},
    cs.mapM FacetValue.read = .ok vs →
      (cs.filter (facetGroup · == some k)).mapM FacetValue.read = .ok (vs.filter (·.group == some k))
  | [], vs, h => by
    cases h
    rfl
  | c :: cs, vs, h => by
    rw [List.mapM_cons] at h
    obtain ⟨v,hv,h⟩ := bind_eq_ok h
    obtain ⟨ws,hws,h⟩ := bind_eq_ok h
    cases h
    have hrest := mapM_read_filter k hws
    rw [List.filter_cons,List.filter_cons,FacetValue.group_of_read hv]
    split
    · rw [List.mapM_cons,hv,hrest]
      rfl
    · exact hrest

/-! ## Which children fail -/

def countFacets : List String := ["totalDigits", "fractionDigits", "minLength", "maxLength", "length"]

def facetNames : List String := "minInclusive" :: "pattern" :: "enumeration" :: countFacets

def childError? (c : Node) : Option SchemaError :=
  match c.localName? with
  | some name =>
    if name ∈ facetNames then
      match c.attribute? "value" with
      | none => some (.missingAttribute name "value")
      | some raw =>
        if name ∈ countFacets ∧ readCount? (SchemaTypes.Text.trim raw) = none then
          some (.invalidValue "value" raw)
        else none
    else none
  | none => none

theorem map_eq_error {ε α β : Type} {f : α → β} {x : Except ε α} {e : ε} :
    f <$> x = .error e ↔ x = .error e := by
  cases x <;> simp [Functor.map,Except.map]

theorem requiredText_eq_error {n : Node} {element attr : String} {e : SchemaError} :
    requiredText n element attr = .error e ↔ n.attribute? attr = none ∧ e = .missingAttribute element attr := by
  cases h : n.attribute? attr <;> simp [requiredText,h,eq_comm]

theorem requiredCount_eq_error {n : Node} {element attr : String} {e : SchemaError} :
    requiredCount n element attr = .error e ↔
      (n.attribute? attr = none ∧ e = .missingAttribute element attr) ∨
      ∃ raw, n.attribute? attr = some raw ∧ readCount? (SchemaTypes.Text.trim raw) = none ∧
        e = .invalidValue attr raw := by
  unfold requiredCount actualValue
  cases hv : n.attribute? attr with
  | none => simp [bind,Except.bind,throw,throwThe,MonadExceptOf.throw,eq_comm]
  | some raw =>
    simp only
    cases hc : readCount? (SchemaTypes.Text.trim raw) <;>
      simp [hc,bind,Except.bind,pure,Except.pure,eq_comm]

theorem FacetValue.read_eq_error_iff {c : Node} {e : SchemaError} :
    FacetValue.read c = .error e ↔ childError? c = some e := by
  unfold FacetValue.read childError?
  split
  case h_9 =>
    rename_i hq₁ hq₂ hq₃ hq₄ hq₅ hq₆ hq₇ hq₈
    split
    · rename_i name hn
      simp only [hn,Option.some.injEq] at hq₁ hq₂ hq₃ hq₄ hq₅ hq₆ hq₇ hq₈
      have hnot : name ∉ facetNames := by
        simp only [facetNames,countFacets,List.mem_cons,List.not_mem_nil,or_false]
        rintro (h | h | h | h | h | h | h | h) <;> simp_all
      simp [hnot,pure,Except.pure]
    · simp [pure,Except.pure]
  all_goals
    rename_i heq
    simp only [heq,map_eq_error,requiredText_eq_error,requiredCount_eq_error]
    cases c.attribute? "value" <;> simp [facetNames,countFacets,eq_comm]

theorem childError?_eq_none_iff {c : Node} : childError? c = none ↔ ∃ v, FacetValue.read c = .ok v := by
  cases h : FacetValue.read c with
  | error e =>
    rw [FacetValue.read_eq_error_iff.1 h]
    simp
  | ok v =>
    cases hc : childError? c with
    | none => simp
    | some e => exact absurd (FacetValue.read_eq_error_iff.2 hc) (by rw [h]; simp)

theorem mapM_cons_eq_error {ε α β : Type} {f : α → Except ε β} {c : α} {cs : List α} {e : ε} :
    (c :: cs).mapM f = .error e ↔ f c = .error e ∨ ∃ v, f c = .ok v ∧ cs.mapM f = .error e := by
  rw [List.mapM_cons]
  cases f c with
  | error e' => simp [bind,Except.bind]
  | ok v => cases cs.mapM f <;> simp [bind,Except.bind,pure,Except.pure]

theorem exists_first_cons {α : Type} {p q : α → Prop} {c : α} {cs : List α} :
    (∃ pre d post, c :: cs = pre ++ d :: post ∧ (∀ x ∈ pre, p x) ∧ q d) ↔
      q c ∨ (p c ∧ ∃ pre d post, cs = pre ++ d :: post ∧ (∀ x ∈ pre, p x) ∧ q d) := by
  constructor
  · rintro ⟨pre,d,post,h,hpre,hd⟩
    cases pre with
    | nil =>
      simp only [List.nil_append,List.cons.injEq] at h
      exact .inl (h.1 ▸ hd)
    | cons x pre =>
      simp only [List.cons_append,List.cons.injEq] at h
      obtain ⟨rfl,rfl⟩ := h
      exact .inr ⟨hpre c List.mem_cons_self,pre,d,post,rfl,fun y hy => hpre y (List.mem_cons_of_mem _ hy),hd⟩
  · rintro (hc | ⟨hc,pre,d,post,rfl,hpre,hd⟩)
    · exact ⟨[],c,cs,rfl,by simp,hc⟩
    · exact ⟨c :: pre,d,post,rfl,List.forall_mem_cons.2 ⟨hc,hpre⟩,hd⟩

theorem mapM_read_eq_error_iff {e : SchemaError} : ∀ {cs : List Node},
    cs.mapM FacetValue.read = .error e ↔
      ∃ pre c post, cs = pre ++ c :: post ∧ (∀ c' ∈ pre, childError? c' = none) ∧ childError? c = some e
  | [] => by simp [List.mapM_nil,pure,Except.pure]
  | c :: cs => by
    rw [mapM_cons_eq_error,exists_first_cons,mapM_read_eq_error_iff,FacetValue.read_eq_error_iff,
      childError?_eq_none_iff]
    simp only [exists_and_right]

theorem mapM_read_ok_iff : ∀ {cs : List Node},
    (∃ vs, cs.mapM FacetValue.read = .ok vs) ↔ ∀ c ∈ cs, childError? c = none
  | [] => by simp [List.mapM_nil,pure,Except.pure]
  | c :: cs => by
    rw [List.mapM_cons,List.forall_mem_cons,childError?_eq_none_iff,← mapM_read_ok_iff]
    cases FacetValue.read c with
    | error e => simp [bind,Except.bind]
    | ok v =>
      cases cs.mapM FacetValue.read <;> simp [bind,Except.bind,pure,Except.pure]

/-! ## Main statement -/

/-- Restrictions whose children agree up to order, each group of facets keeping its own order, read
alike: both fail, or both give the same facets, documentation and type expression. -/
theorem facets_read_alike_when_each_group_keeps_its_order :
    (∀ r : Node, Facets.ofNode r =
      (fun vs => vs.foldl FacetValue.apply {}) <$> r.elementChildren.mapM FacetValue.read) ∧
    (∀ (r : Node) (e : SchemaError), Facets.ofNode r = .error e ↔
      ∃ pre c post, r.elementChildren = pre ++ c :: post ∧ (∀ c' ∈ pre, childError? c' = none) ∧
        childError? c = some e) ∧
    ∀ r₁ r₂ : Node, r₁.elementChildren.Perm r₂.elementChildren →
      (∀ k, r₁.elementChildren.filter (facetGroup · == some k) =
        r₂.elementChildren.filter (facetGroup · == some k)) →
      ((∃ f₁, Facets.ofNode r₁ = .ok f₁) ↔ (∃ f₂, Facets.ofNode r₂ = .ok f₂)) ∧
      ∀ f₁ f₂, Facets.ofNode r₁ = .ok f₁ → Facets.ofNode r₂ = .ok f₂ → f₁ = f₂ ∧
        ∀ (name : String) (base : TypeRef) (annotations : Option Annotations) (env : RenderEnv),
          SimpleType.renderDoc ⟨name, base, f₁, annotations⟩ =
            SimpleType.renderDoc ⟨name, base, f₂, annotations⟩ ∧
          SimpleType.renderExpr env ⟨name, base, f₁, annotations⟩ =
            SimpleType.renderExpr env ⟨name, base, f₂, annotations⟩ := by
  refine ⟨Facets.ofNode_eq,fun r e => ?_,fun r₁ r₂ hperm hgroups => ?_⟩
  · rw [Facets.ofNode_eq,map_eq_error,mapM_read_eq_error_iff]
  have hok : ∀ r : Node, (∃ f, Facets.ofNode r = .ok f) ↔ ∀ c ∈ r.elementChildren, childError? c = none := by
    intro r
    rw [← mapM_read_ok_iff,Facets.ofNode_eq]
    constructor
    · rintro ⟨f,hf⟩
      obtain ⟨vs,hvs,-⟩ := map_eq_ok hf
      exact ⟨vs,hvs⟩
    · rintro ⟨vs,hvs⟩
      exact ⟨_,by rw [hvs]; rfl⟩
  refine ⟨by rw [hok,hok]; exact forall_congr' fun c => imp_congr_left hperm.mem_iff,?_⟩
  intro f₁ f₂ h₁ h₂
  rw [Facets.ofNode_eq] at h₁ h₂
  obtain ⟨vs₁,hvs₁,rfl⟩ := map_eq_ok h₁
  obtain ⟨vs₂,hvs₂,rfl⟩ := map_eq_ok h₂
  have hsame : vs₁.foldl FacetValue.apply {} = vs₂.foldl FacetValue.apply {} := by
    refine Facets.eq_of_restrictTo fun k => ?_
    have hfilter : vs₁.filter (·.group == some k) = vs₂.filter (·.group == some k) := by
      have e₁ := mapM_read_filter k hvs₁
      rw [hgroups k,mapM_read_filter k hvs₂,Except.ok.injEq] at e₁
      exact e₁.symm
    rw [restrictTo_foldl k vs₁ {} {} rfl,restrictTo_foldl k vs₂ {} {} rfl,hfilter]
  exact ⟨hsame,fun name base annotations env => by rw [hsame]; exact ⟨rfl,rfl⟩⟩

def facetNode (name value : String) : Node := .element name none [⟨none, "value", value⟩] [] []

/-- A restriction to one to 35 capital letters, its pattern written first. -/
def patternFirst : Node := .element "restriction" none [] []
  [facetNode "pattern" "[A-Z]+", facetNode "maxLength" "35", facetNode "minLength" "1"]

def patternLast : Node := .element "restriction" none [] []
  [facetNode "maxLength" "35", facetNode "minLength" "1", facetNode "pattern" "[A-Z]+"]

theorem patternMoved_reads_alike :
    Facets.ofNode patternFirst = .ok { minLength := some 1, maxLength := some 35, pattern := some "[A-Z]+" } ∧
    Facets.ofNode patternLast = .ok { minLength := some 1, maxLength := some 35, pattern := some "[A-Z]+" } := by
  obtain ⟨-,-,hmoved⟩ := facets_read_alike_when_each_group_keeps_its_order
  have h₁ : Facets.ofNode patternFirst =
      .ok { minLength := some 1, maxLength := some 35, pattern := some "[A-Z]+" } := by
    have h : (Facets.ofNode patternFirst).toOption =
        some { minLength := some 1, maxLength := some 35, pattern := some "[A-Z]+" } := by
      decide +kernel
    revert h
    cases Facets.ofNode patternFirst <;> simp [Except.toOption]
  have hperm : patternFirst.elementChildren.Perm patternLast.elementChildren :=
    (List.perm_append_singleton _ _).symm
  obtain ⟨hok,hsame⟩ := hmoved patternFirst patternLast hperm fun k => by cases k <;> rfl
  obtain ⟨f₂,h₂⟩ := hok.1 ⟨_,h₁⟩
  exact ⟨h₁,by rw [h₂,← (hsame _ _ h₁ h₂).1]⟩

end SchemaTypes.Component
