import SchemaTypes.Proofs.DeclarationIdentifiers
import SchemaTypes.Proofs.FacetReading
set_option autoImplicit false

/-!
The occurrence of the particles of a complex type. The content of a complex type is read from its
`sequence` and `choice` children: a sequence is one alternative, each member of a choice another,
and a sequence within a choice is one member. Each element read gets the occurrence of the groups
around it applied, innermost first (`Particle.foldOccurs`): a group that may be absent makes it
optional, a repeatable group makes it repeatable. An element states its own occurrence, any number
of times unless it says otherwise; a reference to an element takes the occurrence of its place and
never the one of the declaration it leads to; a group occurs once unless it says otherwise. Main
statement: `fields_fold_the_occurrences_of_their_groups`.
-/

namespace SchemaTypes.Component

open SchemaTypes.Xml SchemaTypes.Script

/-! ## Occurrences -/

@[simp] theorem Particle.occurs_foldOccurs (group : Occurs) (p : Particle) :
    (p.foldOccurs group).occurs = p.occurs.fold group := by
  cases p with
  | element e => cases e; rfl
  | ref q o => rfl

theorem Particle.occurs_foldl : ∀ (os : List Occurs) (p : Particle),
    (os.foldl (fun p o => p.foldOccurs o) p).occurs = os.foldl Occurs.fold p.occurs
  | [], _ => rfl
  | o :: os, p => by rw [List.foldl_cons,List.foldl_cons,Particle.occurs_foldl os,occurs_foldOccurs]

/-- A particle folded into a group may be absent when it or the group may be. -/
@[simp] theorem Occurs.fold_min_eq_zero (own group : Occurs) :
    ((own.fold group).min == 0) = (own.min == 0 || group.min == 0) := by
  by_cases h : group.min = 0 <;> simp [Occurs.fold,h]

/-- A particle folded into a group repeats when it or the group repeats. -/
@[simp] theorem Occurs.fold_isRepeatable (own group : Occurs) :
    (own.fold group).max.isRepeatable = (own.max.isRepeatable || group.max.isRepeatable) := by
  cases h : group.max.isRepeatable with
  | false => simp [Occurs.fold,h]
  | true =>
    simp only [Occurs.fold,h,if_true,Bool.or_true]
    rfl

theorem Occurs.foldl_min_eq_zero : ∀ (os : List Occurs) (own : Occurs),
    ((os.foldl Occurs.fold own).min == 0) = (own.min == 0 || os.any (·.min == 0))
  | [], _ => by simp
  | o :: os, own => by
    rw [List.foldl_cons,Occurs.foldl_min_eq_zero os,fold_min_eq_zero,List.any_cons,Bool.or_assoc]

theorem Occurs.foldl_isRepeatable : ∀ (os : List Occurs) (own : Occurs),
    (os.foldl Occurs.fold own).max.isRepeatable = (own.max.isRepeatable || os.any (·.max.isRepeatable))
  | [], _ => by simp
  | o :: os, own => by
    rw [List.foldl_cons,Occurs.foldl_isRepeatable os,fold_isRepeatable,List.any_cons,Bool.or_assoc]

theorem occursOf_of_absent {n : Node} {default o : Occurs} (h : occursOf n default = .ok o) :
    (n.attribute? "minOccurs" = none → o.min = default.min) ∧
      (n.attribute? "maxOccurs" = none → o.max = default.max) := by
  unfold occursOf at h
  obtain ⟨min,hmin,h⟩ := bind_eq_ok h
  obtain ⟨max,hmax,h⟩ := bind_eq_ok h
  cases h
  constructor
  · intro ha
    simp only [actualValue,ha,Except.ok.injEq] at hmin
    rw [← hmin]
    rfl
  · intro ha
    simp only [actualValue,ha,Except.ok.injEq] at hmax
    rw [← hmax]
    rfl

theorem ElementDecl.occursOf_of_ofNode {r : Resolver} {e : Node} {d : ElementDecl}
    (h : ElementDecl.ofNode r e = .ok d) : occursOf e elementOccurs = .ok d.occurs := by
  rw [ElementDecl.ofNode] at h
  obtain ⟨name,-,h⟩ := bind_eq_ok h
  simp only [pure_bind] at h
  have hjp : ∀ type, (occursOf e elementOccurs >>= fun occurs =>
      pure (ElementDecl.mk name type occurs (Annotations.ofNode? e))) = .ok d →
        occursOf e elementOccurs = .ok d.occurs := by
    intro type h
    obtain ⟨occurs,ho,h⟩ := bind_eq_ok h
    cases h
    exact ho
  split at h
  · obtain ⟨c,-,h⟩ := bind_eq_ok h
    exact hjp _ h
  · split at h
    · obtain ⟨st,-,h⟩ := bind_eq_ok h
      exact hjp _ h
    · split at h <;> exact hjp _ h

theorem Particle.occursOf_of_ofNode {r : Resolver} {e : Node} {p : Particle}
    (h : Particle.ofNode r e = .ok p) : occursOf e elementOccurs = .ok p.occurs := by
  rw [Particle.ofNode] at h
  split at h
  · obtain ⟨o,ho,h⟩ := bind_eq_ok h
    obtain ⟨q,-,h⟩ := bind_eq_ok h
    cases h
    exact ho
  · obtain ⟨d,hd,h⟩ := bind_eq_ok h
    cases h
    exact ElementDecl.occursOf_of_ofNode hd

/-! ## Where the particles of a complex type come from -/

/-- The groups around an element of a content model, innermost first: a sequence or a choice of
the content, or a sequence within a choice of the content. -/
inductive Encloses (content : Node) : List Node → Node → Prop
  | sequence {s e : Node} : s ∈ content.elementChildren → s.localName? = some "sequence" →
      e ∈ s.elementChildren → e.localName? = some "element" → Encloses content [s] e
  | choice {c e : Node} : c ∈ content.elementChildren → c.localName? = some "choice" →
      e ∈ c.elementChildren → e.localName? = some "element" → Encloses content [c] e
  | choiceSequence {c s e : Node} : c ∈ content.elementChildren → c.localName? = some "choice" →
      s ∈ c.elementChildren → s.localName? = some "sequence" →
      e ∈ s.elementChildren → e.localName? = some "element" → Encloses content [s, c] e

theorem ComplexType.ofSequence_sound {r : Resolver} {s : Node} {ps : List Particle}
    (h : ComplexType.ofSequence r s = .ok ps) {p : Particle} (hp : p ∈ ps) :
    ∃ group e p₀, occursOf s groupOccurs = .ok group ∧ e ∈ s.elementChildren ∧
      e.localName? = some "element" ∧ Particle.ofNode r e = .ok p₀ ∧ p = p₀.foldOccurs group := by
  rw [ComplexType.ofSequence_eq] at h
  obtain ⟨group,hg,h⟩ := bind_eq_ok h
  obtain ⟨parts,hparts,h⟩ := bind_eq_ok h
  cases h
  obtain ⟨ys,hys,hp⟩ := List.mem_flatten.1 hp
  obtain ⟨e,he,hmember⟩ := Registry.forall₂_exists_of_mem_right (Registry.mapM_eq_ok_iff.1 hparts) hys
  unfold sequenceMember at hmember
  split at hmember
  · rename_i hel
    obtain ⟨p₀,hp₀,rfl⟩ := map_eq_ok hmember
    exact ⟨group,e,p₀,hg,he,by simpa using hel,hp₀,List.mem_singleton.1 hp⟩
  · cases hmember
    cases hp

theorem ComplexType.ofChoice_sound {r : Resolver} {c : Node} {vs : List (List Particle)}
    (h : ComplexType.ofChoice r c = .ok vs) {v : List Particle} (hv : v ∈ vs) {p : Particle}
    (hp : p ∈ v) :
    ∃ group, occursOf c groupOccurs = .ok group ∧
      ((∃ e p₀, e ∈ c.elementChildren ∧ e.localName? = some "element" ∧ Particle.ofNode r e = .ok p₀ ∧
          p = p₀.foldOccurs group) ∨
        ∃ s, s ∈ c.elementChildren ∧ s.localName? = some "sequence" ∧
          ∃ q ps, ComplexType.ofSequence r s = .ok ps ∧ q ∈ ps ∧ p = q.foldOccurs group) := by
  rw [ComplexType.ofChoice_eq] at h
  obtain ⟨group,hg,h⟩ := bind_eq_ok h
  obtain ⟨parts,hparts,h⟩ := bind_eq_ok h
  cases h
  obtain ⟨ys,hys,hv⟩ := List.mem_flatten.1 hv
  obtain ⟨child,hchild,hmember⟩ :=
    Registry.forall₂_exists_of_mem_right (Registry.mapM_eq_ok_iff.1 hparts) hys
  refine ⟨group,hg,?_⟩
  unfold choiceMember at hmember
  split at hmember
  · rename_i hel
    obtain ⟨p₀,hp₀,rfl⟩ := map_eq_ok hmember
    obtain rfl := List.mem_singleton.1 hv
    exact .inl ⟨child,p₀,hchild,hel,hp₀,List.mem_singleton.1 hp⟩
  · rename_i hseq
    obtain ⟨ps,hps,rfl⟩ := map_eq_ok hmember
    obtain rfl := List.mem_singleton.1 hv
    obtain ⟨q,hq,rfl⟩ := List.mem_map.1 hp
    exact .inr ⟨child,hchild,hseq,q,ps,hps,hq,rfl⟩
  · cases hmember
    cases hv

theorem ComplexType.particles_sound {r : Resolver} {ct : Node} {name n : String}
    {base text : Option TypeRef} {attrs : List AttributeUse} {vs : List (List Particle)}
    {ann : Option Annotations} (h : ComplexType.ofNode r ct name = .ok (.mk n base text attrs vs ann)) :
    ∃ b t content, derivationOf r ct = .ok (b, t, content) ∧
      ∀ v ∈ vs, ∀ p ∈ v, ∃ gs e os p₀, Encloses content.1 gs e ∧
        List.Forall₂ (fun g o => occursOf g groupOccurs = .ok o) gs os ∧
        Particle.ofNode r e = .ok p₀ ∧ p = os.foldl (fun p o => p.foldOccurs o) p₀ := by
  rw [ComplexType.ofNode_eq] at h
  obtain ⟨⟨b,t,content⟩,hd,h⟩ := bind_eq_ok h
  obtain ⟨parts,hparts,h⟩ := bind_eq_ok h
  simp only [pure,Except.pure,Except.ok.injEq,ComplexType.mk.injEq] at h
  obtain ⟨-,-,-,-,rfl,-⟩ := h
  refine ⟨b,t,content,hd,fun v hv p hp => ?_⟩
  obtain ⟨vs',hvs',hv⟩ := List.mem_flatten.1 hv
  obtain ⟨part,hpart,rfl⟩ := List.mem_map.1 hvs'
  obtain ⟨child,hchild,hmember⟩ :=
    Registry.forall₂_exists_of_mem_right (Registry.mapM_eq_ok_iff.1 hparts) hpart
  unfold contentMember at hmember
  split at hmember
  · obtain ⟨a,-,rfl⟩ := map_eq_ok hmember
    cases hv
  · rename_i hseq
    obtain ⟨ps,hps,rfl⟩ := map_eq_ok hmember
    obtain rfl := List.mem_singleton.1 hv
    obtain ⟨group,e,p₀,hg,he,hel,hp₀,rfl⟩ := ComplexType.ofSequence_sound hps hp
    exact ⟨[child],e,[group],p₀,.sequence hchild hseq he hel,.cons hg .nil,hp₀,rfl⟩
  · rename_i hchoice
    obtain ⟨alts,halts,rfl⟩ := map_eq_ok hmember
    obtain ⟨group,hg,⟨e,p₀,he,hel,hp₀,rfl⟩ | ⟨s,hs,hseq,q,ps,hps,hq,rfl⟩⟩ :=
      ComplexType.ofChoice_sound halts hv hp
    · exact ⟨[child],e,[group],p₀,.choice hchild hchoice he hel,.cons hg .nil,hp₀,rfl⟩
    · obtain ⟨group',e,p₀,hg',he,hel,hp₀,rfl⟩ := ComplexType.ofSequence_sound hps hq
      exact ⟨[s,child],e,[group',group],p₀,.choiceSequence hchild hchoice hs hseq he hel,
        .cons hg' (.cons hg .nil),hp₀,rfl⟩
  · cases hmember
    cases hv

/-! ## The field of a particle -/

theorem ComplexType.renderField_of_renderExpr {env : RenderEnv} {refs : ReferenceField}
    {depth : Nat} {n : String} {base text : Option TypeRef} {attrs : List AttributeUse}
    {vs : List (List Particle)} {ann : Option Annotations} {s : String}
    (h : ComplexType.renderExpr env refs depth (.mk n base text attrs vs ann) = .ok s)
    {v : List Particle} (hv : v ∈ vs) {p : Particle} (hp : p ∈ v) :
    ∃ f, p.renderField env refs (depth + 1) = .ok f := by
  obtain ⟨fields,hfields,-⟩ := ComplexType.renderExpr_eq_ok h
  obtain ⟨fv,-,hfv⟩ := Registry.forall₂_exists_of_mem_left (renderVariants_eq_ok hfields) hv
  obtain ⟨props,hprops,-⟩ := renderParticles_eq_ok hfv
  obtain ⟨f,-,hf⟩ := Registry.forall₂_exists_of_mem_left hprops hp
  exact ⟨f,hf⟩

/-- The field of each particle is optional, or repeatable, exactly when its element or a group around
it may be absent, or may repeat. -/
theorem fields_fold_the_occurrences_of_their_groups {r : Resolver} {ct : Node} {name n : String}
    {base text : Option TypeRef} {attrs : List AttributeUse} {vs : List (List Particle)}
    {ann : Option Annotations} (h : ComplexType.ofNode r ct name = .ok (.mk n base text attrs vs ann)) :
    ∃ b t content, derivationOf r ct = .ok (b, t, content) ∧
      ∀ v ∈ vs, ∀ p ∈ v, ∃ gs e own os, Encloses content.1 gs e ∧
        occursOf e elementOccurs = .ok own ∧
        (e.attribute? "minOccurs" = none → own.min = 0) ∧
        (e.attribute? "maxOccurs" = none → own.max = .unbounded) ∧
        List.Forall₂ (fun g o => occursOf g groupOccurs = .ok o ∧
          (g.attribute? "minOccurs" = none → o.min = 1) ∧
          (g.attribute? "maxOccurs" = none → o.max = .count 1)) gs os ∧
        (∃ p₀, Particle.ofNode r e = .ok p₀ ∧ p = os.foldl (fun p o => p.foldOccurs o) p₀) ∧
        (∀ env m depth s,
          ComplexType.renderExpr env (referenceField env m) depth (.mk n base text attrs vs ann) = .ok s →
            ∃ f, p.renderField env (referenceField env m) (depth + 1) = .ok f) ∧
        ∀ env m depth f, p.renderField env (referenceField env m) depth = .ok f →
          ∃ d k t, p.declaration? env = some d ∧
            ElementType.renderExpr env (referenceField env k) depth d.type = .ok t ∧
            f = docFor d.annotations depth ++ field depth d.name (own.min == 0 || os.any (·.min == 0))
              (if own.max.isRepeatable || os.any (·.max.isRepeatable) then repeatable t else t) := by
  obtain ⟨b,t,content,hd,hps⟩ := ComplexType.particles_sound h
  refine ⟨b,t,content,hd,fun v hv p hp => ?_⟩
  obtain ⟨gs,e,os,p₀,henc,hos,hp₀,rfl⟩ := hps v hv p hp
  have hown := Particle.occursOf_of_ofNode hp₀
  refine ⟨gs,e,p₀.occurs,os,henc,hown,(occursOf_of_absent hown).1,(occursOf_of_absent hown).2,
    hos.imp fun g o ho => ⟨ho,occursOf_of_absent ho⟩,⟨p₀,hp₀,rfl⟩,
    fun env m depth s hs => ComplexType.renderField_of_renderExpr hs hv hp,fun env m depth f hf => ?_⟩
  obtain ⟨d,k,t,hd,ht,rfl⟩ := Particle.renderField_eq hf
  refine ⟨d,k,t,hd,ht,?_⟩
  rw [Particle.occurs_foldl,Occurs.foldl_min_eq_zero,Occurs.foldl_isRepeatable]

def requiredA : Node :=
  .element "element" none [⟨none,"name","a"⟩,⟨none,"minOccurs","1"⟩,⟨none,"maxOccurs","1"⟩] [] []

def optionalSequenceA : Node := .element "sequence" none [⟨none,"minOccurs","0"⟩] [] [requiredA]

def repeatedChoiceA : Node := .element "choice" none [⟨none,"maxOccurs","unbounded"⟩] [] [optionalSequenceA]

/-- A complex type whose content is `repeatedChoiceA`. -/
def repeatedOptionalA : Node := .element "complexType" none [] [] [repeatedChoiceA]

/-- The field of `a` is optional from its sequence and repeatable from its choice. -/
theorem requiredA_in_optional_sequence_of_repeated_choice :
    ComplexType.ofNode ⟨"urn:a",[]⟩ repeatedOptionalA "T" =
      .ok (.mk "T" none none [] [[.element (.mk "a" (.named .anyType) ⟨0,.unbounded⟩ none)]] none) ∧
    ∃ b t content, derivationOf ⟨"urn:a",[]⟩ repeatedOptionalA = .ok (b, t, content) ∧
      ∀ v ∈ [[Particle.element (.mk "a" (.named .anyType) ⟨0,.unbounded⟩ none)]], ∀ p ∈ v,
        ∃ gs e own os, Encloses content.1 gs e ∧
        occursOf e elementOccurs = .ok own ∧
        (e.attribute? "minOccurs" = none → own.min = 0) ∧
        (e.attribute? "maxOccurs" = none → own.max = .unbounded) ∧
        List.Forall₂ (fun g o => occursOf g groupOccurs = .ok o ∧
          (g.attribute? "minOccurs" = none → o.min = 1) ∧
          (g.attribute? "maxOccurs" = none → o.max = .count 1)) gs os ∧
        (∃ p₀, Particle.ofNode ⟨"urn:a",[]⟩ e = .ok p₀ ∧ p = os.foldl (fun p o => p.foldOccurs o) p₀) ∧
        (∀ env m depth s,
          ComplexType.renderExpr env (referenceField env m) depth (.mk "T" none none []
            [[.element (.mk "a" (.named .anyType) ⟨0,.unbounded⟩ none)]] none) = .ok s →
            ∃ f, p.renderField env (referenceField env m) (depth + 1) = .ok f) ∧
        ∀ env m depth f, p.renderField env (referenceField env m) depth = .ok f →
          ∃ d k t, p.declaration? env = some d ∧
            ElementType.renderExpr env (referenceField env k) depth d.type = .ok t ∧
            f = docFor d.annotations depth ++ field depth d.name (own.min == 0 || os.any (·.min == 0))
              (if own.max.isRepeatable || os.any (·.max.isRepeatable) then repeatable t else t) := by
  have hp : Particle.ofNode ⟨"urn:a",[]⟩ requiredA =
      .ok (.element (.mk "a" (.named .anyType) ⟨1,.count 1⟩ none)) := by
    rw [Particle.ofNode,ElementDecl.ofNode]
    with_unfolding_all rfl
  have hs : ComplexType.ofSequence ⟨"urn:a",[]⟩ optionalSequenceA =
      .ok [.element (.mk "a" (.named .anyType) ⟨0,.count 1⟩ none)] := by
    rw [ComplexType.ofSequence_eq,show optionalSequenceA.elementChildren = [requiredA] from rfl]
    simp only [List.mapM_cons,List.mapM_nil,sequenceMember,hp]
    with_unfolding_all rfl
  have hc : ComplexType.ofChoice ⟨"urn:a",[]⟩ repeatedChoiceA =
      .ok [[.element (.mk "a" (.named .anyType) ⟨0,.unbounded⟩ none)]] := by
    rw [ComplexType.ofChoice_eq,show repeatedChoiceA.elementChildren = [optionalSequenceA] from rfl]
    simp only [List.mapM_cons,List.mapM_nil,choiceMember,hs]
    with_unfolding_all rfl
  have hd : derivationOf ⟨"urn:a",[]⟩ repeatedOptionalA =
      .ok (none,none,⟨repeatedOptionalA,Nat.le_refl _⟩) := by
    with_unfolding_all rfl
  have h : ComplexType.ofNode ⟨"urn:a",[]⟩ repeatedOptionalA "T" =
      .ok (.mk "T" none none [] [[.element (.mk "a" (.named .anyType) ⟨0,.unbounded⟩ none)]] none) := by
    rw [ComplexType.ofNode_eq,hd]
    simp only [bind,Except.bind,show repeatedOptionalA.elementChildren = [repeatedChoiceA] from rfl,
      List.mapM_cons,List.mapM_nil,contentMember,hc]
    with_unfolding_all rfl
  exact ⟨h,fields_fold_the_occurrences_of_their_groups h⟩

end SchemaTypes.Component
