import SchemaTypes.Proofs.NameResolution
set_option autoImplicit false

/-!
Reading a document's declarations depends on the resolver only through the names the document
writes for types and references (`Node.writtenNames`): two resolvers that resolve each of these
alike read every declaration alike (`declarationNode_congr`). Two resolvers that resolve as the
document's root declares resolve them alike when every prefix the document writes is declared on
its root (`Node.PrefixesDeclared`), so the declarations read alike whatever else the schema of the
namespace binds (`ResolvesAsDeclared.read_eq`).
-/

namespace SchemaTypes

open SchemaTypes.Text

namespace Xml

mutual

def Node.writtenNames : Node → List String
  | n@(.element _ _ _ _ cs) =>
    (["base","type","ref"].filterMap n.attribute?).flatMap (fun v => [v,trim v]) ++
      Node.writtenNamesOfList cs
  | _ => []

def Node.writtenNamesOfList : List Node → List String
  | [] => []
  | c :: cs => c.writtenNames ++ Node.writtenNamesOfList cs

end

theorem Node.writtenNames_subset_of_mem {c : Node} : ∀ {cs : List Node}, c ∈ cs →
    c.writtenNames ⊆ Node.writtenNamesOfList cs
  | _ :: _, .head _ => by
    rw [Node.writtenNamesOfList]
    exact List.subset_append_left _ _
  | _ :: _, .tail _ h => by
    rw [Node.writtenNamesOfList]
    exact List.Subset.trans (Node.writtenNames_subset_of_mem h) (List.subset_append_right _ _)

theorem Node.writtenNames_subset_of_mem_children {c n : Node} (h : c ∈ n.children) :
    c.writtenNames ⊆ n.writtenNames := by
  cases n with
  | element _ _ _ _ cs =>
    rw [Node.writtenNames]
    exact List.Subset.trans (Node.writtenNames_subset_of_mem h) (List.subset_append_right _ _)
  | text _ => simp [Node.children] at h
  | comment _ => simp [Node.children] at h
  | instruction _ _ => simp [Node.children] at h

theorem Node.mem_writtenNames_of_attribute? {n : Node} {a v : String} (ha : a ∈ ["base","type","ref"])
    (h : n.attribute? a = some v) : v ∈ n.writtenNames ∧ trim v ∈ n.writtenNames := by
  cases n with
  | element _ _ _ _ cs =>
    have hv : v ∈ ["base","type","ref"].filterMap (Node.element _ _ _ _ cs).attribute? :=
      List.mem_filterMap.2 ⟨a,ha,h⟩
    rw [Node.writtenNames]
    exact ⟨List.mem_append_left _ (List.mem_flatMap.2 ⟨v,hv,by simp⟩),
      List.mem_append_left _ (List.mem_flatMap.2 ⟨v,hv,by simp⟩)⟩
  | text _ => simp [Node.attribute?,Node.attributes] at h
  | comment _ => simp [Node.attribute?,Node.attributes] at h
  | instruction _ _ => simp [Node.attribute?,Node.attributes] at h

/-- Every name a document writes for a type or a reference that has a prefix, a part before its
only colon, has one its root declares, or `xml`. -/
def Node.PrefixesDeclared (root : Node) : Prop :=
  ∀ s ∈ root.writtenNames, ∀ p l, (s.toList.splitOn ':').map String.ofList = [p,l] →
    p = "xml" ∨ ∃ u, (⟨some p,u⟩ : Binding) ∈ root.bindings

def Node.declaresPrefixOf (root : Node) (s : String) : Bool :=
  match (s.toList.splitOn ':').map String.ofList with
  | [p,_] => p == "xml" || root.bindings.any (·.name == some p)
  | _ => true

theorem Node.prefixesDeclared_iff (root : Node) :
    root.PrefixesDeclared ↔ ∀ s ∈ root.writtenNames, root.declaresPrefixOf s = true := by
  refine forall₂_congr fun s _ => ?_
  unfold Node.declaresPrefixOf
  split
  · rename_i p l hpl
    simp only [hpl,List.cons.injEq,and_true,Bool.or_eq_true,beq_iff_eq,List.any_eq_true]
    constructor
    · intro h
      rcases h p l ⟨rfl,rfl⟩ with h | ⟨u,hu⟩
      · exact .inl h
      · exact .inr ⟨_,hu,rfl⟩
    · rintro (h | ⟨b,hb,hname⟩) p' l' ⟨rfl,rfl⟩
      · exact .inl h
      · exact .inr ⟨b.uri,by rw [← hname]; exact hb⟩
  · rename_i hne
    simp only [iff_true]
    intro p l hpl
    exact absurd hpl (hne p l)

instance (root : Node) : Decidable root.PrefixesDeclared :=
  decidable_of_iff _ (Node.prefixesDeclared_iff root).symm

end Xml

namespace Component

open SchemaTypes.Xml

theorem not_mem_of_mem_splitOn {α : Type} [BEq α] [LawfulBEq α] {a : α} :
    ∀ {xs part : List α}, part ∈ xs.splitOn a → a ∉ part
  | [], part, h => by
    rw [List.splitOn_nil,List.mem_singleton] at h
    subst h
    exact List.not_mem_nil
  | x :: xs, part, h => by
    rw [List.splitOn_cons_eq_if_modifyHead] at h
    split at h
    · rcases List.mem_cons.1 h with rfl | h
      · exact List.not_mem_nil
      · exact not_mem_of_mem_splitOn h
    · rename_i hx
      obtain ⟨first,rest,heq⟩ := List.exists_cons_of_ne_nil (List.splitOn_ne_nil a xs)
      rw [heq,List.modifyHead_cons] at h
      rcases List.mem_cons.1 h with rfl | h
      · have hfirst : a ∉ first := not_mem_of_mem_splitOn (heq ▸ List.mem_cons_self)
        rw [List.mem_cons,not_or]
        exact ⟨fun e => hx (e ▸ beq_self_eq_true a),hfirst⟩
      · exact not_mem_of_mem_splitOn (heq ▸ List.mem_cons_of_mem _ h)

def Resolver.AgreeOn (r₁ r₂ : Resolver) (names : List String) : Prop :=
  ∀ s ∈ names, r₁.resolve? s = r₂.resolve? s

namespace Resolver

variable {r₁ r₂ : Resolver}

theorem AgreeOn.mono {names names' : List String} (h : r₁.AgreeOn r₂ names) (hsub : names' ⊆ names) :
    r₁.AgreeOn r₂ names' :=
  fun s hs => h s (hsub hs)

theorem AgreeOn.child {n c : Node} (h : r₁.AgreeOn r₂ n.writtenNames) (hc : c ∈ n.children) :
    r₁.AgreeOn r₂ c.writtenNames :=
  h.mono (Node.writtenNames_subset_of_mem_children hc)

theorem AgreeOn.structural {n : Node} (h : r₁.AgreeOn r₂ n.writtenNames) {a v : String}
    (ha : a ∈ ["base","type","ref"]) (hv : n.attribute? a = some v) :
    r₁.structural v = r₂.structural v ∧ r₁.structural (trim v) = r₂.structural (trim v) := by
  obtain ⟨h₁,h₂⟩ := Node.mem_writtenNames_of_attribute? ha hv
  simp only [Resolver.structural,h v h₁,h _ h₂,and_self]

theorem AgreeOn.typeRef {n : Node} (h : r₁.AgreeOn r₂ n.writtenNames) {a v : String}
    (ha : a ∈ ["base","type","ref"]) (hv : n.attribute? a = some v) :
    r₁.typeRef v = r₂.typeRef v ∧ r₁.typeRef (trim v) = r₂.typeRef (trim v) := by
  obtain ⟨h₁,h₂⟩ := Node.mem_writtenNames_of_attribute? ha hv
  simp only [Resolver.typeRef,h v h₁,h _ h₂,and_self]

end Resolver

open Resolver

variable {r₁ r₂ : Resolver}

theorem SimpleType.ofNode_congr {n : Node} (h : r₁.AgreeOn r₂ n.writtenNames) (name : String) :
    SimpleType.ofNode r₁ n name = SimpleType.ofNode r₂ n name := by
  unfold SimpleType.ofNode
  split
  · rfl
  · rename_i restriction hr
    have h' := h.child (Node.mem_children_of_childNamed hr)
    split
    · rename_i b hb
      rw [(h'.structural (by simp) hb).1]
    · rfl

theorem AttributeDecl.ofNode_congr {n : Node} (h : r₁.AgreeOn r₂ n.writtenNames) :
    AttributeDecl.ofNode r₁ n = AttributeDecl.ofNode r₂ n := by
  unfold AttributeDecl.ofNode
  congr 1
  funext name
  split
  · rename_i st hst
    rw [SimpleType.ofNode_congr (h.child (Node.mem_children_of_childNamed hst))]
  · cases ht : n.attribute? "type" with
    | none => rfl
    | some t => simp only [Option.map_some,(h.typeRef (by simp) ht).1]

theorem AttributeUse.ofNode?_congr {n : Node} (h : r₁.AgreeOn r₂ n.writtenNames) :
    AttributeUse.ofNode? r₁ n = AttributeUse.ofNode? r₂ n := by
  unfold AttributeUse.ofNode?
  rw [AttributeDecl.ofNode_congr h]
  cases ht : n.attribute? "ref" with
  | none => rfl
  | some target => simp only [(h.structural (by simp) ht).1]


theorem bind_congr_ok {ε α β : Type} {x : Except ε α} {f g : α → Except ε β}
    (h : ∀ a, x = .ok a → f a = g a) : x >>= f = x >>= g := by
  cases x with
  | error e => rfl
  | ok a => exact h a rfl

theorem derivationOf_content {r : Resolver} {ct : Node} {base text : Option TypeRef}
    {content : {c : Node // c.height ≤ ct.height}} (h : derivationOf r ct = .ok (base,text,content)) :
    content.1 = ct ∨ ∃ c ∈ ct.children, content.1 ∈ c.children := by
  unfold derivationOf at h
  split at h
  · rename_i cc hcc
    split at h
    · rename_i ext he
      obtain ⟨v,-,h⟩ := bind_eq_ok h
      obtain ⟨q,-,h⟩ := bind_eq_ok h
      cases h
      exact .inr ⟨cc,Node.mem_children_of_childNamed hcc,Node.mem_children_of_childNamed he⟩
    · split at h
      · rename_i res hres
        cases h
        exact .inr ⟨cc,Node.mem_children_of_childNamed hcc,Node.mem_children_of_childNamed hres⟩
      · cases h
        exact .inl rfl
  · split at h
    · rename_i sc hsc
      split at h
      · rename_i ext he
        obtain ⟨v,-,h⟩ := bind_eq_ok h
        cases h
        exact .inr ⟨sc,Node.mem_children_of_childNamed hsc,Node.mem_children_of_childNamed he⟩
      · split at h
        · rename_i res hres
          obtain ⟨v,-,h⟩ := bind_eq_ok h
          obtain ⟨q,-,h⟩ := bind_eq_ok h
          cases h
          exact .inr ⟨sc,Node.mem_children_of_childNamed hsc,Node.mem_children_of_childNamed hres⟩
        · cases h
          exact .inl rfl
    · cases h
      exact .inl rfl

theorem derivationOf_congr {ct : Node} (h : r₁.AgreeOn r₂ ct.writtenNames) :
    derivationOf r₁ ct = derivationOf r₂ ct := by
  unfold derivationOf
  split
  · rename_i cc hcc
    have hcc' := h.child (Node.mem_children_of_childNamed hcc)
    split
    · rename_i ext he
      have he' := hcc'.child (Node.mem_children_of_childNamed he)
      dsimp only
      refine bind_congr_ok fun v hv => ?_
      obtain ⟨raw,hraw,rfl⟩ := Option.map_eq_some_iff.1 (requiredText_eq_ok hv)
      rw [(he'.structural (by simp) hraw).2]
    · rfl
  · split
    · rename_i sc hsc
      have hsc' := h.child (Node.mem_children_of_childNamed hsc)
      split
      · rename_i ext he
        have he' := hsc'.child (Node.mem_children_of_childNamed he)
        dsimp only
        refine bind_congr_ok fun v hv => ?_
        obtain ⟨raw,hraw,rfl⟩ := Option.map_eq_some_iff.1 (requiredText_eq_ok hv)
        rw [(he'.typeRef (by simp) hraw).2]
      · split
        · rename_i res hres
          have hres' := hsc'.child (Node.mem_children_of_childNamed hres)
          dsimp only
          refine bind_congr_ok fun v hv => ?_
          obtain ⟨raw,hraw,rfl⟩ := Option.map_eq_some_iff.1 (requiredText_eq_ok hv)
          rw [(hres'.structural (by simp) hraw).2]
        · rfl
    · rfl

mutual

theorem ElementDecl.ofNode_congr {e : Node} (h : r₁.AgreeOn r₂ e.writtenNames) :
    ElementDecl.ofNode r₁ e = ElementDecl.ofNode r₂ e := by
  rw [ElementDecl.ofNode.eq_1,ElementDecl.ofNode.eq_1]
  refine bind_congr_ok fun name _ => ?_
  dsimp only
  split
  · rename_i ct hct
    rw [ComplexType.ofNode_congr (h.child (Node.mem_children_of_childNamed hct)) name]
  · split
    · rename_i st hst
      rw [SimpleType.ofNode_congr (h.child (Node.mem_children_of_childNamed hst)) name]
    · split
      · rename_i t ht
        rw [(h.typeRef (by simp) ht).1]
      · rfl
termination_by (e.height,0)
decreasing_by
  exact Prod.Lex.left _ _ (Node.height_lt_of_mem_children (Node.mem_children_of_childNamed (by assumption)))

theorem Particle.ofNode_congr {e : Node} (h : r₁.AgreeOn r₂ e.writtenNames) :
    Particle.ofNode r₁ e = Particle.ofNode r₂ e := by
  rw [Particle.ofNode.eq_1,Particle.ofNode.eq_1]
  split
  · rename_i target ht
    rw [(h.structural (by simp) ht).1]
  · rw [ElementDecl.ofNode_congr h]
termination_by (e.height,1)
decreasing_by exact Prod.Lex.right _ Nat.zero_lt_one

theorem ComplexType.ofSequence_congr {s : Node} (h : r₁.AgreeOn r₂ s.writtenNames) :
    ComplexType.ofSequence r₁ s = ComplexType.ofSequence r₂ s := by
  rw [ComplexType.ofSequence.eq_1,ComplexType.ofSequence.eq_1]
  refine bind_congr_ok fun group _ => ?_
  dsimp only
  rw [List.forIn'_congr rfl rfl fun child hchild acc => ?_]
  split
  · rw [Particle.ofNode_congr (h.child (Node.mem_children_of_mem_elementChildren hchild))]
  · rfl
termination_by (s.height,2)
decreasing_by
  exact Prod.Lex.left _ _
    (Node.height_lt_of_mem_children (Node.mem_children_of_mem_elementChildren (by assumption)))

theorem ComplexType.ofChoice_congr {c : Node} (h : r₁.AgreeOn r₂ c.writtenNames) :
    ComplexType.ofChoice r₁ c = ComplexType.ofChoice r₂ c := by
  rw [ComplexType.ofChoice.eq_1,ComplexType.ofChoice.eq_1]
  refine bind_congr_ok fun group _ => ?_
  dsimp only
  rw [List.forIn'_congr rfl rfl fun child hchild acc => ?_]
  have hc := h.child (Node.mem_children_of_mem_elementChildren hchild)
  split
  · rw [Particle.ofNode_congr hc]
  · rw [ComplexType.ofSequence_congr hc]
  · rfl
termination_by (c.height,2)
decreasing_by
  all_goals
    have := Node.height_lt_of_mem_children (Node.mem_children_of_mem_elementChildren (by assumption))
    exact Prod.Lex.left _ _ this

theorem ComplexType.ofNode_congr {ct : Node} (h : r₁.AgreeOn r₂ ct.writtenNames) (name : String) :
    ComplexType.ofNode r₁ ct name = ComplexType.ofNode r₂ ct name := by
  rw [ComplexType.ofNode.eq_1,ComplexType.ofNode.eq_1,derivationOf_congr h]
  refine bind_congr_ok fun ⟨base,text,content⟩ hd => ?_
  have hcontent : r₁.AgreeOn r₂ content.1.writtenNames := by
    rcases derivationOf_content hd with hc | ⟨c,hc,hcc⟩
    · rw [hc]
      exact h
    · exact (h.child hc).child hcc
  dsimp only
  rw [List.forIn'_congr rfl rfl fun child hchild acc => ?_]
  have hc := hcontent.child (Node.mem_children_of_mem_elementChildren hchild)
  split
  · rw [AttributeUse.ofNode?_congr hc]
  · rw [ComplexType.ofSequence_congr hc]
  · rw [ComplexType.ofChoice_congr hc]
  · rfl
termination_by (ct.height,3)
decreasing_by
  all_goals
    have := Node.height_lt_of_mem_children (Node.mem_children_of_mem_elementChildren (by assumption))
    exact Prod.Lex.left _ _ (Nat.lt_of_lt_of_le this content.2)

end

end Component

namespace Registry

open Component Xml

variable {r₁ r₂ : Resolver}

theorem declarationReader_congr {x : (Resolver → Node → Except SchemaError Declaration) × String}
    (hx : x ∈ declarationReaders) {n : Node} (h : r₁.AgreeOn r₂ n.writtenNames) : x.1 r₁ n = x.1 r₂ n := by
  simp only [declarationReaders,List.mem_cons,List.not_mem_nil,or_false] at hx
  rcases hx with rfl | rfl | rfl | rfl
  · simp only [readElement,ElementDecl.ofNode_congr h]
  · simp only [readSimpleType,SimpleType.ofNode_congr h]
  · simp only [readComplexType,ComplexType.ofNode_congr h]
  · simp only [readAttribute,AttributeDecl.ofNode_congr h]

theorem declarationNode_congr {root : Node} {x : (Resolver → Node → Except SchemaError Declaration) × Node}
    (hx : x ∈ declarationNodes root) (h : r₁.AgreeOn r₂ root.writtenNames) : x.1 r₁ x.2 = x.1 r₂ x.2 := by
  obtain ⟨reader,hreader,hx⟩ := List.mem_flatMap.1 hx
  obtain ⟨c,hc,rfl⟩ := List.mem_map.1 hx
  exact declarationReader_congr hreader (h.child (Node.mem_children_of_mem_childrenNamed hc))

theorem ResolvesAsDeclared.resolve?_eq {root : Node} {res₁ res₂ : Resolver}
    (h₁ : ResolvesAsDeclared root res₁) (h₂ : ResolvesAsDeclared root res₂) {s : String}
    (hs : ∀ p l, (s.toList.splitOn ':').map String.ofList = [p,l] →
      p = "xml" ∨ ∃ u, (⟨some p,u⟩ : Binding) ∈ root.bindings) :
    res₁.resolve? s = res₂.resolve? s := by
  have hparts : ∀ part ∈ s.toList.splitOn ':', ':' ∉ (String.ofList part).toList := fun _ hp => by
    simpa using not_mem_of_mem_splitOn hp
  have hjoin : [':'].intercalate (s.toList.splitOn ':') = s.toList := List.intercalate_splitOn ':'
  cases hsplit : s.toList.splitOn ':' with
  | nil => exact absurd hsplit (List.splitOn_ne_nil _ _)
  | cons first rest =>
    cases rest with
    | nil =>
      have hl := hparts first (by simp [hsplit])
      have hs' : s = String.ofList first := by
        rw [hsplit] at hjoin
        rw [← String.ofList_toList (s := s),← hjoin]
        simp
      rw [hs',h₁.unprefixed _ hl,h₂.unprefixed _ hl]
    | cons second rest =>
      cases rest with
      | nil =>
        have hp := hparts first (by simp [hsplit])
        have hl := hparts second (by simp [hsplit])
        have hs' : s = String.ofList first ++ ":" ++ String.ofList second := by
          rw [hsplit] at hjoin
          rw [← String.ofList_toList (s := s),← hjoin]
          simp [List.intercalate,String.append_assoc]
        rcases hs (String.ofList first) (String.ofList second) (by simp [hsplit]) with hx | ⟨u,hu⟩
        · rw [hs',hx,h₁.xml _ hl,h₂.xml _ hl]
        · rw [hs',h₁.declared _ u _ hu hp hl,h₂.declared _ u _ hu hp hl]
      | cons third rest => simp [Resolver.resolve?,hsplit]

theorem ResolvesAsDeclared.agreeOn {root : Node} {res₁ res₂ : Resolver} (h₁ : ResolvesAsDeclared root res₁)
    (h₂ : ResolvesAsDeclared root res₂) (hroot : root.PrefixesDeclared) : res₁.AgreeOn res₂ root.writtenNames :=
  fun s hs => h₁.resolve?_eq h₂ (hroot s hs)

theorem ResolvesAsDeclared.read_eq {root : Node} {res₁ res₂ : Resolver} (h₁ : ResolvesAsDeclared root res₁)
    (h₂ : ResolvesAsDeclared root res₂) (hroot : root.PrefixesDeclared)
    {x : (Resolver → Node → Except SchemaError Declaration) × Node} (hx : x ∈ declarationNodes root) :
    x.1 res₁ x.2 = x.1 res₂ x.2 :=
  declarationNode_congr hx (h₁.agreeOn h₂ hroot)

end Registry

end SchemaTypes
