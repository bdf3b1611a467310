import SchemaTypes.Component.Reading
set_option autoImplicit false

/-!
The readers of complex types as maps over the children of their node. Their loops only add what
they read from each child, so each reader is a map over the element children of its node followed
by a flatten (`ComplexType.ofSequence_eq`, `ComplexType.ofChoice_eq`, `ComplexType.ofNode_eq`).
With these and the equation of an element with an anonymous type, a given declaration reads by
rewriting one node at a time.
-/

namespace SchemaTypes.Component

open SchemaTypes.Xml

theorem bind_eq_ok {ε α β : Type} {x : Except ε α} {f : α → Except ε β} {b : β}
    (h : x >>= f = .ok b) : ∃ a, x = .ok a ∧ f a = .ok b := by
  cases x with
  | error e => cases h
  | ok a => exact ⟨a,rfl,h⟩

/-! ## Loops that accumulate -/

theorem forIn'_eq_foldl_mapM {α β σ ε : Type} (g : α → Except ε β) (step : σ → β → σ) :
    ∀ {xs : List α} {f : (a : α) → a ∈ xs → σ → Except ε (ForInStep σ)},
      (∀ a ha s, f a ha s = (fun y => .yield (step s y)) <$> g a) →
      ∀ init, forIn' xs init f = (fun ys => ys.foldl step init) <$> xs.mapM g
  | [], _, _, _ => rfl
  | x :: xs, f, hf, init => by
    rw [List.forIn'_cons,hf,List.mapM_cons]
    cases g x with
    | error e => rfl
    | ok y =>
      have ih := forIn'_eq_foldl_mapM g step (f := fun a m s => f a (List.mem_cons_of_mem x m) s)
        (fun a _ s => hf a _ s) (step init y)
      simp only [Functor.map,Except.map,bind,Except.bind,pure,Except.pure] at ih ⊢
      rw [ih]
      cases xs.mapM g <;> rfl

theorem foldl_append_pairs {α β : Type} :
    ∀ (parts : List (List α × List β)) (as : List α) (bs : List β),
      parts.foldl (fun s y => (s.1 ++ y.1, s.2 ++ y.2)) (as, bs) =
        (as ++ (parts.map Prod.fst).flatten, bs ++ (parts.map Prod.snd).flatten)
  | [], as, bs => by simp
  | y :: parts, as, bs => by
    rw [List.foldl_cons,foldl_append_pairs parts]
    simp

/-! ## Readers as maps over children -/

def sequenceMember (r : Resolver) (group : Occurs) (child : Node) :
    Except SchemaError (List Particle) :=
  if child.localName? == some "element" then (fun p => [p.foldOccurs group]) <$> Particle.ofNode r child
  else pure []

def choiceMember (r : Resolver) (group : Occurs) (child : Node) :
    Except SchemaError (List (List Particle)) :=
  match child.localName? with
  | some "element" => (fun p => [[p.foldOccurs group]]) <$> Particle.ofNode r child
  | some "sequence" => (fun ps => [ps.map (·.foldOccurs group)]) <$> ComplexType.ofSequence r child
  | _ => pure []

def contentMember (r : Resolver) (child : Node) :
    Except SchemaError (List AttributeUse × List (List Particle)) :=
  match child.localName? with
  | some "attribute" => (fun a => (a.toList, [])) <$> AttributeUse.ofNode? r child
  | some "sequence" => (fun ps => ([], [ps])) <$> ComplexType.ofSequence r child
  | some "choice" => (fun vs => ([], vs)) <$> ComplexType.ofChoice r child
  | _ => pure ([], [])

theorem ComplexType.ofSequence_eq (r : Resolver) (s : Node) :
    ComplexType.ofSequence r s = (do
      let group ← occursOf s groupOccurs
      let parts ← s.elementChildren.mapM (sequenceMember r group)
      pure parts.flatten) := by
  rw [ComplexType.ofSequence]
  refine congrArg (occursOf s groupOccurs >>= ·) (funext fun group => ?_)
  dsimp only
  rw [forIn'_eq_foldl_mapM (sequenceMember r group) (· ++ ·) ?_ []]
  · cases s.elementChildren.mapM (sequenceMember r group) with
    | error e => rfl
    | ok parts => simpa [Functor.map,Except.map] using @List.foldl_append_eq_append _ _ parts id []
  · intro child _ acc
    simp only [sequenceMember]
    split
    · cases Particle.ofNode r child <;> rfl
    · simp [pure,Except.pure,Functor.map,Except.map]

theorem ComplexType.ofChoice_eq (r : Resolver) (c : Node) :
    ComplexType.ofChoice r c = (do
      let group ← occursOf c groupOccurs
      let parts ← c.elementChildren.mapM (choiceMember r group)
      pure parts.flatten) := by
  rw [ComplexType.ofChoice]
  refine congrArg (occursOf c groupOccurs >>= ·) (funext fun group => ?_)
  dsimp only
  rw [forIn'_eq_foldl_mapM (choiceMember r group) (· ++ ·) ?_ []]
  · cases c.elementChildren.mapM (choiceMember r group) with
    | error e => rfl
    | ok parts => simpa [Functor.map,Except.map] using @List.foldl_append_eq_append _ _ parts id []
  · intro child _ acc
    simp only [choiceMember]
    generalize child.localName? = k
    split
    · cases Particle.ofNode r child <;> rfl
    · cases ComplexType.ofSequence r child <;> rfl
    · simp_all [pure,Except.pure,Functor.map,Except.map]

theorem ComplexType.ofNode_eq (r : Resolver) (ct : Node) (name : String) :
    ComplexType.ofNode r ct name = (do
      let d ← derivationOf r ct
      let parts ← d.2.2.1.elementChildren.mapM (contentMember r)
      pure (.mk name d.1 d.2.1 (parts.map Prod.fst).flatten (parts.map Prod.snd).flatten
        (Annotations.ofNode? ct))) := by
  rw [ComplexType.ofNode]
  refine congrArg (derivationOf r ct >>= ·) (funext fun d => ?_)
  obtain ⟨base,text,content⟩ := d
  dsimp only
  rw [forIn'_eq_foldl_mapM (contentMember r) (fun s y => (s.1 ++ y.1, s.2 ++ y.2)) ?_ ([],[])]
  · cases content.1.elementChildren.mapM (contentMember r) <;>
      simp [Functor.map,Except.map,foldl_append_pairs]
  · intro child _ s
    simp only [contentMember]
    generalize child.localName? = k
    split
    · cases AttributeUse.ofNode? r child with
      | error e => rfl
      | ok a => cases a <;> simp [bind,Except.bind,pure,Except.pure,Functor.map,Except.map]
    · cases ComplexType.ofSequence r child <;> simp [bind,Except.bind,pure,Except.pure,Functor.map,Except.map]
    · cases ComplexType.ofChoice r child <;> simp [bind,Except.bind,pure,Except.pure,Functor.map,Except.map]
    · simp_all [pure,Except.pure,Functor.map,Except.map]

theorem derivationOf_of_no_content {r : Resolver} {ct : Node}
    (hcc : ct.childNamed? "complexContent" = none) (hsc : ct.childNamed? "simpleContent" = none) :
    derivationOf r ct = .ok (none,none,⟨ct,Nat.le_refl _⟩) := by
  unfold derivationOf
  split
  · rename_i cc hcc'
    rw [hcc] at hcc'
    cases hcc'
  · split
    · rename_i sc hsc'
      rw [hsc] at hsc'
      cases hsc'
    · rfl

theorem ComplexType.ofNode_of_no_content {r : Resolver} {ct : Node} (name : String)
    (hcc : ct.childNamed? "complexContent" = none) (hsc : ct.childNamed? "simpleContent" = none) :
    ComplexType.ofNode r ct name = (fun parts => .mk name none none (parts.map Prod.fst).flatten
      (parts.map Prod.snd).flatten (Annotations.ofNode? ct)) <$> ct.elementChildren.mapM (contentMember r) := by
  rw [ComplexType.ofNode_eq,derivationOf_of_no_content hcc hsc]
  rfl

theorem ElementDecl.ofNode_of_complexType {r : Resolver} {e ct : Node}
    (hc : e.childNamed? "complexType" = some ct) :
    ElementDecl.ofNode r e = (do
      let name ← requiredText e "element" "name"
      let t ← ComplexType.ofNode r ct name
      let occurs ← occursOf e elementOccurs
      return .mk name (.complex t) occurs (Annotations.ofNode? e)) := by
  rw [ElementDecl.ofNode]
  refine congrArg (requiredText e "element" "name" >>= ·) (funext fun name => ?_)
  split
  · rename_i ct' hct
    rw [hc] at hct
    cases hct
    cases ComplexType.ofNode r ct name <;> rfl
  · rename_i hnone
    rw [hc] at hnone
    cases hnone

end SchemaTypes.Component
