import SchemaTypes.Proofs.RegistryTables
import SchemaTypes.Proofs.ReaderMaps
set_option autoImplicit false

/-!
What reading a top-level declaration gives. Each reader of `declarationReaders` fails or gives a
declaration named by the trimmed `name` attribute of the element it read, of the kind its tag
registers into: elements into the element table, simple and complex types into the type table,
attributes into the attribute table (`read_declarationReaders`). So the names a document declares
for a kind (`declaredNames`) are the names its top-level declarations of that kind register under.
-/

namespace SchemaTypes

open SchemaTypes.Xml SchemaTypes.Text

namespace Component

theorem requiredText_eq_ok {n : Node} {element attr v : String} (h : requiredText n element attr = .ok v) :
    (n.attribute? attr).map trim = some v := by
  unfold requiredText at h
  split at h
  · rename_i raw hraw
    cases h
    simp [hraw]
  · cases h

theorem ElementDecl.name_of_ofNode {r : Resolver} {e : Node} {d : ElementDecl}
    (h : ElementDecl.ofNode r e = .ok d) : (e.attribute? "name").map trim = some d.name := by
  rw [ElementDecl.ofNode] at h
  obtain ⟨name,hn,h⟩ := bind_eq_ok h
  refine (requiredText_eq_ok hn).trans (congrArg some ?_)
  simp only [pure_bind] at h
  have hjp : ∀ type, (occursOf e elementOccurs >>= fun occurs =>
      pure (ElementDecl.mk name type occurs (Annotations.ofNode? e))) = .ok d → name = d.name := by
    intro type h
    obtain ⟨occurs,-,h⟩ := bind_eq_ok h
    cases h
    rfl
  split at h
  · obtain ⟨c,-,h⟩ := bind_eq_ok h
    exact hjp _ h
  · split at h
    · obtain ⟨st,-,h⟩ := bind_eq_ok h
      exact hjp _ h
    · split at h <;> exact hjp _ h

theorem ComplexType.name_of_ofNode {r : Resolver} {ct : Node} {name : String} {c : ComplexType}
    (h : ComplexType.ofNode r ct name = .ok c) : c.name = name := by
  rw [ComplexType.ofNode] at h
  obtain ⟨derivation,-,h⟩ := bind_eq_ok h
  obtain ⟨content,-,h⟩ := bind_eq_ok h
  cases h
  rfl

theorem SimpleType.name_of_ofNode {r : Resolver} {n : Node} {name : String} {t : SimpleType}
    (h : SimpleType.ofNode r n name = .ok t) : t.name = name := by
  unfold SimpleType.ofNode at h
  simp only [pure_bind] at h
  split at h
  · cases h
    rfl
  · split at h
    · obtain ⟨base,-,h⟩ := bind_eq_ok h
      obtain ⟨facets,-,h⟩ := bind_eq_ok h
      cases h
      rfl
    · obtain ⟨facets,-,h⟩ := bind_eq_ok h
      cases h
      rfl

theorem AttributeDecl.name_of_ofNode {r : Resolver} {n : Node} {a : AttributeDecl}
    (h : AttributeDecl.ofNode r n = .ok a) : (n.attribute? "name").map trim = some a.name := by
  unfold AttributeDecl.ofNode at h
  obtain ⟨name,hn,h⟩ := bind_eq_ok h
  refine (requiredText_eq_ok hn).trans (congrArg some ?_)
  simp only [pure_bind] at h
  split at h
  · obtain ⟨st,-,h⟩ := bind_eq_ok h
    cases h
    rfl
  · cases h
    rfl

end Component

namespace Registry

open SchemaTypes.Component

def Kind.tags : Kind → List String
  | .element => ["element"]
  | .type => ["simpleType","complexType"]
  | .attribute => ["attribute"]

theorem Kind.eq_of_mem_tags {κ κ' : Kind} {tag : String} (h : tag ∈ κ.tags) (h' : tag ∈ κ'.tags) :
    κ = κ' := by
  cases κ <;> cases κ' <;> simp_all [Kind.tags]

theorem read_declarationReaders {x : (Resolver → Node → Except SchemaError Declaration) × String}
    (hx : x ∈ declarationReaders) {res : Resolver} {c : Node} {d : Declaration} (h : x.1 res c = .ok d) :
    x.2 ∈ d.kind.tags ∧ (c.attribute? "name").map trim = some d.name := by
  simp only [declarationReaders,List.mem_cons,List.not_mem_nil,or_false] at hx
  rcases hx with rfl | rfl | rfl | rfl
  · obtain ⟨e,he,h⟩ := bind_eq_ok h
    cases h
    exact ⟨by simp [Declaration.kind,Kind.tags],ElementDecl.name_of_ofNode he⟩
  · obtain ⟨name,hn,h⟩ := bind_eq_ok h
    obtain ⟨t,ht,h⟩ := bind_eq_ok h
    cases h
    refine ⟨by simp [Declaration.kind,Kind.tags],?_⟩
    rw [requiredText_eq_ok hn,Declaration.name,TypeDefinition.name,SimpleType.name_of_ofNode ht]
  · obtain ⟨name,hn,h⟩ := bind_eq_ok h
    obtain ⟨t,ht,h⟩ := bind_eq_ok h
    cases h
    refine ⟨by simp [Declaration.kind,Kind.tags],?_⟩
    rw [requiredText_eq_ok hn,Declaration.name,TypeDefinition.name,ComplexType.name_of_ofNode ht]
  · obtain ⟨a,ha,h⟩ := bind_eq_ok h
    cases h
    exact ⟨by simp [Declaration.kind,Kind.tags],AttributeDecl.name_of_ofNode ha⟩

theorem exists_declarationReader {κ : Kind} {tag : String} (h : tag ∈ κ.tags) :
    ∃ read, (read,tag) ∈ declarationReaders := by
  cases κ <;> simp only [Kind.tags,List.mem_cons,List.not_mem_nil,or_false] at h <;>
    rcases h with rfl | rfl <;> simp [declarationReaders]

/-- The names the top-level declarations of a document give to the table of a kind. -/
def declaredNames (κ : Kind) (root : Node) : List String :=
  (κ.tags.flatMap root.childrenNamed).filterMap fun c => (c.attribute? "name").map trim

theorem name_mem_declaredNames {root : Node} {x : (Resolver → Node → Except SchemaError Declaration) × Node}
    (hx : x ∈ declarationNodes root) {res : Resolver} {d : Declaration} (h : x.1 res x.2 = .ok d) :
    d.name ∈ declaredNames d.kind root := by
  obtain ⟨⟨read,tag⟩,hr,hx⟩ := List.mem_flatMap.1 hx
  obtain ⟨c,hc,rfl⟩ := List.mem_map.1 hx
  obtain ⟨htag,hname⟩ := read_declarationReaders hr h
  exact List.mem_filterMap.2 ⟨c,List.mem_flatMap.2 ⟨tag,htag,hc⟩,hname⟩

theorem exists_of_mem_declaredNames {κ : Kind} {root : Node} {n : String} (h : n ∈ declaredNames κ root) :
    ∃ x ∈ declarationNodes root, ∀ res d, x.1 res x.2 = .ok d → d.kind = κ ∧ d.name = n := by
  obtain ⟨c,hc,hname⟩ := List.mem_filterMap.1 h
  obtain ⟨tag,htag,hc⟩ := List.mem_flatMap.1 hc
  obtain ⟨read,hr⟩ := exists_declarationReader htag
  refine ⟨(read,c),List.mem_flatMap.2 ⟨(read,tag),hr,List.mem_map_of_mem hc⟩,fun res d hd => ?_⟩
  obtain ⟨htag',hname'⟩ := read_declarationReaders hr hd
  exact ⟨(Kind.eq_of_mem_tags htag htag').symm,Option.some.inj (hname'.symm.trans hname)⟩

end Registry

end SchemaTypes
