import Mathlib.Tactic.SplitIfs
import SchemaTypes.Proofs.DeclarationReading
set_option autoImplicit false

/-!
The prefixes a document's root binds. A start tag's declarations bind each prefix at most once and
never bind `xml`: a second declaration of a prefix is refused, `xml` may only be declared with its
own namespace, and such a declaration is dropped (`sortAttribute_sound`). The root inherits no
declarations, so the prefixes it binds are exactly those its start tag declares
(`ReadRoot.prefixesSound`).
-/

namespace SchemaTypes.Xml

open SchemaTypes.Component

/-- Declarations that bind each prefix at most once and never bind `xml`. -/
structure PrefixesSound (bs : List Binding) : Prop where
  nodup : (bs.filterMap (·.name)).Nodup
  noXml : ∀ b ∈ bs, b.name ≠ some "xml"

theorem prefixesSound_nil : PrefixesSound [] := ⟨List.nodup_nil,by simp⟩

theorem PrefixesSound.append {bs : List Binding} {b : Binding} (h : PrefixesSound bs)
    (hb : ∀ p, b.name = some p → p ∉ bs.filterMap (·.name) ∧ p ≠ "xml") : PrefixesSound (bs ++ [b]) := by
  refine ⟨?_,?_⟩
  · rw [List.filterMap_append,List.nodup_append]
    refine ⟨h.nodup,?_,?_⟩
    · cases hn : b.name <;> simp [hn]
    · intro p hp q hq hpq
      subst hpq
      obtain ⟨b',hb',hn⟩ := List.mem_filterMap.1 hq
      rw [List.mem_singleton] at hb'
      subst hb'
      exact (hb p hn).1 hp
  · intro b' hb'
    rcases List.mem_append.1 hb' with hb' | hb'
    · exact h.noXml b' hb'
    · rw [List.mem_singleton] at hb'
      subst hb'
      exact fun hx => (hb "xml" hx).2 rfl

theorem foldlM_invariant {α β ε : Type} {f : β → α → Except ε β} (P : β → Prop)
    (hf : ∀ b a b', P b → f b a = .ok b' → P b') :
    ∀ (l : List α) (b b' : β), P b → l.foldlM f b = .ok b' → P b'
  | [], b, b', hb, h => by
    cases h
    exact hb
  | a :: l, b, b', hb, h => by
    rw [List.foldlM_cons] at h
    obtain ⟨c,hc,h⟩ := bind_eq_ok h
    exact foldlM_invariant P hf l c b' (hf b a c hb hc) h

theorem sortAttribute_sound {acc acc' : List Binding × List RawAttribute} {a : RawAttribute}
    (h : PrefixesSound acc.1) (hs : sortAttribute acc a = .ok acc') : PrefixesSound acc'.1 := by
  obtain ⟨decls,others⟩ := acc
  obtain ⟨pre,loc,v⟩ := a
  simp only [sortAttribute] at hs
  split_ifs at hs with hpre hx hxml hother hdup hv hdefault hdefault'
  · cases hs
    exact h
  · cases hs
    refine h.append fun p hp => ?_
    cases hp
    refine ⟨fun hmem => hdup ?_,fun hloc => ?_⟩
    · obtain ⟨b,hb,hbp⟩ := List.mem_filterMap.1 hmem
      exact List.any_eq_true.2 ⟨b,hb,by simp [hbp]⟩
    · subst hloc
      simp_all
  · cases hs
    exact h.append fun p hp => by cases hp
  · cases hs
    exact h

theorem resolveStartTag_nil_sound {pre : String} {written : List RawAttribute} {ns : Option String}
    {attrs : List Attribute} {scope : List Binding}
    (h : resolveStartTag [] pre written = .ok (ns,attrs,scope)) : PrefixesSound scope := by
  unfold resolveStartTag at h
  obtain ⟨⟨own,others⟩,hown,h⟩ := bind_eq_ok h
  obtain ⟨attrs',-,h⟩ := bind_eq_ok h
  obtain ⟨ns',-,h⟩ := bind_eq_ok h
  cases h
  have hs := foldlM_invariant (fun acc : List Binding × List RawAttribute => PrefixesSound acc.1)
    (fun _ _ _ hb hf => sortAttribute_sound hb hf) written ([],[]) (own,others) prefixesSound_nil hown
  simpa [enterScope] using hs

theorem readElement_nil_sound {ents : Entities} {fuel depth refs : Nat} {cs : List Char} {root : Node}
    {refs' : Nat} {rest : List Char} (h : readElement ents fuel [] depth refs cs = .ok (root,refs',rest)) :
    PrefixesSound root.bindings := by
  cases fuel with
  | zero => simp [readElement] at h
  | succ fuel =>
    simp only [readElement] at h
    split at h
    · cases h
    · split at h
      · cases h
      · split at h
        · cases h
        · split at h
          · cases h
          · rename_i hstart
            have hs := resolveStartTag_nil_sound hstart
            split at h
            · cases h
              exact hs
            · split at h
              · cases h
              · cases h
                exact hs

theorem Document.read_root {allowDtd : Bool} {text : String} {doc : Document}
    (h : Document.read allowDtd text = .ok doc) :
    ∃ ents fuel cs x, readElement ents fuel [] 0 0 cs = .ok (doc.root,x) := by
  unfold Document.read at h
  extract_lets cs misc body afterDeclaration at h
  have hbody : ∀ x, body x = .ok doc → ∃ ents fuel cs x, readElement ents fuel [] 0 0 cs = .ok (doc.root,x) := by
    rintro ⟨ents,cs⟩ h
    simp only [body] at h
    split at h
    · obtain ⟨⟨root,x⟩,hroot,h⟩ := bind_eq_ok h
      obtain ⟨rest,-,h⟩ := bind_eq_ok h
      split at h
      · cases h
        exact ⟨_,_,_,x,hroot⟩
      · cases h
    · obtain ⟨rest,-,h⟩ := bind_eq_ok h
      split at h <;> cases h
  have hprolog : ∀ cs, afterDeclaration cs = .ok doc →
      ∃ ents fuel cs x, readElement ents fuel [] 0 0 cs = .ok (doc.root,x) := by
    intro cs h
    simp only [afterDeclaration] at h
    obtain ⟨cs,-,h⟩ := bind_eq_ok h
    split at h
    · split at h
      · obtain ⟨⟨ents,r⟩,-,h⟩ := bind_eq_ok h
        obtain ⟨r,-,h⟩ := bind_eq_ok h
        rw [pure_bind] at h
        exact hbody (ents,r) h
      · cases h
    · rw [pure_bind] at h
      exact hbody ([],cs) h
  split at h
  · obtain ⟨cs,-,h⟩ := bind_eq_ok h
    exact hprolog cs h
  · exact hprolog cs h

end SchemaTypes.Xml

namespace SchemaTypes.Registry

open SchemaTypes.Xml

theorem ReadRoot.prefixesSound {root : Node} (h : ReadRoot root) : PrefixesSound root.bindings := by
  obtain ⟨allowDtd,text,doc,hread,rfl⟩ := h
  obtain ⟨ents,fuel,cs,x,hroot⟩ := Document.read_root hread
  exact readElement_nil_sound hroot

end SchemaTypes.Registry
