import SchemaTypes.Proofs.RootBindings
import SchemaTypes.Proofs.RegistryContents
set_option autoImplicit false

/-!
How the names written in a schema document resolve. A document's declarations are read with the
resolver of its namespace once the loads of its directives are done and its root's prefixes are
bound over whatever the namespace bound before. A root binds each prefix once and never binds `xml`
(`ReadRoot.prefixesSound`), and no schema of a registry binds `xml` (`ResolversSound`), so every
registration resolves the names of its document as the document's root declares: a declared prefix
to the namespace the root gives it, an unprefixed name to the document's target namespace and `xml`
to the XML namespace (`ResolvesAsDeclared`). A registered declaration is a value: what is bound
after it, by this document or another, does not reach it
(`names_resolve_as_their_document_declares`).
-/

namespace SchemaTypes

open SchemaTypes.Xml

namespace Component

theorem splitOn_colon_of_colonFree {l : String} (hl : ':' ∉ l.toList) :
    l.toList.splitOn ':' = [l.toList] := by
  have h := @List.splitOn_intercalate Char [l.toList] _ _ ':' (by simpa using hl) (by simp)
  simpa using h

theorem splitOn_colon_of_prefixed {p l : String} (hp : ':' ∉ p.toList) (hl : ':' ∉ l.toList) :
    (p ++ ":" ++ l).toList.splitOn ':' = [p.toList,l.toList] := by
  have h := @List.splitOn_intercalate Char [p.toList,l.toList] _ _ ':' (by simp [hp,hl]) (by simp)
  simpa using h

namespace Resolver

variable (r : Resolver) {p l : String}

theorem resolve?_unprefixed (hl : ':' ∉ l.toList) : r.resolve? l = some ⟨r.targetNamespace,l⟩ := by
  simp [resolve?,splitOn_colon_of_colonFree hl]

theorem resolve?_of_lookup {u : String} (hp : ':' ∉ p.toList) (hl : ':' ∉ l.toList)
    (h : r.aliases.lookup p = some u) : r.resolve? (p ++ ":" ++ l) = some ⟨u,l⟩ := by
  unfold resolve?
  rw [splitOn_colon_of_prefixed hp hl]
  simp [h]

theorem resolve?_xml (hl : ':' ∉ l.toList) (h : r.aliases.lookup "xml" = none) :
    r.resolve? ("xml" ++ ":" ++ l) = some ⟨xmlNamespace,l⟩ := by
  unfold resolve?
  rw [splitOn_colon_of_prefixed (by decide) hl]
  simp [h]

end Resolver

end Component

namespace Registry

open SchemaTypes.Component

/-! ## Binding a root's prefixes -/

namespace Schema

theorem lookup_bindAlias (s : Schema) (b : String × String) (q : String) :
    (s.bindAlias b).aliases.lookup q = if q = b.1 then some b.2 else s.aliases.lookup q := by
  obtain ⟨k,v⟩ := b
  simp only [bindAlias,List.lookup_append,lookup_filter_ne]
  by_cases hq : q = k
  · simp [hq]
  · simp [hq,List.lookup_cons,beq_false_of_ne hq]

@[simp] theorem aliases_register (s : Schema) (d : Declaration) : (s.register d).aliases = s.aliases := by
  cases d <;> rfl

theorem bindAliases_cons (s : Schema) (b : Binding) (bs : List Binding) :
    s.bindAliases (b :: bs) = (match b.name with
      | some p => s.bindAlias (p,b.uri)
      | none => s).bindAliases bs := rfl

theorem lookup_bindAliases_of_unbound {q : String} :
    ∀ (s : Schema) (bs : List Binding), (∀ b ∈ bs, b.name ≠ some q) →
      (s.bindAliases bs).aliases.lookup q = s.aliases.lookup q
  | s, [], _ => rfl
  | s, b :: bs, h => by
    rw [bindAliases_cons,lookup_bindAliases_of_unbound _ bs fun b' hb' => h b' (List.mem_cons_of_mem b hb')]
    cases hn : b.name with
    | none => rfl
    | some p =>
      have hp : q ≠ p := by
        rintro rfl
        exact h b List.mem_cons_self hn
      simp only
      rw [lookup_bindAlias,if_neg hp]

theorem lookup_bindAliases_of_mem {p u : String} :
    ∀ (s : Schema) (bs : List Binding), (bs.filterMap (·.name)).Nodup → ⟨some p,u⟩ ∈ bs →
      (s.bindAliases bs).aliases.lookup p = some u
  | s, [], _, hb => absurd hb List.not_mem_nil
  | s, b :: bs, hnd, hb => by
    rw [bindAliases_cons]
    rcases List.mem_cons.1 hb with rfl | hb
    · have hfree : ∀ b' ∈ bs, b'.name ≠ some p := by
        intro b' hb' hn
        simp only [List.filterMap_cons,List.nodup_cons] at hnd
        exact hnd.1 (List.mem_filterMap.2 ⟨b',hb',hn⟩)
      simp only
      rw [lookup_bindAliases_of_unbound _ bs hfree,lookup_bindAlias,if_pos rfl]
    · exact lookup_bindAliases_of_mem _ bs (hnd.sublist ((List.sublist_cons_self b bs).filterMap _)) hb

end Schema

/-- A resolver resolves names as a document's root declares them. -/
structure ResolvesAsDeclared (root : Node) (res : Resolver) : Prop where
  unprefixed : ∀ l, ':' ∉ l.toList → res.resolve? l = some ⟨documentNamespace root,l⟩
  declared : ∀ p u l, ⟨some p,u⟩ ∈ root.bindings → ':' ∉ p.toList → ':' ∉ l.toList →
    res.resolve? (p ++ ":" ++ l) = some ⟨u,l⟩
  xml : ∀ l, ':' ∉ l.toList → res.resolve? ("xml" ++ ":" ++ l) = some ⟨xmlNamespace,l⟩

theorem ResolvesAsDeclared.of_bindAliases {root : Node} (hroot : PrefixesSound root.bindings) {s : Schema}
    (hns : s.targetNamespace = documentNamespace root) (hxml : s.aliases.lookup "xml" = none) :
    ResolvesAsDeclared root (s.bindAliases root.bindings).resolver where
  unprefixed l hl := by
    rw [Resolver.resolve?_unprefixed _ hl]
    simp [Schema.resolver,(s.bindAliases_tables root.bindings).1,hns]
  declared p u l hb hp hl :=
    Resolver.resolve?_of_lookup _ hp hl (Schema.lookup_bindAliases_of_mem s _ hroot.nodup hb)
  xml l hl := Resolver.resolve?_xml _ hl
    ((Schema.lookup_bindAliases_of_unbound s _ fun b hb => hroot.noXml b hb).trans hxml)

/-! ## No schema binds `xml` -/

def ResolversSound (r : Registry) : Prop :=
  ∀ e ∈ r.schemas.entries, e.2.targetNamespace = e.1 ∧ e.2.aliases.lookup "xml" = none

theorem builtinSchema_aliases (ns mark : String) (types : List (String × String)) :
    (builtinSchema ns mark types).aliases = [] := by
  unfold builtinSchema
  apply List.foldlRecOn (motive := fun s : Schema => s.aliases = [])
  · rfl
  · intro s hs _ _
    exact hs

theorem resolversSound_new (config : Config) : (Registry.new config).ResolversSound := by
  intro e he
  obtain ⟨s,hs,rfl⟩ := mem_entries_new he
  refine ⟨rfl,?_⟩
  simp only [builtinSchemas,List.mem_cons,List.not_mem_nil,or_false] at hs
  rcases hs with rfl | rfl <;> simp [builtinSchema_aliases]

namespace ResolversSound

variable {r : Registry} (h : r.ResolversSound)
include h

theorem schema? {ns : String} {s : Schema} (hs : r.schema? ns = some s) :
    s.targetNamespace = ns ∧ s.aliases.lookup "xml" = none :=
  h _ (Table.mem_entries_of_get? hs)

theorem entry (ns : String) : (r.entry ns).targetNamespace = ns ∧ (r.entry ns).aliases.lookup "xml" = none := by
  unfold Registry.entry
  cases hs : r.schema? ns with
  | none => exact ⟨rfl,rfl⟩
  | some s => exact h.schema? hs

theorem ensureSchema (ns : String) : (r.ensureSchema ns).ResolversSound := by
  unfold Registry.ensureSchema
  split
  · exact h
  · intro e he
    rcases Table.mem_entries_insert he with he | rfl
    · exact h e he
    · exact ⟨rfl,rfl⟩

theorem modifySchema (ns : String) {f : Schema → Schema}
    (hf : ∀ s, (f s).targetNamespace = s.targetNamespace ∧
      (s.aliases.lookup "xml" = none → (f s).aliases.lookup "xml" = none)) :
    (r.modifySchema ns f).ResolversSound := by
  intro e he
  rcases Table.mem_entries_modify he with he | ⟨v,hv,rfl⟩
  · exact h e he
  · obtain ⟨ht,hx⟩ := h _ hv
    exact ⟨(hf v).1.trans ht,(hf v).2 hx⟩

end ResolversSound

theorem resolversSound_ingestRelation :
    IngestRelation fun r r' (_ : List Event) => r.ResolversSound → r'.ResolversSound where
  refl _ := id
  trans h₁ h₂ h := h₂ (h₁ h)
  ensureSchema _ ns h := h.ensureSchema ns
  enter _ _ _ _ h := h
  bindAliases _ ns root hroot h := h.modifySchema ns fun s =>
    ⟨(s.bindAliases_tables root.bindings).1,fun hx =>
      (Schema.lookup_bindAliases_of_unbound s _ fun b hb => hroot.prefixesSound.noXml b hb).trans hx⟩
  register _ ns _ _ d _ h := h.modifySchema ns fun s =>
    ⟨s.targetNamespace_register d,fun hx => by rw [Schema.aliases_register,hx]⟩

/-! ## Every registration resolves as its document declares -/

def ResolvedAsDeclared (evs : List Event) : Prop :=
  ∀ root ns res d, Event.register root ns res d ∈ evs → ResolvesAsDeclared root res

namespace ResolvedAsDeclared

variable {evs evs' : List Event}

theorem of_quiet (h : ∀ ev ∈ evs, ∀ root ns res d, ev ≠ .register root ns res d) : ResolvedAsDeclared evs :=
  fun root ns res d hev => absurd rfl (h _ hev root ns res d)

theorem append (h : ResolvedAsDeclared evs) (h' : ResolvedAsDeclared evs') :
    ResolvedAsDeclared (evs ++ evs') := by
  intro root ns res d hev
  rcases List.mem_append.1 hev with hev | hev
  · exact h root ns res d hev
  · exact h' root ns res d hev

theorem cons {ev : Event} (hev : ∀ root ns res d, ev ≠ .register root ns res d) (h : ResolvedAsDeclared evs) :
    ResolvedAsDeclared (ev :: evs) :=
  (of_quiet (by simpa using hev) : ResolvedAsDeclared [ev]).append h

end ResolvedAsDeclared

theorem resolvedAsDeclared_runRelation :
    RunRelation fun r r' evs => r.ResolversSound → r'.ResolversSound ∧ ResolvedAsDeclared evs where
  refl _ h := ⟨h,.of_quiet (by simp)⟩
  trans h₁ h₂ h := ⟨(h₂ (h₁ h).1).1,(h₁ h).2.append (h₂ (h₁ h).1).2⟩
  ensureSchema _ ns h := ⟨h.ensureSchema ns,.of_quiet (by simp)⟩

theorem resolvedAsDeclared_loadRelation :
    LoadRelation fun r r' evs => r.ResolversSound → r'.ResolversSound ∧ ResolvedAsDeclared evs where
  toRunRelation := resolvedAsDeclared_runRelation
  exhausted _ _ h := ⟨h,.of_quiet (by simp)⟩
  fetch _ _ _ h := ⟨h,.of_quiet (by simp)⟩
  handOff _ hi h := ⟨(hi h).1,(hi h).2.cons (by simp)⟩
  ingest {load} hload r root loc hroot h := by
    refine ⟨resolversSound_ingestRelation.holds_ingestWithT (fun r l h => (hload r l h).1) r hroot loc h,?_⟩
    have hentered : (entered r root loc).ResolversSound :=
      ResolversSound.ensureSchema (show (r.recordLoaded loc.key _).ResolversSound from h) _
    have hd := resolvedAsDeclared_runRelation.holds_followDirectivesT hload loc (entered r root loc)
      root.elementChildren hentered
    rcases ingestWithT_snd_cases r root loc with hevs | ⟨R,hevs,hR⟩
    · rw [hevs]
      exact .of_quiet (by simp)
    · rw [hevs]
      refine .cons (by simp) (hd.2.append ?_)
      rcases hR with rfl | ⟨r',rfl,rfl⟩
      · exact .of_quiet (by simp)
      · intro root' ns res d hev
        obtain ⟨d',he,-⟩ := mem_registerDeclarationsT hev
        cases he
        rw [entry_bindPrefixes]
        obtain ⟨hns,hxml⟩ := hd.1.entry (documentNamespace root)
        exact .of_bindAliases hroot.prefixesSound hns hxml

/-! ## What a registry holds -/

/-- Every declaration a registry holds is built in or was read with a resolver that resolves the names
of its document as the document's root declares them. -/
theorem names_resolve_as_their_document_declares (config : Config) (src : Source) {reg : Registry}
    {evs : List Event} (h : Session src (Registry.new config) reg evs) :
    (∀ root ns res d, Event.register root ns res d ∈ evs →
      documentNamespace root = ns ∧ (∃ x ∈ declarationNodes root, x.1 res x.2 = .ok d) ∧
        ResolvesAsDeclared root res) ∧
    ∀ ns κ n d, (reg.declarations ns κ).get? n = some d →
      ((Registry.new config).declarations ns κ).get? n = some d ∨
        ∃ root res, Event.register root ns res d ∈ evs := by
  have hresolved := (resolvedAsDeclared_loadRelation.holds_session h (resolversSound_new config)).2
  refine ⟨fun root ns res d hev => ?_,fun ns κ n d hd => ?_⟩
  · obtain ⟨-,hns,hx⟩ := fromEntered_loadRelation.holds_session h root ns res d hev
    exact ⟨hns,hx,hresolved root ns res d hev⟩
  · rw [(tabulates_loadRelation.holds_session h).get? ns κ n] at hd
    cases hf : (registered κ ns evs).reverse.find? (·.name == n) with
    | none =>
      rw [hf,Option.none_or] at hd
      exact .inl hd
    | some d' =>
      rw [hf,Option.some_or] at hd
      cases hd
      obtain ⟨-,root,res,hev⟩ := mem_registered.1 (List.mem_reverse.1 (List.mem_of_find?_eq_some hf))
      exact .inr ⟨root,res,hev⟩

/-- Two documents of the empty namespace that bind the prefix `p` to `one` and to `two`. -/
def rebindingSource : Source :=
  ⟨[(.path [.root,.normal "main"],
      "<schema xmlns:p='one'><include schemaLocation='inc'/><attribute name='Main' type='p:T'/></schema>"),
    (.path [.root,.normal "inc"],"<schema xmlns:p='two'><attribute name='Inc' type='p:T'/></schema>")]⟩

def Event.registersFor (ns name : String) (b : Binding) : Event → Bool
  | .register root ns' _ d => ns' == ns && d.name == name && root.bindings.contains b
  | _ => false

/-- Loading `/main` registers `Inc`, read with `p` bound to `two`, and then `Main`, read with `p`
bound to `one`: each declaration resolves the prefix as its own document binds it. -/
theorem rebindingSource_names_resolve_as_each_document_binds :
    ∃ evs, Session rebindingSource (Registry.new {}) (run rebindingSource (Registry.new {}) (.load "/main")).1 evs ∧
      (∃ root res d, Event.register root "" res d ∈ evs ∧ d.name = "Main" ∧
        res.resolve? ("p" ++ ":" ++ "T") = some ⟨"one","T"⟩) ∧
      ∃ root res d, Event.register root "" res d ∈ evs ∧ d.name = "Inc" ∧
        res.resolve? ("p" ++ ":" ++ "T") = some ⟨"two","T"⟩ := by
  have hsession := Session.step (.nil : Session rebindingSource (Registry.new {}) _ _) (.load "/main")
  have hany : (commandEvents rebindingSource (Registry.new {}) (.load "/main")).any
        (Event.registersFor "" "Main" ⟨some "p","one"⟩) = true ∧
      (commandEvents rebindingSource (Registry.new {}) (.load "/main")).any
        (Event.registersFor "" "Inc" ⟨some "p","two"⟩) = true := by
    decide +kernel
  have hresolve : ∀ name u, (commandEvents rebindingSource (Registry.new {}) (.load "/main")).any
      (Event.registersFor "" name ⟨some "p",u⟩) = true →
      ∃ root res d, Event.register root "" res d ∈ [] ++ commandEvents rebindingSource (Registry.new {}) (.load "/main") ∧
        d.name = name ∧ res.resolve? ("p" ++ ":" ++ "T") = some ⟨u,"T"⟩ := by
    intro name u h
    obtain ⟨ev,hev,hcheck⟩ := List.any_eq_true.1 h
    cases ev with
    | register root ns res d =>
      simp only [Event.registersFor,Bool.and_eq_true,beq_iff_eq,List.contains_iff_mem] at hcheck
      obtain ⟨⟨rfl,hname⟩,hb⟩ := hcheck
      have hev' := List.mem_append_right [] hev
      obtain ⟨-,-,hres⟩ := (names_resolve_as_their_document_declares {} rebindingSource hsession).1 root _ res d hev'
      exact ⟨root,res,d,hev',hname,hres.declared "p" u "T" hb (by decide) (by decide)⟩
    | _ => simp [Event.registersFor] at hcheck
  exact ⟨_,hsession,hresolve "Main" "one" hany.1,hresolve "Inc" "two" hany.2⟩

end Registry

end SchemaTypes
