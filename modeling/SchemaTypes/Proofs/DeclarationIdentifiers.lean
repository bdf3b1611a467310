import SchemaTypes.Proofs.ChoiceArms
import SchemaTypes.Proofs.RegistryContents
import SchemaTypes.Proofs.RenderFailure
set_option autoImplicit false

/-!
The identifiers of rendered declarations. A registry renders as the helper types and then one
declaration `export type I = …;` for each registered type definition and each registered element
declaration, schema by schema in table order, the types of each before its elements (`render_eq`);
the identifier `I` of each is the one its definition gives (`Declared.render_eq_ok`). A type
reference to a registered type renders as that type's identifier, so the text holds the type's own
declaration under the identifier the reference renders (`type_references_name_their_declaration`).
Identifiers come from local names alone, and all namespaces render into one text: two namespaces
that declare the same local name declare one identifier twice (`sameLocalName_declared_twice`).
-/

namespace SchemaTypes

open SchemaTypes.Component SchemaTypes.Script

namespace Component

def TypeDefinition.simple? : TypeDefinition → Option SimpleType
  | .simple s => some s
  | _ => none

end Component

namespace Registry

/-- What a registry declares in its rendering: a type definition, or the document type of an
element declaration. -/
inductive Declared where
  | type (t : TypeDefinition)
  | element (d : ElementDecl)

namespace Declared

/-- The identifier a declaration is rendered under. -/
def identifier (env : RenderEnv) : Declared → String
  | .type t => t.identifier env.naming
  | .element d => d.identifier env

/-- The rendered declaration. -/
def render (env : RenderEnv) : Declared → Except SchemaError String
  | .type t => t.renderDeclaration env
  | .element d => d.renderDeclaration env

theorem render_eq_ok {env : RenderEnv} {x : Declared} {d : String} (h : x.render env = .ok d) :
    ∃ doc expr, d = doc ++ declaration (x.identifier env) expr := by
  cases x with
  | type t =>
    cases t with
    | builtin name expression mark =>
      cases h
      exact ⟨"",_,String.empty_append.symm⟩
    | simple s =>
      cases h
      exact ⟨_,_,rfl⟩
    | complex c =>
      simp only [render,TypeDefinition.renderDeclaration] at h
      obtain ⟨expr,-,h⟩ := bind_eq_ok h
      cases h
      exact ⟨_,_,rfl⟩
  | element e =>
    simp only [render,ElementDecl.renderDeclaration] at h
    obtain ⟨f,-,h⟩ := bind_eq_ok h
    cases h
    exact ⟨_,_,rfl⟩

end Declared

/-- The declarations a schema renders: its types, then its elements. -/
def Schema.declared (s : Schema) : List Declared :=
  s.types.values.map .type ++ s.elements.values.map .element

/-- The declarations of a registry's rendering, in order: schema by schema, its types and then its
elements. -/
def declared (r : Registry) : List Declared :=
  r.schemas.values.flatMap Schema.declared

/-! ## The rendered text -/

theorem declaration_ne_empty (doc identifier expr : String) : doc ++ declaration identifier expr ≠ "" := by
  show doc ++ ("export type " ++ identifier ++ " = " ++ expr ++ ";") ≠ ""
  simp only [Ne,String.append_eq_empty_iff]
  exact fun h => absurd h.2.2 (by decide)

theorem intercalate_intercalate_cons (sep : String) {l : List String} (hl : l ≠ []) (m : List String) :
    sep.intercalate (sep.intercalate l :: m) = sep.intercalate (l ++ m) := by
  cases m with
  | nil => simp
  | cons x xs =>
    rw [String.intercalate_cons_of_ne_nil (List.cons_ne_nil _ _),
      String.intercalate_append_of_ne_nil hl (List.cons_ne_nil _ _)]

theorem intercalate_blocks (sep first : String) :
    ∀ blocks : List (List String), (∀ l ∈ blocks, ∀ d ∈ l, d ≠ "") →
      sep.intercalate (first :: (blocks.map sep.intercalate).filter (· ≠ "")) =
        sep.intercalate (first :: blocks.flatten)
  | [], _ => rfl
  | [] :: blocks, h => by
    simpa using intercalate_blocks sep first blocks fun l hl => h l (List.mem_cons_of_mem _ hl)
  | (d :: ds) :: blocks, h => by
    have hd : d ≠ "" := h _ List.mem_cons_self d List.mem_cons_self
    have hblock : sep.intercalate (d :: ds) ≠ "" := by
      cases ds with
      | nil => simpa using hd
      | cons d' ds =>
        rw [String.intercalate_cons_cons,String.append_assoc,Ne,String.append_eq_empty_iff]
        exact fun he => hd he.1
    have ih := intercalate_blocks sep (sep.intercalate (d :: ds)) blocks
      fun l hl => h l (List.mem_cons_of_mem _ hl)
    rw [List.map_cons,List.filter_cons_of_pos (by simpa using hblock),
      @String.intercalate_cons_of_ne_nil sep first _ (List.cons_ne_nil _ _),ih,
      intercalate_intercalate_cons sep (List.cons_ne_nil d ds),List.flatten_cons,
      @String.intercalate_cons_of_ne_nil sep first ((d :: ds) ++ blocks.flatten) (by simp)]

theorem mapM_flatMap {α β γ : Type} (f : β → Except SchemaError γ) (g : α → List β) :
    ∀ xs : List α, (xs.flatMap g).mapM f = (xs.mapM fun x => (g x).mapM f).map List.flatten
  | [] => rfl
  | x :: xs => by
    rw [List.flatMap_cons,List.mapM_append,List.mapM_cons,mapM_flatMap f g xs]
    cases (g x).mapM f <;> cases xs.mapM (fun x => (g x).mapM f) <;> rfl

theorem mapM_map_results {α β γ : Type} (f : α → Except SchemaError β) (k : β → γ) :
    ∀ xs : List α, xs.mapM (fun x => (f x).map k) = (xs.mapM f).map (List.map k)
  | [] => rfl
  | x :: xs => by
    rw [List.mapM_cons,List.mapM_cons,mapM_map_results f k xs]
    cases f x <;> cases xs.mapM f <;> rfl

theorem Schema.render_eq (env : RenderEnv) (s : Schema) :
    s.render env = (s.declared.mapM (Declared.render env)).map ("\n\n".intercalate ·) := by
  simp only [Schema.render,Schema.declared,List.mapM_append,List.mapM_map,Function.comp_def,
    Declared.render]
  cases s.types.values.mapM (fun x => TypeDefinition.renderDeclaration env x) <;>
    cases s.elements.values.mapM (fun x => ElementDecl.renderDeclaration env x) <;> rfl

theorem render_eq (r : Registry) :
    r.render = (r.declared.mapM (Declared.render r.renderEnv)).map
      fun decls => "\n\n".intercalate (Text.trimEnd (preamble r.config) :: decls) ++ "\n" := by
  simp only [render,Schema.render_eq,mapM_map_results,declared,mapM_flatMap]
  cases hparts : r.schemas.values.mapM fun s => s.declared.mapM (Declared.render r.renderEnv) with
  | error e => rfl
  | ok parts =>
    have hne : ∀ p ∈ parts, ∀ d ∈ p, d ≠ "" := by
      intro p hp d hd
      obtain ⟨s,-,hs⟩ := forall₂_exists_of_mem_right (mapM_eq_ok_iff.1 hparts) hp
      obtain ⟨x,-,hx⟩ := forall₂_exists_of_mem_right (mapM_eq_ok_iff.1 hs) hd
      obtain ⟨doc,expr,rfl⟩ := Declared.render_eq_ok hx
      exact declaration_ne_empty doc _ expr
    show Except.ok _ = Except.ok _
    rw [intercalate_blocks _ _ parts hne]

theorem render_eq_ok_iff (r : Registry) (text : String) :
    r.render = .ok text ↔ ∃ decls, List.Forall₂ (fun x d => x.render r.renderEnv = .ok d) r.declared decls ∧
      text = "\n\n".intercalate (Text.trimEnd (preamble r.config) :: decls) ++ "\n" := by
  rw [render_eq]
  cases h : r.declared.mapM (Declared.render r.renderEnv) with
  | error e =>
    refine ⟨fun h' => (by cases h'),fun ⟨decls,hd,_⟩ => ?_⟩
    rw [mapM_eq_ok_iff.2 hd] at h
    cases h
  | ok decls =>
    constructor
    · intro h'
      exact ⟨decls,mapM_eq_ok_iff.1 h,(Except.ok.inj h').symm⟩
    · rintro ⟨decls',hd,rfl⟩
      rw [mapM_eq_ok_iff.2 hd] at h
      cases h
      rfl

theorem infix_intercalate_of_mem (sep : String) {d : String} :
    ∀ {l : List String}, d ∈ l → ∃ pre post, sep.intercalate l = pre ++ d ++ post
  | [], h => by cases h
  | [x], h => by
    rw [List.mem_singleton.1 h,String.intercalate_singleton]
    exact ⟨"","",by simp⟩
  | x :: y :: ys, h => by
    rw [String.intercalate_cons_cons]
    rcases List.mem_cons.1 h with rfl | h
    · exact ⟨"",sep ++ sep.intercalate (y :: ys),by simp [String.append_assoc]⟩
    · obtain ⟨pre,post,hl⟩ := infix_intercalate_of_mem sep h
      exact ⟨x ++ sep ++ pre,post,by rw [hl]; simp [String.append_assoc]⟩

theorem render_contains_declared {r : Registry} {text : String} (h : r.render = .ok text) {x : Declared}
    (hx : x ∈ r.declared) : ∃ d pre post, x.render r.renderEnv = .ok d ∧ text = pre ++ d ++ post := by
  obtain ⟨decls,hd,rfl⟩ := (render_eq_ok_iff r text).1 h
  obtain ⟨d,hmem,hrender⟩ := forall₂_exists_of_mem_left hd hx
  obtain ⟨pre,post,hl⟩ := infix_intercalate_of_mem "\n\n" (List.mem_cons_of_mem _ hmem)
  exact ⟨d,pre,post ++ "\n",hrender,by rw [hl]; simp [String.append_assoc]⟩

theorem render_typeRef_of_typeDefinition? {r : Registry} {tr : TypeRef} {q : QName} {T : TypeDefinition}
    (htr : tr.target = some q) (hT : r.typeDefinition? q = some T) :
    tr.render r.renderEnv = T.identifier r.naming := by
  simp [TypeRef.render,htr,renderEnv,typeIdentifier?,hT]

theorem mem_declared_of_typeDefinition? {r : Registry} {q : QName} {T : TypeDefinition}
    (hT : r.typeDefinition? q = some T) : Declared.type T ∈ r.declared := by
  simp only [typeDefinition?,schema?,Option.bind_eq_some_iff] at hT
  obtain ⟨s,hs,hT⟩ := hT
  exact List.mem_flatMap.2 ⟨s,List.mem_map.2 ⟨_,Table.mem_entries_of_get? hs,rfl⟩,
    List.mem_append_left _ (List.mem_map.2 ⟨T,List.mem_map.2 ⟨_,Table.mem_entries_of_get? hT,rfl⟩,rfl⟩)⟩

theorem simple_declaration_in_text {r : Registry} {text : String} (h : r.render = .ok text) {q : QName}
    {s : SimpleType} (hs : r.typeDefinition? q = some (.simple s)) :
    ∃ pre post, text = pre ++ declaration (r.naming.toIdentifier s.name) (s.renderExpr r.renderEnv) ++ post := by
  obtain ⟨d,pre,post,hd,htext⟩ := render_contains_declared h (mem_declared_of_typeDefinition? hs)
  obtain ⟨doc,hdoc⟩ : ∃ doc, (Declared.type (.simple s)).render r.renderEnv =
      .ok (doc ++ declaration (r.naming.toIdentifier s.name) (s.renderExpr r.renderEnv)) := ⟨_,rfl⟩
  rw [hdoc] at hd
  cases hd
  exact ⟨pre ++ doc,post,by rw [htext]; simp only [String.append_assoc]⟩

theorem WellKeyed.typeDefinition?_name {r : Registry} (h : r.WellKeyed) {q : QName} {T : TypeDefinition}
    (hT : r.typeDefinition? q = some T) : T.name = q.localName := by
  simp only [typeDefinition?,schema?,Option.bind_eq_some_iff] at hT
  obtain ⟨s,hs,hT⟩ := hT
  have hx : (q.localName,Declaration.type T) ∈ (s.table .type).entries := by
    simp only [Schema.table,Table.map,List.mem_map]
    exact ⟨_,Table.mem_entries_of_get? hT,rfl⟩
  exact (h _ (Table.mem_entries_of_get? hs)).2 .type _ hx

theorem WellKeyed.type_identifier {r : Registry} (h : r.WellKeyed) {q : QName} {T : TypeDefinition}
    (hT : r.typeDefinition? q = some T) :
    T.identifier r.naming = r.naming.toIdentifier q.localName ∨
      ∃ expression mark, T = .builtin q.localName expression mark ∧
        T.identifier r.naming = mark ++ r.naming.toIdentifier q.localName := by
  have hname := h.typeDefinition?_name hT
  cases T with
  | builtin n expression mark =>
    refine .inr ⟨expression,mark,?_,?_⟩ <;> rw [← hname] <;> rfl
  | simple s => exact .inl (by rw [← hname]; rfl)
  | complex c => exact .inl (by rw [← hname]; rfl)

/-- A rendered registry declares every registered type and element under the identifier its
definition gives, and a reference to a registered type renders as that identifier. -/
theorem type_references_name_their_declaration {src : Source} {config : Config} {r : Registry}
    {evs : List Event} (hr : Session src (Registry.new config) r evs) {text : String}
    (hrender : r.render = .ok text) :
    (∃ decls, List.Forall₂ (fun x d => x.render r.renderEnv = .ok d ∧
        ∃ doc expr, d = doc ++ declaration (x.identifier r.renderEnv) expr) r.declared decls ∧
      text = "\n\n".intercalate (Text.trimEnd (preamble r.config) :: decls) ++ "\n") ∧
    (∀ (tr : TypeRef) q T, tr.target = some q → r.typeDefinition? q = some T →
      ∃ doc expr pre post,
        T.renderDeclaration r.renderEnv = .ok (doc ++ declaration (tr.render r.renderEnv) expr) ∧
        text = pre ++ doc ++ declaration (tr.render r.renderEnv) expr ++ post) ∧
    (∀ q T, r.typeDefinition? q = some T →
      T.identifier r.naming = r.naming.toIdentifier q.localName ∨
        ∃ expression mark, T = .builtin q.localName expression mark ∧
          T.identifier r.naming = mark ++ r.naming.toIdentifier q.localName) ∧
    ∀ q d, r.element? q = some d →
      d.identifier r.renderEnv = r.naming.toIdentifier q.localName ++ "Element" := by
  have hkeyed := wellKeyed_loadRelation.holds_session hr (wellKeyed_new config)
  refine ⟨?_,fun tr q T htr hT => ?_,fun q T hT => hkeyed.type_identifier hT,fun q d hd => ?_⟩
  · obtain ⟨decls,hd,htext⟩ := (render_eq_ok_iff r text).1 hrender
    exact ⟨decls,hd.imp fun x d hx => ⟨hx,Declared.render_eq_ok hx⟩,htext⟩
  · obtain ⟨d,pre,post,hx,htext⟩ := render_contains_declared hrender (mem_declared_of_typeDefinition? hT)
    obtain ⟨doc,expr,rfl⟩ := Declared.render_eq_ok hx
    rw [render_typeRef_of_typeDefinition? htr hT]
    exact ⟨doc,expr,pre,post,hx,by rw [htext]; simp only [String.append_assoc]; rfl⟩
  · rw [← hkeyed.keysElements q d hd]
    rfl

/-! ## One local name in two namespaces -/

def sameLocalNameA : String :=
  "<xs:schema xmlns:xs='http://www.w3.org/2001/XMLSchema' xmlns:a='urn:a' targetNamespace='urn:a'>" ++
  "<xs:simpleType name='T'><xs:restriction base='xs:string'><xs:enumeration value='a'/>" ++
  "</xs:restriction></xs:simpleType>" ++
  "<xs:simpleType name='U'><xs:restriction base='a:T'/></xs:simpleType></xs:schema>"

def sameLocalNameB : String :=
  "<xs:schema xmlns:xs='http://www.w3.org/2001/XMLSchema' targetNamespace='urn:b'>" ++
  "<xs:simpleType name='T'><xs:restriction base='xs:string'><xs:enumeration value='b'/>" ++
  "</xs:restriction></xs:simpleType></xs:schema>"

/-- The two documents, at `/a.xsd` and `/b.xsd`. -/
def sameLocalNameSource : Source :=
  ⟨[(.path [.root,.normal "a.xsd"],sameLocalNameA),(.path [.root,.normal "b.xsd"],sameLocalNameB)]⟩

theorem exists_simple_of_bind_simple? {β : Type} {o : Option TypeDefinition} {f : SimpleType → β} {b : β}
    (h : (o.bind TypeDefinition.simple?).map f = some b) : ∃ s, o = some (.simple s) ∧ f s = b := by
  cases o with
  | none => cases h
  | some T =>
    cases T with
    | simple s => exact ⟨s,rfl,Option.some.inj h⟩
    | builtin => cases h
    | complex => cases h

theorem exists_render_eq_ok {r : Registry} (h : firstFailure r.renderEnv r.reached = none) :
    ∃ text, r.render = .ok text := by
  have he := errorOf_render r
  rw [h] at he
  cases hr : r.render with
  | error e =>
    rw [hr] at he
    cases he
  | ok text => exact ⟨text,rfl⟩

theorem sameLocalName_session :
    ∃ reg evs, SuccessfulSession sameLocalNameSource (Registry.new {}) reg evs ∧
      (firstFailure reg.renderEnv reg.reached).isNone = true ∧
      ((reg.typeDefinition? ⟨"urn:a","U"⟩).bind TypeDefinition.simple?).map (·.base.target) =
        some (some ⟨"urn:a","T"⟩) ∧
      ((reg.typeDefinition? ⟨"urn:a","T"⟩).bind TypeDefinition.simple?).map
        (fun s => (s.name,s.renderExpr reg.renderEnv)) = some ("T","\"a\"") ∧
      ((reg.typeDefinition? ⟨"urn:b","T"⟩).bind TypeDefinition.simple?).map
        (fun s => (s.name,s.renderExpr reg.renderEnv)) = some ("T","\"b\"") := by
  have h : let first := run sameLocalNameSource (Registry.new {}) (.load "/a.xsd")
      let second := run sameLocalNameSource first.1 (.load "/b.xsd")
      let reg := second.1
      first.2.toBool = true ∧ second.2.toBool = true ∧
      (firstFailure reg.renderEnv reg.reached).isNone = true ∧
      ((reg.typeDefinition? ⟨"urn:a","U"⟩).bind TypeDefinition.simple?).map (·.base.target) =
        some (some ⟨"urn:a","T"⟩) ∧
      ((reg.typeDefinition? ⟨"urn:a","T"⟩).bind TypeDefinition.simple?).map
        (fun s => (s.name,s.renderExpr reg.renderEnv)) = some ("T","\"a\"") ∧
      ((reg.typeDefinition? ⟨"urn:b","T"⟩).bind TypeDefinition.simple?).map
        (fun s => (s.name,s.renderExpr reg.renderEnv)) = some ("T","\"b\"") := by
    decide +kernel
  obtain ⟨hA,hB,hfacts⟩ := h
  obtain ⟨_,hA⟩ := exists_eq_ok_of_toBool hA
  obtain ⟨_,hB⟩ := exists_eq_ok_of_toBool hB
  exact ⟨_,_,.step (.step .nil _ hA) _ hB,hfacts⟩

/-- Two namespaces that each declare a type `T` render one identifier declared twice. -/
theorem sameLocalName_declared_twice :
    ∃ reg evs text, SuccessfulSession sameLocalNameSource (Registry.new {}) reg evs ∧
      reg.render = .ok text ∧
      ∃ u, reg.typeDefinition? ⟨"urn:a","U"⟩ = some (.simple u) ∧ u.base.target = some ⟨"urn:a","T"⟩ ∧
        (reg.typeDefinition? ⟨"urn:a","T"⟩).isSome ∧
        ∀ e ∈ ["\"a\"","\"b\""], ∃ pre post,
          text = pre ++ declaration (u.base.render reg.renderEnv) e ++ post := by
  obtain ⟨reg,evs,hs,hends,hU,hTa,hTb⟩ := sameLocalName_session
  obtain ⟨text,htext⟩ := exists_render_eq_ok (Option.isNone_iff_eq_none.1 hends)
  obtain ⟨u,hu,hbase⟩ := exists_simple_of_bind_simple? hU
  obtain ⟨a,ha,hna⟩ := exists_simple_of_bind_simple? hTa
  obtain ⟨b,hb,hnb⟩ := exists_simple_of_bind_simple? hTb
  obtain ⟨hna,hra⟩ := Prod.mk.inj hna
  obtain ⟨hnb,hrb⟩ := Prod.mk.inj hnb
  refine ⟨reg,evs,text,hs,htext,u,hu,hbase,by rw [ha]; rfl,?_⟩
  have hI : u.base.render reg.renderEnv = reg.naming.toIdentifier "T" := by
    rw [render_typeRef_of_typeDefinition? hbase ha,← hna]
    rfl
  intro e he
  rw [hI]
  simp only [List.mem_cons,List.not_mem_nil,or_false] at he
  rcases he with rfl | rfl
  · simpa only [hna,hra] using simple_declaration_in_text htext ha
  · simpa only [hnb,hrb] using simple_declaration_in_text htext hb

/-- The registry of the two documents renders, and in it a reference to a type names the type's own
declaration. -/
theorem sameLocalName_references_name_their_declaration :
    ∃ reg evs text, Session sameLocalNameSource (Registry.new {}) reg evs ∧ reg.render = .ok text ∧
      (∃ decls, List.Forall₂ (fun x d => x.render reg.renderEnv = .ok d ∧
          ∃ doc expr, d = doc ++ declaration (x.identifier reg.renderEnv) expr) reg.declared decls ∧
        text = "\n\n".intercalate (Text.trimEnd (preamble reg.config) :: decls) ++ "\n") ∧
      (∀ (tr : TypeRef) q T, tr.target = some q → reg.typeDefinition? q = some T →
        ∃ doc expr pre post,
          T.renderDeclaration reg.renderEnv = .ok (doc ++ declaration (tr.render reg.renderEnv) expr) ∧
          text = pre ++ doc ++ declaration (tr.render reg.renderEnv) expr ++ post) ∧
      (∀ q T, reg.typeDefinition? q = some T →
        T.identifier reg.naming = reg.naming.toIdentifier q.localName ∨
          ∃ expression mark, T = .builtin q.localName expression mark ∧
            T.identifier reg.naming = mark ++ reg.naming.toIdentifier q.localName) ∧
      ∀ q d, reg.element? q = some d →
        d.identifier reg.renderEnv = reg.naming.toIdentifier q.localName ++ "Element" := by
  obtain ⟨reg,evs,hs,hends,-⟩ := sameLocalName_session
  obtain ⟨text,htext⟩ := exists_render_eq_ok (Option.isNone_iff_eq_none.1 hends)
  exact ⟨reg,evs,text,hs.session,htext,type_references_name_their_declaration hs.session htext⟩

end Registry

end SchemaTypes
