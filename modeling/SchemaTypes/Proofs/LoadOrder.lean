import SchemaTypes.Proofs.LoadOnce
import SchemaTypes.Proofs.ReaderCongruence
import SchemaTypes.Proofs.SameDeclarations
import SchemaTypes.Proofs.WholeDocuments
set_option autoImplicit false

/-!
Loading the documents of a source in two orders. Two sessions of loads that all succeed, from a new
registry, need not read the same documents: an import of a namespace already known is skipped, also
when it names a document of that namespace that was not read (`importSkip_orders_disagree`). Where
they do read the same locations, they agree up to order (`loads_of_the_same_locations_agree_up_to_order`),
provided no two documents of the source declare one name of one kind into one namespace and every
document declares on its root the prefixes it writes. Every registration of a name then comes from
the one document that declares it (`Block.OfSource.registered_eq`), read whole and with a resolver
that resolves as the document declares, so the two sessions hold the same declarations
(`LoadsAll.get?_eq`).
-/

namespace SchemaTypes.Registry

open SchemaTypes.Component SchemaTypes.Script SchemaTypes.Xml

/-! ## What the source is assumed to hold -/

/-- No two locations of a source hold documents that declare one name of one kind into one
namespace. -/
def Source.DeclaresEachNameOnce (src : Source) (allowDtd : Bool) : Prop :=
  ∀ k₁ k₂ root₁ root₂, src.root? allowDtd k₁ = some root₁ → src.root? allowDtd k₂ = some root₂ →
    documentNamespace root₁ = documentNamespace root₂ →
    ∀ κ n, n ∈ declaredNames κ root₁ → n ∈ declaredNames κ root₂ → k₁ = k₂

/-- Every document a source holds declares on its root each prefix it writes. -/
def Source.PrefixesDeclared (src : Source) (allowDtd : Bool) : Prop :=
  ∀ k root, src.root? allowDtd k = some root → root.PrefixesDeclared


theorem Source.mem_keys_of_root? {src : Source} {allowDtd : Bool} {k : LocationKey} {root : Node}
    (h : src.root? allowDtd k = some root) : k ∈ src.documents.map Prod.fst := by
  unfold Source.root? at h
  cases hl : src.documents.lookup k with
  | none =>
    rw [hl] at h
    cases h
  | some text =>
    obtain ⟨l₁,l₂,heq,-⟩ := List.lookup_eq_some_iff.1 hl
    rw [heq]
    simp

theorem Source.declaresEachNameOnce_iff (src : Source) (allowDtd : Bool) :
    src.DeclaresEachNameOnce allowDtd ↔
      ∀ k₁ ∈ src.documents.map Prod.fst, ∀ k₂ ∈ src.documents.map Prod.fst,
        ∀ root₁ ∈ src.root? allowDtd k₁, ∀ root₂ ∈ src.root? allowDtd k₂,
          documentNamespace root₁ = documentNamespace root₂ →
          ∀ κ ∈ [Kind.element,Kind.type,Kind.attribute], ∀ n ∈ declaredNames κ root₁,
            n ∈ declaredNames κ root₂ → k₁ = k₂ := by
  constructor
  · intro h k₁ _ k₂ _ root₁ h₁ root₂ h₂ hns κ _ n hn₁ hn₂
    exact h k₁ k₂ root₁ root₂ h₁ h₂ hns κ n hn₁ hn₂
  · intro h k₁ k₂ root₁ root₂ h₁ h₂ hns κ n hn₁ hn₂
    exact h k₁ (Source.mem_keys_of_root? h₁) k₂ (Source.mem_keys_of_root? h₂) root₁ h₁ root₂ h₂ hns κ
      (by cases κ <;> simp) n hn₁ hn₂

instance (src : Source) (allowDtd : Bool) : Decidable (src.DeclaresEachNameOnce allowDtd) :=
  decidable_of_iff _ (Source.declaresEachNameOnce_iff src allowDtd).symm

theorem Source.prefixesDeclared_iff (src : Source) (allowDtd : Bool) :
    src.PrefixesDeclared allowDtd ↔
      ∀ k ∈ src.documents.map Prod.fst, ∀ root ∈ src.root? allowDtd k, root.PrefixesDeclared :=
  ⟨fun h k _ root hr => h k root hr,fun h k root hr => h k (Source.mem_keys_of_root? hr) root hr⟩

instance (src : Source) (allowDtd : Bool) : Decidable (src.PrefixesDeclared allowDtd) :=
  decidable_of_iff _ (Source.prefixesDeclared_iff src allowDtd).symm

/-! ## Blocks of registrations from the source -/

/-- A block of registrations of a document the source holds, read whole with a resolver that
resolves as the document declares. -/
structure Block.OfSource (src : Source) (allowDtd : Bool) (b : Block) : Prop where
  reads : b.Reads
  root : ∃ k, src.root? allowDtd k = some b.root
  resolved : ResolvedAsDeclared b.events

theorem Block.Reads.mem_registered {b : Block} (hb : b.Reads) {κ : Kind} {ns : String} {d : Declaration}
    (hd : d ∈ registered κ ns b.events) :
    documentNamespace b.root = ns ∧ d.name ∈ declaredNames κ b.root ∧ Event.register b.root ns b.res d ∈ b.events := by
  obtain ⟨rfl,root,res,hev⟩ := SchemaTypes.Registry.mem_registered.1 hd
  obtain ⟨x,hx,d',hr,he⟩ := forall₂_exists_of_mem_left hb hev
  cases he
  exact ⟨rfl,name_mem_declaredNames hx hr,hev⟩

theorem registered_eq_of_reads {root : Node} {ns₀ : String} {res res' : Resolver} {E E' : List Event}
    {xs : List ((Resolver → Node → Except SchemaError Declaration) × Node)}
    (h : List.Forall₂ (RegistersRead root ns₀ res) E xs) (h' : List.Forall₂ (RegistersRead root ns₀ res') E' xs)
    (hread : ∀ x ∈ xs, x.1 res x.2 = x.1 res' x.2) (κ : Kind) (ns : String) :
    registered κ ns E = registered κ ns E' := by
  induction h generalizing E' with
  | nil =>
    cases h'
    rfl
  | @cons ev x E xs hx h ih =>
    cases h' with
    | cons hx' h' =>
      obtain ⟨d,hd,rfl⟩ := hx
      obtain ⟨d',hd',rfl⟩ := hx'
      have hdd : d = d' := by
        rw [hread x List.mem_cons_self,hd'] at hd
        exact (Except.ok.inj hd).symm
      subst hdd
      rw [registered_cons,registered_cons,ih h' fun y hy => hread y (List.mem_cons_of_mem _ hy)]
      rfl

theorem Block.OfSource.registered_eq {src : Source} {allowDtd : Bool}
    (honce : src.DeclaresEachNameOnce allowDtd) (hprefixes : src.PrefixesDeclared allowDtd)
    {b b' : Block} (hb : b.OfSource src allowDtd) (hb' : b'.OfSource src allowDtd) {κ : Kind}
    {ns n : String} (hn : ∃ d ∈ registered κ ns b.events, d.name = n)
    (hn' : ∃ d ∈ registered κ ns b'.events, d.name = n) :
    registered κ ns b.events = registered κ ns b'.events := by
  obtain ⟨d,hd,rfl⟩ := hn
  obtain ⟨d',hd',hname⟩ := hn'
  obtain ⟨hns,hdecl,hev⟩ := hb.reads.mem_registered hd
  obtain ⟨hns',hdecl',hev'⟩ := hb'.reads.mem_registered hd'
  obtain ⟨k,hk⟩ := hb.root
  obtain ⟨k',hk'⟩ := hb'.root
  have hkk : k = k' := honce k k' _ _ hk hk' (hns.trans hns'.symm) κ _ hdecl (hname ▸ hdecl')
  have hroot : b.root = b'.root := by
    rw [hkk,hk'] at hk
    exact (Option.some.inj hk).symm
  have hres := hb.resolved _ _ _ _ hev
  have hres' := hb'.resolved _ _ _ _ hev'
  have hreads' := hb'.reads
  unfold Block.Reads at hreads'
  rw [← hroot] at hres' hreads'
  exact registered_eq_of_reads hb.reads hreads' (fun x hx => hres.read_eq hres' (hprefixes k _ hk) hx) κ ns

/-! ## Two sessions of loads that read the same locations -/

namespace LoadsAll

variable {src : Source} {config : Config} {locators : List String} {r : Registry} {evs : List Event}

theorem blocks (h : LoadsAll src (Registry.new config) locators r evs) :
    ∃ bs : List Block, (∀ κ ns, registered κ ns evs = bs.flatMap fun b => registered κ ns b.events) ∧
      ∀ b ∈ bs, b.OfSource src config.allowDtd := by
  have hw := h.readsWhole (recordsPresent_new config)
  have hres := (resolvedAsDeclared_loadRelation.holds_session h.successfulSession.session
    (resolversSound_new config)).2
  obtain ⟨bs,hr,hb⟩ := hw.blocks
  refine ⟨bs,hr,fun b hbs => ?_⟩
  obtain ⟨hreads,⟨k,hk⟩,hsub⟩ := hb b hbs
  exact ⟨hreads,⟨k,hw.roots k b.root hk⟩,fun root ns res d hev => hres root ns res d (hsub hev)⟩

theorem read_iff_entered (h : LoadsAll src (Registry.new config) locators r evs) (k : LocationKey) :
    (r.loadedNamespace? k).isSome ↔ ∃ root, Event.enter k root ∈ evs := by
  rw [(readsOnce_loadRelation.holds_session h.successfulSession.session).recorded k]
  exact ⟨fun h' => h'.resolve_left (by simp [loadedNamespace?,Registry.new]),.inr⟩

theorem keysNodup (h : LoadsAll src (Registry.new config) locators r evs) : r.KeysNodup :=
  keysNodup_loadRelation.holds_session h.successfulSession.session (keysNodup_new config)

end LoadsAll

variable {src : Source} {config : Config} {locators₁ locators₂ : List String} {r₁ r₂ : Registry}
  {evs₁ evs₂ : List Event}

theorem LoadsAll.enter_mem_of_read_iff (h₁ : LoadsAll src (Registry.new config) locators₁ r₁ evs₁)
    (h₂ : LoadsAll src (Registry.new config) locators₂ r₂ evs₂)
    (hread : ∀ k, (r₁.loadedNamespace? k).isSome ↔ (r₂.loadedNamespace? k).isSome) {k : LocationKey}
    {root : Node} (hk : Event.enter k root ∈ evs₁) : Event.enter k root ∈ evs₂ := by
  obtain ⟨root',hk'⟩ := (h₂.read_iff_entered k).1 ((hread k).1 ((h₁.read_iff_entered k).2 ⟨root,hk⟩))
  have h₁root := (h₁.readsWhole (recordsPresent_new config)).roots k root hk
  have h₂root := (h₂.readsWhole (recordsPresent_new config)).roots k root' hk'
  rw [h₁root] at h₂root
  cases h₂root
  exact hk'

theorem find?_reverse_flatMap {α β : Type} (p : α → Bool) {g : β → List α} {L : List α} :
    ∀ {bs : List β}, (∀ b ∈ bs, (∃ a ∈ g b, p a) → g b = L) → (∃ b ∈ bs, ∃ a ∈ g b, p a) →
      (bs.flatMap g).reverse.find? p = L.reverse.find? p
  | [], _, ⟨_,hb,_⟩ => by cases hb
  | b₀ :: bs, hsame, hex => by
    rw [List.flatMap_cons,List.reverse_append,List.find?_append]
    by_cases htail : ∃ b ∈ bs, ∃ a ∈ g b, p a
    · have ih := find?_reverse_flatMap p (fun b hb => hsame b (List.mem_cons_of_mem _ hb)) htail
      have hsome : ((bs.flatMap g).reverse.find? p).isSome := by
        obtain ⟨b,hb,a,ha,hpa⟩ := htail
        exact List.find?_isSome.2 ⟨a,List.mem_reverse.2 (List.mem_flatMap.2 ⟨b,hb,ha⟩),hpa⟩
      obtain ⟨x,hx⟩ := Option.isSome_iff_exists.1 hsome
      rw [hx,Option.some_or,← hx,ih]
    · have hnone : (bs.flatMap g).reverse.find? p = none := by
        refine List.find?_eq_none.2 fun a ha hpa => htail ?_
        obtain ⟨b,hb,ha⟩ := List.mem_flatMap.1 (List.mem_reverse.1 ha)
        exact ⟨b,hb,a,ha,hpa⟩
      obtain ⟨b,hb,hP⟩ := hex
      rcases List.mem_cons.1 hb with rfl | hb
      · rw [hnone,Option.none_or,hsame b List.mem_cons_self hP]
      · exact absurd ⟨b,hb,hP⟩ htail

theorem find?_name_eq_none {ds : List Declaration} {n : String} (h : ¬∃ d ∈ ds, d.name = n) :
    ds.reverse.find? (·.name == n) = none :=
  List.find?_eq_none.2 fun d hd hdn => h ⟨d,List.mem_reverse.1 hd,by simpa using hdn⟩

section Agreement

variable (h₁ : LoadsAll src (Registry.new config) locators₁ r₁ evs₁)
  (h₂ : LoadsAll src (Registry.new config) locators₂ r₂ evs₂)
  (hread : ∀ k, (r₁.loadedNamespace? k).isSome ↔ (r₂.loadedNamespace? k).isSome)
include h₁ h₂ hread

theorem LoadsAll.registers_name_iff (κ : Kind) (ns n : String) :
    (∃ d ∈ registered κ ns evs₁, d.name = n) ↔ ∃ d ∈ registered κ ns evs₂, d.name = n := by
  rw [h₁.successfulSession.registered_names,h₂.successfulSession.registered_names]
  constructor
  · rintro ⟨k,root,hk,hns,hn⟩
    exact ⟨k,root,h₁.enter_mem_of_read_iff h₂ hread hk,hns,hn⟩
  · rintro ⟨k,root,hk,hns,hn⟩
    exact ⟨k,root,h₂.enter_mem_of_read_iff h₁ (fun k => (hread k).symm) hk,hns,hn⟩

variable (honce : src.DeclaresEachNameOnce config.allowDtd) (hprefixes : src.PrefixesDeclared config.allowDtd)
include honce hprefixes

theorem LoadsAll.last_registered_eq (κ : Kind) (ns n : String) :
    (registered κ ns evs₁).reverse.find? (·.name == n) = (registered κ ns evs₂).reverse.find? (·.name == n) := by
  have hiff := h₁.registers_name_iff h₂ hread κ ns n
  by_cases hex : ∃ d ∈ registered κ ns evs₁, d.name = n
  · obtain ⟨bs₁,hr₁,hb₁⟩ := h₁.blocks
    obtain ⟨bs₂,hr₂,hb₂⟩ := h₂.blocks
    have hnamed : ∀ {bs : List Block} {evs : List Event},
        (∀ κ ns, registered κ ns evs = bs.flatMap fun b => registered κ ns b.events) →
        (∃ d ∈ registered κ ns evs, d.name = n) →
        ∃ b ∈ bs, ∃ d ∈ registered κ ns b.events, (d.name == n) = true := by
      intro bs evs hr ⟨d,hd,hn⟩
      rw [hr] at hd
      obtain ⟨b,hb,hd⟩ := List.mem_flatMap.1 hd
      exact ⟨b,hb,d,hd,by simpa using hn⟩
    obtain ⟨b,hb,hP⟩ := hnamed hr₁ hex
    have hP' : ∃ d ∈ registered κ ns b.events, d.name = n := by simpa using hP
    have hsame : ∀ {bs : List Block}, (∀ b ∈ bs, b.OfSource src config.allowDtd) →
        ∀ b' ∈ bs, (∃ d ∈ registered κ ns b'.events, (d.name == n) = true) →
          registered κ ns b'.events = registered κ ns b.events := by
      intro bs hbs b' hb' hP''
      exact (hbs b' hb').registered_eq honce hprefixes (hb₁ b hb) (by simpa using hP'') hP'
    rw [hr₁,hr₂,find?_reverse_flatMap _ (hsame hb₁) ⟨b,hb,hP⟩,
      find?_reverse_flatMap _ (hsame hb₂) (hnamed hr₂ (hiff.1 hex))]
  · rw [find?_name_eq_none hex,find?_name_eq_none (fun h => hex (hiff.2 h))]

theorem LoadsAll.get?_eq (ns : String) (κ : Kind) (n : String) :
    (r₁.declarations ns κ).get? n = (r₂.declarations ns κ).get? n := by
  rw [(tabulates_loadRelation.holds_session h₁.successfulSession.session).get? ns κ n,
    (tabulates_loadRelation.holds_session h₂.successfulSession.session).get? ns κ n,
    h₁.last_registered_eq h₂ hread honce hprefixes κ ns n]

end Agreement

theorem LoadsAll.namespaces_perm (h₁ : LoadsAll src (Registry.new config) locators₁ r₁ evs₁)
    (h₂ : LoadsAll src (Registry.new config) locators₂ r₂ evs₂)
    (hread : ∀ k, (r₁.loadedNamespace? k).isSome ↔ (r₂.loadedNamespace? k).isSome) :
    r₁.namespaces.Perm r₂.namespaces := by
  refine (List.perm_ext_iff_of_nodup h₁.keysNodup.1 h₂.keysNodup.1).2 fun ns => ?_
  rw [(h₁.readsWhole (recordsPresent_new config)).namespaces,(h₂.readsWhole (recordsPresent_new config)).namespaces]
  refine or_congr_right ⟨fun ⟨k,root,hk,hns⟩ => ?_,fun ⟨k,root,hk,hns⟩ => ?_⟩
  · exact ⟨k,root,h₁.enter_mem_of_read_iff h₂ hread hk,hns⟩
  · exact ⟨k,root,h₂.enter_mem_of_read_iff h₁ (fun k => (hread k).symm) hk,hns⟩

/-- Two successful sessions that read the same locations of a well-declared source hold the same
declarations in some order, look names up alike and render alike up to order. -/
theorem loads_of_the_same_locations_agree_up_to_order
    (h₁ : LoadsAll src (Registry.new config) locators₁ r₁ evs₁)
    (h₂ : LoadsAll src (Registry.new config) locators₂ r₂ evs₂)
    (honce : src.DeclaresEachNameOnce config.allowDtd) (hprefixes : src.PrefixesDeclared config.allowDtd)
    (hread : ∀ k, (r₁.loadedNamespace? k).isSome ↔ (r₂.loadedNamespace? k).isSome) :
    r₁.namespaces.Perm r₂.namespaces ∧
      (∀ ns κ, (r₁.declarations ns κ).entries.Perm (r₂.declarations ns κ).entries) ∧
      r₁.declared.Perm r₂.declared ∧ r₁.renderEnv = r₂.renderEnv ∧
      ((∃ text, r₁.render = .ok text) ↔ ∃ text, r₂.render = .ok text) ∧
      ∀ text₁ text₂, r₁.render = .ok text₁ → r₂.render = .ok text₂ →
        ∃ decls₁ decls₂, decls₁.Perm decls₂ ∧
          List.Forall₂ (fun x d => x.render r₁.renderEnv = .ok d) r₁.declared decls₁ ∧
          List.Forall₂ (fun x d => x.render r₁.renderEnv = .ok d) r₂.declared decls₂ ∧
          text₁ = "\n\n".intercalate (Text.trimEnd (preamble config) :: decls₁) ++ "\n" ∧
          text₂ = "\n\n".intercalate (Text.trimEnd (preamble config) :: decls₂) ++ "\n" := by
  have hk₁ := h₁.keysNodup
  have hk₂ := h₂.keysNodup
  have hsame : SameDeclarations r₁ r₂ := h₁.get?_eq h₂ hread honce hprefixes
  have hns := h₁.namespaces_perm h₂ hread
  have hcfg : r₁.config = r₂.config := h₁.config.trans h₂.config.symm
  have hdecl := hsame.declared_perm hk₁ hk₂ hns
  have henv := hsame.renderEnv_eq hk₁ hk₂ hns hcfg
  obtain ⟨hiff,htexts⟩ := render_agree hcfg henv hdecl
  refine ⟨hns,hsame.entries_perm hk₁ hk₂,hdecl,henv,hiff,fun text₁ text₂ ht₁ ht₂ => ?_⟩
  rw [← show r₁.config = config from h₁.config]
  exact htexts text₁ text₂ ht₁ ht₂

/-! ## An import skipped for a namespace already known -/

def importSkipX1 : String :=
  "<schema targetNamespace='urn:x'><simpleType name='A'/></schema>"

def importSkipX2 : String :=
  "<schema targetNamespace='urn:x'><simpleType name='B'/></schema>"

def importSkipY : String :=
  "<schema targetNamespace='urn:y'><import namespace='urn:x' schemaLocation='x2.xsd'/></schema>"

/-- Three documents: at `/x1.xsd` and `/x2.xsd` two of namespace `urn:x`, declaring the types `A` and
`B`, and at `/y.xsd` one of namespace `urn:y` that imports `urn:x` from `/x2.xsd`. -/
def importSkipSource : Source :=
  ⟨[(.path [.root,.normal "x1.xsd"],importSkipX1),(.path [.root,.normal "x2.xsd"],importSkipX2),
    (.path [.root,.normal "y.xsd"],importSkipY)]⟩

theorem importSkip_hypotheses :
    importSkipSource.DeclaresEachNameOnce false ∧ importSkipSource.PrefixesDeclared false := by
  decide +kernel

theorem isSome_loadedNamespace?_iff (r : Registry) (k : LocationKey) :
    (r.loadedNamespace? k).isSome ↔ k ∈ r.loaded.map Prod.fst := by
  rw [loadedNamespace?,List.lookup_isSome_iff,List.mem_map]
  simp only [beq_iff_eq]
  exact exists_congr fun _ => and_congr_right fun _ => eq_comm

theorem importSkip_sessions :
    ∃ r₁ r₂ r₃ evs₁ evs₂ evs₃,
      LoadsAll importSkipSource (Registry.new {}) ["/x1.xsd","/y.xsd"] r₁ evs₁ ∧
      LoadsAll importSkipSource (Registry.new {}) ["/y.xsd","/x1.xsd"] r₂ evs₂ ∧
      LoadsAll importSkipSource (Registry.new {}) ["/x1.xsd","/x2.xsd","/y.xsd"] r₃ evs₃ ∧
      ((r₁.declarations "urn:x" .type).get? "B").isNone = true ∧
      ((r₂.declarations "urn:x" .type).get? "B").isSome = true ∧
      r₂.loaded.map Prod.fst = [.path [.root,.normal "y.xsd"],.path [.root,.normal "x2.xsd"],
        .path [.root,.normal "x1.xsd"]] ∧
      r₃.loaded.map Prod.fst = [.path [.root,.normal "x1.xsd"],.path [.root,.normal "x2.xsd"],
        .path [.root,.normal "y.xsd"]] := by
  have h : let x1 := run importSkipSource (Registry.new {}) (.load "/x1.xsd")
      let x1y := run importSkipSource x1.1 (.load "/y.xsd")
      let y := run importSkipSource (Registry.new {}) (.load "/y.xsd")
      let yx1 := run importSkipSource y.1 (.load "/x1.xsd")
      let x1x2 := run importSkipSource x1.1 (.load "/x2.xsd")
      let x1x2y := run importSkipSource x1x2.1 (.load "/y.xsd")
      x1.2.toBool = true ∧ x1y.2.toBool = true ∧ y.2.toBool = true ∧ yx1.2.toBool = true ∧
      x1x2.2.toBool = true ∧ x1x2y.2.toBool = true ∧
      ((x1y.1.declarations "urn:x" .type).get? "B").isNone = true ∧
      ((yx1.1.declarations "urn:x" .type).get? "B").isSome = true ∧
      yx1.1.loaded.map Prod.fst = [.path [.root,.normal "y.xsd"],.path [.root,.normal "x2.xsd"],
        .path [.root,.normal "x1.xsd"]] ∧
      x1x2y.1.loaded.map Prod.fst = [.path [.root,.normal "x1.xsd"],.path [.root,.normal "x2.xsd"],
        .path [.root,.normal "y.xsd"]] := by
    decide +kernel
  obtain ⟨hx1,hx1y,hy,hyx1,hx1x2,hx1x2y,hfacts⟩ := h
  obtain ⟨_,hx1⟩ := exists_eq_ok_of_toBool hx1
  obtain ⟨_,hx1y⟩ := exists_eq_ok_of_toBool hx1y
  obtain ⟨_,hy⟩ := exists_eq_ok_of_toBool hy
  obtain ⟨_,hyx1⟩ := exists_eq_ok_of_toBool hyx1
  obtain ⟨_,hx1x2⟩ := exists_eq_ok_of_toBool hx1x2
  obtain ⟨_,hx1x2y⟩ := exists_eq_ok_of_toBool hx1x2y
  have hx1' := LoadsAll.step .nil _ hx1
  exact ⟨_,_,_,_,_,_,.step hx1' _ hx1y,.step (.step .nil _ hy) _ hyx1,.step (.step hx1' _ hx1x2) _ hx1x2y,hfacts⟩

/-- Loading `/x1.xsd` and `/y.xsd` in the two orders both succeed, yet only one holds `B` of `urn:x`. -/
theorem importSkip_orders_disagree :
    ∃ r₁ r₂ evs₁ evs₂, LoadsAll importSkipSource (Registry.new {}) ["/x1.xsd","/y.xsd"] r₁ evs₁ ∧
      LoadsAll importSkipSource (Registry.new {}) ["/y.xsd","/x1.xsd"] r₂ evs₂ ∧
      importSkipSource.DeclaresEachNameOnce false ∧ importSkipSource.PrefixesDeclared false ∧
      (r₁.declarations "urn:x" .type).get? "B" = none ∧ ((r₂.declarations "urn:x" .type).get? "B").isSome := by
  obtain ⟨r₁,r₂,-,evs₁,evs₂,-,h₁,h₂,-,hB₁,hB₂,-⟩ := importSkip_sessions
  exact ⟨r₁,r₂,evs₁,evs₂,h₁,h₂,importSkip_hypotheses.1,importSkip_hypotheses.2,
    Option.isNone_iff_eq_none.1 hB₁,hB₂⟩

/-- Loading the three documents in turn, and `/y.xsd` then `/x1.xsd`, read the same locations, and so
hold the same namespaces and declarations and render alike. -/
theorem importSkip_loads_of_all_three_agree :
    ∃ r₁ r₂ evs₁ evs₂,
      LoadsAll importSkipSource (Registry.new {}) ["/x1.xsd","/x2.xsd","/y.xsd"] r₁ evs₁ ∧
      LoadsAll importSkipSource (Registry.new {}) ["/y.xsd","/x1.xsd"] r₂ evs₂ ∧
      (∀ k, (r₁.loadedNamespace? k).isSome ↔ (r₂.loadedNamespace? k).isSome) ∧
      r₁.namespaces.Perm r₂.namespaces ∧
      (∀ ns κ, (r₁.declarations ns κ).entries.Perm (r₂.declarations ns κ).entries) ∧
      r₁.declared.Perm r₂.declared ∧ r₁.renderEnv = r₂.renderEnv ∧
      ((∃ text, r₁.render = .ok text) ↔ ∃ text, r₂.render = .ok text) ∧
      ∀ text₁ text₂, r₁.render = .ok text₁ → r₂.render = .ok text₂ →
        ∃ decls₁ decls₂, decls₁.Perm decls₂ ∧
          List.Forall₂ (fun x d => x.render r₁.renderEnv = .ok d) r₁.declared decls₁ ∧
          List.Forall₂ (fun x d => x.render r₁.renderEnv = .ok d) r₂.declared decls₂ ∧
          text₁ = "\n\n".intercalate (Text.trimEnd (preamble {}) :: decls₁) ++ "\n" ∧
          text₂ = "\n\n".intercalate (Text.trimEnd (preamble {}) :: decls₂) ++ "\n" := by
  obtain ⟨-,r₂,r₁,-,evs₂,evs₁,-,h₂,h₁,-,-,hk₂,hk₁⟩ := importSkip_sessions
  have hread : ∀ k, (r₁.loadedNamespace? k).isSome ↔ (r₂.loadedNamespace? k).isSome := by
    intro k
    rw [isSome_loadedNamespace?_iff,isSome_loadedNamespace?_iff,hk₁,hk₂]
    simp only [List.mem_cons,List.not_mem_nil,or_false]
    tauto
  exact ⟨r₁,r₂,evs₁,evs₂,h₁,h₂,hread,loads_of_the_same_locations_agree_up_to_order h₁ h₂
    importSkip_hypotheses.1 importSkip_hypotheses.2 hread⟩

end SchemaTypes.Registry
