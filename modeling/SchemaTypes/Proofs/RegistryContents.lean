import Mathlib.Data.List.Forall2
import SchemaTypes.Proofs.DeclarationReading
set_option autoImplicit false

/-!
What a registry holds after loading. Every declaration a run registers was read from a top-level
declaration of a document the run entered, into the schema of that document's target namespace
(`FromEntered`). A successful ingestion enters its document, makes the loads of its directives and
only then registers every top-level declaration of the document, in the order elements, simple
types, complex types, attributes (`ingestWithT_ok`); so in a session whose commands all succeed,
every document entered has all its declarations registered (`RegistersEntered`). With the tables
of `Registry.Tabulates`, the names of each table are then those of the built-in schemas and those
the entered documents of the namespace declare (`registry_holds_the_declarations_of_its_documents`).
-/

namespace SchemaTypes.Registry

open SchemaTypes.Component SchemaTypes.Location SchemaTypes.Xml

theorem forall₂_exists_of_mem_left {α β : Type} {R : α → β → Prop} {l : List α} {u : List β}
    (h : List.Forall₂ R l u) {a : α} (ha : a ∈ l) : ∃ b ∈ u, R a b := by
  induction h with
  | nil => cases ha
  | @cons a' b' l u hr _ ih =>
    rcases List.mem_cons.1 ha with rfl | ha
    · exact ⟨b',List.mem_cons_self,hr⟩
    · obtain ⟨b,hb,hab⟩ := ih ha
      exact ⟨b,List.mem_cons_of_mem b' hb,hab⟩

theorem forall₂_exists_of_mem_right {α β : Type} {R : α → β → Prop} {l : List α} {u : List β}
    (h : List.Forall₂ R l u) {b : β} (hb : b ∈ u) : ∃ a ∈ l, R a b := by
  induction h with
  | nil => cases hb
  | @cons a' b' l u hr _ ih =>
    rcases List.mem_cons.1 hb with rfl | hb
    · exact ⟨a',List.mem_cons_self,hr⟩
    · obtain ⟨a,ha,hab⟩ := ih hb
      exact ⟨a,List.mem_cons_of_mem a' ha,hab⟩

theorem mem_registered {κ : Kind} {ns : String} {evs : List Event} {d : Declaration} :
    d ∈ registered κ ns evs ↔ d.kind = κ ∧ ∃ root res, Event.register root ns res d ∈ evs := by
  simp only [registered,List.mem_filter,List.mem_filterMap,decide_eq_true_eq]
  constructor
  · rintro ⟨⟨ev,hev,hr⟩,hk⟩
    cases ev with
    | register root ns' res d' =>
      simp only [Event.registration?] at hr
      split at hr
      · rename_i hns
        cases hr
        subst hns
        exact ⟨hk,root,res,hev⟩
      · cases hr
    | _ => simp [Event.registration?] at hr
  · rintro ⟨hk,root,res,hev⟩
    exact ⟨⟨_,hev,by simp [Event.registration?]⟩,hk⟩

/-! ## Where registrations come from -/

def FromEntered (evs : List Event) : Prop :=
  ∀ root ns res d, Event.register root ns res d ∈ evs →
    (∃ k, Event.enter k root ∈ evs) ∧ documentNamespace root = ns ∧
      ∃ x ∈ declarationNodes root, x.1 res x.2 = .ok d

namespace FromEntered

variable {evs evs' : List Event}

theorem of_quiet (h : ∀ ev ∈ evs, ∀ root ns res d, ev ≠ .register root ns res d) : FromEntered evs :=
  fun root ns res d hev => absurd rfl (h _ hev root ns res d)

theorem append (h : FromEntered evs) (h' : FromEntered evs') : FromEntered (evs ++ evs') := by
  intro root ns res d hev
  rcases List.mem_append.1 hev with hev | hev
  · obtain ⟨⟨k,hk⟩,hns,hx⟩ := h root ns res d hev
    exact ⟨⟨k,List.mem_append_left _ hk⟩,hns,hx⟩
  · obtain ⟨⟨k,hk⟩,hns,hx⟩ := h' root ns res d hev
    exact ⟨⟨k,List.mem_append_right _ hk⟩,hns,hx⟩

theorem cons {ev : Event} (hev : ∀ root ns res d, ev ≠ .register root ns res d) (h : FromEntered evs) :
    FromEntered (ev :: evs) :=
  (of_quiet (by simpa using hev) : FromEntered [ev]).append h

end FromEntered

theorem fromEntered_runRelation : RunRelation fun _ _ evs => FromEntered evs where
  refl _ := FromEntered.of_quiet (by simp)
  trans := FromEntered.append
  ensureSchema _ _ := FromEntered.of_quiet (by simp)

theorem fromEntered_loadRelation : LoadRelation fun _ _ evs => FromEntered evs where
  toRunRelation := fromEntered_runRelation
  exhausted _ _ := FromEntered.of_quiet (by simp)
  fetch _ _ _ := FromEntered.of_quiet (by simp)
  handOff _ h := h.cons (by simp)
  ingest hload r root loc _ := by
    rcases ingestWithT_snd_cases r root loc with h | ⟨R,h,hR⟩
    · rw [h]
      exact FromEntered.of_quiet (by simp)
    · rw [h]
      have hd := fromEntered_runRelation.holds_followDirectivesT hload loc (entered r root loc)
        root.elementChildren
      intro root' ns res d hev
      rcases List.mem_cons.1 hev with hev | hev
      · cases hev
      · rcases List.mem_append.1 hev with hev | hev
        · obtain ⟨⟨k,hk⟩,hns,hx⟩ := hd root' ns res d hev
          exact ⟨⟨k,List.mem_cons_of_mem _ (List.mem_append_left _ hk)⟩,hns,hx⟩
        · rcases hR with rfl | ⟨r',-,rfl⟩
          · cases hev
          · obtain ⟨d',he,hx⟩ := mem_registerDeclarationsT hev
            cases he
            exact ⟨⟨loc.key,List.mem_cons_self⟩,rfl,hx⟩

/-! ## Successful ingestions register every declaration -/

theorem foldl_registerStepT_error (root : Node) (ns : String) (res : Resolver) (reg : Registry)
    (e : SchemaError) (evs : List Event) :
    ∀ L : List ((Resolver → Node → Except SchemaError Declaration) × String),
      L.foldl (registerStepT root ns res) ((reg,.error e),evs) = ((reg,.error e),evs)
  | [] => rfl
  | _ :: L => foldl_registerStepT_error root ns res reg e evs L

/-- An event registers, for a document, what a reader gives for a node read with a resolver, into
the schema of a namespace. -/
def RegistersRead (root : Node) (ns : String) (res : Resolver) (ev : Event)
    (x : (Resolver → Node → Except SchemaError Declaration) × Node) : Prop :=
  ∃ d, x.1 res x.2 = .ok d ∧ ev = .register root ns res d

theorem registerEachT_ok (root : Node) (ns : String) (res : Resolver)
    (read : Resolver → Node → Except SchemaError Declaration) :
    ∀ (reg : Registry) (nodes : List Node), (registerEachT root ns res read reg nodes).1.2 = .ok () →
      List.Forall₂ (fun ev n => RegistersRead root ns res ev (read,n))
        (registerEachT root ns res read reg nodes).2 nodes
  | reg, [], _ => .nil
  | reg, n :: rest, hok => by
    simp only [registerEachT] at hok ⊢
    cases hr : read res n with
    | error e => simp [hr] at hok
    | ok d =>
      simp only [hr,Traced.after_fst] at hok ⊢
      exact .cons ⟨d,hr,rfl⟩ (registerEachT_ok root ns res read _ rest hok)

theorem foldl_registerStepT_ok (root : Node) (ns : String) (res : Resolver) :
    ∀ (L : List ((Resolver → Node → Except SchemaError Declaration) × String)) (reg : Registry)
      (evs : List Event), (L.foldl (registerStepT root ns res) ((reg,.ok ()),evs)).1.2 = .ok () →
      ∃ R, (L.foldl (registerStepT root ns res) ((reg,.ok ()),evs)).2 = evs ++ R ∧
        List.Forall₂ (RegistersRead root ns res) R (L.flatMap fun x => (root.childrenNamed x.2).map (x.1,·))
  | [], reg, evs, _ => ⟨[],(List.append_nil evs).symm,.nil⟩
  | (read,tag) :: L, reg, evs, hok => by
    simp only [List.foldl_cons,registerStepT] at hok ⊢
    have hE := registerEachT_ok root ns res read reg (root.childrenNamed tag)
    revert hok hE
    obtain ⟨⟨reg',o⟩,E⟩ := registerEachT root ns res read reg (root.childrenNamed tag)
    intro hok hE
    cases o with
    | error e => simp [Traced.after,foldl_registerStepT_error] at hok
    | ok u =>
      obtain ⟨R,hR,hF'⟩ := foldl_registerStepT_ok root ns res L reg' (evs ++ E) hok
      refine ⟨E ++ R,by rw [← List.append_assoc]; exact hR,?_⟩
      rw [List.flatMap_cons]
      exact List.rel_append (List.forall₂_map_right_iff.2 (hE rfl)) hF'

theorem registerDeclarationsT_ok {reg : Registry} {ns : String} {root : Node} {res : Resolver}
    (h : (registerDeclarationsT reg ns res root).1.2 = .ok ()) :
    List.Forall₂ (RegistersRead root ns res) (registerDeclarationsT reg ns res root).2 (declarationNodes root) := by
  obtain ⟨R,hR,hF⟩ := foldl_registerStepT_ok root ns res declarationReaders reg [] h
  unfold registerDeclarationsT declarationNodes
  rw [hR]
  exact hF

variable {load : Registry → Location → Traced String}

theorem ingestWithT_ok (hgrow : ∀ (r : Registry) (l : Location), r.Grows (load r l).1.1) {reg : Registry} {root : Node}
    {loc : Location} {ns : String} (h : (ingestWithT load reg root loc).1.2 = .ok ns) :
    ns = documentNamespace root ∧
      (followDirectivesT load loc (entered reg root loc) root.elementChildren).1.2 = .ok () ∧
      ∃ s R, (followDirectivesT load loc (entered reg root loc) root.elementChildren).1.1.schema? ns = some s ∧
        (ingestWithT load reg root loc).2 = .enter loc.key root ::
          ((followDirectivesT load loc (entered reg root loc) root.elementChildren).2 ++ R) ∧
        List.Forall₂ (RegistersRead root ns (s.bindAliases root.bindings).resolver) R
          (declarationNodes root) := by
  obtain ⟨ns',hns⟩ : ∃ ns', documentNamespace root = ns' := ⟨_,rfl⟩
  have hentered : ((entered reg root loc).schema? ns').isSome := by
    simp [entered,← hns,documentNamespace,schema?_ensureSchema]
  have hgrows := grows_ingestRelation.holds_followDirectivesT hgrow loc (entered reg root loc)
    root.elementChildren
  unfold documentNamespace at hns
  simp only [ingestWithT,entered,hns,Traced.after_fst,Traced.after_snd] at h hentered hgrows ⊢
  split at h
  · cases h
  · rename_i hschema
    split at h
    · cases h
    · rename_i reg' evs hf
      rw [hf] at hgrows
      obtain ⟨s,hs⟩ := Option.isSome_iff_exists.1 hentered
      obtain ⟨s',hs',-⟩ := hgrows.schemas ns' s hs
      have hres : ((reg'.bindPrefixes ns' root).entry ns').resolver = (s'.bindAliases root.bindings).resolver := by
        rw [entry_bindPrefixes,entry,hs']
        rfl
      simp only [hf,Traced.after_fst] at h ⊢
      split at h
      · cases h
      · rename_i reg'' evs' hr
        cases h
        have hF := registerDeclarationsT_ok (by rw [hr])
        rw [hr,hres] at hF
        refine ⟨hns.symm,trivial,s',evs',hs',?_,hF⟩
        rw [if_neg hschema]
        rfl

/-! ## Successful sessions register every declaration of every document they enter -/

def RegistersEntered (evs : List Event) : Prop :=
  ∀ k root, Event.enter k root ∈ evs → ∀ x ∈ declarationNodes root,
    ∃ res, ∃ ev ∈ evs, RegistersRead root (documentNamespace root) res ev x

namespace RegistersEntered

variable {evs evs' : List Event}

theorem nil : RegistersEntered [] := fun _ _ h => by cases h

theorem append (h : RegistersEntered evs) (h' : RegistersEntered evs') :
    RegistersEntered (evs ++ evs') := by
  intro k root hk x hx
  rcases List.mem_append.1 hk with hk | hk
  · obtain ⟨res,ev,hev,hr⟩ := h k root hk x hx
    exact ⟨res,ev,List.mem_append_left _ hev,hr⟩
  · obtain ⟨res,ev,hev,hr⟩ := h' k root hk x hx
    exact ⟨res,ev,List.mem_append_right _ hev,hr⟩

theorem cons {ev : Event} (hev : ∀ k root, ev ≠ .enter k root) (h : RegistersEntered evs) :
    RegistersEntered (ev :: evs) := by
  intro k root hk x hx
  rcases List.mem_cons.1 hk with hk | hk
  · exact absurd hk.symm (hev k root)
  · obtain ⟨res,ev',hev',hr⟩ := h k root hk x hx
    exact ⟨res,ev',List.mem_cons_of_mem _ hev',hr⟩

end RegistersEntered

@[simp] theorem Traced.settle_outcome (t : Traced String) : t.settle.1.2 = t.1.2 := by
  obtain ⟨⟨reg,outcome⟩,evs⟩ := t
  cases outcome <;> rfl

theorem followDirectivesT_registersEntered
    (hload : ∀ r l ns, (load r l).1.2 = .ok ns → RegistersEntered (load r l).2) (loc : Location) :
    ∀ (reg : Registry) (ds : List Node), (followDirectivesT load loc reg ds).1.2 = .ok () →
      RegistersEntered (followDirectivesT load loc reg ds).2
  | _, [], _ => RegistersEntered.nil
  | reg, d :: rest, h => by
    simp only [followDirectivesT] at h ⊢
    revert h
    cases directiveTarget reg loc d with
    | error e => intro h; cases h
    | ok target =>
      cases target with
      | none => exact followDirectivesT_registersEntered hload loc reg rest
      | some target =>
        dsimp only
        have hl := hload reg target
        revert hl
        obtain ⟨⟨reg',outcome⟩,evs⟩ := load reg target
        intro hl h
        cases outcome with
        | error e => cases h
        | ok ns => exact (hl ns rfl).append (followDirectivesT_registersEntered hload loc reg' rest h)

theorem ingestWithT_registersEntered (hgrow : ∀ (r : Registry) (l : Location), r.Grows (load r l).1.1)
    (hload : ∀ r l ns, (load r l).1.2 = .ok ns → RegistersEntered (load r l).2) {reg : Registry}
    {root : Node} {loc : Location} {ns : String} (h : (ingestWithT load reg root loc).1.2 = .ok ns) :
    RegistersEntered (ingestWithT load reg root loc).2 := by
  obtain ⟨rfl,hdir,s,R,-,hevs,hF⟩ := ingestWithT_ok hgrow h
  have hd := followDirectivesT_registersEntered hload loc _ _ hdir
  rw [hevs]
  intro k root' hk x hx
  rcases List.mem_cons.1 hk with hk | hk
  · cases hk
    obtain ⟨ev,hev,hr⟩ := forall₂_exists_of_mem_right hF hx
    exact ⟨_,ev,List.mem_cons_of_mem _ (List.mem_append_right _ hev),hr⟩
  · rcases List.mem_append.1 hk with hk | hk
    · obtain ⟨res,ev,hev,hr⟩ := hd k root' hk x hx
      exact ⟨res,ev,List.mem_cons_of_mem _ (List.mem_append_left _ hev),hr⟩
    · obtain ⟨y,-,d,-,hd'⟩ := forall₂_exists_of_mem_left hF hk
      cases hd'

theorem loadAtT_registersEntered (src : Source) (n : Nat) :
    ∀ (reg : Registry) (loc : Location) (ns : String), (loadAtT src n reg loc).1.2 = .ok ns →
      RegistersEntered (loadAtT src n reg loc).2 := by
  induction n with
  | zero =>
    intro reg loc ns h
    cases hk : reg.loadedNamespace? loc.key with
    | some ns' => rw [loadAtT_of_recorded hk]; exact .nil
    | none =>
      cases hf : src.fetch? loc with
      | none => rw [loadAtT_of_missing hk hf] at h; cases h
      | some text => rw [loadAtT_zero hk hf] at h; cases h
  | succ n ih =>
    intro reg loc ns h
    cases hk : reg.loadedNamespace? loc.key with
    | some ns' => rw [loadAtT_of_recorded hk]; exact .nil
    | none =>
      cases hf : src.fetch? loc with
      | none => rw [loadAtT_of_missing hk hf] at h; cases h
      | some text =>
        rw [loadAtT_succ hk hf] at h ⊢
        revert h
        cases Document.read reg.config.allowDtd text with
        | error e => intro h; cases h
        | ok doc =>
          intro h
          have hok : (ingestWithT (loadAtT src n) reg doc.root loc).1.2 = .ok ns := by simpa using h
          have hi := ingestWithT_registersEntered (fun r l => grows_loadRelation.holds_loadAtT src n r l)
            ih hok
          simp only [Traced.after_snd,Traced.settle_snd,List.singleton_append]
          exact .cons (by simp) (.cons (by simp) hi)

theorem ingestT_registersEntered {src : Source} {reg : Registry} {root : Node} {loc : Location}
    {ns : String} (h : (ingestT src reg root loc).1.2 = .ok ns) : RegistersEntered (ingestT src reg root loc).2 := by
  unfold ingestT at h ⊢
  rw [Traced.settle_snd]
  exact ingestWithT_registersEntered (fun r l => grows_loadRelation.holds_loadAtT src _ r l)
    (loadAtT_registersEntered src _) (by simpa using h)

/-- Commands run one after another from a registry, each of them succeeding. -/
inductive SuccessfulSession (src : Source) (start : Registry) : Registry → List Event → Prop
  | nil : SuccessfulSession src start start []
  | step {reg : Registry} {evs : List Event} (h : SuccessfulSession src start reg evs) (cmd : Command)
      {reply : Reply} (hok : (run src reg cmd).2 = .ok reply) :
      SuccessfulSession src start (run src reg cmd).1 (evs ++ commandEvents src reg cmd)

theorem SuccessfulSession.session {src : Source} {start reg : Registry} {evs : List Event}
    (h : SuccessfulSession src start reg evs) : Session src start reg evs := by
  induction h with
  | nil => exact .nil
  | step _ cmd _ ih => exact .step ih cmd

theorem summaryAfter_ok {st : Step String} {reply : Reply} (h : (summaryAfter st).2 = .ok reply) :
    ∃ ns, st.2 = .ok ns := by
  obtain ⟨reg,outcome⟩ := st
  cases outcome with
  | error e => cases h
  | ok ns => exact ⟨ns,rfl⟩

theorem commandEvents_registersEntered {src : Source} {reg : Registry} {cmd : Command} {reply : Reply}
    (h : (run src reg cmd).2 = .ok reply) : RegistersEntered (commandEvents src reg cmd) := by
  cases cmd with
  | load locator =>
    simp only [run,commandEvents] at h ⊢
    revert h
    cases locate locator with
    | error e => intro h; cases h
    | ok loc =>
      intro h
      obtain ⟨ns,hns⟩ := summaryAfter_ok h
      rw [← loadT_fst] at hns
      exact loadAtT_registersEntered src _ reg loc ns hns
  | ingest locator text =>
    simp only [run,commandEvents] at h ⊢
    revert h
    cases locate locator with
    | error e => intro h; cases h
    | ok loc =>
      dsimp only
      cases Document.read false text with
      | error e => intro h; cases h
      | ok doc =>
        intro h
        obtain ⟨ns,hns⟩ := summaryAfter_ok h
        rw [← ingestT_fst] at hns
        exact ingestT_registersEntered hns
  | render => exact .nil
  | renderSchema ns => exact .nil
  | namespaces => exact .nil
  | schema ns => exact .nil
  | typeIdentifier ns name => exact .nil
  | toIdentifier name => exact .nil

theorem SuccessfulSession.registersEntered {src : Source} {start reg : Registry} {evs : List Event}
    (h : SuccessfulSession src start reg evs) : RegistersEntered evs := by
  induction h with
  | nil => exact .nil
  | step _ cmd hok ih => exact ih.append (commandEvents_registersEntered hok)

/-! ## What the tables hold -/

theorem SuccessfulSession.registered_names {src : Source} {start reg : Registry} {evs : List Event}
    (h : SuccessfulSession src start reg evs) (ns : String) (κ : Kind) (n : String) :
    (∃ d ∈ registered κ ns evs, d.name = n) ↔
      ∃ k root, Event.enter k root ∈ evs ∧ documentNamespace root = ns ∧ n ∈ declaredNames κ root := by
  constructor
  · rintro ⟨d,hd,rfl⟩
    obtain ⟨rfl,root,res,hev⟩ := mem_registered.1 hd
    obtain ⟨⟨k,hk⟩,hns,x,hx,hr⟩ := fromEntered_loadRelation.holds_session h.session root ns res d hev
    exact ⟨k,root,hk,hns,name_mem_declaredNames hx hr⟩
  · rintro ⟨k,root,hk,rfl,hn⟩
    obtain ⟨x,hx,hkind⟩ := exists_of_mem_declaredNames hn
    obtain ⟨res,ev,hev,d,hr,rfl⟩ := h.registersEntered k root hk x hx
    obtain ⟨hκ,hname⟩ := hkind res d hr
    exact ⟨d,mem_registered.2 ⟨hκ,root,res,hev⟩,hname⟩

theorem declarationNodes_eq (root : Node) :
    declarationNodes root = (root.childrenNamed "element").map (readElement,·) ++
      (root.childrenNamed "simpleType").map (readSimpleType,·) ++
      (root.childrenNamed "complexType").map (readComplexType,·) ++
      (root.childrenNamed "attribute").map (readAttribute,·) := by
  simp [declarationNodes,declarationReaders]

/-- Every registry loading reaches holds each declaration under its name, in the order of first
registration, with the last declaration registered under each name. -/
theorem registry_holds_the_declarations_of_its_documents (config : Config) (src : Source) :
    (∀ reg evs, Session src (Registry.new config) reg evs →
      reg.WellKeyed ∧ [xsNamespace,dsNamespace] <+: reg.namespaces ∧
      (∀ cmd, reg.Grows (run src reg cmd).1) ∧
      ∀ ns κ, (reg.declarations ns κ).keys = ((Registry.new config).declarations ns κ).keys ++
          (((registered κ ns evs).map (·.name)).removeAll
            ((Registry.new config).declarations ns κ).keys).eraseDups ∧
        ∀ n, (reg.declarations ns κ).get? n = ((registered κ ns evs).reverse.find? (·.name == n)).or
          (((Registry.new config).declarations ns κ).get? n)) ∧
    (∀ reg evs, SuccessfulSession src (Registry.new config) reg evs → ∀ ns κ n,
      n ∈ (reg.declarations ns κ).keys ↔ n ∈ ((Registry.new config).declarations ns κ).keys ∨
        ∃ k root, Event.enter k root ∈ evs ∧ documentNamespace root = ns ∧ n ∈ declaredNames κ root) ∧
    (∀ fuel reg root loc ns, (ingestWithT (loadAtT src fuel) reg root loc).1.2 = .ok ns → ∃ res R,
      (ingestWithT (loadAtT src fuel) reg root loc).2 = .enter loc.key root ::
        ((followDirectivesT (loadAtT src fuel) loc (entered reg root loc) root.elementChildren).2 ++ R) ∧
      List.Forall₂ (RegistersRead root ns res) R
        ((root.childrenNamed "element").map (readElement,·) ++
          (root.childrenNamed "simpleType").map (readSimpleType,·) ++
          (root.childrenNamed "complexType").map (readComplexType,·) ++
          (root.childrenNamed "attribute").map (readAttribute,·))) := by
  refine ⟨fun reg evs h => ?_,fun reg evs h ns κ n => ?_,fun fuel reg root loc ns h => ?_⟩
  · have ht := tabulates_loadRelation.holds_session h
    have hg := grows_loadRelation.holds_session h
    refine ⟨wellKeyed_loadRelation.holds_session h (wellKeyed_new config),?_,run_grows src reg,
      fun ns κ => ⟨ht.keys ns κ,ht.get? ns κ⟩⟩
    rw [← namespaces_new config]
    exact hg.namespaces
  · rw [tabulates_loadRelation.holds_session h.session ns κ,Table.mem_keys_insertAll,List.map_map]
    refine or_congr_right (Iff.trans ?_ (h.registered_names ns κ n))
    simp [List.mem_map]
  · obtain ⟨-,-,s,R,-,hevs,hF⟩ := ingestWithT_ok (fun r l => grows_loadRelation.holds_loadAtT src fuel r l) h
    exact ⟨_,R,hevs,declarationNodes_eq root ▸ hF⟩

/-- Documents merged into the empty namespace, one of which declares again a type of another. -/
def mergedSource : Source :=
  ⟨[(.path [.root,.normal "m"],
      "<schema><include schemaLocation='p'/><import namespace='n' schemaLocation='n'/><simpleType name='T'/></schema>"),
    (.path [.root,.normal "p"],
      "<schema><simpleType name='T'><restriction base='x'/></simpleType><simpleType name='U'/></schema>"),
    (.path [.root,.normal "n"],"<schema targetNamespace='n'><attribute name='y'/></schema>"),
    (.path [.root,.normal "q"],"<schema><simpleType name='V'/><attribute/></schema>")]⟩

/-- The root of `/m`. -/
def mergedRoot : Node :=
  .element "schema" none [] []
    [.element "include" none [⟨none,"schemaLocation","p"⟩] [] [],
     .element "import" none [⟨none,"namespace","n"⟩,⟨none,"schemaLocation","n"⟩] [] [],
     .element "simpleType" none [⟨none,"name","T"⟩] [] []]

/-- Loading `/m` registers `T` twice, keeping its first place and its last declaration. -/
theorem mergedSource_registry_holds_its_declarations :
    ∃ reg₁ evs₁ reg₂ evs₂, SuccessfulSession mergedSource (Registry.new {}) reg₁ evs₁ ∧
      Session mergedSource (Registry.new {}) reg₂ evs₂ ∧
      (registered .type "" evs₂).map (·.name) = ["T","U","T","V"] ∧
      reg₂.WellKeyed ∧ (reg₂.declarations "" .type).keys = ["T","U","V"] ∧
      (reg₂.declarations "" .type).get? "T" = (registered .type "" evs₂).reverse.find? (·.name == "T") ∧
      ("U" ∈ (reg₁.declarations "" .type).keys ↔
        ∃ k root, Event.enter k root ∈ evs₁ ∧ documentNamespace root = "" ∧ "U" ∈ declaredNames .type root) ∧
      ∃ res R, (ingestWithT (loadAtT mergedSource 5) (Registry.new {}) mergedRoot (.path ⟨"/m"⟩)).2 =
          .enter (Location.path ⟨"/m"⟩).key mergedRoot ::
            ((followDirectivesT (loadAtT mergedSource 5) (.path ⟨"/m"⟩)
              (entered (Registry.new {}) mergedRoot (.path ⟨"/m"⟩)) mergedRoot.elementChildren).2 ++ R) ∧
        List.Forall₂ (RegistersRead mergedRoot "" res) R
          ((mergedRoot.childrenNamed "element").map (readElement,·) ++
            (mergedRoot.childrenNamed "simpleType").map (readSimpleType,·) ++
            (mergedRoot.childrenNamed "complexType").map (readComplexType,·) ++
            (mergedRoot.childrenNamed "attribute").map (readAttribute,·)) := by
  have hfacts : (run mergedSource (Registry.new {}) (.load "/m")).2.toBool = true ∧
      (registered .type "" ([] ++ commandEvents mergedSource (Registry.new {}) (.load "/m") ++
        commandEvents mergedSource (run mergedSource (Registry.new {}) (.load "/m")).1 (.load "/q"))).map
          (·.name) = ["T","U","T","V"] ∧
      ((Registry.new {}).declarations "" .type).keys = [] ∧
      (((Registry.new {}).declarations "" .type).get? "T").isNone = true ∧
      (ingestWithT (loadAtT mergedSource 5) (Registry.new {}) mergedRoot (.path ⟨"/m"⟩)).1.2.toOption =
        some "" := by
    decide +kernel
  obtain ⟨hok,hnames,hkeys,hT,hingest⟩ := hfacts
  obtain ⟨_,hok⟩ := exists_eq_ok_of_toBool hok
  have h₁ := SuccessfulSession.step .nil (.load "/m") hok
  have h₂ := Session.step h₁.session (.load "/q")
  obtain ⟨hwk,-,-,htables⟩ := (registry_holds_the_declarations_of_its_documents {} mergedSource).1 _ _ h₂
  obtain ⟨hkeys₂,hget₂⟩ := htables "" .type
  have hU := (registry_holds_the_declarations_of_its_documents {} mergedSource).2.1 _ _ h₁ "" .type "U"
  obtain ⟨res,R,hevs,hF⟩ :=
    (registry_holds_the_declarations_of_its_documents {} mergedSource).2.2 5 _ _ _ _ (eq_ok_of_toOption hingest)
  refine ⟨_,_,_,_,h₁,h₂,hnames,hwk,?_,?_,?_,res,R,hevs,hF⟩
  · rw [hkeys₂,hnames,hkeys]
    decide
  · rw [hget₂,Option.isNone_iff_eq_none.1 hT,Option.or_none]
  · rw [hU,hkeys]
    exact or_iff_right List.not_mem_nil
end SchemaTypes.Registry
