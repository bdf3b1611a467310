import SchemaTypes.Proofs.RegistryContents
set_option autoImplicit false

/-!
What a session of successful loads reads. Each document it enters is the one the source holds at
the location it enters it at (`ReadsWhole.roots`). Its registrations fall into blocks, one for each
document it reads, and each block registers every top-level declaration of its document in order,
all read with one resolver (`Block.Reads`). The namespaces it adds are those of the documents it
enters. This holds of each successful load, by induction on the depth (`loadAtT_readsWhole`), and
so of every session of loads that all succeed (`LoadsAll.readsWhole`).
-/

namespace SchemaTypes.Registry

open SchemaTypes.Component SchemaTypes.Xml

def Source.root? (src : Source) (allowDtd : Bool) (k : LocationKey) : Option Node :=
  (src.documents.lookup k).bind fun text =>
    match Document.read allowDtd text with
    | .ok doc => some doc.root
    | .error _ => none

def RecordsPresent (r : Registry) : Prop :=
  ∀ k ns, r.loadedNamespace? k = some ns → ns ∈ r.namespaces

/-- The registrations of one document: its root, the resolver its declarations were read with, and
the registration events. -/
structure Block where
  root : Node
  res : Resolver
  events : List Event

def Block.Reads (b : Block) : Prop :=
  List.Forall₂ (RegistersRead b.root (documentNamespace b.root) b.res) b.events (declarationNodes b.root)

def Block.Within (b : Block) (evs : List Event) : Prop :=
  (∃ k, Event.enter k b.root ∈ evs) ∧ b.events ⊆ evs

theorem Block.Within.mono {b : Block} {evs evs' : List Event} (h : b.Within evs) (hs : evs ⊆ evs') :
    b.Within evs' :=
  ⟨h.1.imp fun _ hk => hs hk,List.Subset.trans h.2 hs⟩

/-- A run that reads whole documents: what it enters and registers is what the source holds. -/
structure ReadsWhole (src : Source) (allowDtd : Bool) (r r' : Registry) (evs : List Event) : Prop where
  roots : ∀ k root, Event.enter k root ∈ evs → src.root? allowDtd k = some root
  blocks : ∃ bs : List Block, (∀ κ ns, registered κ ns evs = bs.flatMap fun b => registered κ ns b.events) ∧
    ∀ b ∈ bs, b.Reads ∧ b.Within evs
  namespaces : ∀ ns, ns ∈ r'.namespaces ↔
    ns ∈ r.namespaces ∨ ∃ k root, Event.enter k root ∈ evs ∧ documentNamespace root = ns
  present : RecordsPresent r → RecordsPresent r'

namespace ReadsWhole

variable {src : Source} {allowDtd : Bool}

theorem refl (r : Registry) : ReadsWhole src allowDtd r r [] where
  roots _ _ h := by cases h
  blocks := ⟨[],fun _ _ => rfl,fun _ h => (by cases h)⟩
  namespaces _ := by simp
  present h := h

theorem trans {r₁ r₂ r₃ : Registry} {e₁ e₂ : List Event} (h₁ : ReadsWhole src allowDtd r₁ r₂ e₁)
    (h₂ : ReadsWhole src allowDtd r₂ r₃ e₂) : ReadsWhole src allowDtd r₁ r₃ (e₁ ++ e₂) where
  roots k root h := (List.mem_append.1 h).elim (h₁.roots k root) (h₂.roots k root)
  blocks := by
    obtain ⟨bs₁,hr₁,hb₁⟩ := h₁.blocks
    obtain ⟨bs₂,hr₂,hb₂⟩ := h₂.blocks
    refine ⟨bs₁ ++ bs₂,fun κ ns => by simp [hr₁,hr₂],fun b hb => ?_⟩
    rcases List.mem_append.1 hb with hb | hb
    · exact (hb₁ b hb).imp_right fun hw => hw.mono (List.subset_append_left _ _)
    · exact (hb₂ b hb).imp_right fun hw => hw.mono (List.subset_append_right _ _)
  namespaces ns := by
    rw [h₂.namespaces,h₁.namespaces]
    simp only [List.mem_append]
    constructor
    · rintro ((h | ⟨k,root,hk,hns⟩) | ⟨k,root,hk,hns⟩)
      · exact .inl h
      · exact .inr ⟨k,root,.inl hk,hns⟩
      · exact .inr ⟨k,root,.inr hk,hns⟩
    · rintro (h | ⟨k,root,hk | hk,hns⟩)
      · exact .inl (.inl h)
      · exact .inl (.inr ⟨k,root,hk,hns⟩)
      · exact .inr ⟨k,root,hk,hns⟩
  present h := h₂.present (h₁.present h)

end ReadsWhole

/-! ## Loads that succeed read whole documents -/

theorem ensureSchema_of_mem {r : Registry} {ns : String} (h : ns ∈ r.namespaces) : r.ensureSchema ns = r := by
  unfold ensureSchema
  rw [if_pos ((Table.contains_iff _ _).2 h)]

theorem registerEachT_keeps (root : Node) (ns : String) (res : Resolver)
    (read : Resolver → Node → Except SchemaError Declaration) :
    ∀ (reg : Registry) (nodes : List Node),
      (∀ k, (registerEachT root ns res read reg nodes).1.1.loadedNamespace? k = reg.loadedNamespace? k) ∧
        (registerEachT root ns res read reg nodes).1.1.namespaces = reg.namespaces
  | reg, [] => ⟨fun _ => rfl,rfl⟩
  | reg, n :: rest => by
    simp only [registerEachT]
    cases read res n with
    | error e => exact ⟨fun _ => rfl,rfl⟩
    | ok d =>
      obtain ⟨h₁,h₂⟩ := registerEachT_keeps root ns res read (reg.modifySchema ns (·.register d)) rest
      exact ⟨h₁,h₂.trans (namespaces_modifySchema (r := reg) ns _)⟩

theorem registerDeclarationsT_keeps (reg : Registry) (ns : String) (res : Resolver) (root : Node) :
    (∀ k, (registerDeclarationsT reg ns res root).1.1.loadedNamespace? k = reg.loadedNamespace? k) ∧
      (registerDeclarationsT reg ns res root).1.1.namespaces = reg.namespaces := by
  unfold registerDeclarationsT
  apply List.foldlRecOn (motive := fun t : Traced Unit =>
    (∀ k, t.1.1.loadedNamespace? k = reg.loadedNamespace? k) ∧ t.1.1.namespaces = reg.namespaces)
  · exact ⟨fun _ => rfl,rfl⟩
  · rintro ⟨⟨reg',outcome⟩,evs⟩ ht ⟨read,tag⟩ -
    cases outcome with
    | error e => exact ht
    | ok u =>
      obtain ⟨h₁,h₂⟩ := registerEachT_keeps root ns res read reg' (root.childrenNamed tag)
      exact ⟨fun k => (h₁ k).trans (ht.1 k),h₂.trans ht.2⟩

namespace ReadsWhole

variable {src : Source} {allowDtd : Bool}

theorem cons {r r' : Registry} {evs : List Event} {ev : Event} (hev : ∀ k root, ev ≠ .enter k root)
    (hreg : ∀ κ ns, registered κ ns [ev] = []) (h : ReadsWhole src allowDtd r r' evs) :
    ReadsWhole src allowDtd r r' (ev :: evs) where
  roots k root hk := (List.mem_cons.1 hk).elim (fun he => absurd he.symm (hev k root)) (h.roots k root)
  blocks := by
    obtain ⟨bs,hr,hb⟩ := h.blocks
    refine ⟨bs,fun κ ns => ?_,fun b hbs => (hb b hbs).imp_right fun hw => hw.mono (List.subset_cons_self _ _)⟩
    rw [← List.singleton_append,registered_append,hreg,List.nil_append,hr]
  namespaces ns := by
    rw [h.namespaces]
    refine or_congr_right ⟨fun ⟨k,root,hk,hns⟩ => ⟨k,root,List.mem_cons_of_mem _ hk,hns⟩,?_⟩
    rintro ⟨k,root,hk,hns⟩
    rcases List.mem_cons.1 hk with hk | hk
    · exact absurd hk.symm (hev k root)
    · exact ⟨k,root,hk,hns⟩
  present := h.present

end ReadsWhole

variable {src : Source} {allowDtd : Bool} {load : Registry → Location → Traced String}

theorem followDirectivesT_readsWhole
    (hload : ∀ r l ns, r.config.allowDtd = allowDtd → RecordsPresent r → (load r l).1.2 = .ok ns →
      ReadsWhole src allowDtd r (load r l).1.1 (load r l).2)
    (hgrow : ∀ (r : Registry) (l : Location), r.Grows (load r l).1.1) (loc : Location) :
    ∀ (reg : Registry) (ds : List Node), reg.config.allowDtd = allowDtd → RecordsPresent reg →
      (followDirectivesT load loc reg ds).1.2 = .ok () →
      ReadsWhole src allowDtd reg (followDirectivesT load loc reg ds).1.1 (followDirectivesT load loc reg ds).2
  | reg, [], _, _, _ => .refl reg
  | reg, d :: rest, hcfg, hJ, h => by
    simp only [followDirectivesT] at h ⊢
    revert h
    cases directiveTarget reg loc d with
    | error e => intro h; cases h
    | ok target =>
      cases target with
      | none => exact followDirectivesT_readsWhole hload hgrow loc reg rest hcfg hJ
      | some target =>
        dsimp only
        have hl := hload reg target
        have hg := hgrow reg target
        revert hl hg
        obtain ⟨⟨reg',outcome⟩,evs⟩ := load reg target
        intro hl hg h
        cases outcome with
        | error e => cases h
        | ok ns =>
          have hw := hl ns hcfg hJ rfl
          exact hw.trans (followDirectivesT_readsWhole hload hgrow loc reg' rest (by rw [hg.config]; exact hcfg)
            (hw.present hJ) h)

theorem loadedNamespace?_entered (reg : Registry) (root : Node) (loc : Location) (k : LocationKey) :
    (entered reg root loc).loadedNamespace? k =
      if k = loc.key then some (documentNamespace root) else reg.loadedNamespace? k := by
  simp only [entered,loadedNamespace?_ensureSchema,loadedNamespace?_recordLoaded,documentNamespace]

theorem mem_namespaces_entered {reg : Registry} {root : Node} {loc : Location} {ns : String} :
    ns ∈ (entered reg root loc).namespaces ↔ ns ∈ reg.namespaces ∨ ns = documentNamespace root := by
  unfold entered
  rw [namespaces_ensureSchema,namespaces_recordLoaded]
  split_ifs with h
  · exact ⟨.inl,fun h' => h'.elim id fun e => e ▸ h⟩
  · simp [documentNamespace]

theorem RecordsPresent.entered {reg : Registry} (h : RecordsPresent reg) (root : Node) (loc : Location) :
    RecordsPresent (entered reg root loc) := by
  intro k ns hk
  rw [loadedNamespace?_entered] at hk
  split at hk
  · cases hk
    exact mem_namespaces_entered.2 (.inr rfl)
  · exact mem_namespaces_entered.2 (.inl (h k ns hk))

theorem ingestWithT_keeps (hgrow : ∀ (r : Registry) (l : Location), r.Grows (load r l).1.1) {reg : Registry}
    {root : Node} {loc : Location} {ns : String} (h : (ingestWithT load reg root loc).1.2 = .ok ns) :
    (∀ k, (ingestWithT load reg root loc).1.1.loadedNamespace? k =
      (followDirectivesT load loc (entered reg root loc) root.elementChildren).1.1.loadedNamespace? k) ∧
    (ingestWithT load reg root loc).1.1.namespaces =
      (followDirectivesT load loc (entered reg root loc) root.elementChildren).1.1.namespaces := by
  have hmem : documentNamespace root ∈
      (followDirectivesT load loc (entered reg root loc) root.elementChildren).1.1.namespaces :=
    (grows_ingestRelation.holds_followDirectivesT hgrow loc _ _).namespaces.subset
      (mem_namespaces_entered.2 (.inr rfl))
  simp only [ingestWithT,entered,documentNamespace,Traced.after_fst] at h hmem ⊢
  split at h
  · cases h
  · rename_i hschema
    rw [if_neg hschema]
    split at h
    · cases h
    · rename_i reg' evs hf
      rw [hf] at hmem ⊢
      simp only [Traced.after_fst] at h ⊢
      split at h
      · cases h
      · rename_i reg'' evs' hr
        obtain ⟨h₁,h₂⟩ := registerDeclarationsT_keeps (reg'.bindPrefixes
          ((root.attribute? "targetNamespace").getD "") root) _ _ root
        rw [hr] at h₁ h₂
        refine ⟨fun k => (h₁ k).trans (by simp [bindPrefixes]),h₂.trans ?_⟩
        rw [bindPrefixes,namespaces_modifySchema,ensureSchema_of_mem hmem]

theorem enter_not_mem_of_reads {root : Node} {ns : String} {res : Resolver} {R : List Event}
    {xs : List ((Resolver → Node → Except SchemaError Declaration) × Node)}
    (h : List.Forall₂ (RegistersRead root ns res) R xs) (k : LocationKey) (root' : Node) :
    Event.enter k root' ∉ R := by
  intro hk
  obtain ⟨x,-,d,-,he⟩ := forall₂_exists_of_mem_left h hk
  cases he

theorem ingestWithT_readsWhole (hgrow : ∀ (r : Registry) (l : Location), r.Grows (load r l).1.1)
    (hload : ∀ r l ns, r.config.allowDtd = allowDtd → RecordsPresent r → (load r l).1.2 = .ok ns →
      ReadsWhole src allowDtd r (load r l).1.1 (load r l).2)
    {reg : Registry} {root : Node} {loc : Location} {ns : String} (hcfg : reg.config.allowDtd = allowDtd)
    (hJ : RecordsPresent reg) (hroot : src.root? allowDtd loc.key = some root)
    (h : (ingestWithT load reg root loc).1.2 = .ok ns) :
    ReadsWhole src allowDtd reg (ingestWithT load reg root loc).1.1 (ingestWithT load reg root loc).2 := by
  obtain ⟨hloaded,hnss⟩ := ingestWithT_keeps hgrow h
  obtain ⟨rfl,hdir,s,R,-,hevs,hF⟩ := ingestWithT_ok hgrow h
  have hd := followDirectivesT_readsWhole hload hgrow loc (entered reg root loc) root.elementChildren
    (by simpa [entered] using hcfg) (hJ.entered root loc) hdir
  rw [hevs]
  revert hloaded hnss hd
  generalize (ingestWithT load reg root loc).1.1 = r'
  generalize (followDirectivesT load loc (entered reg root loc) root.elementChildren).1.1 = r₁
  generalize (followDirectivesT load loc (entered reg root loc) root.elementChildren).2 = E
  intro hloaded hnss hd
  have hR := enter_not_mem_of_reads hF
  let b : Block := ⟨root,(s.bindAliases root.bindings).resolver,R⟩
  refine ⟨fun k root' hk => ?_,?_,fun ns' => ?_,fun _ k ns' hk => ?_⟩
  · rcases List.mem_cons.1 hk with hk | hk
    · cases hk
      exact hroot
    · rcases List.mem_append.1 hk with hk | hk
      · exact hd.roots k root' hk
      · exact absurd hk (hR k root')
  · obtain ⟨bs,hr,hb⟩ := hd.blocks
    refine ⟨bs ++ [b],fun κ ns' => ?_,fun b' hb' => ?_⟩
    · simp [hr,b,Event.registration?]
    · rcases List.mem_append.1 hb' with hb' | hb'
      · exact (hb b' hb').imp_right fun hw =>
          hw.mono (List.Subset.trans (List.subset_append_left _ _) (List.subset_cons_self _ _))
      · rw [List.mem_singleton.1 hb']
        exact ⟨hF,⟨loc.key,List.mem_cons_self⟩,List.Subset.trans (List.subset_append_right _ _) (List.subset_cons_self _ _)⟩
  · rw [hnss,hd.namespaces,mem_namespaces_entered]
    constructor
    · rintro ((h' | rfl) | ⟨k,root',hk,hns⟩)
      · exact .inl h'
      · exact .inr ⟨loc.key,root,List.mem_cons_self,rfl⟩
      · exact .inr ⟨k,root',List.mem_cons_of_mem _ (List.mem_append_left _ hk),hns⟩
    · rintro (h' | ⟨k,root',hk,hns⟩)
      · exact .inl (.inl h')
      · rcases List.mem_cons.1 hk with hk | hk
        · cases hk
          exact .inl (.inr hns.symm)
        · rcases List.mem_append.1 hk with hk | hk
          · exact .inr ⟨k,root',hk,hns⟩
          · exact absurd hk (hR k root')
  · rw [hloaded] at hk
    rw [hnss]
    exact hd.present (hJ.entered root loc) k ns' hk

theorem root?_of_fetch? {src : Source} {loc : Location} {text : String} {doc : Document}
    (hf : src.fetch? loc = some text) (hd : Document.read allowDtd text = .ok doc) :
    src.root? allowDtd loc.key = some doc.root := by
  have hl : src.documents.lookup loc.key = some text := hf
  simp only [Source.root?,hl,Option.bind_some,hd]

theorem loadAtT_readsWhole (src : Source) (n : Nat) :
    ∀ (reg : Registry) (loc : Location) (ns : String), reg.config.allowDtd = allowDtd → RecordsPresent reg →
      (loadAtT src n reg loc).1.2 = .ok ns →
      ReadsWhole src allowDtd reg (loadAtT src n reg loc).1.1 (loadAtT src n reg loc).2 := by
  induction n with
  | zero =>
    intro reg loc ns _ hJ h
    cases hk : reg.loadedNamespace? loc.key with
    | some ns' =>
      rw [loadAtT_of_recorded hk,ensureSchema_of_mem (hJ _ _ hk)]
      exact .refl reg
    | none =>
      cases hf : src.fetch? loc with
      | none => rw [loadAtT_of_missing hk hf] at h; cases h
      | some text => rw [loadAtT_zero hk hf] at h; cases h
  | succ n ih =>
    intro reg loc ns hcfg hJ h
    cases hk : reg.loadedNamespace? loc.key with
    | some ns' =>
      rw [loadAtT_of_recorded hk,ensureSchema_of_mem (hJ _ _ hk)]
      exact .refl reg
    | none =>
      cases hf : src.fetch? loc with
      | none => rw [loadAtT_of_missing hk hf] at h; cases h
      | some text =>
        rw [loadAtT_succ hk hf] at h ⊢
        revert h
        cases hd : Document.read reg.config.allowDtd text with
        | error e => intro h; cases h
        | ok doc =>
          intro h
          dsimp only at h ⊢
          have hok : (ingestWithT (loadAtT src n) reg doc.root loc).1.2 = .ok ns := by simpa using h
          have hroot := root?_of_fetch? hf (hcfg ▸ hd)
          have hi := ingestWithT_readsWhole (fun r l => grows_loadRelation.holds_loadAtT src n r l)
            (fun r l ns' => ih r l ns') hcfg hJ hroot hok
          have hns : ns ∈ (ingestWithT (loadAtT src n) reg doc.root loc).1.1.namespaces := by
            obtain ⟨rfl,-,s,R,-,hevs,-⟩ := ingestWithT_ok (fun r l => grows_loadRelation.holds_loadAtT src n r l) hok
            exact (hi.namespaces _).2 (.inr ⟨loc.key,doc.root,hevs ▸ List.mem_cons_self,rfl⟩)
          revert hok hi hns
          obtain ⟨⟨reg',outcome⟩,evs⟩ := ingestWithT (loadAtT src n) reg doc.root loc
          intro hok hi hns
          cases hok
          simp only [Traced.settle,Traced.after_fst,Traced.after_snd,List.singleton_append]
          rw [ensureSchema_of_mem hns]
          exact .cons (by simp) (by simp [Event.registration?]) (.cons (by simp) (by simp [Event.registration?]) hi)

/-! ## Sessions of loads -/

/-- Loading the documents of a list of locators one after another, every load succeeding: the
registry at the end and the events of all the loads. -/
inductive LoadsAll (src : Source) (start : Registry) : List String → Registry → List Event → Prop
  | nil : LoadsAll src start [] start []
  | step {locators : List String} {reg : Registry} {evs : List Event}
      (h : LoadsAll src start locators reg evs) (locator : String) {reply : Reply}
      (hok : (run src reg (.load locator)).2 = .ok reply) :
      LoadsAll src start (locators ++ [locator]) (run src reg (.load locator)).1
        (evs ++ commandEvents src reg (.load locator))

namespace LoadsAll

variable {start reg : Registry} {locators : List String} {evs : List Event}

theorem successfulSession (h : LoadsAll src start locators reg evs) : SuccessfulSession src start reg evs := by
  induction h with
  | nil => exact .nil
  | step _ locator hok ih => exact .step ih (.load locator) hok

theorem config (h : LoadsAll src start locators reg evs) : reg.config = start.config := by
  induction h with
  | nil => rfl
  | step _ locator _ ih => exact (run_grows src _ (.load locator)).config.trans ih

theorem readsWhole (h : LoadsAll src start locators reg evs) (hJ : RecordsPresent start) :
    ReadsWhole src start.config.allowDtd start reg evs := by
  induction h with
  | nil => exact .refl start
  | @step locators reg evs h locator reply hok ih =>
    refine ih.trans ?_
    simp only [run,commandEvents] at hok ⊢
    revert hok
    cases locate locator with
    | error e => intro hok; cases hok
    | ok loc =>
      intro hok
      dsimp only at hok ⊢
      obtain ⟨ns,hns⟩ := summaryAfter_ok hok
      rw [← loadT_fst] at hns
      rw [summaryAfter_fst,← loadT_fst]
      exact loadAtT_readsWhole src _ reg loc ns (by rw [h.config]) (ih.present hJ) hns

end LoadsAll

theorem recordsPresent_new (config : Config) : RecordsPresent (Registry.new config) :=
  fun _ _ h => by cases h

end SchemaTypes.Registry
