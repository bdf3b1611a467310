import SchemaTypes.Registry.Session
import SchemaTypes.Proofs.TableLaws
set_option autoImplicit false

/-!
Loading with its events. The functions here run as those of `Registry.Load` do and also list what
loading does on the way: each document read from the source, each location handed to ingestion,
each document ingested, and each declaration registered with the resolver it was read with. A load
that runs out of nesting depth where it would read a document says so by an event of its own, so a
run without such an event is one that the depth did not cut short. Forgetting the events gives the
functions of `Registry.Load` back (`loadAtT_fst`, `ingestWithT_fst`). A relation between the
registries before and after a run and the run's events that holds of each change loading makes holds
of every load and every session (`LoadRelation.holds_session`): the properties of loading proved
later are such relations.
-/

namespace SchemaTypes.Registry

open SchemaTypes.Component SchemaTypes.Location SchemaTypes.Xml

/-- What loading does, in the order it does it. -/
inductive Event where
  | fetch (key : LocationKey)
  | exhausted (key : LocationKey)
  | handOff (key : LocationKey)
  | enter (key : LocationKey) (root : Node)
  | register (root : Node) (ns : String) (r : Resolver) (d : Declaration)

abbrev Traced (α : Type) := Step α × List Event

def Traced.after {α : Type} (evs : List Event) (t : Traced α) : Traced α := (t.1,evs ++ t.2)

@[simp] theorem Traced.after_fst {α : Type} (evs : List Event) (t : Traced α) :
    (Traced.after evs t).1 = t.1 := rfl

@[simp] theorem Traced.after_snd {α : Type} (evs : List Event) (t : Traced α) :
    (Traced.after evs t).2 = evs ++ t.2 := rfl

def Traced.settle : Traced String → Traced String
  | ((reg,.ok ns),evs) => ((reg.ensureSchema ns,.ok ns),evs)
  | ((reg,.error e),evs) => ((reg,.error e),evs)

@[simp] theorem Traced.settle_snd (t : Traced String) : t.settle.2 = t.2 := by
  obtain ⟨⟨reg,outcome⟩,evs⟩ := t
  cases outcome <;> rfl

/-- `followDirectives` with the events of the loads it makes. -/
def followDirectivesT (load : Registry → Location → Traced String) (loc : Location) :
    Registry → List Node → Traced Unit
  | reg, [] => ((reg,.ok ()),[])
  | reg, d :: rest =>
    match directiveTarget reg loc d with
    | .error e => ((reg,.error e),[])
    | .ok none => followDirectivesT load loc reg rest
    | .ok (some target) =>
      match load reg target with
      | ((reg,.ok _),evs) => Traced.after evs (followDirectivesT load loc reg rest)
      | ((reg,.error e),evs) => ((reg,.error e),evs)

def registerEachT (root : Node) (ns : String) (res : Resolver)
    (read : Resolver → Node → Except SchemaError Declaration) :
    Registry → List Node → Traced Unit
  | reg, [] => ((reg,.ok ()),[])
  | reg, n :: rest =>
    match read res n with
    | .ok d =>
      Traced.after [.register root ns res d]
        (registerEachT root ns res read (reg.modifySchema ns (·.register d)) rest)
    | .error e => ((reg,.error e),[])

def registerStepT (root : Node) (ns : String) (res : Resolver) :
    Traced Unit → (Resolver → Node → Except SchemaError Declaration) × String → Traced Unit
  | ((reg,.ok ()),evs), (read,tag) => Traced.after evs (registerEachT root ns res read reg (root.childrenNamed tag))
  | ((reg,.error e),evs), _ => ((reg,.error e),evs)

def registerDeclarationsT (reg : Registry) (ns : String) (res : Resolver) (root : Node) : Traced Unit :=
  declarationReaders.foldl (registerStepT root ns res) ((reg,.ok ()),[])

/-- The top-level declarations of a document with the reader of each, in the order they register:
elements, then simple types, then complex types, then attributes, each in document order. -/
def declarationNodes (root : Node) : List ((Resolver → Node → Except SchemaError Declaration) × Node) :=
  declarationReaders.flatMap fun x => (root.childrenNamed x.2).map (x.1,·)

/-- `ingestWith` with its events: the document entered, then the events of the loads its
directives make, then its registrations. -/
def ingestWithT (load : Registry → Location → Traced String) (reg : Registry) (root : Node)
    (loc : Location) : Traced String :=
  Traced.after [.enter loc.key root] <|
    let ns := (root.attribute? "targetNamespace").getD ""
    let reg := reg.recordLoaded loc.key ns
    if root.localName? != some "schema" then
      ((reg,.error (.notASchema loc.display (root.localName?.getD ""))),[])
    else
      let reg := reg.ensureSchema ns
      match followDirectivesT load loc reg root.elementChildren with
      | ((reg,.error e),evs) => ((reg,.error e),evs)
      | ((reg,.ok ()),evs) =>
        let reg := reg.bindPrefixes ns root
        Traced.after evs <|
          match registerDeclarationsT reg ns (reg.entry ns).resolver root with
          | ((reg,.error e),evs) => ((reg,.error e),evs)
          | ((reg,.ok ()),evs) => ((reg,.ok ns),evs)

/-- `loadAt` with its events. Where `loadAt` has no nesting depth left for a document it would
read, the run says so by an `exhausted` event. -/
def loadAtT (src : Source) : Nat → Registry → Location → Traced String
  | fuel, reg, loc =>
    match reg.loadedNamespace? loc.key with
    | some ns => ((reg.ensureSchema ns,.ok ns),[])
    | none =>
      match fuel, src.fetch? loc with
      | fuel + 1, some text =>
        Traced.after [.fetch loc.key] <|
          match Document.read reg.config.allowDtd text with
          | .error _ => ((reg,.error (.parse loc.display)),[])
          | .ok doc =>
            Traced.after [.handOff loc.key] (ingestWithT (loadAtT src fuel) reg doc.root loc).settle
      | 0, some _ => ((reg,.error (.read loc.display)),[.exhausted loc.key])
      | _, none => ((reg,.error (.read loc.display)),[])

/-- `load` with its events. -/
def loadT (src : Source) (reg : Registry) (loc : Location) : Traced String :=
  loadAtT src (src.documents.length + 1) reg loc

def ingestT (src : Source) (reg : Registry) (root : Node) (loc : Location) : Traced String :=
  (ingestWithT (loadAtT src (src.documents.length + 1)) reg root loc).settle

theorem exists_eq_ok_of_toBool {ε α : Type} {e : Except ε α} (h : e.toBool = true) : ∃ a, e = .ok a := by
  cases e with
  | error _ => cases h
  | ok a => exact ⟨a,rfl⟩

theorem eq_ok_of_toOption {ε α : Type} {e : Except ε α} {a : α} (h : e.toOption = some a) : e = .ok a := by
  cases e with
  | error _ => cases h
  | ok b => cases h; rfl

section Schemas

variable (r : Registry)

theorem schema?_ensureSchema (ns ns' : String) :
    (r.ensureSchema ns).schema? ns' = if ns' = ns then some (r.entry ns) else r.schema? ns' := by
  unfold ensureSchema schema? entry schema?
  split
  · rename_i hc
    have hs : (r.schemas.get? ns).isSome := (Table.get?_isSome_iff _ _).2 ((Table.contains_iff _ _).1 hc)
    obtain ⟨s,hs⟩ := Option.isSome_iff_exists.1 hs
    by_cases hn : ns' = ns
    · subst hn
      simp [hs]
    · simp [hn]
  · rename_i hc
    by_cases hn : ns' = ns
    · subst hn
      have hs : r.schemas.get? ns' = none := by
        cases hs : r.schemas.get? ns' with
        | none => rfl
        | some s =>
          have := (Table.get?_isSome_iff r.schemas ns').1 (by simp [hs])
          exact absurd ((Table.contains_iff _ _).2 this) hc
      simp [hs]
    · simp [Table.get?_insert_of_ne _ _ hn,hn]

theorem schema?_modifySchema (ns ns' : String) (f : Schema → Schema) :
    (r.modifySchema ns f).schema? ns' = if ns' = ns then (r.schema? ns).map f else r.schema? ns' :=
  Table.get?_modify _ _ _ _

theorem schema?_bindPrefixes (ns : String) (root : Node) :
    (r.bindPrefixes ns root).schema? ns = some ((r.entry ns).bindAliases root.bindings) := by
  simp [bindPrefixes,schema?_modifySchema,schema?_ensureSchema]

theorem entry_bindPrefixes (ns : String) (root : Node) :
    (r.bindPrefixes ns root).entry ns = (r.entry ns).bindAliases root.bindings := by
  simp [entry,schema?_bindPrefixes]

@[simp] theorem Schema.resolver_register (s : Schema) (d : Declaration) :
    (s.register d).resolver = s.resolver := by
  cases d <;> rfl

theorem resolver_modifySchema_register (ns : String) (d : Declaration) :
    ((r.modifySchema ns (·.register d)).schema? ns).map Schema.resolver = (r.schema? ns).map Schema.resolver := by
  rw [schema?_modifySchema,if_pos rfl,Option.map_map]
  exact congrArg (Option.map · _) (funext fun s => Schema.resolver_register s d)

theorem resolver_registerEachT (root : Node) (ns : String) (res : Resolver)
    (read : Resolver → Node → Except SchemaError Declaration) (nodes : List Node) :
    ((registerEachT root ns res read r nodes).1.1.schema? ns).map Schema.resolver =
      (r.schema? ns).map Schema.resolver := by
  induction nodes generalizing r with
  | nil => rfl
  | cons n rest ih =>
    simp only [registerEachT]
    cases read res n with
    | error e => rfl
    | ok d => exact (ih _).trans (resolver_modifySchema_register r ns d)

end Schemas

section Agreement

variable (load : Registry → Location → Step String) (loadT : Registry → Location → Traced String)

theorem followDirectivesT_fst (h : ∀ reg loc, (loadT reg loc).1 = load reg loc) (loc : Location)
    (reg : Registry) (ds : List Node) :
    (followDirectivesT loadT loc reg ds).1 = followDirectives load loc reg ds := by
  induction ds generalizing reg with
  | nil => rfl
  | cons d rest ih =>
    simp only [followDirectivesT,followDirectives]
    cases directiveTarget reg loc d with
    | error e => rfl
    | ok target =>
      cases target with
      | none => exact ih reg
      | some target =>
        dsimp only
        rw [← h reg target]
        obtain ⟨⟨reg',outcome⟩,evs⟩ := loadT reg target
        cases outcome with
        | error e => rfl
        | ok ns => exact ih reg'

theorem registerEachT_fst (root : Node) (ns : String) (res : Resolver)
    (read : Resolver → Node → Except SchemaError Declaration) (reg : Registry) (nodes : List Node) :
    (registerEachT root ns res read reg nodes).1 = registerEach ns res read reg nodes := by
  induction nodes generalizing reg with
  | nil => rfl
  | cons n rest ih =>
    simp only [registerEachT,registerEach]
    cases read res n with
    | error e => rfl
    | ok d => exact ih _

theorem registerDeclarationsT_fst (reg : Registry) (ns : String) (res : Resolver) (root : Node) :
    (registerDeclarationsT reg ns res root).1 = registerDeclarations reg ns res root := by
  unfold registerDeclarationsT registerDeclarations
  refine (List.foldl_hom Prod.fst fun t rt => ?_).symm
  obtain ⟨⟨reg,outcome⟩,evs⟩ := t
  obtain ⟨read,tag⟩ := rt
  cases outcome with
  | error e => rfl
  | ok u => exact (registerEachT_fst root ns res read reg _).symm

theorem ingestWithT_fst (h : ∀ reg loc, (loadT reg loc).1 = load reg loc) (reg : Registry)
    (root : Node) (loc : Location) :
    (ingestWithT loadT reg root loc).1 = ingestWith load reg root loc := by
  simp only [ingestWithT,ingestWith,Traced.after_fst]
  split
  · rfl
  · rw [← followDirectivesT_fst load loadT h]
    obtain ⟨⟨reg',outcome⟩,evs⟩ := followDirectivesT loadT loc _ root.elementChildren
    cases outcome with
    | error e => rfl
    | ok u =>
      simp only [Traced.after_fst]
      rw [← registerDeclarationsT_fst]
      obtain ⟨⟨reg'',outcome'⟩,evs'⟩ := registerDeclarationsT _ _ _ root
      cases outcome' <;> rfl

end Agreement

section Unfolding

variable {src : Source} {n : Nat} {reg : Registry} {loc : Location}

theorem loadAtT_of_recorded {ns : String} (h : reg.loadedNamespace? loc.key = some ns) :
    loadAtT src n reg loc = ((reg.ensureSchema ns,.ok ns),[]) := by
  rw [loadAtT.eq_def]
  simp only [h]

theorem loadAtT_of_missing (h : reg.loadedNamespace? loc.key = none) (hf : src.fetch? loc = none) :
    loadAtT src n reg loc = ((reg,.error (.read loc.display)),[]) := by
  rw [loadAtT.eq_def]
  cases n <;> simp only [h,hf]

theorem loadAtT_zero {text : String} (h : reg.loadedNamespace? loc.key = none)
    (hf : src.fetch? loc = some text) :
    loadAtT src 0 reg loc = ((reg,.error (.read loc.display)),[.exhausted loc.key]) := by
  rw [loadAtT.eq_def]
  simp only [h,hf]

theorem loadAtT_succ {text : String} (h : reg.loadedNamespace? loc.key = none)
    (hf : src.fetch? loc = some text) :
    loadAtT src (n + 1) reg loc =
      Traced.after [.fetch loc.key]
        (match Document.read reg.config.allowDtd text with
        | .error _ => ((reg,.error (.parse loc.display)),[])
        | .ok doc =>
          Traced.after [.handOff loc.key] (ingestWithT (loadAtT src n) reg doc.root loc).settle) := by
  rw [loadAtT.eq_def]
  simp only [h,hf]

end Unfolding

theorem loadAtT_fst (src : Source) (n : Nat) (reg : Registry) (loc : Location) :
    (loadAtT src n reg loc).1 = loadAt src n reg loc := by
  induction n generalizing reg loc with
  | zero =>
    rw [loadAt.eq_def]
    cases h : reg.loadedNamespace? loc.key with
    | some ns => simp [loadAtT_of_recorded h,h]
    | none =>
      cases hf : src.fetch? loc with
      | none => simp [loadAtT_of_missing h hf,h]
      | some text => simp [loadAtT_zero h hf,h]
  | succ n ih =>
    rw [loadAt.eq_def]
    cases h : reg.loadedNamespace? loc.key with
    | some ns => simp [loadAtT_of_recorded h,h]
    | none =>
      cases hf : src.fetch? loc with
      | none => simp [loadAtT_of_missing h hf,h,hf]
      | some text =>
        simp only [loadAtT_succ h hf,h,hf,Traced.after_fst]
        cases Document.read reg.config.allowDtd text with
        | error e => rfl
        | ok doc =>
          simp only [Traced.after_fst]
          rw [← ingestWithT_fst (loadAt src n) (loadAtT src n) ih]
          obtain ⟨⟨reg',outcome⟩,evs⟩ := ingestWithT (loadAtT src n) reg doc.root loc
          cases outcome <;> rfl

theorem loadT_fst (src : Source) (reg : Registry) (loc : Location) :
    (loadT src reg loc).1 = load src reg loc :=
  loadAtT_fst src _ reg loc

theorem ingestT_fst (src : Source) (reg : Registry) (root : Node) (loc : Location) :
    (ingestT src reg root loc).1 = ingest src reg root loc := by
  unfold ingestT ingest
  rw [← ingestWithT_fst _ _ (loadAtT_fst src _)]
  obtain ⟨⟨reg',outcome⟩,evs⟩ := ingestWithT (loadAtT src (src.documents.length + 1)) reg root loc
  cases outcome <;> rfl

/-- The events of a command: those of the load or the ingestion it makes; the other commands make
none. -/
def commandEvents (src : Source) (reg : Registry) : Command → List Event
  | .load locator =>
    match locate locator with
    | .ok loc => (loadT src reg loc).2
    | .error _ => []
  | .ingest locator text =>
    match locate locator with
    | .error _ => []
    | .ok loc =>
      match Document.read false text with
      | .error _ => []
      | .ok doc => (ingestT src reg doc.root loc).2
  | _ => []

/-- Commands run one after another from a registry, each on the registry the ones before it left,
also when they fail: the registry at the end and the events of them all, in order. -/
inductive Session (src : Source) (start : Registry) : Registry → List Event → Prop
  | nil : Session src start start []
  | step {reg : Registry} {evs : List Event} (h : Session src start reg evs) (cmd : Command) :
      Session src start (run src reg cmd).1 (evs ++ commandEvents src reg cmd)

@[simp] theorem summaryAfter_fst (st : Step String) : (summaryAfter st).1 = st.1 := by
  obtain ⟨reg,outcome⟩ := st
  cases outcome with
  | error e => rfl
  | ok ns =>
    simp only [summaryAfter]
    split <;> rfl

section Structure

variable {load load' : Registry → Location → Traced String}

theorem followDirectivesT_congr (P : Registry → Prop) (heq : ∀ r l, P r → load r l = load' r l)
    (hP : ∀ r l, P r → P (load r l).1.1) (loc : Location) (reg : Registry) (ds : List Node)
    (h : P reg) : followDirectivesT load loc reg ds = followDirectivesT load' loc reg ds := by
  induction ds generalizing reg with
  | nil => rfl
  | cons d rest ih =>
    simp only [followDirectivesT]
    cases directiveTarget reg loc d with
    | error e => rfl
    | ok target =>
      cases target with
      | none => exact ih reg h
      | some target =>
        dsimp only
        rw [← heq reg target h]
        have hp := hP reg target h
        revert hp
        obtain ⟨⟨reg',outcome⟩,evs⟩ := load reg target
        intro hp
        cases outcome with
        | error e => rfl
        | ok ns => simp only [ih reg' hp]

theorem mem_followDirectivesT (P : Registry → Prop) (hP : ∀ r l, P r → P (load r l).1.1)
    (loc : Location) (reg : Registry) (ds : List Node) (h : P reg) {ev : Event}
    (hev : ev ∈ (followDirectivesT load loc reg ds).2) : ∃ r l, P r ∧ ev ∈ (load r l).2 := by
  induction ds generalizing reg with
  | nil => simp [followDirectivesT] at hev
  | cons d rest ih =>
    simp only [followDirectivesT] at hev
    revert hev
    cases directiveTarget reg loc d with
    | error e => simp
    | ok target =>
      cases target with
      | none => exact ih reg h
      | some target =>
        dsimp only
        have hp := hP reg target h
        have hmem : ∀ ev, ev ∈ (load reg target).2 → ∃ r l, P r ∧ ev ∈ (load r l).2 :=
          fun ev hev => ⟨reg,target,h,hev⟩
        revert hp hmem
        obtain ⟨⟨reg',outcome⟩,evs⟩ := load reg target
        intro hp hmem
        cases outcome with
        | error e => exact hmem ev
        | ok ns =>
          intro hev
          rcases List.mem_append.1 hev with hev | hev
          · exact hmem ev hev
          · exact ih reg' hp hev

theorem mem_registerEachT {root : Node} {ns : String} {res : Resolver}
    {read : Resolver → Node → Except SchemaError Declaration} {reg : Registry} {nodes : List Node}
    {ev : Event} (hev : ev ∈ (registerEachT root ns res read reg nodes).2) :
    ∃ d, ev = .register root ns res d ∧ ∃ n ∈ nodes, read res n = .ok d := by
  induction nodes generalizing reg with
  | nil => simp [registerEachT] at hev
  | cons n rest ih =>
    simp only [registerEachT] at hev
    revert hev
    cases hr : read res n with
    | error e => simp
    | ok d =>
      intro hev
      rcases List.mem_cons.1 hev with rfl | hev
      · exact ⟨d,rfl,n,List.mem_cons_self,hr⟩
      · obtain ⟨d',rfl,n',hn',hr'⟩ := ih hev
        exact ⟨d',rfl,n',List.mem_cons_of_mem n hn',hr'⟩

theorem mem_registerDeclarationsT {reg : Registry} {ns : String} {res : Resolver} {root : Node}
    {ev : Event} (hev : ev ∈ (registerDeclarationsT reg ns res root).2) :
    ∃ d, ev = .register root ns res d ∧ ∃ x ∈ declarationNodes root, x.1 res x.2 = .ok d := by
  unfold registerDeclarationsT at hev
  revert ev
  apply List.foldlRecOn (motive := fun t : Traced Unit =>
    ∀ ev ∈ t.2, ∃ d, ev = .register root ns res d ∧ ∃ x ∈ declarationNodes root, x.1 res x.2 = .ok d)
  · simp
  · rintro ⟨⟨reg',outcome⟩,evs⟩ ht ⟨read,tag⟩ hx
    cases outcome with
    | error e => exact ht
    | ok u =>
      intro ev hev
      rcases List.mem_append.1 hev with hev | hev
      · exact ht ev hev
      · obtain ⟨d,rfl,n,hn,hr⟩ := mem_registerEachT hev
        exact ⟨d,rfl,(read,n),List.mem_flatMap.2 ⟨(read,tag),hx,List.mem_map_of_mem hn⟩,hr⟩

/-- The target namespace of a schema document: its root's `targetNamespace`, the empty namespace
where it has none. -/
def documentNamespace (root : Node) : String := (root.attribute? "targetNamespace").getD ""

/-- The registry on which an ingestion follows the directives of its document. -/
def entered (reg : Registry) (root : Node) (loc : Location) : Registry :=
  let ns := (root.attribute? "targetNamespace").getD ""
  (reg.recordLoaded loc.key ns).ensureSchema ns

theorem ingestWithT_congr (P : Registry → Prop) (heq : ∀ r l, P r → load r l = load' r l)
    (hP : ∀ r l, P r → P (load r l).1.1) (reg : Registry) (root : Node) (loc : Location)
    (h : P (entered reg root loc)) : ingestWithT load reg root loc = ingestWithT load' reg root loc := by
  simp only [ingestWithT]
  split
  · rfl
  · unfold entered at h
    rw [followDirectivesT_congr P heq hP loc _ root.elementChildren h]

theorem ingestWithT_snd_cases (reg : Registry) (root : Node) (loc : Location) :
    (ingestWithT load reg root loc).2 = [.enter loc.key root] ∨
    ∃ R, (ingestWithT load reg root loc).2 = .enter loc.key root ::
        ((followDirectivesT load loc (entered reg root loc) root.elementChildren).2 ++ R) ∧
      (R = [] ∨ ∃ r, r = (followDirectivesT load loc (entered reg root loc) root.elementChildren).1.1.bindPrefixes
          (documentNamespace root) root ∧
        R = (registerDeclarationsT r (documentNamespace root) (r.entry (documentNamespace root)).resolver root).2) := by
  obtain ⟨ns,hns⟩ : ∃ ns, documentNamespace root = ns := ⟨_,rfl⟩
  rw [hns]
  unfold documentNamespace at hns
  simp only [ingestWithT,entered,hns,Traced.after_snd,List.singleton_append]
  split
  · exact .inl rfl
  · right
    split
    · rename_i hf
      exact ⟨[],by rw [hf]; simp,.inl rfl⟩
    · rename_i reg' evs hf
      refine ⟨(registerDeclarationsT (reg'.bindPrefixes ns root) ns ((reg'.bindPrefixes ns root).entry ns).resolver
        root).2,?_,.inr ⟨_,by rw [hf],rfl⟩⟩
      rw [hf]
      simp only [Traced.after_snd]
      split <;> rename_i hr <;> rw [hr]

theorem mem_ingestWithT {reg : Registry} {root : Node} {loc : Location} {ev : Event}
    (hev : ev ∈ (ingestWithT load reg root loc).2) :
    ev = .enter loc.key root ∨
      ev ∈ (followDirectivesT load loc (entered reg root loc) root.elementChildren).2 ∨
      ∃ r d, ev = .register root ((root.attribute? "targetNamespace").getD "") r d := by
  rcases ingestWithT_snd_cases reg root loc with h | ⟨R,h,hR⟩
  · rw [h] at hev
    exact .inl (List.mem_singleton.1 hev)
  · rw [h] at hev
    rcases List.mem_cons.1 hev with rfl | hev
    · exact .inl rfl
    · rcases List.mem_append.1 hev with hev | hev
      · exact .inr (.inl hev)
      · rcases hR with rfl | ⟨r,-,rfl⟩
        · cases hev
        · obtain ⟨d,rfl,-⟩ := mem_registerDeclarationsT hev
          exact .inr (.inr ⟨_,d,rfl⟩)

theorem ingestWithT_snd (reg : Registry) (root : Node) (loc : Location) :
    ∃ rest, (ingestWithT load reg root loc).2 = .enter loc.key root :: rest :=
  ⟨_,rfl⟩

end Structure

/-! ## Relations that loading keeps -/

def ReadRoot (root : Node) : Prop :=
  ∃ allowDtd text doc, Document.read allowDtd text = .ok doc ∧ doc.root = root

/-- A relation between the registries before and after a run and its events that holds of an empty
run, of one run after another, and of making sure a schema exists. -/
structure RunRelation (I : Registry → Registry → List Event → Prop) : Prop where
  refl : ∀ r, I r r []
  trans : ∀ {r₁ r₂ r₃ : Registry} {e₁ e₂ : List Event}, I r₁ r₂ e₁ → I r₂ r₃ e₂ → I r₁ r₃ (e₁ ++ e₂)
  ensureSchema : ∀ r ns, I r (r.ensureSchema ns) []

/-- A run relation that holds of each change an ingestion makes: entering a document, binding the
prefixes of a read document's root and registering a declaration. -/
structure IngestRelation (I : Registry → Registry → List Event → Prop) : Prop extends RunRelation I where
  enter : ∀ r k ns root, I r (r.recordLoaded k ns) [.enter k root]
  bindAliases : ∀ r ns root, ReadRoot root → I r (r.modifySchema ns (·.bindAliases root.bindings)) []
  register : ∀ r ns s root d, r.schema? ns = some s →
    I r (r.modifySchema ns (·.register d)) [.register root ns s.resolver d]

/-- A run relation that holds of each change loading makes, hence of every load and session. -/
structure LoadRelation (I : Registry → Registry → List Event → Prop) : Prop extends RunRelation I where
  exhausted : ∀ r k, I r r [.exhausted k]
  fetch : ∀ r k, r.loadedNamespace? k = none → I r r [.fetch k]
  handOff : ∀ {r r' k root evs}, r.loadedNamespace? k = none → I r r' (.enter k root :: evs) →
    I r r' (.handOff k :: .enter k root :: evs)
  ingest : ∀ {load : Registry → Location → Traced String}, (∀ r l, I r (load r l).1.1 (load r l).2) →
    ∀ r root loc, ReadRoot root → I r (ingestWithT load r root loc).1.1 (ingestWithT load r root loc).2

section Relations

variable {I : Registry → Registry → List Event → Prop}

theorem RunRelation.holds_followDirectivesT (hI : RunRelation I) {load : Registry → Location → Traced String}
    (hload : ∀ r l, I r (load r l).1.1 (load r l).2) (loc : Location) (reg : Registry) (ds : List Node) :
    I reg (followDirectivesT load loc reg ds).1.1 (followDirectivesT load loc reg ds).2 := by
  induction ds generalizing reg with
  | nil => exact hI.refl reg
  | cons d rest ih =>
    simp only [followDirectivesT]
    cases directiveTarget reg loc d with
    | error e => exact hI.refl reg
    | ok target =>
      cases target with
      | none => exact ih reg
      | some target =>
        dsimp only
        have hl := hload reg target
        revert hl
        obtain ⟨⟨reg',outcome⟩,evs⟩ := load reg target
        intro hl
        cases outcome with
        | error e => exact hl
        | ok ns => exact hI.trans hl (ih reg')

theorem RunRelation.holds_settle (hI : RunRelation I) {reg : Registry} {t : Traced String}
    (h : I reg t.1.1 t.2) : I reg t.settle.1.1 t.settle.2 := by
  obtain ⟨⟨r,outcome⟩,evs⟩ := t
  cases outcome with
  | error e => exact h
  | ok ns => simpa [Traced.settle] using hI.trans h (hI.ensureSchema r ns)

namespace IngestRelation

variable (hI : IngestRelation I)
include hI

theorem holds_registerEachT (root : Node) (ns : String) (res : Resolver)
    (read : Resolver → Node → Except SchemaError Declaration) (reg : Registry) (nodes : List Node)
    (hres : (reg.schema? ns).map Schema.resolver = some res) :
    I reg (registerEachT root ns res read reg nodes).1.1 (registerEachT root ns res read reg nodes).2 := by
  induction nodes generalizing reg with
  | nil => exact hI.refl reg
  | cons n rest ih =>
    obtain ⟨s,hs,rfl⟩ := Option.map_eq_some_iff.1 hres
    simp only [registerEachT]
    cases read s.resolver n with
    | error e => exact hI.refl reg
    | ok d =>
      exact hI.trans (hI.register reg ns s root d hs)
        (ih _ ((resolver_modifySchema_register reg ns d).trans hres))

theorem holds_registerDeclarationsT (reg : Registry) (ns : String) (res : Resolver) (root : Node)
    (hres : (reg.schema? ns).map Schema.resolver = some res) :
    I reg (registerDeclarationsT reg ns res root).1.1 (registerDeclarationsT reg ns res root).2 := by
  unfold registerDeclarationsT
  apply (List.foldlRecOn (motive := fun t : Traced Unit =>
    I reg t.1.1 t.2 ∧ (t.1.1.schema? ns).map Schema.resolver = some res) _ _ _ _).1
  · exact ⟨hI.refl reg,hres⟩
  · rintro ⟨⟨reg',outcome⟩,evs⟩ ⟨ht,hres'⟩ ⟨read,tag⟩ -
    cases outcome with
    | error e => exact ⟨ht,hres'⟩
    | ok u =>
      exact ⟨hI.trans ht (hI.holds_registerEachT root ns res read reg' _ hres'),
        (resolver_registerEachT reg' root ns res read _).trans hres'⟩

theorem holds_ingestWithT {load : Registry → Location → Traced String}
    (hload : ∀ r l, I r (load r l).1.1 (load r l).2) (reg : Registry) {root : Node} (hroot : ReadRoot root)
    (loc : Location) :
    I reg (ingestWithT load reg root loc).1.1 (ingestWithT load reg root loc).2 := by
  obtain ⟨ns,hns⟩ : ∃ ns, (root.attribute? "targetNamespace").getD "" = ns := ⟨_,rfl⟩
  have henter := hI.enter reg loc.key ns root
  simp only [ingestWithT,hns,Traced.after_fst,Traced.after_snd]
  split
  · exact henter
  · have he : I reg ((reg.recordLoaded loc.key ns).ensureSchema ns) [.enter loc.key root] := by
      simpa using hI.trans henter (hI.ensureSchema _ ns)
    have hd := hI.holds_followDirectivesT hload loc ((reg.recordLoaded loc.key ns).ensureSchema ns)
      root.elementChildren
    split
    · rename_i hf
      rw [hf] at hd
      exact hI.trans he hd
    · rename_i reg' evs hf
      rw [hf] at hd
      have hb : I reg (reg'.bindPrefixes ns root) ([.enter loc.key root] ++ evs) := by
        simpa [bindPrefixes] using hI.trans (hI.trans (hI.trans he hd) (hI.ensureSchema reg' ns))
          (hI.bindAliases (reg'.ensureSchema ns) ns root hroot)
      have hres : ((reg'.bindPrefixes ns root).schema? ns).map Schema.resolver =
          some ((reg'.bindPrefixes ns root).entry ns).resolver := by
        rw [schema?_bindPrefixes,entry_bindPrefixes]
        rfl
      have hr := hI.trans hb (hI.holds_registerDeclarationsT _ ns _ root hres)
      simp only [List.append_assoc] at hr
      simp only [Traced.after_fst,Traced.after_snd]
      split <;> rename_i hr' <;> rw [hr'] at hr <;> exact hr

theorem loadRelation (exhausted : ∀ r k, I r r [.exhausted k])
    (fetch : ∀ r k, r.loadedNamespace? k = none → I r r [.fetch k])
    (handOff : ∀ {r r' k root evs}, r.loadedNamespace? k = none → I r r' (.enter k root :: evs) →
      I r r' (.handOff k :: .enter k root :: evs)) : LoadRelation I where
  toRunRelation := hI.toRunRelation
  exhausted := exhausted
  fetch := fetch
  handOff := handOff
  ingest := fun hload r _ loc hroot => hI.holds_ingestWithT hload r hroot loc

end IngestRelation

namespace LoadRelation

variable (hI : LoadRelation I)
include hI

theorem holds_loadAtT (src : Source) (n : Nat) (reg : Registry) (loc : Location) :
    I reg (loadAtT src n reg loc).1.1 (loadAtT src n reg loc).2 := by
  induction n generalizing reg loc with
  | zero =>
    cases hk : reg.loadedNamespace? loc.key with
    | some ns => rw [loadAtT_of_recorded hk]; exact hI.ensureSchema reg ns
    | none =>
      cases hf : src.fetch? loc with
      | none => rw [loadAtT_of_missing hk hf]; exact hI.refl reg
      | some text => rw [loadAtT_zero hk hf]; exact hI.exhausted reg loc.key
  | succ n ih =>
    cases hk : reg.loadedNamespace? loc.key with
    | some ns => rw [loadAtT_of_recorded hk]; exact hI.ensureSchema reg ns
    | none =>
      cases hf : src.fetch? loc with
      | none => rw [loadAtT_of_missing hk hf]; exact hI.refl reg
      | some text =>
        rw [loadAtT_succ hk hf]
        cases hd : Document.read reg.config.allowDtd text with
        | error e => exact hI.fetch reg loc.key hk
        | ok doc =>
          have hi := hI.holds_settle (hI.ingest ih reg doc.root loc ⟨_,_,_,hd,rfl⟩)
          obtain ⟨rest,hrest⟩ := @ingestWithT_snd (loadAtT src n) reg doc.root loc
          rw [Traced.settle_snd,hrest] at hi
          have := hI.trans (hI.fetch reg loc.key hk) (hI.handOff hk hi)
          simpa [Traced.settle_snd,hrest] using this

theorem holds_ingestT (src : Source) (reg : Registry) {root : Node} (hroot : ReadRoot root)
    (loc : Location) : I reg (ingestT src reg root loc).1.1 (ingestT src reg root loc).2 :=
  hI.holds_settle (hI.ingest (hI.holds_loadAtT src _) reg root loc hroot)

theorem holds_session {src : Source} {start reg : Registry} {evs : List Event}
    (h : Session src start reg evs) : I start reg evs := by
  induction h with
  | nil => exact hI.refl start
  | @step reg evs h cmd ih =>
    apply hI.trans ih
    cases cmd with
    | load locator =>
      simp only [run,commandEvents]
      cases locate locator with
      | error e => exact hI.refl reg
      | ok loc =>
        rw [summaryAfter_fst,← loadT_fst]
        exact hI.holds_loadAtT src _ reg loc
    | ingest locator text =>
      simp only [run,commandEvents]
      cases locate locator with
      | error e => exact hI.refl reg
      | ok loc =>
        dsimp only
        cases hd : Document.read false text with
        | error e => exact hI.refl reg
        | ok doc =>
          rw [summaryAfter_fst,← ingestT_fst]
          exact hI.holds_ingestT src reg ⟨_,_,_,hd,rfl⟩ loc
    | render =>
      simp only [run,commandEvents]
      split <;> exact hI.refl reg
    | renderSchema ns =>
      simp only [run,commandEvents]
      split
      · exact hI.refl reg
      · split <;> exact hI.refl reg
    | namespaces => exact hI.refl reg
    | schema ns => exact hI.refl reg
    | typeIdentifier ns name => exact hI.refl reg
    | toIdentifier name => exact hI.refl reg

end LoadRelation

end Relations

end SchemaTypes.Registry
