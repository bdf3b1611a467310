import Mathlib.Data.List.Forall2
import SchemaTypes.Proofs.LoadEvents
import SchemaTypes.Proofs.ReaderMaps
set_option autoImplicit false

/-!
Loading a document that imports and includes nothing. Its directives lead nowhere, so a load of it
records its location, binds its prefixes and registers, in order, what each top-level declaration
reads as with the resolver of its schema (`run_load_of_selfContained`). The registry that a session
reaches by loading such a document is then given by the declarations it reads, and what rendering
that registry gives can be computed.
-/

namespace SchemaTypes.Registry

open SchemaTypes.Component SchemaTypes.Location SchemaTypes.Xml

/-- The registry with declarations registered into the schema of a namespace, in order. -/
def registerAll (reg : Registry) (ns : String) (ds : List Declaration) : Registry :=
  ds.foldl (fun r d => r.modifySchema ns (·.register d)) reg

/-- No child of the root is an `import` or an `include`. -/
def SelfContained (root : Node) : Prop :=
  ∀ d ∈ root.elementChildren, d.localName? ≠ some "import" ∧ d.localName? ≠ some "include"

instance (root : Node) : Decidable (SelfContained root) :=
  inferInstanceAs (Decidable (∀ d ∈ root.elementChildren, _))

theorem mapM_eq_ok_iff {α β : Type} {f : α → Except SchemaError β} :
    ∀ {xs : List α} {ys : List β}, xs.mapM f = .ok ys ↔ List.Forall₂ (fun x y => f x = .ok y) xs ys
  | [], [] => ⟨fun _ => .nil,fun _ => rfl⟩
  | [], _ :: _ => ⟨fun h => (by cases h),fun h => (by cases h)⟩
  | x :: xs, ys => by
    rw [List.mapM_cons]
    constructor
    · intro h
      obtain ⟨y,hy,h⟩ := bind_eq_ok h
      obtain ⟨rest,hrest,h⟩ := bind_eq_ok h
      cases h
      exact .cons hy (mapM_eq_ok_iff.1 hrest)
    · intro h
      cases h with
      | cons hy hrest => rw [hy,mapM_eq_ok_iff.2 hrest]; rfl

theorem registerAll_append (reg : Registry) (ns : String) (ds ds' : List Declaration) :
    reg.registerAll ns (ds ++ ds') = (reg.registerAll ns ds).registerAll ns ds' :=
  List.foldl_append

theorem followDirectives_of_no_directive (load : Registry → Location → Step String) (loc : Location) :
    ∀ (reg : Registry) (nodes : List Node),
      (∀ d ∈ nodes, d.localName? ≠ some "import" ∧ d.localName? ≠ some "include") →
      followDirectives load loc reg nodes = (reg,.ok ())
  | reg, [], _ => rfl
  | reg, d :: rest, h => by
    have hd : directiveTarget reg loc d = .ok none := by
      simp [directiveTarget,(h d List.mem_cons_self).1,(h d List.mem_cons_self).2]
    rw [followDirectives,hd]
    exact followDirectives_of_no_directive load loc reg rest fun d' hd' => h d' (List.mem_cons_of_mem d hd')

theorem registerEach_of_mapM (ns : String) (res : Resolver)
    (read : Resolver → Node → Except SchemaError Declaration) (reg : Registry) {nodes : List Node}
    {ds : List Declaration} (h : nodes.mapM (read res) = .ok ds) :
    registerEach ns res read reg nodes = (reg.registerAll ns ds,.ok ()) := by
  have hF := mapM_eq_ok_iff.1 h
  clear h
  induction hF generalizing reg with
  | nil => rfl
  | cons hd _ ih =>
    rw [registerEach,hd]
    exact ih _

theorem foldl_registerStepT_of_mapM (root : Node) (ns : String) (res : Resolver) :
    ∀ (L : List ((Resolver → Node → Except SchemaError Declaration) × String)) (reg : Registry)
      (evs : List Event) (ds : List Declaration),
      (L.flatMap fun x => (root.childrenNamed x.2).map (x.1,·)).mapM (fun x => x.1 res x.2) = .ok ds →
      (L.foldl (registerStepT root ns res) ((reg,.ok ()),evs)).1 = (reg.registerAll ns ds,.ok ())
  | [], reg, evs, ds, h => by
    cases h
    rfl
  | (read,tag) :: L, reg, evs, ds, h => by
    rw [List.flatMap_cons,List.mapM_append,List.mapM_map,Function.comp_def] at h
    obtain ⟨ds₁,h₁,h⟩ := bind_eq_ok h
    obtain ⟨ds₂,h₂,h⟩ := bind_eq_ok h
    cases h
    have hE := registerEach_of_mapM ns res read reg h₁
    rw [← registerEachT_fst root] at hE
    rw [List.foldl_cons,registerStepT,registerAll_append]
    generalize registerEachT root ns res read reg (root.childrenNamed tag) = T at hE ⊢
    obtain ⟨⟨reg',outcome⟩,evs'⟩ := T
    obtain ⟨rfl,rfl⟩ := Prod.mk.inj hE
    exact foldl_registerStepT_of_mapM root ns res L _ _ ds₂ h₂

theorem registerDeclarations_of_mapM {reg : Registry} {ns : String} {res : Resolver} {root : Node}
    {ds : List Declaration} (h : (declarationNodes root).mapM (fun x => x.1 res x.2) = .ok ds) :
    registerDeclarations reg ns res root = (reg.registerAll ns ds,.ok ()) := by
  rw [← registerDeclarationsT_fst]
  exact foldl_registerStepT_of_mapM root ns res declarationReaders reg [] ds h

theorem exists_session_of_run_eq {src : Source} {start reg : Registry} (cmd : Command)
    (h : (run src start cmd).1 = reg) : ∃ evs, Session src start reg evs := by
  subst h
  exact ⟨_,.step .nil cmd⟩

section SelfContained

variable {root : Node} {ds : List Declaration} {reg : Registry} {loc : Location}

/-- The registry a document registers into: its location recorded and its prefixes bound. -/
def prepared (reg : Registry) (root : Node) (loc : Location) : Registry :=
  (entered reg root loc).bindPrefixes (documentNamespace root) root

theorem ingestWith_of_selfContained (load : Registry → Location → Step String)
    (hschema : root.localName? = some "schema") (hplain : SelfContained root)
    (hds : (declarationNodes root).mapM
      (fun x => x.1 ((prepared reg root loc).entry (documentNamespace root)).resolver x.2) = .ok ds) :
    ingestWith load reg root loc =
      ((prepared reg root loc).registerAll (documentNamespace root) ds,.ok (documentNamespace root)) := by
  have hfollow := followDirectives_of_no_directive load loc (entered reg root loc) root.elementChildren hplain
  simp only [prepared,documentNamespace] at hds ⊢
  simp only [ingestWith,hschema,bne_self_eq_false,Bool.false_eq_true,if_false]
  rw [show (reg.recordLoaded loc.key ((root.attribute? "targetNamespace").getD "")).ensureSchema
      ((root.attribute? "targetNamespace").getD "") = entered reg root loc from rfl,hfollow]
  simp only [registerDeclarations_of_mapM hds]

theorem run_load_of_selfContained {src : Source} {locator text : String} (hloc : locate locator = .ok loc)
    (hfresh : reg.loadedNamespace? loc.key = none) (hfetch : src.fetch? loc = some text)
    (hdoc : Document.read reg.config.allowDtd text = .ok ⟨root⟩) (hschema : root.localName? = some "schema")
    (hplain : SelfContained root)
    (hds : (declarationNodes root).mapM
      (fun x => x.1 ((prepared reg root loc).entry (documentNamespace root)).resolver x.2) = .ok ds) :
    (run src reg (.load locator)).1 =
      ((prepared reg root loc).registerAll (documentNamespace root) ds).ensureSchema (documentNamespace root) := by
  simp only [run,hloc,summaryAfter_fst,load]
  unfold loadAt
  simp only [hfresh,hfetch,hdoc,ingestWith_of_selfContained _ hschema hplain hds]

end SelfContained

end SchemaTypes.Registry
