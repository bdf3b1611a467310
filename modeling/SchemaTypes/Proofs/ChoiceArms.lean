import Mathlib.Data.List.Perm.Basic
import SchemaTypes.Proofs.DeclarationReading
import SchemaTypes.Proofs.RegistryTables
import SchemaTypes.Proofs.SelfContainedLoads
set_option autoImplicit false

/-!
The union a complex type renders for its alternatives. With two or more alternatives, the arm of
alternative `i` is a record of the properties of its particles, in order, followed by one absent
property for each name of the other alternatives, taken in their order, that alternative `i` does
not have, each once (`variantMembers_of_two_le`, `absentNames_eq_eraseDups`). Every arm therefore
holds the names of all alternatives and marks absent exactly those that are not its own
(`mem_arm_names`). In a registry that loading builds, a particle renders as a property under its
field name, also when it refers to an element declared elsewhere (`Particle.renderField_key`), so
the names an arm marks absent are the keys the other arms render. A single alternative renders as
its record alone.
-/

namespace SchemaTypes

open SchemaTypes.Script

namespace Component

/-! ## The names an arm marks absent -/

theorem nodup_eraseDups {α : Type} [BEq α] [LawfulBEq α] : ∀ l : List α, l.eraseDups.Nodup
  | [] => List.nodup_nil
  | a :: as => by
    rw [List.eraseDups_cons]
    refine List.nodup_cons.2 ⟨?_,nodup_eraseDups _⟩
    simp
termination_by l => l.length
decreasing_by exact Nat.lt_succ_of_le (List.length_filter_le _ _)

theorem foldl_absentNames (others seen acc : List String) :
    others.foldl (fun (seen, acc) n => if seen.contains n then (seen, acc) else (seen ++ [n], acc ++ [n]))
        (seen, acc) =
      (seen ++ (others.removeAll seen).eraseDups, acc ++ (others.removeAll seen).eraseDups) := by
  induction others generalizing seen acc with
  | nil => simp
  | cons n rest ih =>
    rw [List.foldl_cons,List.cons_removeAll]
    by_cases hn : seen.contains n
    · simp only [hn,if_true,Bool.true_eq_false,if_false]
      exact ih seen acc
    · simp only [hn,Bool.false_eq_true,if_false,if_true]
      rw [ih,List.eraseDups_cons,Table.removeAll_append_singleton]
      simp

theorem absentNames_eq_eraseDups (own others : List String) :
    absentNames own others = (others.removeAll own).eraseDups := by
  unfold absentNames
  rw [foldl_absentNames]
  simp

theorem mem_absentNames {own others : List String} {n : String} :
    n ∈ absentNames own others ↔ n ∈ others ∧ n ∉ own := by
  simp [absentNames_eq_eraseDups,List.removeAll]

/-- The field names of each alternative, in order. -/
def fieldNames (vs : List (List Particle)) : List (List String) := vs.map (·.map Particle.fieldName)

/-- The names the arm of alternative `i` marks absent: the names of the other alternatives, in
their order, that alternative `i` does not have, each once. -/
def absentIn (names : List (List String)) (i : Nat) : List String :=
  ((names.eraseIdx i).flatten.removeAll (names.getD i [])).eraseDups

theorem nodup_absentIn (names : List (List String)) (i : Nat) : (absentIn names i).Nodup :=
  nodup_eraseDups _

theorem mem_absentIn {names : List (List String)} {i : Nat} (hi : i < names.length) {n : String} :
    n ∈ absentIn names i ↔ n ∈ (names.eraseIdx i).flatten ∧ n ∉ names[i] := by
  simp only [absentIn,List.mem_eraseDups,List.removeAll,List.mem_filter,List.getD_eq_getElem?_getD,
    List.getElem?_eq_getElem hi,Option.getD_some,Bool.not_eq_eq_eq_not,Bool.not_true,List.elem_eq_mem,
    decide_eq_false_iff_not]

theorem mem_flatten_iff_eraseIdx {names : List (List String)} {i : Nat} (hi : i < names.length)
    {n : String} : n ∈ names.flatten ↔ n ∈ names[i] ∨ n ∈ (names.eraseIdx i).flatten := by
  rw [← ((List.getElem_cons_eraseIdx_perm hi).flatten).mem_iff,List.flatten_cons,List.mem_append]

theorem mem_arm_names {names : List (List String)} {i : Nat} (hi : i < names.length) (n : String) :
    n ∈ names[i] ++ absentIn names i ↔ n ∈ names.flatten := by
  rw [List.mem_append,mem_absentIn hi,mem_flatten_iff_eraseIdx hi]
  by_cases hn : n ∈ names[i] <;> simp [hn]

/-! ## The members rendered for the alternatives -/

theorem map_zip_range {α β : Type} (g : Nat → α → β) (l : List α) :
    ((List.range l.length).zip l).map (fun p => g p.1 p.2) = l.mapIdx g := by
  apply List.ext_getElem
  · simp
  · intro j h₁ h₂
    simp

theorem variantMembers_of_two_le (depth : Nat) {vs : List (List Particle)} (hk : 2 ≤ vs.length)
    (fields : List String) :
    variantMembers depth vs fields =
      ["(" ++ " | ".intercalate (fields.mapIdx fun i f =>
        record (f ++ String.join ((absentIn (fieldNames vs) i).map (absentField (depth + 1)))) depth) ++
        ")"] := by
  obtain ⟨v₁,v₂,rest,rfl⟩ : ∃ v₁ v₂ rest, vs = v₁ :: v₂ :: rest := by
    match vs, hk with
    | v₁ :: v₂ :: rest, _ => exact ⟨v₁,v₂,rest,rfl⟩
  rw [← map_zip_range]
  simp only [variantMembers,absentNames_eq_eraseDups,othersOf,absentIn,fieldNames]

theorem ElementDecl.fieldWith_eq {env : RenderEnv} {refs : ReferenceField} {depth : Nat}
    {occurs : Occurs} {withDoc : Bool} {d : ElementDecl} {s : String}
    (h : d.fieldWith env refs depth occurs withDoc = .ok s) :
    ∃ t, ElementType.renderExpr env refs depth d.type = .ok t ∧
      s = (if withDoc then docFor d.annotations depth else "") ++
        field depth d.name (occurs.min == 0) (if occurs.max.isRepeatable then repeatable t else t) := by
  cases d with
  | mk name type o annotations =>
    simp only [ElementDecl.fieldWith] at h
    obtain ⟨t,ht,h⟩ := bind_eq_ok h
    cases h
    exact ⟨t,ht,rfl⟩

def Particle.occurs : Particle → Occurs
  | .element e => e.occurs
  | .ref _ o => o

/-- The declaration whose property a particle renders: its own, or the one its reference leads
to. -/
def Particle.declaration? (env : RenderEnv) : Particle → Option ElementDecl
  | .element e => some e
  | .ref q _ => env.element? q

theorem Particle.renderField_eq {env : RenderEnv} {m depth : Nat} {p : Particle} {s : String}
    (h : p.renderField env (referenceField env m) depth = .ok s) :
    ∃ d k t, p.declaration? env = some d ∧
      ElementType.renderExpr env (referenceField env k) depth d.type = .ok t ∧
      s = docFor d.annotations depth ++
        field depth d.name (p.occurs.min == 0) (if p.occurs.max.isRepeatable then repeatable t else t) := by
  cases p with
  | element e =>
    obtain ⟨t,ht,rfl⟩ := ElementDecl.fieldWith_eq h
    exact ⟨e,m,t,rfl,ht,rfl⟩
  | ref q o =>
    cases m with
    | zero =>
      simp only [Particle.renderField,referenceField] at h
      split at h <;> cases h
    | succ m =>
      simp only [Particle.renderField,referenceField] at h
      cases hd : env.element? q with
      | none => simp [hd] at h
      | some d =>
        rw [hd] at h
        obtain ⟨t,ht,rfl⟩ := ElementDecl.fieldWith_eq h
        exact ⟨d,m,t,hd,ht,rfl⟩

def RenderEnv.KeysElements (env : RenderEnv) : Prop :=
  ∀ q d, env.element? q = some d → d.name = q.localName

theorem Particle.renderField_key {env : RenderEnv} (hkeys : env.KeysElements) (m depth : Nat)
    {p : Particle} {s : String} (h : p.renderField env (referenceField env m) depth = .ok s) :
    ∃ pre opt t, s = pre ++ field depth p.fieldName opt t := by
  obtain ⟨d,-,-,hd,-,rfl⟩ := Particle.renderField_eq h
  have hname : d.name = p.fieldName := by
    cases p with
    | element e =>
      cases hd
      rfl
    | ref q o => exact hkeys q d hd
  exact ⟨_,_,_,by rw [hname]⟩

theorem renderParticles_eq_ok {env : RenderEnv} {refs : ReferenceField} {depth : Nat} :
    ∀ {ps : List Particle} {f : String}, renderParticles env refs depth ps = .ok f →
      ∃ props, List.Forall₂ (fun p s => p.renderField env refs depth = .ok s) ps props ∧
        f = String.join props
  | [], f, h => by
    simp only [renderParticles,Except.ok.injEq] at h
    exact ⟨[],.nil,by simp [h]⟩
  | p :: ps, f, h => by
    simp only [renderParticles] at h
    obtain ⟨s,hs,h⟩ := bind_eq_ok h
    obtain ⟨rest,hrest,h⟩ := bind_eq_ok h
    cases h
    obtain ⟨props,hF,rfl⟩ := renderParticles_eq_ok hrest
    exact ⟨s :: props,.cons hs hF,by simp⟩

theorem renderVariants_eq_ok {env : RenderEnv} {refs : ReferenceField} {depth : Nat} :
    ∀ {vs : List (List Particle)} {fields : List String}, renderVariants env refs depth vs = .ok fields →
      List.Forall₂ (fun v f => renderParticles env refs depth v = .ok f) vs fields
  | [], fields, h => by
    simp only [renderVariants,Except.ok.injEq] at h
    subst h
    exact .nil
  | v :: vs, fields, h => by
    simp only [renderVariants] at h
    obtain ⟨f,hf,h⟩ := bind_eq_ok h
    obtain ⟨rest,hrest,h⟩ := bind_eq_ok h
    cases h
    exact .cons hf (renderVariants_eq_ok hrest)

theorem ComplexType.renderExpr_eq_ok {env : RenderEnv} {refs : ReferenceField} {depth : Nat}
    {name : String} {base text : Option TypeRef} {attributes : List AttributeUse}
    {vs : List (List Particle)} {annotations : Option Annotations} {s : String}
    (h : ComplexType.renderExpr env refs depth (.mk name base text attributes vs annotations) = .ok s) :
    ∃ fields, renderVariants env refs (depth + 1) vs = .ok fields ∧ ∃ first rest,
      s = " & ".intercalate (first :: rest ++ variantMembers depth vs fields) ∨
        ∃ t, s = t ++ " | (" ++ " & ".intercalate (first :: rest ++ variantMembers depth vs fields) ++ ")" := by
  simp only [ComplexType.renderExpr] at h
  obtain ⟨attrs,-,h⟩ := bind_eq_ok h
  obtain ⟨fields,hf,h⟩ := bind_eq_ok h
  cases h
  refine ⟨fields,hf,?_⟩
  split
  · split
    · exact ⟨_,_,.inl rfl⟩
    · exact ⟨_,_,.inr ⟨_,rfl⟩⟩
  · exact ⟨_,_,.inl rfl⟩

end Component

namespace Registry

open SchemaTypes.Component

theorem WellKeyed.keysElements {r : Registry} (h : r.WellKeyed) : r.renderEnv.KeysElements := by
  intro q d hd
  simp only [renderEnv,element?,schema?,Option.bind_eq_some_iff] at hd
  obtain ⟨s,hs,hd⟩ := hd
  have hx : (q.localName,Declaration.element d) ∈ (s.table .element).entries := by
    simp only [Schema.table,Table.map,List.mem_map]
    exact ⟨_,Table.mem_entries_of_get? hd,rfl⟩
  exact (h _ (Table.mem_entries_of_get? hs)).2 .element _ hx

/-- In every loaded registry, each arm of a choice's union records its own properties and then marks
absent, once each, the names of the other alternatives that it lacks. -/
theorem choice_arms_mark_the_other_alternatives_absent {src : Source} {config : Config}
    {r : Registry} {evs : List Event} (hr : Session src (Registry.new config) r evs) (m depth : Nat)
    (name : String) (base text : Option TypeRef) (attributes : List AttributeUse)
    (vs : List (List Particle)) (annotations : Option Annotations) (s : String)
    (hs : ComplexType.renderExpr r.renderEnv (referenceField r.renderEnv m) depth
      (.mk name base text attributes vs annotations) = .ok s) :
    ∃ fields : List String,
      (∃ first rest, s = " & ".intercalate (first :: rest ++ variantMembers depth vs fields) ∨
        ∃ t, s = t ++ " | (" ++ " & ".intercalate (first :: rest ++ variantMembers depth vs fields) ++ ")") ∧
      List.Forall₂ (fun v f => ∃ props, List.Forall₂ (fun p s => ∃ pre opt t,
          s = pre ++ field (depth + 1) p.fieldName opt t) v props ∧ f = String.join props) vs fields ∧
      (2 ≤ vs.length → variantMembers depth vs fields =
        ["(" ++ " | ".intercalate (fields.mapIdx fun i f =>
          record (f ++ String.join ((absentIn (fieldNames vs) i).map (absentField (depth + 1)))) depth) ++
          ")"]) ∧
      (∀ i (hi : i < vs.length), (absentIn (fieldNames vs) i).Nodup ∧
        (∀ n, n ∈ absentIn (fieldNames vs) i ↔
          n ∈ ((fieldNames vs).eraseIdx i).flatten ∧ n ∉ vs[i].map Particle.fieldName) ∧
        ∀ n, n ∈ vs[i].map Particle.fieldName ++ absentIn (fieldNames vs) i ↔ n ∈ (fieldNames vs).flatten) ∧
      ∀ v, vs = [v] → ∃ f, fields = [f] ∧
        variantMembers depth vs fields = if f.isEmpty then [] else [record f depth] := by
  have hkeys := (wellKeyed_loadRelation.holds_session hr (wellKeyed_new config)).keysElements
  obtain ⟨fields,hf,hexpr⟩ := ComplexType.renderExpr_eq_ok hs
  have hF := renderVariants_eq_ok hf
  refine ⟨fields,hexpr,?_,fun hk => variantMembers_of_two_le depth hk fields,fun i hi => ?_,?_⟩
  · refine hF.imp fun v f hv => ?_
    obtain ⟨props,hprops,rfl⟩ := renderParticles_eq_ok hv
    exact ⟨props,hprops.imp fun p s hp => Particle.renderField_key hkeys m (depth + 1) hp,rfl⟩
  · have hi' : i < (fieldNames vs).length := by simpa [fieldNames] using hi
    have hnames : (fieldNames vs)[i] = vs[i].map Particle.fieldName := by simp [fieldNames]
    refine ⟨nodup_absentIn _ i,fun n => ?_,fun n => ?_⟩
    · rw [mem_absentIn hi',hnames]
    · rw [← hnames]
      exact mem_arm_names hi' n
  · rintro v rfl
    obtain ⟨f,rest,rfl⟩ : ∃ f rest, fields = f :: rest := by
      cases hF with
      | cons _ h => exact ⟨_,_,rfl⟩
    have hrest : rest = [] := by
      cases hF with
      | cons _ h => cases h; rfl
    subst hrest
    exact ⟨f,rfl,rfl⟩

/-- A schema with an element `B` and a complex type `AB` whose choice is an element `A` or a reference
to `B`, both of a type it does not declare. -/
def alternativesSource : Source :=
  ⟨[(.path [.root,.normal "ab.xsd"],
    "<schema><element name='B' type='x'/><complexType name='AB'><choice><element name='A' type='x'/>" ++
      "<element ref='B'/></choice></complexType></schema>")]⟩

def alternativesNodeB : Xml.Node := .element "element" none [⟨none,"name","B"⟩,⟨none,"type","x"⟩] [] []

def alternativesNodeAB : Xml.Node :=
  .element "complexType" none [⟨none,"name","AB"⟩] []
    [.element "choice" none [] []
      [.element "element" none [⟨none,"name","A"⟩,⟨none,"type","x"⟩] [] [],
       .element "element" none [⟨none,"ref","B"⟩] [] []]]

def alternativesRoot : Xml.Node := .element "schema" none [] [] [alternativesNodeB,alternativesNodeAB]

def elementB : ElementDecl := .mk "B" (.named ⟨some ⟨"","x"⟩,"x"⟩) ⟨0,.unbounded⟩ none

/-- The alternatives of `AB`: the element `A`, or a reference to `B`. -/
def alternativesAB : List (List Particle) :=
  [[.element (.mk "A" (.named ⟨some ⟨"","x"⟩,"x"⟩) ⟨0,.unbounded⟩ none)],[.ref ⟨"","B"⟩ ⟨0,.unbounded⟩]]

/-- The registry that loading `alternativesSource` leaves. -/
def alternativesRegistry : Registry :=
  ((prepared (Registry.new {}) alternativesRoot (.path ⟨"/ab.xsd"⟩)).registerAll ""
    [.element elementB,.type (.complex (.mk "AB" none none [] alternativesAB none))]).ensureSchema ""

/-- The expression of `AB`: each arm marks the other's property absent, the reference to `B` keyed
by the name of the element it leads to. -/
def alternativesABText : String :=
  "XmlElement & (\x7b\n  A?: Repeatable<unknown>;\n  B?: undefined;\n\x7d | \x7b\n  B?: Repeatable<unknown>;\n  " ++
    "A?: undefined;\n\x7d)"

theorem alternativesAB_mark_each_other_absent :
    (run alternativesSource (Registry.new {}) (.load "/ab.xsd")).1 = alternativesRegistry ∧
    (∃ evs, Session alternativesSource (Registry.new {}) alternativesRegistry evs) ∧
    ComplexType.renderExpr alternativesRegistry.renderEnv (referenceField alternativesRegistry.renderEnv 1) 0
      (.mk "AB" none none [] alternativesAB none) = .ok alternativesABText ∧
    ∃ fields : List String,
      (∃ first rest, alternativesABText = " & ".intercalate (first :: rest ++ variantMembers 0 alternativesAB fields) ∨
        ∃ t, alternativesABText =
          t ++ " | (" ++ " & ".intercalate (first :: rest ++ variantMembers 0 alternativesAB fields) ++ ")") ∧
      List.Forall₂ (fun v f => ∃ props, List.Forall₂ (fun p s => ∃ pre opt t,
          s = pre ++ field (0 + 1) p.fieldName opt t) v props ∧ f = String.join props) alternativesAB fields ∧
      (2 ≤ alternativesAB.length → variantMembers 0 alternativesAB fields =
        ["(" ++ " | ".intercalate (fields.mapIdx fun i f =>
          record (f ++ String.join ((absentIn (fieldNames alternativesAB) i).map (absentField (0 + 1)))) 0) ++
          ")"]) ∧
      (∀ i (hi : i < alternativesAB.length), (absentIn (fieldNames alternativesAB) i).Nodup ∧
        (∀ n, n ∈ absentIn (fieldNames alternativesAB) i ↔
          n ∈ ((fieldNames alternativesAB).eraseIdx i).flatten ∧ n ∉ alternativesAB[i].map Particle.fieldName) ∧
        ∀ n, n ∈ alternativesAB[i].map Particle.fieldName ++ absentIn (fieldNames alternativesAB) i ↔
          n ∈ (fieldNames alternativesAB).flatten) ∧
      ∀ v, alternativesAB = [v] → ∃ f, fields = [f] ∧
        variantMembers 0 alternativesAB fields = if f.isEmpty then [] else [record f 0] := by
  have hds : (declarationNodes alternativesRoot).mapM (fun x => x.1 ⟨"",[]⟩ x.2) =
      .ok [.element elementB,.type (.complex (.mk "AB" none none [] alternativesAB none))] := by
    rw [show declarationNodes alternativesRoot =
      [(readElement,alternativesNodeB),(readComplexType,alternativesNodeAB)] from rfl]
    simp (disch := decide) only [List.mapM_cons,List.mapM_nil,readElement,readComplexType,alternativesNodeAB,
      ComplexType.ofNode_of_no_content,ComplexType.ofChoice_eq,Xml.Node.elementChildren,Xml.Node.children,
      List.filter_cons,Xml.Node.isElement,if_true,List.filter_nil,contentMember,choiceMember,
      Xml.Node.localName?,Particle.ofNode,ElementDecl.ofNode]
    with_unfolding_all rfl
  have hrun : (run alternativesSource (Registry.new {}) (.load "/ab.xsd")).1 = alternativesRegistry := by
    refine run_load_of_selfContained (by with_unfolding_all rfl) rfl rfl (eq_ok_of_toOption (by decide +kernel)) rfl
      (by decide) ?_
    exact hds
  have hexpr : ComplexType.renderExpr alternativesRegistry.renderEnv (referenceField alternativesRegistry.renderEnv 1)
      0 (.mk "AB" none none [] alternativesAB none) = .ok alternativesABText :=
    eq_ok_of_toOption (by decide +kernel)
  obtain ⟨evs,hs⟩ := exists_session_of_run_eq _ hrun
  exact ⟨hrun,⟨evs,hs⟩,hexpr,choice_arms_mark_the_other_alternatives_absent hs 1 0 "AB" none none []
    alternativesAB none alternativesABText hexpr⟩

end Registry

end SchemaTypes
