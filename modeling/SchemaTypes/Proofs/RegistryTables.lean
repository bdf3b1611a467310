import SchemaTypes.Proofs.RegistryGrowth
set_option autoImplicit false

/-!
What the tables of a registry hold. Each kind of declaration has its table in the schema of each
namespace (`Schema.table`). Loading changes these tables only by registering: at the end of every
run, failed or not, the table of a kind in a namespace is the one at the start with the run's
registrations of that kind into that namespace inserted in order (`Tabulates`), so a name keeps the
place of its first registration and holds its last. From the built-in schemas on, every schema is
held under its target namespace and every declaration under its name (`WellKeyed`).
-/

namespace SchemaTypes.Registry

open SchemaTypes.Component SchemaTypes.Location SchemaTypes.Xml

/-! ## Tables by kind -/

/-- The kinds of top-level declaration, one for each table of a schema. -/
inductive Kind where
  | element
  | type
  | attribute
  deriving DecidableEq

def Declaration.kind : Declaration → Kind
  | .element _ => .element
  | .type _ => .type
  | .attribute _ => .attribute

def Schema.table (s : Schema) : Kind → Table Declaration
  | .element => s.elements.map .element
  | .type => s.types.map .type
  | .attribute => s.attributes.map .attribute

namespace Schema

@[simp] theorem table_empty (ns : String) (κ : Kind) : (Schema.empty ns).table κ = {} := by
  cases κ <;> rfl

theorem table_register (s : Schema) (d : Declaration) (κ : Kind) :
    (s.register d).table κ = if d.kind = κ then (s.table κ).insert d.name d else s.table κ := by
  cases d <;> cases κ <;>
    simp [register,addElement,addType,addAttribute,table,Declaration.kind,Declaration.name,
      Table.map_insert]

@[simp] theorem table_bindAliases (s : Schema) (bs : List Binding) (κ : Kind) :
    (s.bindAliases bs).table κ = s.table κ := by
  obtain ⟨-,he,ht,ha⟩ := s.bindAliases_tables bs
  cases κ <;> simp [table,he,ht,ha]

@[simp] theorem targetNamespace_register (s : Schema) (d : Declaration) :
    (s.register d).targetNamespace = s.targetNamespace := by
  cases d <;> rfl

end Schema

/-- The declarations of a kind in the schema of a namespace; none where the namespace has no
schema. -/
def declarations (r : Registry) (ns : String) (κ : Kind) : Table Declaration :=
  ((r.schema? ns).getD (.empty ns)).table κ

theorem declarations_ensureSchema (r : Registry) (ns ns' : String) (κ : Kind) :
    (r.ensureSchema ns).declarations ns' κ = r.declarations ns' κ := by
  simp only [declarations,schema?_ensureSchema]
  split
  · rename_i h
    subst h
    rfl
  · rfl

@[simp] theorem declarations_recordLoaded (r : Registry) (k : LocationKey) (ns ns' : String) (κ : Kind) :
    (r.recordLoaded k ns).declarations ns' κ = r.declarations ns' κ := rfl

theorem declarations_modifySchema (r : Registry) (ns ns' : String) (f : Schema → Schema) (κ : Kind) :
    (r.modifySchema ns f).declarations ns' κ =
      if ns' = ns then (((r.schema? ns).map f).getD (.empty ns)).table κ else r.declarations ns' κ := by
  simp only [declarations,schema?_modifySchema]
  split
  · rename_i h
    subst h
    rfl
  · rfl

/-! ## Registrations -/

def Event.registration? (ns : String) : Event → Option Declaration
  | .fetch _ => none
  | .exhausted _ => none
  | .handOff _ => none
  | .enter _ _ => none
  | .register _ ns' _ d => if ns' = ns then some d else none

/-- The declarations of a kind that a run registers into the schema of a namespace, in the order
it registers them. -/
def registered (κ : Kind) (ns : String) (evs : List Event) : List Declaration :=
  (evs.filterMap (Event.registration? ns)).filter (·.kind = κ)

section Registered

variable (κ : Kind) (ns : String)

@[simp] theorem registered_nil : registered κ ns [] = [] := rfl

@[simp] theorem registered_cons (ev : Event) (evs : List Event) :
    registered κ ns (ev :: evs) = ((ev.registration? ns).toList.filter (·.kind = κ)) ++ registered κ ns evs := by
  cases h : ev.registration? ns with
  | none => simp [registered,h]
  | some d => by_cases hk : d.kind = κ <;> simp [registered,h,hk]

@[simp] theorem registered_append (evs evs' : List Event) :
    registered κ ns (evs ++ evs') = registered κ ns evs ++ registered κ ns evs' := by
  simp [registered,List.filterMap_append,List.filter_append]

end Registered

theorem lookup_map_name (ds : List Declaration) (n : String) :
    (ds.map fun d => (d.name,d)).lookup n = ds.find? (·.name == n) := by
  induction ds with
  | nil => rfl
  | cons d ds ih =>
    by_cases h : d.name = n
    · simp [h]
    · have h' : (n == d.name) = false := by simpa using Ne.symm h
      simp [List.lookup_cons,h,h',ih]

/-! ## The tables at the end of a run -/

def Tabulates (r r' : Registry) (evs : List Event) : Prop :=
  ∀ ns κ, r'.declarations ns κ = (r.declarations ns κ).insertAll ((registered κ ns evs).map fun d => (d.name,d))

namespace Tabulates

variable {r r' : Registry} {evs : List Event}

theorem of_unchanged (h : ∀ ns κ, r'.declarations ns κ = r.declarations ns κ)
    (hq : ∀ ns κ, registered κ ns evs = []) : Tabulates r r' evs := by
  intro ns κ
  rw [h,hq]
  rfl

theorem keys (h : Tabulates r r' evs) (ns : String) (κ : Kind) :
    (r'.declarations ns κ).keys = (r.declarations ns κ).keys ++
      (((registered κ ns evs).map (·.name)).removeAll (r.declarations ns κ).keys).eraseDups := by
  rw [h ns κ,Table.keys_insertAll,List.map_map]
  rfl

theorem get? (h : Tabulates r r' evs) (ns : String) (κ : Kind) (n : String) :
    (r'.declarations ns κ).get? n =
      ((registered κ ns evs).reverse.find? (·.name == n)).or ((r.declarations ns κ).get? n) := by
  rw [h ns κ,Table.get?_insertAll,← List.map_reverse,lookup_map_name]

end Tabulates

theorem tabulates_ingestRelation : IngestRelation Tabulates where
  refl r := Tabulates.of_unchanged (fun _ _ => rfl) fun _ _ => rfl
  trans h₁ h₂ ns κ := by
    rw [h₂ ns κ,h₁ ns κ,registered_append,List.map_append,Table.insertAll_append]
  ensureSchema r ns := Tabulates.of_unchanged (declarations_ensureSchema r ns) fun _ _ => rfl
  enter r k ns root := Tabulates.of_unchanged (fun _ _ => rfl) fun _ _ => by simp [Event.registration?]
  bindAliases r ns _ _ := by
    refine Tabulates.of_unchanged (fun ns' κ => ?_) fun _ _ => rfl
    rw [declarations_modifySchema]
    split
    · rename_i h
      subst h
      cases hs : r.schema? ns' <;> simp [declarations,hs]
    · rfl
  register r ns s root d hs := by
    intro ns' κ
    rw [declarations_modifySchema]
    by_cases hn : ns' = ns
    · subst hn
      simp only [declarations,hs,Option.map_some,Option.getD_some,Schema.table_register]
      by_cases hk : d.kind = κ <;> simp [Event.registration?,hk]
    · simp [hn,Event.registration?,Ne.symm hn]

theorem tabulates_loadRelation : LoadRelation Tabulates :=
  tabulates_ingestRelation.loadRelation
    (fun _ _ => Tabulates.of_unchanged (fun _ _ => rfl) fun _ _ => by simp [Event.registration?])
    (fun _ _ _ => Tabulates.of_unchanged (fun _ _ => rfl) fun _ _ => by simp [Event.registration?])
    fun _ h ns κ => by simpa [Event.registration?] using h ns κ

/-! ## Keys -/

/-- Every declaration of a schema is held under its name. -/
def Schema.WellKeyed (s : Schema) : Prop :=
  ∀ κ, ∀ x ∈ (s.table κ).entries, x.2.name = x.1

/-- Every schema of a registry is held under its target namespace, and every declaration under its
name. -/
def WellKeyed (r : Registry) : Prop :=
  ∀ e ∈ r.schemas.entries, e.2.targetNamespace = e.1 ∧ e.2.WellKeyed

theorem Schema.wellKeyed_empty (ns : String) : (Schema.empty ns).WellKeyed := by
  intro κ x hx
  simp at hx

theorem Schema.WellKeyed.register {s : Schema} (h : s.WellKeyed) (d : Declaration) :
    (s.register d).WellKeyed := by
  intro κ x hx
  rw [table_register] at hx
  split at hx
  · rcases Table.mem_entries_insert hx with hx | rfl
    · exact h κ x hx
    · rfl
  · exact h κ x hx

theorem builtinSchema_wellKeyed (ns mark : String) (types : List (String × String)) :
    (builtinSchema ns mark types).WellKeyed ∧ (builtinSchema ns mark types).targetNamespace = ns := by
  unfold builtinSchema
  apply List.foldlRecOn (motive := fun s : Schema => s.WellKeyed ∧ s.targetNamespace = ns)
  · exact ⟨Schema.wellKeyed_empty ns,rfl⟩
  · rintro s ⟨hk,hn⟩ ⟨n,e⟩ -
    exact ⟨hk.register (.type (.builtin n e mark)),hn⟩

theorem mem_entries_new {config : Config} {e : String × Schema}
    (he : e ∈ (Registry.new config).schemas.entries) : ∃ s ∈ builtinSchemas, e = (s.targetNamespace,s) := by
  unfold Registry.new at he
  revert he
  apply List.foldlRecOn
    (motive := fun t : Table Schema => e ∈ t.entries → ∃ s ∈ builtinSchemas, e = (s.targetNamespace,s))
  · intro he
    cases he
  · intro t ht s hs he
    rcases Table.mem_entries_insert he with he | rfl
    · exact ht he
    · exact ⟨s,hs,rfl⟩

theorem wellKeyed_new (config : Config) : (Registry.new config).WellKeyed := by
  intro e he
  obtain ⟨s,hs,rfl⟩ := mem_entries_new he
  refine ⟨rfl,?_⟩
  simp only [builtinSchemas,List.mem_cons,List.not_mem_nil,or_false] at hs
  rcases hs with rfl | rfl <;> exact (builtinSchema_wellKeyed _ _ _).1

theorem namespaces_new (config : Config) : (Registry.new config).namespaces = [xsNamespace,dsNamespace] := by
  have hne : dsNamespace ≠ xsNamespace := by decide
  have hempty : ({} : Table Schema).keys = [] := rfl
  simp [Registry.new,namespaces,builtinSchemas,Table.keys_insert,(builtinSchema_wellKeyed _ _ _).2,hne,
    hempty]

namespace WellKeyed

variable {r : Registry} (h : r.WellKeyed)
include h

theorem ensureSchema (ns : String) : (r.ensureSchema ns).WellKeyed := by
  unfold Registry.ensureSchema
  split
  · exact h
  · intro e he
    rcases Table.mem_entries_insert he with he | rfl
    · exact h e he
    · exact ⟨rfl,Schema.wellKeyed_empty ns⟩

theorem modifySchema (ns : String) {f : Schema → Schema}
    (hf : ∀ s, (f s).targetNamespace = s.targetNamespace ∧ (s.WellKeyed → (f s).WellKeyed)) :
    (r.modifySchema ns f).WellKeyed := by
  intro e he
  rcases Table.mem_entries_modify he with he | ⟨v,hv,rfl⟩
  · exact h e he
  · obtain ⟨ht,hw⟩ := h _ hv
    exact ⟨(hf v).1.trans ht,(hf v).2 hw⟩

end WellKeyed

theorem wellKeyed_ingestRelation : IngestRelation fun r r' (_ : List Event) => r.WellKeyed → r'.WellKeyed where
  refl _ := id
  trans h₁ h₂ h := h₂ (h₁ h)
  ensureSchema _ ns h := h.ensureSchema ns
  enter _ _ _ _ h := h
  bindAliases _ ns root _ h := h.modifySchema ns fun s =>
    ⟨(s.bindAliases_tables root.bindings).1,fun hs κ x hx => hs κ x (by simpa using hx)⟩
  register _ ns _ _ d _ h := h.modifySchema ns fun s => ⟨s.targetNamespace_register d,fun hs => hs.register d⟩

theorem wellKeyed_loadRelation : LoadRelation fun r r' (_ : List Event) => r.WellKeyed → r'.WellKeyed :=
  wellKeyed_ingestRelation.loadRelation (fun _ _ => id) (fun _ _ _ => id) fun _ h => h

end SchemaTypes.Registry
