import SchemaTypes.Proofs.LoadEvents
import SchemaTypes.Proofs.TableLaws
set_option autoImplicit false

/-!
How a registry changes. Reading only adds: a location once recorded stays recorded, the
namespaces keep their order with new ones after them, and each table of each schema keeps its
names in their places with new names after them (`Grows`). Every step of loading, successful or
not, grows the registry it is given (`grows_loadRelation`, `run_grows`).
-/

namespace SchemaTypes.Registry

open SchemaTypes.Component SchemaTypes.Location SchemaTypes.Xml

/-- A schema grows into another: the same target namespace, and each table keeps its names in
their places, before any new one. -/
structure Schema.Grows (s s' : Schema) : Prop where
  targetNamespace : s'.targetNamespace = s.targetNamespace
  elements : s.elements.keys <+: s'.elements.keys
  types : s.types.keys <+: s'.types.keys
  attributes : s.attributes.keys <+: s'.attributes.keys

theorem Schema.Grows.refl (s : Schema) : s.Grows s :=
  ⟨rfl,List.prefix_refl _,List.prefix_refl _,List.prefix_refl _⟩

theorem Schema.Grows.trans {s s' s'' : Schema} (h : s.Grows s') (h' : s'.Grows s'') : s.Grows s'' :=
  ⟨h'.1.trans h.1,h.2.trans h'.2,h.3.trans h'.3,h.4.trans h'.4⟩

theorem Schema.grows_register (s : Schema) (d : Declaration) : s.Grows (s.register d) := by
  rcases d with d | t | a
  · exact ⟨rfl,Table.keys_sublist_insert _ _ _,List.prefix_refl _,List.prefix_refl _⟩
  · exact ⟨rfl,List.prefix_refl _,Table.keys_sublist_insert _ _ _,List.prefix_refl _⟩
  · exact ⟨rfl,List.prefix_refl _,List.prefix_refl _,Table.keys_sublist_insert _ _ _⟩

@[simp] theorem Schema.bindAlias_targetNamespace (s : Schema) (b : String × String) :
    (s.bindAlias b).targetNamespace = s.targetNamespace := rfl

theorem Schema.bindAliases_tables (s : Schema) (bs : List Binding) :
    (s.bindAliases bs).targetNamespace = s.targetNamespace ∧ (s.bindAliases bs).elements = s.elements ∧
      (s.bindAliases bs).types = s.types ∧ (s.bindAliases bs).attributes = s.attributes := by
  unfold Schema.bindAliases
  apply List.foldlRecOn (motive := fun t : Schema => t.targetNamespace = s.targetNamespace ∧
    t.elements = s.elements ∧ t.types = s.types ∧ t.attributes = s.attributes)
  · exact ⟨rfl,rfl,rfl,rfl⟩
  · intro t ht b _
    split <;> simpa [Schema.bindAlias] using ht

theorem Schema.grows_bindAliases (s : Schema) (bs : List Binding) : s.Grows (s.bindAliases bs) := by
  obtain ⟨h₁,h₂,h₃,h₄⟩ := s.bindAliases_tables bs
  exact ⟨h₁,h₂ ▸ List.prefix_refl _,h₃ ▸ List.prefix_refl _,h₄ ▸ List.prefix_refl _⟩

/-- A registry grows into another: the same configuration, every recorded location stays
recorded, the namespaces keep their order with new ones after them, and every schema grows. -/
structure Grows (r r' : Registry) : Prop where
  config : r'.config = r.config
  loaded : ∀ k, (r.loadedNamespace? k).isSome → (r'.loadedNamespace? k).isSome
  namespaces : r.namespaces <+: r'.namespaces
  schemas : ∀ ns s, r.schema? ns = some s → ∃ s', r'.schema? ns = some s' ∧ s.Grows s'

theorem Grows.refl (r : Registry) : r.Grows r :=
  ⟨rfl,fun _ h => h,List.prefix_refl _,fun _ s h => ⟨s,h,Schema.Grows.refl s⟩⟩

theorem Grows.trans {r r' r'' : Registry} (h : r.Grows r') (h' : r'.Grows r'') : r.Grows r'' := by
  refine ⟨h'.config.trans h.config,fun k hk => h'.loaded k (h.loaded k hk),
    h.namespaces.trans h'.namespaces,fun ns s hs => ?_⟩
  obtain ⟨s',hs',g⟩ := h.schemas ns s hs
  obtain ⟨s'',hs'',g'⟩ := h'.schemas ns s' hs'
  exact ⟨s'',hs'',g.trans g'⟩

theorem Grows.unrecorded {r r' : Registry} (h : r.Grows r') {k : LocationKey}
    (hk : r'.loadedNamespace? k = none) : r.loadedNamespace? k = none := by
  cases hr : r.loadedNamespace? k with
  | none => rfl
  | some ns => simpa [hk] using h.loaded k (by simp [hr])

section Primitives

variable (r : Registry)

theorem lookup_filter_ne {α β : Type} [BEq α] [LawfulBEq α] [DecidableEq α] (l : List (α × β)) (k k' : α) :
    (l.filter (·.1 != k)).lookup k' = if k' = k then none else l.lookup k' := by
  induction l with
  | nil => simp
  | cons e l ih =>
    obtain ⟨a,b⟩ := e
    by_cases ha : a = k
    · subst ha
      rw [List.filter_cons_of_neg (by simp),ih]
      by_cases hk : k' = a
      · simp [hk]
      · simp [hk,List.lookup_cons,beq_false_of_ne hk]
    · rw [List.filter_cons_of_pos (by simpa using ha),List.lookup_cons,List.lookup_cons,ih]
      by_cases hk : k' = k
      · subst hk
        simp [beq_false_of_ne (Ne.symm ha)]
      · simp [hk]

theorem loadedNamespace?_recordLoaded (k k' : LocationKey) (ns : String) :
    (r.recordLoaded k ns).loadedNamespace? k' =
      if k' = k then some ns else r.loadedNamespace? k' := by
  simp only [recordLoaded,loadedNamespace?,List.lookup_append,lookup_filter_ne]
  by_cases hk : k' = k
  · simp [hk]
  · simp [hk,List.lookup_cons,beq_false_of_ne hk]

@[simp] theorem loaded_ensureSchema (ns : String) : (r.ensureSchema ns).loaded = r.loaded := by
  unfold ensureSchema
  split <;> rfl

@[simp] theorem loadedNamespace?_ensureSchema (ns : String) (k : LocationKey) :
    (r.ensureSchema ns).loadedNamespace? k = r.loadedNamespace? k := by
  simp [loadedNamespace?]

@[simp] theorem loadedNamespace?_modifySchema (ns : String) (f : Schema → Schema) (k : LocationKey) :
    (r.modifySchema ns f).loadedNamespace? k = r.loadedNamespace? k := rfl

@[simp] theorem config_ensureSchema (ns : String) : (r.ensureSchema ns).config = r.config := by
  unfold ensureSchema
  split <;> rfl

@[simp] theorem config_modifySchema (ns : String) (f : Schema → Schema) :
    (r.modifySchema ns f).config = r.config := rfl

@[simp] theorem config_recordLoaded (k : LocationKey) (ns : String) :
    (r.recordLoaded k ns).config = r.config := rfl

@[simp] theorem schema?_recordLoaded (k : LocationKey) (ns ns' : String) :
    (r.recordLoaded k ns).schema? ns' = r.schema? ns' := rfl

@[simp] theorem namespaces_recordLoaded (k : LocationKey) (ns : String) :
    (r.recordLoaded k ns).namespaces = r.namespaces := rfl

theorem namespaces_ensureSchema (ns : String) :
    (r.ensureSchema ns).namespaces =
      if ns ∈ r.namespaces then r.namespaces else r.namespaces ++ [ns] := by
  unfold ensureSchema namespaces
  split
  · rename_i hc
    rw [if_pos ((Table.contains_iff _ _).1 hc)]
  · exact Table.keys_insert _ _ _

@[simp] theorem namespaces_modifySchema (ns : String) (f : Schema → Schema) :
    (r.modifySchema ns f).namespaces = r.namespaces :=
  Table.keys_modify _ _ _

theorem grows_recordLoaded (k : LocationKey) (ns : String) : r.Grows (r.recordLoaded k ns) := by
  refine ⟨rfl,fun k' hk => ?_,List.prefix_refl _,fun ns' s hs => ⟨s,hs,Schema.Grows.refl s⟩⟩
  rw [loadedNamespace?_recordLoaded]
  split <;> simp_all

theorem grows_ensureSchema (ns : String) : r.Grows (r.ensureSchema ns) := by
  refine ⟨by simp,fun k hk => by simpa using hk,?_,fun ns' s hs => ⟨s,?_,Schema.Grows.refl s⟩⟩
  · rw [namespaces_ensureSchema]
    split
    · exact List.prefix_refl _
    · exact List.prefix_append _ _
  · rw [schema?_ensureSchema]
    split
    · rename_i hn
      subst hn
      simp [entry,hs]
    · exact hs

theorem grows_modifySchema (ns : String) {f : Schema → Schema} (hf : ∀ s : Schema, s.Grows (f s)) :
    r.Grows (r.modifySchema ns f) := by
  refine ⟨rfl,fun k hk => hk,by simp,fun ns' s hs => ?_⟩
  rw [schema?_modifySchema]
  split
  · rename_i hn
    subst hn
    exact ⟨f s,by simp [hs],hf s⟩
  · exact ⟨s,hs,Schema.Grows.refl s⟩

end Primitives

theorem grows_ingestRelation : IngestRelation fun r r' (_ : List Event) => r.Grows r' where
  refl := Grows.refl
  trans := Grows.trans
  ensureSchema := grows_ensureSchema
  enter r k ns _ := grows_recordLoaded r k ns
  bindAliases r ns root _ := grows_modifySchema r ns fun s => s.grows_bindAliases root.bindings
  register r ns _ _ d _ := grows_modifySchema r ns fun s => s.grows_register d

theorem grows_loadRelation : LoadRelation fun r r' (_ : List Event) => r.Grows r' :=
  grows_ingestRelation.loadRelation (fun r _ => Grows.refl r) (fun r _ _ => Grows.refl r) fun _ h => h

theorem loadAt_grows (src : Source) (n : Nat) (reg : Registry) (loc : Location) :
    reg.Grows (loadAt src n reg loc).1 := by
  rw [← loadAtT_fst]
  exact grows_loadRelation.holds_loadAtT src n reg loc

theorem run_grows (src : Source) (reg : Registry) (cmd : Command) : reg.Grows (run src reg cmd).1 :=
  grows_loadRelation.holds_session (.step .nil cmd)

end SchemaTypes.Registry
