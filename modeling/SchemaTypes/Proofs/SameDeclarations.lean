import Mathlib.Data.List.Perm.Basic
import SchemaTypes.Proofs.DeclarationIdentifiers
import SchemaTypes.Proofs.RenderTermination
set_option autoImplicit false

/-!
Registries that hold the same declarations under every name of every kind in every namespace
(`SameDeclarations`) differ at most in the order of their tables. As every table of a registry holds
each name once (`KeysNodup`, kept by every load), the two hold the same entries in some order, render
the same declarations in some order (`SameDeclarations.declared_perm`) and, with one configuration,
look every name up alike (`SameDeclarations.renderEnv_eq`). Rendering then succeeds on both or
neither, with the same declarations' texts in some order (`render_agree`).
-/

namespace SchemaTypes.Registry

open SchemaTypes.Component SchemaTypes.Script

/-! ## Every table holds each name once -/

def Schema.KeysNodup (s : Schema) : Prop :=
  ∀ κ, (s.table κ).keys.Nodup

def KeysNodup (r : Registry) : Prop :=
  r.namespaces.Nodup ∧ ∀ e ∈ r.schemas.entries, e.2.KeysNodup

namespace Schema

theorem keysNodup_empty (ns : String) : (Schema.empty ns).KeysNodup := fun κ => by
  simp [Table.keys]

theorem KeysNodup.register {s : Schema} (h : s.KeysNodup) (d : Declaration) : (s.register d).KeysNodup := by
  intro κ
  rw [table_register]
  split
  · exact Table.nodup_keys_insert (h κ) _ _
  · exact h κ

theorem keysNodup_builtinSchema (ns mark : String) (types : List (String × String)) :
    (builtinSchema ns mark types).KeysNodup := by
  unfold builtinSchema
  apply List.foldlRecOn (motive := Schema.KeysNodup)
  · exact keysNodup_empty ns
  · rintro s hs ⟨n,e⟩ -
    exact hs.register (.type (.builtin n e mark))

end Schema

theorem keysNodup_new (config : Config) : (Registry.new config).KeysNodup := by
  refine ⟨?_,fun e he => ?_⟩
  · rw [namespaces_new]
    simp [xsNamespace,dsNamespace]
  · obtain ⟨s,hs,rfl⟩ := mem_entries_new he
    simp only [builtinSchemas,List.mem_cons,List.not_mem_nil,or_false] at hs
    rcases hs with rfl | rfl <;> exact Schema.keysNodup_builtinSchema _ _ _

namespace KeysNodup

variable {r : Registry} (h : r.KeysNodup)
include h

theorem ensureSchema (ns : String) : (r.ensureSchema ns).KeysNodup := by
  refine ⟨?_,fun e he => ?_⟩
  · rw [namespaces_ensureSchema]
    split
    · exact h.1
    · rename_i hns
      exact List.nodup_append.2 ⟨h.1,by simp,fun a ha b hb hab => hns (by simp_all)⟩
  · unfold Registry.ensureSchema at he
    split at he
    · exact h.2 e he
    · rcases Table.mem_entries_insert he with he | rfl
      · exact h.2 e he
      · exact Schema.keysNodup_empty ns

theorem modifySchema (ns : String) {f : Schema → Schema} (hf : ∀ s, s.KeysNodup → (f s).KeysNodup) :
    (r.modifySchema ns f).KeysNodup := by
  refine ⟨by rw [namespaces_modifySchema]; exact h.1,fun e he => ?_⟩
  rcases Table.mem_entries_modify he with he | ⟨v,hv,rfl⟩
  · exact h.2 e he
  · exact hf v (h.2 _ hv)

theorem declarations (ns : String) (κ : Kind) : (r.declarations ns κ).keys.Nodup := by
  unfold Registry.declarations
  cases hs : r.schema? ns with
  | none => exact Schema.keysNodup_empty ns κ
  | some s => exact h.2 _ (Table.mem_entries_of_get? hs) κ

end KeysNodup

theorem keysNodup_ingestRelation : IngestRelation fun r r' (_ : List Event) => r.KeysNodup → r'.KeysNodup where
  refl _ := id
  trans h₁ h₂ h := h₂ (h₁ h)
  ensureSchema _ ns h := h.ensureSchema ns
  enter _ _ _ _ h := h
  bindAliases _ ns root _ h := h.modifySchema ns fun s hs κ => by simpa using hs κ
  register _ ns _ _ d _ h := h.modifySchema ns fun s hs => hs.register d

theorem keysNodup_loadRelation : LoadRelation fun r r' (_ : List Event) => r.KeysNodup → r'.KeysNodup :=
  keysNodup_ingestRelation.loadRelation (fun _ _ => id) (fun _ _ _ => id) fun _ h => h

/-! ## Registries that hold the same declarations -/

def SameDeclarations (r₁ r₂ : Registry) : Prop :=
  ∀ ns κ n, (r₁.declarations ns κ).get? n = (r₂.declarations ns κ).get? n

theorem flatMap_entries {β : Type} {r : Registry} (h : r.namespaces.Nodup) (F : String → Schema → List β) :
    r.schemas.entries.flatMap (fun e => F e.1 e.2) =
      r.namespaces.flatMap fun ns => F ns ((r.schema? ns).getD (.empty ns)) := by
  unfold namespaces Table.keys
  rw [List.flatMap_map]
  refine List.flatMap_congr fun e he => ?_
  rw [show r.schema? e.1 = some e.2 from (Table.mem_entries_iff h).1 he]
  rfl

theorem typeDefinition?_map (r : Registry) (q : QName) :
    (r.typeDefinition? q).map .type = (r.declarations q.ns .type).get? q.localName := by
  unfold typeDefinition? declarations
  cases r.schema? q.ns with
  | none => rfl
  | some s => simp [Schema.table,Table.get?_map]

theorem element?_map (r : Registry) (q : QName) :
    (r.element? q).map .element = (r.declarations q.ns .element).get? q.localName := by
  unfold element? declarations
  cases r.schema? q.ns with
  | none => rfl
  | some s => simp [Schema.table,Table.get?_map]

theorem attribute?_map (r : Registry) (q : QName) :
    (r.attribute? q).map .attribute = (r.declarations q.ns .attribute).get? q.localName := by
  unfold attribute? declarations
  cases r.schema? q.ns with
  | none => rfl
  | some s => simp [Schema.table,Table.get?_map]

namespace SameDeclarations

variable {r₁ r₂ : Registry} (hsame : SameDeclarations r₁ r₂)
include hsame

theorem typeDefinition? : r₁.typeDefinition? = r₂.typeDefinition? := by
  funext q
  have h := (typeDefinition?_map r₁ q).trans ((hsame _ _ _).trans (typeDefinition?_map r₂ q).symm)
  exact Option.map_injective (fun _ _ he => Declaration.type.inj he) h

theorem element? : r₁.element? = r₂.element? := by
  funext q
  have h := (element?_map r₁ q).trans ((hsame _ _ _).trans (element?_map r₂ q).symm)
  exact Option.map_injective (fun _ _ he => Declaration.element.inj he) h

theorem attribute? : r₁.attribute? = r₂.attribute? := by
  funext q
  have h := (attribute?_map r₁ q).trans ((hsame _ _ _).trans (attribute?_map r₂ q).symm)
  exact Option.map_injective (fun _ _ he => Declaration.attribute.inj he) h

variable (h₁ : r₁.KeysNodup) (h₂ : r₂.KeysNodup)
include h₁ h₂

theorem entries_perm (ns : String) (κ : Kind) :
    (r₁.declarations ns κ).entries.Perm (r₂.declarations ns κ).entries :=
  Table.entries_perm (h₁.declarations ns κ) (h₂.declarations ns κ) (hsame ns κ)

theorem declared_perm_schema (ns : String) :
    ((r₁.schema? ns).getD (.empty ns)).declared.Perm ((r₂.schema? ns).getD (.empty ns)).declared ∧
      ((r₁.schema? ns).getD (.empty ns)).elements.keys.Perm ((r₂.schema? ns).getD (.empty ns)).elements.keys := by
  have htypes := (List.map_perm_map_iff (f := fun e : String × TypeDefinition => (e.1,Declaration.type e.2))
    (by rintro ⟨a,x⟩ ⟨b,y⟩ he; simp_all)).1 (hsame.entries_perm h₁ h₂ ns .type)
  have helements := (List.map_perm_map_iff (f := fun e : String × ElementDecl => (e.1,Declaration.element e.2))
    (by rintro ⟨a,x⟩ ⟨b,y⟩ he; simp_all)).1 (hsame.entries_perm h₁ h₂ ns .element)
  refine ⟨List.Perm.append ?_ ?_,helements.map Prod.fst⟩
  · exact (htypes.map Prod.snd).map _
  · exact (helements.map Prod.snd).map _

variable (hns : r₁.namespaces.Perm r₂.namespaces)
include hns

theorem declared_perm : r₁.declared.Perm r₂.declared := by
  have hflat : ∀ r : Registry, r.KeysNodup →
      r.declared = r.namespaces.flatMap fun ns => ((r.schema? ns).getD (.empty ns)).declared := by
    intro r hr
    rw [← flatMap_entries hr.1 fun _ s => s.declared]
    simp [declared,Table.values,List.flatMap_map]
  rw [hflat r₁ h₁,hflat r₂ h₂]
  exact hns.flatMap fun ns _ => (hsame.declared_perm_schema h₁ h₂ ns).1

theorem elementCount_eq : r₁.elementCount = r₂.elementCount := by
  have hflat : ∀ r : Registry, r.KeysNodup →
      r.elementNames = r.namespaces.flatMap fun ns =>
        ((r.schema? ns).getD (.empty ns)).elements.keys.map fun n => ⟨ns,n⟩ := by
    intro r hr
    exact flatMap_entries hr.1 fun ns s => s.elements.keys.map fun n => (⟨ns,n⟩ : QName)
  rw [← length_elementNames,← length_elementNames,hflat r₁ h₁,hflat r₂ h₂]
  exact (hns.flatMap fun ns _ => (hsame.declared_perm_schema h₁ h₂ ns).2.map _).length_eq

theorem renderEnv_eq (hcfg : r₁.config = r₂.config) : r₁.renderEnv = r₂.renderEnv := by
  have htid : r₁.typeIdentifier? = r₂.typeIdentifier? := by
    funext q
    simp only [typeIdentifier?,naming,hsame.typeDefinition?,hcfg]
  simp only [renderEnv,naming,hcfg,htid,hsame.element?,hsame.attribute?,hsame.elementCount_eq h₁ h₂ hns]

end SameDeclarations

/-! ## Rendering declarations in another order -/

theorem forall₂_render_unique {env : RenderEnv} {xs : List Declared} {ds ds' : List String}
    (h : List.Forall₂ (fun x d => x.render env = .ok d) xs ds)
    (h' : List.Forall₂ (fun x d => x.render env = .ok d) xs ds') : ds = ds' := by
  induction h generalizing ds' with
  | nil =>
    cases h'
    rfl
  | cons hx _ ih =>
    cases h' with
    | cons hx' h' =>
      rw [hx] at hx'
      rw [Except.ok.inj hx',ih h']

section Rendering

variable {r₁ r₂ : Registry} (hcfg : r₁.config = r₂.config) (henv : r₁.renderEnv = r₂.renderEnv)
  (hdecl : r₁.declared.Perm r₂.declared)
include hcfg henv hdecl

theorem render_ok_of_perm {text₁ : String} (h : r₁.render = .ok text₁) :
    ∃ text₂ decls₁ decls₂, r₂.render = .ok text₂ ∧ decls₂.Perm decls₁ ∧
      List.Forall₂ (fun x d => x.render r₁.renderEnv = .ok d) r₁.declared decls₁ ∧
      List.Forall₂ (fun x d => x.render r₁.renderEnv = .ok d) r₂.declared decls₂ ∧
      text₁ = "\n\n".intercalate (Text.trimEnd (preamble r₁.config) :: decls₁) ++ "\n" ∧
      text₂ = "\n\n".intercalate (Text.trimEnd (preamble r₁.config) :: decls₂) ++ "\n" := by
  obtain ⟨decls₁,hd₁,rfl⟩ := (render_eq_ok_iff r₁ text₁).1 h
  obtain ⟨decls₂,hd₂,hperm⟩ := List.perm_comp_forall₂ hdecl.symm hd₁
  refine ⟨_,decls₁,decls₂,(render_eq_ok_iff r₂ _).2 ⟨decls₂,henv ▸ hd₂,rfl⟩,hperm,hd₁,hd₂,rfl,?_⟩
  rw [hcfg]

theorem render_agree :
    ((∃ text, r₁.render = .ok text) ↔ ∃ text, r₂.render = .ok text) ∧
      ∀ text₁ text₂, r₁.render = .ok text₁ → r₂.render = .ok text₂ →
        ∃ decls₁ decls₂, decls₁.Perm decls₂ ∧
          List.Forall₂ (fun x d => x.render r₁.renderEnv = .ok d) r₁.declared decls₁ ∧
          List.Forall₂ (fun x d => x.render r₁.renderEnv = .ok d) r₂.declared decls₂ ∧
          text₁ = "\n\n".intercalate (Text.trimEnd (preamble r₁.config) :: decls₁) ++ "\n" ∧
          text₂ = "\n\n".intercalate (Text.trimEnd (preamble r₁.config) :: decls₂) ++ "\n" := by
  refine ⟨⟨fun ⟨text₁,h⟩ => ?_,fun ⟨text₂,h⟩ => ?_⟩,fun text₁ text₂ h h' => ?_⟩
  · obtain ⟨text₂,-,-,h',-⟩ := render_ok_of_perm hcfg henv hdecl h
    exact ⟨text₂,h'⟩
  · obtain ⟨text₁,-,-,h',-⟩ := render_ok_of_perm hcfg.symm henv.symm hdecl.symm h
    exact ⟨text₁,h'⟩
  · obtain ⟨text₂',decls₁,decls₂,h₂,hperm,hd₁,hd₂,rfl,rfl⟩ := render_ok_of_perm hcfg henv hdecl h
    obtain ⟨decls₂',hd₂',rfl⟩ := (render_eq_ok_iff r₂ text₂).1 h'
    have hsame : decls₂ = decls₂' := forall₂_render_unique hd₂ (henv ▸ hd₂')
    subst hsame
    exact ⟨decls₁,decls₂,hperm.symm,hd₁,hd₂,rfl,by rw [hcfg]⟩

end Rendering

end SchemaTypes.Registry
