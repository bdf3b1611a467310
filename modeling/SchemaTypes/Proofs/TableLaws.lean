import SchemaTypes.Table
set_option autoImplicit false

/-!
Laws of tables under a run of insertions: the names are the old names and then the new ones in
the order they were first inserted, and a name holds the value inserted last under it.
-/

namespace SchemaTypes.Table

variable {α : Type}

def insertAll (t : Table α) (kvs : List (String × α)) : Table α :=
  kvs.foldl (fun t kv => t.insert kv.1 kv.2) t

@[simp] theorem insertAll_nil (t : Table α) : t.insertAll [] = t := rfl

@[simp] theorem insertAll_cons (t : Table α) (kv : String × α) (kvs : List (String × α)) :
    t.insertAll (kv :: kvs) = (t.insert kv.1 kv.2).insertAll kvs := rfl

theorem insertAll_append (t : Table α) (kvs kvs' : List (String × α)) :
    t.insertAll (kvs ++ kvs') = (t.insertAll kvs).insertAll kvs' := by
  simp [insertAll,List.foldl_append]

theorem keys_sublist_insert (t : Table α) (k : String) (v : α) : t.keys <+: (t.insert k v).keys := by
  rw [keys_insert]
  split
  · exact List.prefix_refl _
  · exact List.prefix_append _ _

theorem removeAll_append_singleton (ks l : List String) (k : String) :
    ks.removeAll (l ++ [k]) = (ks.removeAll l).filter fun a => !a == k := by
  unfold List.removeAll
  rw [List.filter_filter]
  apply List.filter_congr
  intro a _
  by_cases h₁ : a ∈ l <;> by_cases h₂ : a = k <;> simp [h₁,h₂]

theorem keys_insertAll (t : Table α) (kvs : List (String × α)) :
    (t.insertAll kvs).keys = t.keys ++ ((kvs.map Prod.fst).removeAll t.keys).eraseDups := by
  induction kvs generalizing t with
  | nil => simp [List.removeAll]
  | cons kv kvs ih =>
    rw [insertAll_cons,ih,keys_insert,List.map_cons]
    split
    · rename_i hk
      simp [List.cons_removeAll,hk]
    · rename_i hk
      have hc : t.keys.contains kv.1 = false := by simpa using hk
      rw [List.cons_removeAll,if_pos hc,List.eraseDups_cons,removeAll_append_singleton,
        List.append_assoc,List.singleton_append]

theorem mem_keys_insertAll {t : Table α} {kvs : List (String × α)} {k : String} :
    k ∈ (t.insertAll kvs).keys ↔ k ∈ t.keys ∨ k ∈ kvs.map Prod.fst := by
  rw [keys_insertAll,List.mem_append,List.mem_eraseDups]
  by_cases hk : k ∈ t.keys
  · simp [hk]
  · simp [hk,List.removeAll]

theorem get?_insertAll (t : Table α) (kvs : List (String × α)) (k : String) :
    (t.insertAll kvs).get? k = (kvs.reverse.lookup k).or (t.get? k) := by
  induction kvs generalizing t with
  | nil => simp
  | cons kv kvs ih =>
    obtain ⟨k',v⟩ := kv
    rw [insertAll_cons,ih,List.reverse_cons,List.lookup_append,Option.or_assoc]
    by_cases hk : k = k'
    · subst hk
      simp
    · have hb : (k == k') = false := by simpa using hk
      simp [get?_insert_of_ne t v hk,List.lookup_cons,hb]

theorem mem_entries_insert {t : Table α} {k : String} {v : α} {e : String × α}
    (h : e ∈ (t.insert k v).entries) : e ∈ t.entries ∨ e = (k,v) := by
  unfold insert at h
  split at h
  · obtain ⟨e',he',rfl⟩ := List.mem_map.1 h
    unfold replaceUnder
    split
    · exact .inr rfl
    · exact .inl he'
  · simpa using h

theorem mem_entries_modify {t : Table α} {k : String} {f : α → α} {e : String × α}
    (h : e ∈ (t.modify k f).entries) : e ∈ t.entries ∨ ∃ v, (k,v) ∈ t.entries ∧ e = (k,f v) := by
  obtain ⟨e',he',rfl⟩ := List.mem_map.1 h
  unfold modifyUnder
  split
  · rename_i hek
    obtain ⟨a,b⟩ := e'
    have hak : a = k := beq_iff_eq.1 hek
    subst hak
    exact .inr ⟨b,he',rfl⟩
  · exact .inl he'

theorem lookup_map_modifyUnder (l : List (String × α)) (k k' : String) (f : α → α) :
    (l.map (modifyUnder k f)).lookup k' = if k' = k then (l.lookup k).map f else l.lookup k' := by
  induction l with
  | nil => split <;> rfl
  | cons e l ih =>
    obtain ⟨a,b⟩ := e
    by_cases ha : a = k
    · subst ha
      by_cases hk : k' = a
      · subst hk
        simp [modifyUnder]
      · have hb : (k' == a) = false := by simpa using hk
        simp only [List.map_cons,modifyUnder,beq_self_eq_true,if_true,List.lookup_cons,hb,ih,
          if_neg hk]
    · have hm : modifyUnder k f (a,b) = (a,b) := by
        simp [modifyUnder,ha]
      rw [List.map_cons,hm]
      by_cases hk : k' = k
      · subst hk
        have hb : (k' == a) = false := by simpa using fun h => ha h.symm
        simp [List.lookup_cons,hb,ih]
      · simp only [List.lookup_cons,ih,if_neg hk]

theorem get?_modify (t : Table α) (k k' : String) (f : α → α) :
    (t.modify k f).get? k' = if k' = k then (t.get? k).map f else t.get? k' :=
  lookup_map_modifyUnder t.entries k k' f

/-- The table with a function applied to every value. -/
def map {β : Type} (f : α → β) (t : Table α) : Table β := ⟨t.entries.map fun e => (e.1,f e.2)⟩

@[simp] theorem keys_map {β : Type} (f : α → β) (t : Table α) : (t.map f).keys = t.keys := by
  simp [map,keys,Function.comp_def]

theorem map_insert {β : Type} (f : α → β) (t : Table α) (k : String) (v : α) :
    (t.insert k v).map f = (t.map f).insert k (f v) := by
  have hc : (t.map f).contains k = t.contains k := by
    simp [contains,map,Function.comp_def]
  unfold insert
  rw [hc]
  split
  · simp only [map,List.map_map,Table.mk.injEq]
    refine List.map_congr_left fun e _ => ?_
    simp only [Function.comp_apply,replaceUnder]
    split <;> rfl
  · simp [map]

theorem mem_entries_of_get? {t : Table α} {k : String} {v : α} (h : t.get? k = some v) :
    (k,v) ∈ t.entries := by
  obtain ⟨l₁,l₂,hl,-⟩ := List.lookup_eq_some_iff.1 h
  rw [hl]
  simp

/-! ## Tables that hold each name once -/

theorem nodup_keys_insert {t : Table α} (h : t.keys.Nodup) (k : String) (v : α) :
    (t.insert k v).keys.Nodup := by
  rw [keys_insert]
  split
  · exact h
  · rename_i hk
    exact List.nodup_append.2 ⟨h,List.pairwise_singleton _ k,fun a ha b hb hab => hk (by simp_all)⟩

theorem mem_entries_iff {t : Table α} (h : t.keys.Nodup) {e : String × α} :
    e ∈ t.entries ↔ t.get? e.1 = some e.2 := by
  obtain ⟨entries⟩ := t
  unfold keys at h
  unfold get?
  induction entries with
  | nil => simp
  | cons e₀ es ih =>
    obtain ⟨hne,hnd⟩ := List.nodup_cons.1 h
    by_cases he : e.1 = e₀.1
    · have hnot : e ∉ es := fun hm => hne (List.mem_map.2 ⟨e,hm,he⟩)
      rw [List.mem_cons,List.lookup_cons,he]
      simp only [beq_self_eq_true,Option.some.injEq]
      constructor
      · rintro (rfl | hm)
        · rfl
        · exact absurd hm hnot
      · intro hv
        exact .inl (Prod.ext he hv.symm)
    · have hb : (e.1 == e₀.1) = false := by simpa using he
      rw [List.mem_cons,List.lookup_cons,hb]
      exact ⟨fun h' => h'.elim (fun h'' => absurd (congrArg Prod.fst h'') he) (ih hnd).1,
        fun h' => .inr ((ih hnd).2 h')⟩

theorem nodup_entries {t : Table α} (h : t.keys.Nodup) : t.entries.Nodup :=
  List.Pairwise.of_map Prod.fst (fun _ _ hne he => hne (congrArg Prod.fst he)) h

theorem entries_perm {t t' : Table α} (h : t.keys.Nodup) (h' : t'.keys.Nodup)
    (hget : ∀ k, t.get? k = t'.get? k) : t.entries.Perm t'.entries := by
  refine (List.perm_ext_iff_of_nodup (nodup_entries h) (nodup_entries h')).2 fun e => ?_
  rw [mem_entries_iff h,mem_entries_iff h',hget]

theorem get?_map {β : Type} (f : α → β) (t : Table α) (k : String) :
    (t.map f).get? k = (t.get? k).map f := by
  obtain ⟨entries⟩ := t
  unfold map get?
  induction entries with
  | nil => rfl
  | cons e es ih =>
    obtain ⟨k',v⟩ := e
    by_cases hk : k = k'
    · simp [hk]
    · have hb : (k == k') = false := by simpa using hk
      simp [List.lookup_cons,hb,ih]

end SchemaTypes.Table
