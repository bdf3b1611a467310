set_option autoImplicit false

/-!
Tables of named entries in the order the names were first inserted. Inserting a name that is
already present replaces its value and keeps its place.
-/

namespace SchemaTypes

/-- Entries keyed by name, in order of first insertion. -/
structure Table (α : Type) where
  entries : List (String × α) := []
  deriving Repr, Inhabited

namespace Table

variable {α : Type}

def get? (t : Table α) (k : String) : Option α := t.entries.lookup k

def contains (t : Table α) (k : String) : Bool := t.entries.any (·.1 == k)

def replaceUnder (k : String) (v : α) (e : String × α) : String × α :=
  if e.1 == k then (k, v) else e

def insert (t : Table α) (k : String) (v : α) : Table α :=
  if t.contains k then ⟨t.entries.map (replaceUnder k v)⟩
  else ⟨t.entries ++ [(k, v)]⟩

def modifyUnder (k : String) (f : α → α) (e : String × α) : String × α :=
  if e.1 == k then (e.1, f e.2) else e

def modify (t : Table α) (k : String) (f : α → α) : Table α :=
  ⟨t.entries.map (modifyUnder k f)⟩

def keys (t : Table α) : List String := t.entries.map (·.1)

def values (t : Table α) : List α := t.entries.map (·.2)

def size (t : Table α) : Nat := t.entries.length

theorem contains_iff (t : Table α) (k : String) : t.contains k = true ↔ k ∈ t.keys := by
  simp [contains, keys]

theorem get?_isSome_iff (t : Table α) (k : String) : (t.get? k).isSome ↔ k ∈ t.keys := by
  unfold get? keys
  induction t.entries with
  | nil => simp [List.lookup_nil]
  | cons e l ih =>
    obtain ⟨a, b⟩ := e
    simp only [List.lookup_cons, List.map_cons, List.mem_cons]
    by_cases h : k = a
    · subst h
      simp
    · simp only [beq_false_of_ne h, h, false_or]
      exact ih

@[simp]
theorem replaceUnder_fst (k : String) (v : α) (e : String × α) : (replaceUnder k v e).1 = e.1 := by
  unfold replaceUnder
  split
  · rename_i h
    exact (beq_iff_eq.1 h).symm
  · rfl

@[simp]
theorem modifyUnder_fst (k : String) (f : α → α) (e : String × α) :
    (modifyUnder k f e).1 = e.1 := by
  unfold modifyUnder
  split <;> rfl

theorem lookup_cons_of_beq_false {e : String × α} {l : List (String × α)} {k : String}
    (h : (k == e.1) = false) : (e :: l).lookup k = l.lookup k := by
  obtain ⟨a, b⟩ := e
  rw [List.lookup_cons]
  simp only at h
  rw [h]

theorem lookup_map_replaceUnder (l : List (String × α)) (k : String) (v : α)
    (h : l.any (·.1 == k) = true) : (l.map (replaceUnder k v)).lookup k = some v := by
  induction l with
  | nil => simp at h
  | cons e l ih =>
    by_cases he : e.1 = k
    · simp [replaceUnder, he]
    · have hb : (e.1 == k) = false := beq_false_of_ne he
      have hk : (k == e.1) = false := beq_false_of_ne (Ne.symm he)
      rw [List.any_cons, hb, Bool.false_or] at h
      rw [List.map_cons, lookup_cons_of_beq_false (by rw [replaceUnder_fst]; exact hk)]
      exact ih h

theorem lookup_map_replaceUnder_of_ne (l : List (String × α)) {k k' : String} (v : α)
    (hne : k' ≠ k) : (l.map (replaceUnder k v)).lookup k' = l.lookup k' := by
  induction l with
  | nil => rfl
  | cons e l ih =>
    by_cases he : e.1 = k
    · have hk' : (k' == e.1) = false := beq_false_of_ne (he ▸ hne)
      rw [List.map_cons, lookup_cons_of_beq_false (by rw [replaceUnder_fst]; exact hk'),
        lookup_cons_of_beq_false hk']
      exact ih
    · have hr : replaceUnder k v e = e := by
        unfold replaceUnder
        rw [beq_false_of_ne he]
        rfl
      rw [List.map_cons, hr]
      obtain ⟨a, b⟩ := e
      rw [List.lookup_cons, List.lookup_cons]
      cases k' == a
      · exact ih
      · rfl

@[simp]
theorem get?_insert_self (t : Table α) (k : String) (v : α) : (t.insert k v).get? k = some v := by
  unfold insert get?
  split
  · exact lookup_map_replaceUnder t.entries k v ‹_›
  · rename_i h
    have hnone : t.entries.lookup k = none := by
      rw [List.lookup_eq_none_iff]
      intro p hp
      rw [bne_iff_ne]
      intro hkp
      exact h (List.any_eq_true.2 ⟨p, hp, beq_iff_eq.2 hkp.symm⟩)
    simp [List.lookup_append, hnone]

theorem get?_insert_of_ne (t : Table α) {k k' : String} (v : α) (hne : k' ≠ k) :
    (t.insert k v).get? k' = t.get? k' := by
  unfold insert get?
  split
  · exact lookup_map_replaceUnder_of_ne t.entries v hne
  · have hk : (k' == k) = false := by simpa using hne
    cases hl : t.entries.lookup k' <;> simp [List.lookup_append, hl, List.lookup_cons, hk]

theorem keys_insert (t : Table α) (k : String) (v : α) :
    (t.insert k v).keys = if k ∈ t.keys then t.keys else t.keys ++ [k] := by
  by_cases h : k ∈ t.keys
  · have hc : t.contains k = true := (contains_iff t k).2 h
    rw [if_pos h]
    simp [insert, hc, keys, Function.comp_def]
  · have hc : t.contains k = false := by
      cases hc : t.contains k
      · rfl
      · exact absurd ((contains_iff t k).1 hc) h
    rw [if_neg h]
    simp [insert, hc, keys]

@[simp]
theorem keys_modify (t : Table α) (k : String) (f : α → α) : (t.modify k f).keys = t.keys := by
  simp [modify, keys, Function.comp_def]

end Table

end SchemaTypes
