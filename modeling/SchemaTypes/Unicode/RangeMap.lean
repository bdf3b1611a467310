set_option autoImplicit false

/-!
Maps from code points to values, given by sorted, disjoint inclusive ranges `(first, last, value)`:
the form in which the Unicode character database publishes properties with many values. A lookup
finds, by binary search, the last range that starts at or before the code point, and takes its value
if the range reaches the code point. The main statement is that a value found belongs to a range
that holds the code point.
-/

namespace SchemaTypes.Unicode

/-- A map from code points to values by inclusive ranges `(first, last, value)`, sorted by `first`
and disjoint. -/
structure RangeMap (α : Type) where
  entries : Array (Nat × Nat × α)

namespace RangeMap

variable {α : Type}

def startsUpTo (m : RangeMap α) (n : Nat) (lo hi : Nat) : Nat :=
  if lo < hi then
    let mid := lo + (hi - lo) / 2
    match m.entries[mid]? with
    | some (a, _, _) => if a ≤ n then m.startsUpTo n (mid + 1) hi else m.startsUpTo n lo mid
    | none => lo
  else lo
termination_by hi - lo

def find? (m : RangeMap α) (n : Nat) : Option (Nat × Nat × α) :=
  match m.startsUpTo n 0 m.entries.size with
  | 0 => none
  | k + 1 =>
    match m.entries[k]? with
    | some (a, b, v) => if n ≤ b then some (a, b, v) else none
    | none => none

def get? (m : RangeMap α) (n : Nat) : Option α := (m.find? n).map (·.2.2)

theorem startsUpTo_eq (m : RangeMap α) (n lo hi : Nat) :
    m.startsUpTo n lo hi = lo ∨
      ∃ j e, m.startsUpTo n lo hi = j + 1 ∧ m.entries[j]? = some e ∧ e.1 ≤ n := by
  fun_induction startsUpTo m n lo hi with
  | case1 lo hi h mid a b v hmid ha ih =>
    rcases ih with h1 | h1
    · exact Or.inr ⟨mid, (a, b, v), h1, hmid, ha⟩
    · exact Or.inr h1
  | case2 lo hi h mid a b v hmid ha ih =>
    rcases ih with h1 | h1
    · exact Or.inl h1
    · exact Or.inr h1
  | case3 => exact Or.inl rfl
  | case4 => exact Or.inl rfl

theorem find?_eq_some {m : RangeMap α} {n a b : Nat} {v : α} (h : m.find? n = some (a, b, v)) :
    (a, b, v) ∈ m.entries ∧ a ≤ n ∧ n ≤ b := by
  unfold find? at h
  split at h
  · simp at h
  · rename_i k hk
    split at h
    · rename_i a' b' w he
      by_cases hb : n ≤ b'
      · simp only [hb, if_true, Option.some.injEq, Prod.mk.injEq] at h
        obtain ⟨rfl, rfl, rfl⟩ := h
        refine ⟨Array.mem_of_getElem? he, ?_, hb⟩
        rcases startsUpTo_eq m n 0 m.entries.size with h0 | ⟨j, e, hj, hje, hle⟩
        · omega
        · rw [hk] at hj
          cases hj
          rw [he] at hje
          cases hje
          exact hle
      · simp [hb] at h
    · simp at h

theorem get?_eq_some {m : RangeMap α} {n : Nat} {v : α} (h : m.get? n = some v) :
    ∃ a b, (a, b, v) ∈ m.entries ∧ a ≤ n ∧ n ≤ b := by
  unfold get? at h
  match hf : m.find? n, h with
  | some (a, b, w), h =>
    simp only [Option.map_some, Option.some.injEq] at h
    subst h
    exact ⟨a, b, find?_eq_some hf⟩

end RangeMap

end SchemaTypes.Unicode
