import SchemaTypes.Proofs.FacetReading
import Mathlib.Data.Nat.Digits.Defs
import Mathlib.Data.List.Induction
import Mathlib.Data.List.DropRight
import Mathlib.Data.List.TakeWhile
set_option autoImplicit false

/-!
Counts in attributes read as they are written. An attribute holds a count when, once the white
space at both of its ends is trimmed, it is an optional plus sign and one or more ASCII digits whose
decimal value is at most 2^64 - 1; leading zeros only change the length, not the value. An absent
attribute gives no count, and any other text is an invalid value that quotes the attribute as
written, before trimming. An upper bound of occurrences also takes the trimmed text `unbounded`.

Trimming is described by `Padded`: the raw text is the trimmed one between two runs of white
space, and the trimmed form is the one text so padded that neither starts nor ends with white space
(`dropBlankBoth_eq_iff`).
-/

namespace SchemaTypes.Component

open SchemaTypes.Xml SchemaTypes.Text SchemaTypes.Unicode

/-! ## Trimming -/

/-- A text between two runs of white space. -/
def Padded (raw body : List Char) : Prop :=
  ∃ lead trail, raw = lead ++ body ++ trail ∧ (∀ c ∈ lead, isWhiteSpace c = true) ∧
    ∀ c ∈ trail, isWhiteSpace c = true

def BlankFreeEnds (body : List Char) : Prop :=
  (∀ c ∈ body.head?, isWhiteSpace c = false) ∧ ∀ c ∈ body.getLast?, isWhiteSpace c = false

theorem dropBlankEnd_eq_rdropWhile (cs : List Char) : dropBlankEnd cs = cs.rdropWhile isWhiteSpace := rfl

theorem padded_dropBlankBoth (cs : List Char) : Padded cs (dropBlankBoth cs) := by
  let rest := cs.dropWhile isWhiteSpace
  refine ⟨cs.takeWhile isWhiteSpace, rest.rtakeWhile isWhiteSpace, ?_,
    fun c hc => List.all_eq_true.1 List.all_takeWhile c hc, fun c hc => List.mem_rtakeWhile_imp hc⟩
  rw [dropBlankBoth, dropBlankEnd_eq_rdropWhile, List.append_assoc, List.rdropWhile_append_rtakeWhile,
    List.takeWhile_append_dropWhile]

theorem blankFreeEnds_dropBlankBoth (cs : List Char) : BlankFreeEnds (dropBlankBoth cs) := by
  rw [dropBlankBoth, dropBlankEnd_eq_rdropWhile]
  constructor
  · intro c hc
    obtain ⟨t, ht⟩ := List.rdropWhile_prefix (p := isWhiteSpace) (l := cs.dropWhile isWhiteSpace)
    have hhead := List.head?_dropWhile_not isWhiteSpace cs
    rw [← ht, List.head?_append_of_ne_nil _ (List.ne_nil_of_mem (List.mem_of_mem_head? hc)), hc] at hhead
    exact hhead
  · intro c hc
    have hne := List.ne_nil_of_mem (List.mem_of_getLast? hc)
    rw [List.getLast?_eq_some_getLast hne, Option.mem_def, Option.some.injEq] at hc
    rw [← hc]
    simpa using List.rdropWhile_last_not isWhiteSpace _ hne

theorem rdropWhile_append_of_all {p : Char → Bool} {body trail : List Char} (h : ∀ c ∈ trail, p c = true) :
    (body ++ trail).rdropWhile p = body.rdropWhile p := by
  simp only [List.rdropWhile, List.reverse_append]
  rw [List.dropWhile_append_of_pos (by simpa using h)]

theorem dropBlankBoth_of_padded {raw body : List Char} (hp : Padded raw body) (hb : BlankFreeEnds body) :
    dropBlankBoth raw = body := by
  obtain ⟨lead, trail, rfl, hlead, htrail⟩ := hp
  rw [dropBlankBoth, List.append_assoc, List.dropWhile_append_of_pos hlead]
  cases body with
  | nil => simp [(List.dropWhile_eq_nil_iff).2 htrail, dropBlankEnd]
  | cons c r =>
    rw [List.cons_append, List.dropWhile_cons_of_neg (by simp [hb.1 c rfl]), dropBlankEnd_eq_rdropWhile,
      ← List.cons_append, rdropWhile_append_of_all htrail, List.rdropWhile_eq_self_iff]
    intro hne
    simpa using hb.2 _ (List.getLast?_eq_some_getLast hne)

theorem dropBlankBoth_eq_iff {raw body : List Char} :
    dropBlankBoth raw = body ↔ Padded raw body ∧ BlankFreeEnds body :=
  ⟨fun h => h ▸ ⟨padded_dropBlankBoth raw, blankFreeEnds_dropBlankBoth raw⟩,
    fun ⟨hp, hb⟩ => dropBlankBoth_of_padded hp hb⟩

/-! ## Counts -/

def IsCountText (cs : List Char) (n : Nat) : Prop :=
  ∃ sign ds, cs = sign ++ ds ∧ (sign = [] ∨ sign = ['+']) ∧ ds ≠ [] ∧ (∀ c ∈ ds, isAsciiDigit c = true) ∧
    Nat.ofDigits 10 (ds.reverse.map fun d => d.toNat - '0'.toNat) = n ∧ n ≤ 2 ^ 64 - 1

theorem digitsNumber_eq_ofDigits (ds : List Char) :
    digitsNumber ds = Nat.ofDigits 10 (ds.reverse.map fun d => d.toNat - '0'.toNat) := by
  induction ds using List.reverseRecOn with
  | nil => rfl
  | append_singleton ds d ih =>
    rw [digitsNumber, List.foldl_append, ← digitsNumber, ih]
    simp only [List.foldl_cons, List.foldl_nil, List.reverse_append, List.reverse_singleton,
      List.singleton_append, List.map_cons, Nat.ofDigits_cons]
    omega

theorem isWhiteSpace_of_isAsciiDigit {c : Char} (h : isAsciiDigit c = true) : isWhiteSpace c = false := by
  simp only [isAsciiDigit, Bool.and_eq_true, decide_eq_true_eq] at h
  have h1 : 48 ≤ c.toNat := h.1
  have h2 : c.toNat ≤ 57 := h.2
  simp [isWhiteSpace, whiteSpace, RangeSet.contains]
  omega

theorem IsCountText.blankFreeEnds {cs : List Char} {n : Nat} (h : IsCountText cs n) : BlankFreeEnds cs := by
  obtain ⟨sign, ds, rfl, hsign, hne, hdigits, -⟩ := h
  constructor
  · intro c hc
    rcases hsign with rfl | rfl
    · exact isWhiteSpace_of_isAsciiDigit (hdigits c (List.mem_of_mem_head? hc))
    · simp only [List.cons_append, List.nil_append, List.head?_cons, Option.mem_def, Option.some.injEq] at hc
      rw [← hc]
      simp [isWhiteSpace, whiteSpace, RangeSet.contains]
  · intro c hc
    rw [List.getLast?_append_of_ne_nil _ hne] at hc
    exact isWhiteSpace_of_isAsciiDigit (hdigits c (List.mem_of_getLast? hc))

theorem digits_read_eq_some_iff (ds : List Char) (n : Nat) :
    (if ds.isEmpty || !ds.all isAsciiDigit then none
      else if digitsNumber ds ≤ maxCount then some (digitsNumber ds) else none) = some n ↔
    ds ≠ [] ∧ (∀ c ∈ ds, isAsciiDigit c = true) ∧
      Nat.ofDigits 10 (ds.reverse.map fun d => d.toNat - '0'.toNat) = n ∧ n ≤ 2 ^ 64 - 1 := by
  have hmax : maxCount = 2 ^ 64 - 1 := rfl
  rw [← digitsNumber_eq_ofDigits, ← hmax]
  by_cases hds : ds.isEmpty || !ds.all isAsciiDigit
  · rw [if_pos hds]
    simp only [Bool.or_eq_true, List.isEmpty_iff, Bool.not_eq_true', List.all_eq_false] at hds
    simp only [reduceCtorEq, false_iff, not_and]
    intro hne hall
    rcases hds with h | ⟨c, hc, hnot⟩
    · exact absurd h hne
    · simp [hall c hc] at hnot
  · rw [if_neg hds]
    simp only [Bool.or_eq_true, List.isEmpty_iff, Bool.not_eq_true', List.all_eq_false, not_or,
      not_exists, not_and, not_not] at hds
    split
    · simp only [Option.some.injEq]
      constructor
      · rintro rfl
        exact ⟨hds.1, hds.2, rfl, ‹_›⟩
      · rintro ⟨-, -, rfl, -⟩
        rfl
    · simp only [reduceCtorEq, false_iff, not_and]
      rintro - - rfl h
      contradiction

theorem readCount?_ofList_eq_some_iff (cs : List Char) (n : Nat) :
    readCount? (String.ofList cs) = some n ↔ IsCountText cs n := by
  unfold readCount?
  simp only [String.toList_ofList]
  split
  · rename_i r
    rw [digits_read_eq_some_iff]
    constructor
    · rintro ⟨hne, hdigits, hval, hle⟩
      exact ⟨['+'], r, rfl, .inr rfl, hne, hdigits, hval, hle⟩
    · rintro ⟨sign, ds, h, hsign, hne, hdigits, hval, hle⟩
      rcases hsign with rfl | rfl
      · have := hdigits '+' (by rw [← List.nil_append ds, ← h]; simp)
        exact absurd this (by decide)
      · simp only [List.cons_append, List.nil_append, List.cons.injEq, true_and] at h
        exact h ▸ ⟨hne, hdigits, hval, hle⟩
  · rename_i hplus
    rw [digits_read_eq_some_iff]
    constructor
    · rintro ⟨hne, hdigits, hval, hle⟩
      exact ⟨[], cs, rfl, .inl rfl, hne, hdigits, hval, hle⟩
    · rintro ⟨sign, ds, rfl, hsign, hne, hdigits, hval, hle⟩
      rcases hsign with rfl | rfl
      · exact ⟨hne, hdigits, hval, hle⟩
      · exact absurd rfl (hplus ds)

/-- An attribute value that holds a count: a count as written, between white space. -/
def WrittenCount (raw : String) (n : Nat) : Prop := ∃ body, Padded raw.toList body ∧ IsCountText body n

theorem readCount?_trim_eq_some_iff (raw : String) (n : Nat) :
    readCount? (trim raw) = some n ↔ WrittenCount raw n := by
  rw [trim, readCount?_ofList_eq_some_iff]
  constructor
  · intro h
    exact ⟨_, padded_dropBlankBoth _, h⟩
  · rintro ⟨body, hp, hc⟩
    rwa [dropBlankBoth_of_padded hp hc.blankFreeEnds]

theorem readCount?_trim_eq_none_iff (raw : String) :
    readCount? (trim raw) = none ↔ ∀ n, ¬WrittenCount raw n := by
  simp only [← readCount?_trim_eq_some_iff, Option.eq_none_iff_forall_ne_some]

/-! ## Upper bounds -/

theorem blankFreeEnds_unbounded : BlankFreeEnds "unbounded".toList := by
  constructor <;> simp [isWhiteSpace, whiteSpace, RangeSet.contains]

theorem trim_eq_unbounded_iff (raw : String) :
    trim raw = "unbounded" ↔ Padded raw.toList "unbounded".toList := by
  rw [trim, ← String.toList_inj, String.toList_ofList, dropBlankBoth_eq_iff,
    and_iff_left blankFreeEnds_unbounded]

theorem MaxOccurs.read?_trim_eq_unbounded_iff (raw : String) :
    MaxOccurs.read? (trim raw) = some .unbounded ↔ Padded raw.toList "unbounded".toList := by
  rw [MaxOccurs.read?, ← trim_eq_unbounded_iff]
  by_cases h : trim raw = "unbounded"
  · simp [h]
  · simp [h]

theorem MaxOccurs.read?_trim_eq_count_iff (raw : String) (n : Nat) :
    MaxOccurs.read? (trim raw) = some (.count n) ↔ WrittenCount raw n := by
  rw [MaxOccurs.read?, ← readCount?_trim_eq_some_iff]
  by_cases h : trim raw = "unbounded"
  · have hnone : readCount? "unbounded" = none := by decide
    simp [h, hnone]
  · simp [h]

theorem MaxOccurs.read?_trim_eq_none_iff (raw : String) :
    MaxOccurs.read? (trim raw) = none ↔ ¬Padded raw.toList "unbounded".toList ∧ ∀ n, ¬WrittenCount raw n := by
  rw [← MaxOccurs.read?_trim_eq_unbounded_iff, ← readCount?_trim_eq_none_iff, MaxOccurs.read?]
  by_cases h : trim raw = "unbounded"
  · simp [h]
  · simp [h]

/-! ## Attribute values -/

section ActualValue

variable {α : Type} (convert : String → Option α) (node : Node) (attr : String)

theorem actualValue_eq_ok_none_iff : actualValue convert node attr = .ok none ↔ node.attribute? attr = none := by
  unfold actualValue
  cases node.attribute? attr with
  | none => simp
  | some raw => rcases hc : convert (trim raw) with _ | v <;> simp [hc]

theorem actualValue_eq_ok_some_iff (v : α) : actualValue convert node attr = .ok (some v) ↔
    ∃ raw, node.attribute? attr = some raw ∧ convert (trim raw) = some v := by
  unfold actualValue
  cases node.attribute? attr with
  | none => simp
  | some raw => rcases hc : convert (trim raw) with _ | v <;> simp [hc]

theorem actualValue_eq_error_iff (e : SchemaError) : actualValue convert node attr = .error e ↔
    ∃ raw, node.attribute? attr = some raw ∧ convert (trim raw) = none ∧ e = .invalidValue attr raw := by
  unfold actualValue
  cases node.attribute? attr with
  | none => simp
  | some raw => rcases hc : convert (trim raw) with _ | v <;> simp [hc, eq_comm]

end ActualValue

theorem requiredCount_eq_ok_iff (node : Node) (element attr : String) (n : Nat) :
    requiredCount node element attr = .ok n ↔ actualValue readCount? node attr = .ok (some n) := by
  unfold requiredCount
  cases actualValue readCount? node attr with
  | error e => simp [bind, Except.bind]
  | ok v => cases v <;> simp [bind, Except.bind, pure, Except.pure, throw, throwThe, MonadExceptOf.throw]

/-- A count is, once trimmed, an optional plus sign and decimal digits of value below 2^64; an upper
bound may also be `unbounded`, and any other text is an invalid value quoting the attribute. -/
theorem counts_read_as_trimmed_decimal_digits (node : Node) (element attr : String) :
    (actualValue readCount? node attr = .ok none ↔ node.attribute? attr = none) ∧
    (∀ n, actualValue readCount? node attr = .ok (some n) ↔
      ∃ raw, node.attribute? attr = some raw ∧ WrittenCount raw n) ∧
    (∀ e, actualValue readCount? node attr = .error e ↔
      ∃ raw, node.attribute? attr = some raw ∧ (∀ n, ¬WrittenCount raw n) ∧ e = .invalidValue attr raw) ∧
    (actualValue MaxOccurs.read? node attr = .ok none ↔ node.attribute? attr = none) ∧
    (actualValue MaxOccurs.read? node attr = .ok (some .unbounded) ↔
      ∃ raw, node.attribute? attr = some raw ∧ Padded raw.toList "unbounded".toList) ∧
    (∀ n, actualValue MaxOccurs.read? node attr = .ok (some (.count n)) ↔
      ∃ raw, node.attribute? attr = some raw ∧ WrittenCount raw n) ∧
    (∀ e, actualValue MaxOccurs.read? node attr = .error e ↔
      ∃ raw, node.attribute? attr = some raw ∧ ¬Padded raw.toList "unbounded".toList ∧
        (∀ n, ¬WrittenCount raw n) ∧ e = .invalidValue attr raw) ∧
    (∀ n, requiredCount node element attr = .ok n ↔
      ∃ raw, node.attribute? attr = some raw ∧ WrittenCount raw n) := by
  refine ⟨actualValue_eq_ok_none_iff _ _ _, fun n => ?_, fun e => ?_, actualValue_eq_ok_none_iff _ _ _,
    ?_, fun n => ?_, fun e => ?_, fun n => ?_⟩
  · simp only [actualValue_eq_ok_some_iff, readCount?_trim_eq_some_iff]
  · simp only [actualValue_eq_error_iff, readCount?_trim_eq_none_iff]
  · simp only [actualValue_eq_ok_some_iff, MaxOccurs.read?_trim_eq_unbounded_iff]
  · simp only [actualValue_eq_ok_some_iff, MaxOccurs.read?_trim_eq_count_iff]
  · simp only [actualValue_eq_error_iff, MaxOccurs.read?_trim_eq_none_iff, and_assoc]
  · simp only [requiredCount_eq_ok_iff, actualValue_eq_ok_some_iff, readCount?_trim_eq_some_iff]

/-- The largest count is read with leading zeros, a sign and ideographic spaces around it; one more
is refused, and so is a minus sign even before zero. -/
example : readCount? (trim "\u3000+018446744073709551615 ") = some (2 ^ 64 - 1) ∧
    readCount? (trim "18446744073709551616") = none ∧ readCount? (trim "-0") = none := by
  decide +kernel

end SchemaTypes.Component
