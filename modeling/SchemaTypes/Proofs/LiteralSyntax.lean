import SchemaTypes.Script.LiteralReading
import SchemaTypes.Component.Render
set_option autoImplicit false

/-!
String literals, unions of literal types and property keys read back as what they were written
from. Every character of a text is written so that the literal reader gives it back
(`readBody_escapeChar`), so a string literal decodes to its text and no two texts share one
(`decodeLiteral_stringLiteral`). A union of literal types reads as the string of each value, each
followed by the number when the value is a numeral of the pattern `-?(0|[1-9][0-9]*)(\.[0-9]+)?`
(`readUnion_literalUnion`, `isNumericLiteral_iff`). A property key denotes its name
(`keyName?_propertyName`), except where a property line keeps a name that starts with a double
quote as it is: such a key denotes no name at all (`keyName?_ne_of_quoted`).
-/

namespace SchemaTypes.Script

/-! ## Escapes -/

theorem hex4_of_control : ∀ n < 0x20,
    hex4 n = ['0', '0', Nat.digitChar (n / 16), Nat.digitChar (n % 16)] := by
  decide

theorem hexChar?_control : ∀ n < 0x20,
    hexChar? '0' '0' (Nat.digitChar (n / 16)) (Nat.digitChar (n % 16)) = some (Char.ofNat n) := by
  decide

theorem printable_hex4_control : ∀ n < 0x20, ∀ x ∈ hex4 n, 0x20 ≤ x.toNat := by
  intro n hn x hx
  rw [hex4_of_control n hn] at hx
  have hdigit : ∀ d < 16, 0x20 ≤ (Nat.digitChar d).toNat := by decide
  simp only [List.mem_cons,List.not_mem_nil,or_false] at hx
  rcases hx with rfl | rfl | rfl | rfl
  · decide
  · decide
  · exact hdigit _ (by omega)
  · exact hdigit _ (Nat.mod_lt _ (by decide))

theorem readBody_plain {c : Char} (hq : c ≠ '"') (hb : c ≠ '\\') (hc : ¬c.toNat < 0x20)
    (r : List Char) : readBody (c :: r) = withFirst c (readBody r) := by
  rw [readBody.eq_6 c r hq (fun _ _ _ _ _ h _ => hb h) (fun _ _ h _ => hb h) (fun h _ => hb h),
    if_neg hc]

theorem readBody_escapeChar (c : Char) (r : List Char) :
    readBody (escapeChar c ++ r) = withFirst c (readBody r) := by
  unfold escapeChar
  split
  · rfl
  · rfl
  · rfl
  · rfl
  · rfl
  · rename_i hq hb _ _ _
    split
    · rename_i hc
      rw [hex4_of_control _ hc]
      simp only [List.cons_append,List.nil_append,readBody,hexChar?_control _ hc,Char.ofNat_toNat]
    · exact readBody_plain hq hb ‹_› r

theorem printable_escapeChar (c : Char) : ∀ x ∈ escapeChar c, 0x20 ≤ x.toNat := by
  unfold escapeChar
  split
  · simp
  · simp
  · simp
  · simp
  · simp
  split
  · rename_i hc
    intro x hx
    rcases List.mem_cons.1 hx with rfl | hx
    · decide
    rcases List.mem_cons.1 hx with rfl | hx
    · decide
    exact printable_hex4_control _ hc x hx
  · rename_i hc
    simp only [List.mem_singleton,forall_eq]
    omega

/-! ## String literals -/

theorem readBody_escaped : ∀ (cs rest : List Char),
    readBody (cs.flatMap escapeChar ++ '"' :: rest) = some (cs, rest)
  | [], rest => rfl
  | c :: cs, rest => by
    rw [List.flatMap_cons,List.append_assoc,readBody_escapeChar,readBody_escaped cs rest]
    rfl

theorem decodeLiteral_quoteChars (cs : List Char) : decodeLiteral (quoteChars cs) = some cs := by
  simp [quoteChars,decodeLiteral,readBody_escaped]

theorem decodeLiteral_stringLiteral (s : String) : decodeLiteral (stringLiteral s).toList = some s.toList := by
  rw [stringLiteral,String.toList_ofList,decodeLiteral_quoteChars]

theorem stringLiteral_injective : Function.Injective stringLiteral := by
  intro s t h
  have hd := decodeLiteral_stringLiteral s
  rw [h,decodeLiteral_stringLiteral t,Option.some.injEq] at hd
  exact String.toList_inj.1 hd.symm

theorem printable_stringLiteral (s : String) : ∀ x ∈ (stringLiteral s).toList, 0x20 ≤ x.toNat := by
  intro x hx
  rw [stringLiteral,String.toList_ofList,quoteChars] at hx
  rcases List.mem_cons.1 hx with rfl | hx
  · decide
  rcases List.mem_append.1 hx with hx | hx
  · obtain ⟨c,-,hc⟩ := List.mem_flatMap.1 hx
    exact printable_escapeChar c x hc
  · rw [List.mem_singleton.1 hx]
    decide

theorem length_lt_of_decodeLiteral {t v : List Char} (h : decodeLiteral t = some v) :
    v.length < t.length := by
  unfold decodeLiteral at h
  split at h
  · rename_i r
    split at h
    · rename_i v' hr
      cases h
      have := readBody_length hr
      simp only [List.length_cons]
      omega
    · cases h
  · cases h

/-! ## Numerals -/

def IsWholePart (ds : List Char) : Prop :=
  ds = ['0'] ∨ ∃ d r, ds = d :: r ∧ isDigit d = true ∧ d ≠ '0' ∧ ∀ x ∈ r, isDigit x = true

def IsFractionPart (ds : List Char) : Prop :=
  ds = [] ∨ ∃ r, ds = '.' :: r ∧ r ≠ [] ∧ ∀ x ∈ r, isDigit x = true

/-- The texts of the pattern `-?(0|[1-9][0-9]*)(\.[0-9]+)?`: an optional minus sign, an integer
part without leading zeros and an optional fraction. -/
def IsNumeral (cs : List Char) : Prop :=
  ∃ sign whole fraction, cs = sign ++ whole ++ fraction ∧ (sign = [] ∨ sign = ['-']) ∧
    IsWholePart whole ∧ IsFractionPart fraction

theorem IsWholePart.head {ds : List Char} (h : IsWholePart ds) :
    ∃ d r, ds = d :: r ∧ isDigit d = true ∧ ∀ x ∈ r, isDigit x = true := by
  rcases h with rfl | ⟨d,r,rfl,hd,-,hr⟩
  · exact ⟨'0',[],rfl,by decide,by simp⟩
  · exact ⟨d,r,rfl,hd,hr⟩

theorem IsFractionPart.dropWhile_isDigit {ds : List Char} (h : IsFractionPart ds) :
    ds.dropWhile isDigit = ds := by
  rcases h with rfl | ⟨r,rfl,-,-⟩
  · rfl
  · exact List.dropWhile_cons_of_neg (by decide)

theorem isFractionOrEnd_iff (ds : List Char) : isFractionOrEnd ds = true ↔ IsFractionPart ds := by
  cases ds with
  | nil => simp [isFractionOrEnd,IsFractionPart]
  | cons c r =>
    by_cases hc : c = '.'
    · subst hc
      simp [isFractionOrEnd,IsFractionPart,List.all_eq_true]
    · rw [isFractionOrEnd.eq_3 _ (by simp) (fun r' h => hc (List.cons.inj h).1)]
      simp [IsFractionPart,hc]

theorem isUnsignedNumber_iff (cs : List Char) : isUnsignedNumber cs = true ↔
    ∃ whole fraction, cs = whole ++ fraction ∧ IsWholePart whole ∧ IsFractionPart fraction := by
  cases cs with
  | nil =>
    simp only [isUnsignedNumber,Bool.false_eq_true,false_iff,not_exists,not_and]
    intro whole fraction h hw
    obtain ⟨d,r,rfl,-⟩ := hw.head
    simp at h
  | cons c r =>
    by_cases hc : c = '0'
    · subst hc
      rw [isUnsignedNumber,isFractionOrEnd_iff]
      constructor
      · intro hf
        exact ⟨['0'],r,rfl,.inl rfl,hf⟩
      · rintro ⟨whole,fraction,h,hw,hf⟩
        rcases hw with rfl | ⟨d,w,rfl,-,hd,-⟩
        · simp only [List.cons_append,List.nil_append,List.cons.injEq,true_and] at h
          rwa [h]
        · simp only [List.cons_append,List.cons.injEq] at h
          exact absurd h.1.symm hd
    · rw [isUnsignedNumber.eq_2 c r hc,Bool.and_eq_true,isFractionOrEnd_iff]
      constructor
      · rintro ⟨hd,hf⟩
        refine ⟨c :: r.takeWhile isDigit,r.dropWhile isDigit,by simp,.inr ⟨c,_,rfl,hd,hc,?_⟩,hf⟩
        exact List.all_eq_true.1 List.all_takeWhile
      · rintro ⟨whole,fraction,h,hw,hf⟩
        rcases hw with rfl | ⟨d,w,rfl,hd,-,hw⟩
        · simp only [List.cons_append,List.cons.injEq] at h
          exact absurd h.1 hc
        · simp only [List.cons_append,List.cons.injEq] at h
          obtain ⟨rfl,rfl⟩ := h
          rw [List.dropWhile_append_of_pos hw,hf.dropWhile_isDigit]
          exact ⟨hd,hf⟩

theorem isNumericLiteral_iff (cs : List Char) : isNumericLiteral (String.ofList cs) = true ↔ IsNumeral cs := by
  unfold isNumericLiteral
  rw [String.toList_ofList]
  split
  · rename_i r
    rw [isUnsignedNumber_iff]
    constructor
    · rintro ⟨whole,fraction,rfl,hw,hf⟩
      exact ⟨['-'],whole,fraction,rfl,.inr rfl,hw,hf⟩
    · rintro ⟨sign,whole,fraction,h,hs,hw,hf⟩
      rcases hs with rfl | rfl
      · obtain ⟨d,w,rfl,hd,-⟩ := hw.head
        simp only [List.nil_append,List.cons_append,List.cons.injEq] at h
        rw [← h.1] at hd
        exact absurd hd (by decide)
      · simp only [List.cons_append,List.nil_append,List.cons.injEq,true_and] at h
        exact ⟨whole,fraction,h,hw,hf⟩
  · rename_i hneg
    rw [isUnsignedNumber_iff]
    constructor
    · rintro ⟨whole,fraction,rfl,hw,hf⟩
      exact ⟨[],whole,fraction,rfl,.inl rfl,hw,hf⟩
    · rintro ⟨sign,whole,fraction,rfl,hs,hw,hf⟩
      rcases hs with rfl | rfl
      · exact ⟨whole,fraction,rfl,hw,hf⟩
      · exact absurd rfl (hneg (whole ++ fraction))

instance : DecidablePred IsNumeral := fun cs => decidable_of_iff _ (isNumericLiteral_iff cs)

theorem IsNumeral.numeralChars {cs : List Char} (h : IsNumeral cs) : ∀ c ∈ cs, isNumeralChar c = true := by
  obtain ⟨sign,whole,fraction,rfl,hs,hw,hf⟩ := h
  obtain ⟨d,w,rfl,hd,hw⟩ := hw.head
  intro c hc
  simp only [List.mem_append,List.mem_cons] at hc
  rcases hc with (hc | rfl | hc) | hc
  · rcases hs with rfl | rfl
    · simp at hc
    · rw [List.mem_singleton.1 hc]
      decide
  · simp [isNumeralChar,hd]
  · simp [isNumeralChar,hw c hc]
  · rcases hf with rfl | ⟨r,rfl,-,hr⟩
    · simp at hc
    · rcases List.mem_cons.1 hc with rfl | hc
      · decide
      · simp [isNumeralChar,hr c hc]

theorem IsNumeral.append_ne_quote {cs : List Char} (h : IsNumeral cs) (rest : List Char) :
    ∀ r, cs ++ rest = '"' :: r → False := by
  intro r hr
  cases cs with
  | nil =>
    obtain ⟨sign,whole,fraction,h0,-,hw,-⟩ := h
    obtain ⟨d,w,rfl,-⟩ := hw.head
    simp at h0
  | cons c cs =>
    rw [List.cons_append,List.cons.injEq] at hr
    have := h.numeralChars c List.mem_cons_self
    rw [hr.1] at this
    exact absurd this (by decide)

/-! ## Unions of literal types -/

def FollowsMember (rest : List Char) : Prop :=
  rest = [] ∨ ∃ r, rest = ' ' :: '|' :: ' ' :: r

theorem FollowsMember.not_numeralChar {rest : List Char} (h : FollowsMember rest) :
    ∀ c ∈ rest.head?, isNumeralChar c = false := by
  rcases h with rfl | ⟨r,rfl⟩
  · simp
  · simp only [List.head?_cons,Option.mem_def,Option.some.injEq]
    rintro c rfl
    decide

theorem readMember_stringLiteral (v : String) (rest : List Char) :
    readMember ((stringLiteral v).toList ++ rest) = some (.string v, rest) := by
  simp only [stringLiteral,quoteChars,String.toList_ofList,List.cons_append,List.append_assoc,
    List.nil_append,readMember,readBody_escaped,Option.map_some,String.ofList_toList]

theorem readMember_numeral {v : String} (hv : IsNumeral v.toList) {rest : List Char}
    (hrest : ∀ c ∈ rest.head?, isNumeralChar c = false) :
    readMember (v.toList ++ rest) = some (.number v, rest) := by
  have hstop : rest.takeWhile isNumeralChar = [] ∧ rest.dropWhile isNumeralChar = rest := by
    cases rest with
    | nil => exact ⟨rfl,rfl⟩
    | cons c r =>
      have hc := hrest c rfl
      exact ⟨List.takeWhile_cons_of_neg (by simp [hc]),List.dropWhile_cons_of_neg (by simp [hc])⟩
  have hlit : isNumericLiteral v = true := by
    rw [← String.ofList_toList (s := v)]
    exact (isNumericLiteral_iff v.toList).2 hv
  rw [readMember.eq_2 _ (hv.append_ne_quote rest),List.takeWhile_append_of_pos hv.numeralChars,
    List.dropWhile_append_of_pos hv.numeralChars,hstop.1,hstop.2,List.append_nil,
    String.ofList_toList,if_pos hlit]

theorem readMembers_last {cs : List Char} {m : LiteralType} (h : readMember cs = some (m, [])) :
    readMembers cs = some [m] := by
  rw [readMembers]
  split <;> simp_all

theorem readMembers_bar {cs r : List Char} {m : LiteralType}
    (h : readMember cs = some (m, ' ' :: '|' :: ' ' :: r)) :
    readMembers cs = (m :: ·) <$> readMembers r := by
  rw [readMembers]
  split <;> simp_all

theorem intercalate_ne_nil {sep l : List Char} (ls : List (List Char)) (h : l ≠ []) :
    sep.intercalate (l :: ls) ≠ [] := by
  cases ls with
  | nil => simpa using h
  | cons l' ls => simp [List.intercalate_cons_cons,h]

theorem readMembers_intercalate : ∀ (ps : List (String × LiteralType)), ps ≠ [] →
    (∀ p ∈ ps, ∀ rest, FollowsMember rest → readMember (p.1.toList ++ rest) = some (p.2, rest)) →
    readMembers ([' ', '|', ' '].intercalate (ps.map (·.1.toList))) = some (ps.map (·.2))
  | [], hne, _ => absurd rfl hne
  | [p], _, hp => by
    have h := hp p (by simp) [] (.inl rfl)
    rw [List.append_nil] at h
    simpa using readMembers_last h
  | p :: q :: ps, _, hp => by
    let rest := [' ', '|', ' '].intercalate ((q :: ps).map (·.1.toList))
    have h := hp p (by simp) (' ' :: '|' :: ' ' :: rest) (.inr ⟨_,rfl⟩)
    have htext : [' ', '|', ' '].intercalate ((p :: q :: ps).map (·.1.toList)) =
        p.1.toList ++ ' ' :: '|' :: ' ' :: rest := by
      simp only [rest,List.map_cons,List.intercalate_cons_cons,List.append_assoc,List.cons_append,
        List.nil_append]
    rw [htext,readMembers_bar h,
      readMembers_intercalate (q :: ps) (by simp) fun p' hp' => hp p' (List.mem_cons_of_mem _ hp')]
    rfl

theorem readUnion_literalUnion (vs : List String) :
    readUnion (literalUnion vs).toList =
      some (vs.flatMap fun v => .string v :: if IsNumeral v.toList then [.number v] else []) := by
  let ps : List (String × LiteralType) := vs.flatMap fun v =>
    (stringLiteral v, .string v) :: if IsNumeral v.toList then [(v, .number v)] else []
  have hnum : ∀ v : String, isNumericLiteral v = decide (IsNumeral v.toList) := by
    intro v
    rw [Bool.eq_iff_iff,decide_eq_true_iff,← isNumericLiteral_iff,String.ofList_toList]
  have hfst : (ps.map (·.1)) = unionMembers vs := by
    simp only [ps,unionMembers,List.map_flatMap,hnum]
    congr
    funext v
    split <;> simp_all
  have hsnd : (ps.map (·.2)) = vs.flatMap fun v => .string v :: if IsNumeral v.toList then [.number v] else [] := by
    simp only [ps,List.map_flatMap]
    congr
    funext v
    split <;> simp
  have hreads : ∀ p ∈ ps, ∀ rest, FollowsMember rest → readMember (p.1.toList ++ rest) = some (p.2, rest) := by
    intro p hp rest hrest
    obtain ⟨v,-,hv⟩ := List.mem_flatMap.1 hp
    rcases List.mem_cons.1 hv with rfl | hv
    · exact readMember_stringLiteral v rest
    · split at hv
      · rw [List.mem_singleton.1 hv]
        exact readMember_numeral ‹_› hrest.not_numeralChar
      · simp at hv
  cases vs with
  | nil => rfl
  | cons v vs =>
    have htext : (literalUnion (v :: vs)).toList = [' ', '|', ' '].intercalate (ps.map (·.1.toList)) := by
      rw [literalUnion,← hfst,String.toList_intercalate,List.map_map]
      rfl
    have hne : [' ', '|', ' '].intercalate (ps.map (·.1.toList)) ≠ [] := by
      simp only [ps,List.flatMap_cons,List.cons_append,List.map_cons]
      exact intercalate_ne_nil _ (by simp [stringLiteral,quoteChars])
    rw [htext,readUnion.eq_2 _ hne,readMembers_intercalate ps (by simp [ps]) hreads,hsnd]

/-! ## Property keys -/

theorem head_stringLiteral (s : String) : (stringLiteral s).toList.head? = some '"' := by
  simp [stringLiteral,quoteChars]

theorem isPlainName_of_quoted {s : String} (h : s.toList.head? = some '"') : isPlainName s = false := by
  unfold isPlainName
  split
  · rename_i c r hs
    rw [hs,List.head?_cons,Option.some.injEq] at h
    rw [h]
    rfl
  · rfl

theorem stringLiteral_ne_self (s : String) : stringLiteral s ≠ s := by
  intro h
  have := length_lt_of_decodeLiteral (decodeLiteral_stringLiteral s)
  rw [h] at this
  exact Nat.lt_irrefl _ this

theorem keyName?_propertyName (n : String) : keyName? (propertyName n) = some n := by
  unfold propertyName
  split
  · rename_i hp
    simp [keyName?,hp]
  · rw [keyName?,isPlainName_of_quoted (head_stringLiteral n),decodeLiteral_stringLiteral]
    simp [String.ofList_toList]

theorem keyName?_ne_of_quoted {n : String} (h : n.toList.head? = some '"') : keyName? n ≠ some n := by
  rw [keyName?,isPlainName_of_quoted h]
  intro hk
  obtain ⟨v,hv,hvn⟩ := Option.map_eq_some_iff.1 hk
  have := length_lt_of_decodeLiteral hv
  rw [← hvn,String.toList_ofList] at this
  exact Nat.lt_irrefl _ this

/-! ## Main statements -/

/-- A rendering environment where nothing is registered. -/
def unregisteredEnv : Component.RenderEnv where
  config := {}
  naming := {}
  typeIdentifier? := fun _ => none
  element? := fun _ => none
  attribute? := fun _ => none
  elementCount := 0


/-- String literals read back as their text, and a union of literal types as its values, each numeral
also as the number it writes. -/
theorem string_literals_and_unions_read_back :
    (∀ s : String, decodeLiteral (stringLiteral s).toList = some s.toList ∧
      ∀ c ∈ (stringLiteral s).toList, 0x20 ≤ c.toNat) ∧
    Function.Injective stringLiteral ∧
    (∀ vs : List String, readUnion (literalUnion vs).toList =
      some (vs.flatMap fun v => .string v :: if IsNumeral v.toList then [.number v] else [])) ∧
    ∀ (env : Component.RenderEnv) (t : Component.SimpleType), t.facets.enumeration ≠ [] →
      readUnion (t.renderExpr env).toList = some (t.facets.enumeration.flatMap fun e =>
        .string e.value :: if IsNumeral e.value.toList then [.number e.value] else []) := by
  refine ⟨fun s => ⟨decodeLiteral_stringLiteral s,printable_stringLiteral s⟩,stringLiteral_injective,
    readUnion_literalUnion,fun env t ht => ?_⟩
  rw [Component.SimpleType.renderExpr,if_neg (by simpa using ht),readUnion_literalUnion,List.flatMap_map]

/-- A text with a control character and a quote, and a union of a numeral and a word, read back. -/
theorem controlText_and_numeralUnion_read_back :
    decodeLiteral (stringLiteral "a\"\x01").toList = some "a\"\x01".toList ∧
    readUnion (literalUnion ["1", "x"]).toList = some [.string "1", .number "1", .string "x"] ∧
    readUnion ((⟨"Level", .anySimpleType, { enumeration := [⟨"1", none⟩, ⟨"x", none⟩] }, none⟩ :
      Component.SimpleType).renderExpr unregisteredEnv).toList =
      some [.string "1", .number "1", .string "x"] := by
  obtain ⟨hlit,-,hunion,henum⟩ := string_literals_and_unions_read_back
  refine ⟨(hlit _).1,?_,?_⟩
  · rw [hunion]
    decide
  · rw [henum _ _ (by decide)]
    decide

/-- The key of a property line denotes its name unless the name starts with a double quote. -/
theorem property_keys_denote_names_without_a_leading_quote (depth : Nat) (n : String)
    (optional : Bool) (type : String) :
    ∃ key, field depth n optional type =
        indent depth ++ key ++ (if optional then "?" else "") ++ ": " ++ type ++ ";\n" ∧
      (n.toList.head? ≠ some '"' → keyName? key = some n ∧ (key = n ↔ isPlainName n = true) ∧
        (isPlainName n = false → key = stringLiteral n)) ∧
      (n.toList.head? = some '"' → key = n ∧ keyName? key ≠ some n) := by
  refine ⟨if n.toList.head? = some '"' then n else propertyName n,rfl,fun hq => ?_,fun hq => ?_⟩
  · rw [if_neg hq]
    refine ⟨keyName?_propertyName n,?_,fun hp => by simp [propertyName,hp]⟩
    unfold propertyName
    split
    · rename_i hp
      simp [hp]
    · rename_i hp
      simp [hp,stringLiteral_ne_self]
  · rw [if_pos hq]
    exact ⟨rfl,keyName?_ne_of_quoted hq⟩

/-- An element named `"a` renders as a property whose key is its name as written: not the string
literal of the name, and no key that denotes any name. -/
theorem quotedElementName_is_written_raw :
    Component.ElementDecl.fieldWith unregisteredEnv (Component.referenceField unregisteredEnv 0) 1
        ⟨1, .count 1⟩ true (.mk "\"a" (.named ⟨none, "x"⟩) ⟨1, .count 1⟩ none) =
      .ok ("  " ++ "\"a" ++ ": unknown;\n") ∧
    isPlainName "\"a" = false ∧ stringLiteral "\"a" = "\"\\\"a\"" ∧ keyName? "\"a" = none := by
  refine ⟨rfl,by decide,by decide,by decide⟩

end SchemaTypes.Script
