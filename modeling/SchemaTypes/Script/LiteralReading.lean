import SchemaTypes.Script.Literal
set_option autoImplicit false

/-!
Reading literals back: the text a string literal denotes, the members of a union of literal types,
and the name a property key denotes. String literals are read as JSON reads them, which the
declaration language shares, except that an escape naming a surrogate code point is refused. A
union is its members joined by ` | `, each a string literal or a numeral; the empty text is the
union of no members.
-/

namespace SchemaTypes.Script

def hexValue? (c : Char) : Option Nat :=
  if '0' ≤ c ∧ c ≤ '9' then some (c.toNat - '0'.toNat)
  else if 'a' ≤ c ∧ c ≤ 'f' then some (c.toNat - 'a'.toNat + 10)
  else if 'A' ≤ c ∧ c ≤ 'F' then some (c.toNat - 'A'.toNat + 10)
  else none

def hexChar? (a b c d : Char) : Option Char :=
  match hexValue? a, hexValue? b, hexValue? c, hexValue? d with
  | some w, some x, some y, some z =>
    let n := ((w * 16 + x) * 16 + y) * 16 + z
    if n.isValidChar then some (Char.ofNat n) else none
  | _, _, _, _ => none

def escapeValue? : Char → Option Char
  | '"' => some '"'
  | '\\' => some '\\'
  | '/' => some '/'
  | 'b' => some '\x08'
  | 'f' => some '\x0c'
  | 'n' => some '\n'
  | 'r' => some '\r'
  | 't' => some '\t'
  | _ => none

def withFirst (x : Char) : Option (List Char × List Char) → Option (List Char × List Char) :=
  Option.map fun p => (x :: p.1, p.2)

def readBody : List Char → Option (List Char × List Char)
  | [] => none
  | '"' :: r => some ([], r)
  | '\\' :: 'u' :: a :: b :: c :: d :: r =>
    match hexChar? a b c d with
    | some x => withFirst x (readBody r)
    | none => none
  | '\\' :: e :: r =>
    match escapeValue? e with
    | some x => withFirst x (readBody r)
    | none => none
  | ['\\'] => none
  | c :: r => if c.toNat < 0x20 then none else withFirst c (readBody r)

/-- The text that a string literal denotes, if the whole text is one string literal. -/
def decodeLiteral : List Char → Option (List Char)
  | '"' :: r =>
    match readBody r with
    | some (v, []) => some v
    | _ => none
  | _ => none

theorem withFirst_eq_some {x : Char} {o : Option (List Char × List Char)} {v rest : List Char}
    (h : withFirst x o = some (v, rest)) : ∃ v', o = some (v', rest) ∧ v = x :: v' := by
  cases o with
  | none => cases h
  | some p =>
    simp only [withFirst,Option.map_some,Option.some.injEq,Prod.mk.injEq] at h
    exact ⟨p.1,by rw [← h.2],h.1.symm⟩

theorem readBody_length {cs v rest : List Char} (h : readBody cs = some (v, rest)) :
    v.length + rest.length < cs.length := by
  fun_induction readBody cs generalizing v rest with
  | case2 r =>
    simp only [Option.some.injEq,Prod.mk.injEq] at h
    obtain ⟨rfl,rfl⟩ := h
    simp
  | case3 a b c d r x _ ih =>
    obtain ⟨v',hv',rfl⟩ := withFirst_eq_some h
    have := ih hv'
    simp only [List.length_cons]
    omega
  | case5 e r _ x _ ih =>
    obtain ⟨v',hv',rfl⟩ := withFirst_eq_some h
    have := ih hv'
    simp only [List.length_cons]
    omega
  | case9 c r _ _ _ _ _ ih =>
    obtain ⟨v',hv',rfl⟩ := withFirst_eq_some h
    have := ih hv'
    simp only [List.length_cons]
    omega
  | case1 | case4 | case6 | case7 | case8 => cases h

/-- A literal type: a string, or a number written as a numeral. -/
inductive LiteralType where
  | string (value : String)
  | number (numeral : String)
  deriving Repr, DecidableEq

def isNumeralChar (c : Char) : Bool := isDigit c || c == '-' || c == '.'

def readMember : List Char → Option (LiteralType × List Char)
  | '"' :: r => (readBody r).map fun p => (.string (String.ofList p.1), p.2)
  | cs =>
    let numeral := cs.takeWhile isNumeralChar
    if isNumericLiteral (String.ofList numeral) then
      some (.number (String.ofList numeral), cs.dropWhile isNumeralChar)
    else none

theorem readMember_rest_lt {cs rest : List Char} {m : LiteralType}
    (h : readMember cs = some (m, rest)) : rest.length < cs.length := by
  unfold readMember at h
  dsimp only at h
  split at h
  · rename_i r
    obtain ⟨⟨v,rest'⟩,hr,he⟩ := Option.map_eq_some_iff.1 h
    simp only [Prod.mk.injEq] at he
    obtain ⟨-,rfl⟩ := he
    have := readBody_length hr
    simp only [List.length_cons]
    omega
  · split at h
    · rename_i hn
      simp only [Option.some.injEq,Prod.mk.injEq] at h
      obtain ⟨-,rfl⟩ := h
      have hne : cs.takeWhile isNumeralChar ≠ [] := by
        intro he
        rw [he] at hn
        simp [isNumericLiteral,isUnsignedNumber] at hn
      have hsplit := congrArg List.length (List.takeWhile_append_dropWhile (p := isNumeralChar) (l := cs))
      rw [List.length_append] at hsplit
      have := List.length_pos_iff.2 hne
      omega
    · cases h

-- The hypothesis naming the member read is used only by the termination proof.
set_option linter.unusedVariables false in
def readMembers (cs : List Char) : Option (List LiteralType) :=
  match h : readMember cs with
  | some (m, []) => some [m]
  | some (m, ' ' :: '|' :: ' ' :: r) => (m :: ·) <$> readMembers r
  | _ => none
termination_by cs.length
decreasing_by
  have := readMember_rest_lt h
  simp only [List.length_cons] at this
  omega

/-- Reads a union of literal types: its members joined by ` | `. -/
def readUnion : List Char → Option (List LiteralType)
  | [] => some []
  | cs => readMembers cs

/-- The name a property key denotes: a plain name itself, or the text of a string literal. -/
def keyName? (key : String) : Option String :=
  if isPlainName key then some key else (decodeLiteral key.toList).map String.ofList

end SchemaTypes.Script
