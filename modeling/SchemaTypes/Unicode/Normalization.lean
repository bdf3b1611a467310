import SchemaTypes.Unicode.CombiningClass
import SchemaTypes.Unicode.Decomposition
set_option autoImplicit false

/-!
Unicode normalization form C. A text is first decomposed canonically, each character to its full
canonical decomposition, Hangul syllables into their jamo by arithmetic; then each run of marks is
sorted by combining class, marks of one class keeping their order; then each mark is composed with
the last starter when a primary composite exists and no mark of the same or a higher class, nor a
starter, stands between them.
-/

namespace SchemaTypes.Unicode

def hangulFirst : Nat := 0xAC00

def leadingFirst : Nat := 0x1100

def vowelFirst : Nat := 0x1161

def trailingBase : Nat := 0x11A7

def leadingCount : Nat := 19

def vowelCount : Nat := 21

def trailingCount : Nat := 28

def hangulCount : Nat := leadingCount * vowelCount * trailingCount

def isHangulSyllable (n : Nat) : Bool := hangulFirst ≤ n && n < hangulFirst + hangulCount

def hangulJamo (n : Nat) : List Nat :=
  let s := n - hangulFirst
  let l := leadingFirst + s / (vowelCount * trailingCount)
  let v := vowelFirst + s % (vowelCount * trailingCount) / trailingCount
  let t := s % trailingCount
  if t == 0 then [l, v] else [l, v, trailingBase + t]

def decompose (n : Nat) : List Nat :=
  if isHangulSyllable n then hangulJamo n
  else (canonicalDecompositions.get? n).getD [n]

def reorder (cps : List Nat) : List Nat :=
  let flush (out run : List Nat) : List Nat :=
    out ++ run.mergeSort fun a b => combiningClass a ≤ combiningClass b
  let (out, run) := cps.foldl (fun (out, run) c =>
    if combiningClass c == 0 then (flush out run ++ [c], []) else (out, run ++ [c])) ([], [])
  flush out run

def composePair? (a b : Nat) : Option Nat :=
  if leadingFirst ≤ a && a < leadingFirst + leadingCount &&
      vowelFirst ≤ b && b < vowelFirst + vowelCount then
    some (hangulFirst + ((a - leadingFirst) * vowelCount + (b - vowelFirst)) * trailingCount)
  else if isHangulSyllable a && (a - hangulFirst) % trailingCount == 0 &&
      trailingBase < b && b < trailingBase + trailingCount then
    some (a + (b - trailingBase))
  else primaryComposites.get? (a * 0x110000 + b)

/-- What composition has written so far: the output, the index of its last starter, and the
combining class of the last character written. -/
structure Composing where
  out : Array Nat := #[]
  starter : Option Nat := none
  lastClass : Nat := 0

def Composing.push (st : Composing) (c : Nat) : Composing :=
  let cc := combiningClass c
  let written : Composing :=
    { out := st.out.push c
      starter := if cc == 0 then some st.out.size else st.starter
      lastClass := cc }
  match st.starter with
  | some i =>
    if st.lastClass < cc || st.lastClass == 0 then
      match st.out[i]? >>= fun s => composePair? s c with
      | some comp => { st with out := st.out.setIfInBounds i comp }
      | none => written
    else written
  | none => written

def compose (cps : List Nat) : List Nat :=
  (cps.foldl Composing.push {}).out.toList

def nfc (cps : List Nat) : List Nat := compose (reorder (cps.flatMap decompose))

end SchemaTypes.Unicode
