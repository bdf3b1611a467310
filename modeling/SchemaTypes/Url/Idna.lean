import SchemaTypes.Url.Punycode
import SchemaTypes.Url.IdnaMapping
import SchemaTypes.Unicode.Normalization
import SchemaTypes.Unicode.BidiClass
import SchemaTypes.Unicode.JoiningType
import SchemaTypes.Unicode.Mark
set_option autoImplicit false

/-!
Mapping a domain to ASCII by Unicode Technical Standard 46, with non-transitional processing,
hyphens unchecked, the joiner and bidi rules checked, the STD3 rules off and DNS lengths unchecked.
The domain is mapped code point by code point (dropped, replaced or refused), normalized to form C
and cut into labels at full stops. A label written `xn--` and punycode must be ASCII, at most 2000
characters after its prefix, and decode to a label that is not all ASCII; every label, decoded, must
then be valid: in form C, not starting with a mark, of valid code points only, with its joiners
where they may stand, and, in a domain with right-to-left characters, keeping the bidi rule. Labels
that are not ASCII, at most 1000 code points long, are written as `xn--` and their punycode.
-/

namespace SchemaTypes.Url

open SchemaTypes.Unicode

def mapCodePoint (n : Nat) : Option (List Nat) :=
  match idnaRules.find? n with
  | none => some [n]
  | some (_, _, .ignored) => some []
  | some (_, _, .disallowed) => none
  | some (a, _, .shift step offset) =>
    if (n - a) % step == 0 then some [Int.toNat (n + offset)] else some [n]
  | some (_, _, .replace cps) => some cps

def isValidCodePoint (n : Nat) : Bool :=
  match idnaRules.find? n with
  | none => true
  | some (a, _, .shift step _) => (n - a) % step != 0
  | some _ => false

def acePrefix : List Nat := "xn--".toList.map Char.toNat

def zeroWidthNonJoiner : Nat := 0x200C

def zeroWidthJoiner : Nat := 0x200D

def viramaClass : Nat := 9

def followsVirama (before : List Nat) : Bool :=
  match before with
  | b :: _ => combiningClass b == viramaClass
  | [] => false

def joinsAcross (cps : List Nat) (types : List JoiningType) : Bool :=
  match (cps.dropWhile fun c => joiningType c == .transparent).head? with
  | some c => types.contains (joiningType c)
  | none => false

def joinersAllowed : List Nat → List Nat → Bool
  | _, [] => true
  | before, c :: after =>
    let here :=
      if c == zeroWidthJoiner then followsVirama before
      else if c == zeroWidthNonJoiner then
        followsVirama before ||
          (joinsAcross before [.leftJoining, .dualJoining] &&
            joinsAcross after [.rightJoining, .dualJoining])
      else true
    here && joinersAllowed (c :: before) after

def isRightToLeftClass : BidiClass → Bool
  | .rightToLeft | .arabicLetter | .arabicNumber => true
  | _ => false

def leftToRightClasses : List BidiClass :=
  [.leftToRight, .europeanNumber, .europeanSeparator, .commonSeparator, .europeanTerminator,
    .otherNeutral, .boundaryNeutral, .nonspacingMark]

def rightToLeftClasses : List BidiClass :=
  [.rightToLeft, .arabicLetter, .arabicNumber, .europeanNumber, .europeanSeparator,
    .commonSeparator, .europeanTerminator, .otherNeutral, .boundaryNeutral, .nonspacingMark]

def keepsBidiRule (label : List Nat) : Bool :=
  let classes := label.map bidiClass
  let last := (classes.reverse.dropWhile (· == .nonspacingMark)).head?
  match classes with
  | [] => true
  | first :: rest =>
    if first == .leftToRight then
      rest.all leftToRightClasses.contains &&
        (last == some .leftToRight || last == some .europeanNumber)
    else if first == .rightToLeft || first == .arabicLetter then
      rest.all rightToLeftClasses.contains &&
        [BidiClass.rightToLeft, .arabicLetter, .europeanNumber, .arabicNumber].any (some · == last) &&
        !(rest.contains .europeanNumber && rest.contains .arabicNumber)
    else false

def isValidLabel (label : List Nat) : Bool :=
  nfc label == label &&
    !label.contains '.'.toNat &&
    !(label.head?.any isMark) &&
    label.all isValidCodePoint &&
    joinersAllowed [] label

def maxDecodeLength : Nat := 2000

def maxEncodeLength : Nat := 1000

def decodeLabel? (label : List Nat) : Option (List Nat) :=
  if label.take 4 == acePrefix then
    if label.any (· ≥ 0x80) || label.length - 4 > maxDecodeLength then none
    else do
      let decoded ← Punycode.decode ((label.drop 4).map Char.ofNat)
      if decoded.isEmpty || decoded.all (· < 0x80) then none else some decoded
  else some label

def labelToAscii? (label : List Nat) : Option (List Char) :=
  if label.all (· < 0x80) then some (label.map Char.ofNat)
  else if label.length > maxEncodeLength then none
  else some (['x', 'n', '-', '-'] ++ Punycode.encode label)

/-- The ASCII form of a domain; none if it is not a valid domain. -/
def domainToAscii? (domain : List Char) : Option (List Char) := do
  let mapped := (← domain.mapM fun c => mapCodePoint c.toNat).flatten
  let labels := (nfc mapped).splitOn '.'.toNat
  let decoded ← labels.mapM decodeLabel?
  if !decoded.all isValidLabel then none
  if decoded.any (·.any fun c => isRightToLeftClass (bidiClass c)) && !decoded.all keepsBidiRule then none
  let ascii ← decoded.mapM labelToAscii?
  return (ascii.intersperse ['.']).flatten

end SchemaTypes.Url
