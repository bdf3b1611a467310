set_option autoImplicit false

/-!
Punycode, the encoding of a Unicode label as ASCII letters, digits and hyphens: the
basic code points first, then a hyphen if there were any, then the insertions of the other code
points as generalised variable-length integers with an adapting bias.
-/

namespace SchemaTypes.Url.Punycode

def base : Nat := 36
def tMin : Nat := 1
def tMax : Nat := 26
def skew : Nat := 38
def damp : Nat := 700
def initialBias : Nat := 72
def initialN : Nat := 128

def threshold (k bias : Nat) : Nat :=
  if k ≤ bias then tMin else if k ≥ bias + tMax then tMax else k - bias

def adapt (delta numPoints : Nat) (first : Bool) : Nat :=
  let delta := if first then delta / damp else delta / 2
  let delta := delta + delta / numPoints
  let rec go : Nat → Nat → Nat → Nat
    | 0, d, k => k + (base - tMin + 1) * d / (d + skew)
    | fuel + 1, d, k =>
      if d > ((base - tMin) * tMax) / 2 then go fuel (d / (base - tMin)) (k + base)
      else k + (base - tMin + 1) * d / (d + skew)
  go 64 delta 0

def digitChar (d : Nat) : Char :=
  if d < 26 then Char.ofNat ('a'.toNat + d) else Char.ofNat ('0'.toNat + d - 26)

def digitValue? (c : Char) : Option Nat :=
  if 'a' ≤ c && c ≤ 'z' then some (c.toNat - 'a'.toNat)
  else if 'A' ≤ c && c ≤ 'Z' then some (c.toNat - 'A'.toNat)
  else if '0' ≤ c && c ≤ '9' then some (c.toNat - '0'.toNat + 26)
  else none

def integerDigits (bias : Nat) : Nat → Nat → Nat → List Char
  | 0, _, _ => []
  | fuel + 1, k, q =>
    let t := threshold k bias
    if q < t then [digitChar q]
    else digitChar (t + (q - t) % (base - t)) :: integerDigits bias fuel (k + base) ((q - t) / (base - t))

def encodeRound (input : List Nat) (n b : Nat) :
    List Nat → Nat × Nat × Nat × List Char → Nat × Nat × Nat × List Char
  | [], st => st
  | c :: rest, (delta, h, bias, out) =>
    if c < n then encodeRound input n b rest (delta + 1, h, bias, out)
    else if c == n then
      let digits := integerDigits bias 64 base delta
      encodeRound input n b rest (0, h + 1, adapt delta (h + 1) (h == b), out ++ digits)
    else encodeRound input n b rest (delta, h, bias, out)

/-- Encodes code points. -/
def encode (input : List Nat) : List Char :=
  let basic := input.filter (· < 0x80)
  let b := basic.length
  let start := basic.map Char.ofNat ++ (if b > 0 then ['-'] else [])
  let rec loop : Nat → Nat → Nat → Nat → Nat → List Char → List Char
    | 0, _, _, _, _, out => out
    | fuel + 1, n, delta, h, bias, out =>
      if h ≥ input.length then out
      else
        let m := (input.filter (· ≥ n)).foldl min (input.foldl max 0)
        let delta := delta + (m - n) * (h + 1)
        let (delta, h, bias, out) := encodeRound input m b input (delta, h, bias, out)
        loop fuel (m + 1) (delta + 1) h bias out
  loop (input.length + 1) initialN 0 b initialBias start

def readInteger (bias : Nat) : Nat → Nat → Nat → Nat → List Char → Option (Nat × List Char)
  | 0, _, _, _, _ => none
  | fuel + 1, k, i, w, cs =>
    match cs with
    | [] => none
    | c :: rest => do
      let d ← digitValue? c
      let i := i + d * w
      let t := threshold k bias
      if d < t then some (i, rest)
      else readInteger bias fuel (k + base) i (w * (base - t)) rest

/-- Decodes a label into code points; none if it is not valid punycode. -/
def decode (label : List Char) : Option (List Nat) :=
  -- the basic code points stand before the last hyphen; a hyphen that comes first is not a delimiter
  let (basic, encoded) :=
    match label.reverse.span (· != '-') with
    | (enc, _ :: bas@(_ :: _)) => (bas.reverse, enc.reverse)
    | _ => ([], label)
  if !basic.all (·.toNat < 0x80) then none
  else
    let rec loop : Nat → Nat → Nat → Nat → List Nat → List Char → Option (List Nat)
      | 0, _, _, _, _, _ => none
      | fuel + 1, n, i, bias, out, cs =>
        match cs with
        | [] => some out
        | _ => do
          let (i', rest) ← readInteger bias 64 base i 1 cs
          let len := out.length + 1
          let bias := adapt (i' - i) len (i == 0)
          let n := n + i' / len
          let i := i' % len
          if n > 0x10FFFF || (0xD800 ≤ n && n ≤ 0xDFFF) || n < 0x80 then none
          else loop fuel n (i + 1) bias (out.take i ++ [n] ++ out.drop i) rest
    loop (encoded.length + 1) initialN 0 initialBias (basic.map Char.toNat) encoded

end SchemaTypes.Url.Punycode
