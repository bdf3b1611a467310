import SchemaTypes.Url.PercentEncode
import SchemaTypes.Url.Idna
set_option autoImplicit false

/-!
Hosts of web addresses. A host in brackets is an IPv6 address. A host of a special scheme is
percent-decoded, mapped to ASCII by IDNA, checked for forbidden code points, and read as an IPv4
address when its last label is a number; any other host is kept as an opaque text, percent-encoded.
Addresses are written in their canonical form: IPv4 as four decimal numbers, IPv6 in lowercase
hexadecimal with the first longest run of zero pieces compressed.
-/

namespace SchemaTypes.Url

def forbiddenHostChars : List Char :=
  ['\x00', '\t', '\n', '\r', ' ', '#', '/', ':', '<', '>', '?', '@', '[', '\\', ']', '^', '|']

def isForbiddenDomainChar (c : Char) : Bool :=
  forbiddenHostChars.contains c || c.toNat < 0x20 || c == '%' || c.toNat == 0x7F

def isDigitChar (c : Char) : Bool := '0' ≤ c && c ≤ '9'

def radixValue? (radix : Nat) (cs : List Char) : Option Nat :=
  cs.foldlM (fun acc c => do
    let d ← hexValue? c
    if d < radix then some (acc * radix + d) else none) 0

def ipv4Number? (part : List Char) : Option Nat :=
  match part with
  | [] => none
  | '0' :: 'x' :: r | '0' :: 'X' :: r => if r.isEmpty then some 0 else radixValue? 16 r
  | '0' :: r@(_ :: _) => radixValue? 8 r
  | r => radixValue? 10 r

def endsInNumber (domain : List Char) : Bool :=
  let parts := domain.splitOn '.'
  let parts := if parts.getLast? == some [] && parts.length > 1 then parts.dropLast else parts
  match parts.getLast? with
  | some last => (!last.isEmpty && last.all isDigitChar) || (ipv4Number? last).isSome
  | none => false

def parseIpv4? (domain : List Char) : Option Nat := do
  let parts := domain.splitOn '.'
  let parts := if parts.getLast? == some [] && parts.length > 1 then parts.dropLast else parts
  if parts.length > 4 then none
  let numbers ← parts.mapM ipv4Number?
  let front := numbers.dropLast
  let last := numbers.getLast?.getD 0
  if front.any (· > 255) then none
  if last ≥ Nat.pow 256 (5 - numbers.length) then none
  let value := front.zipIdx.foldl (fun acc (n, i) => acc + n * Nat.pow 256 (3 - i)) last
  return value

def serializeIpv4 (n : Nat) : String :=
  ".".intercalate ([n / 16777216 % 256, n / 65536 % 256, n / 256 % 256, n % 256].map toString)

def setPiece (pieces : List Nat) (i v : Nat) : List Nat := pieces.set i v

def ipv4Tail (pieces : List Nat) (index : Nat) : Nat → Nat → List Char → Option (List Nat × Nat)
  | 0, _, _ => none
  | fuel + 1, seen, cs =>
    match cs with
    | [] => if seen == 4 then some (pieces, index) else none
    | _ => do
      let cs ← if seen > 0 then
          (match cs with
            | '.' :: r => if seen < 4 then some r else none
            | _ => none)
        else some cs
      let (ds, rest) := cs.span isDigitChar
      if ds.isEmpty then none
      if ds.length > 1 && ds.head? == some '0' then none
      let v := ds.foldl (fun a d => a * 10 + (d.toNat - '0'.toNat)) 0
      if v > 255 then none
      let pieces := setPiece pieces index (pieces.getD index 0 * 256 + v)
      let seen := seen + 1
      let index := if seen == 2 || seen == 4 then index + 1 else index
      ipv4Tail pieces index fuel seen rest

def ipv6Pieces : Nat → List Nat → Nat → Option Nat → List Char → Option (List Nat × Nat × Option Nat)
  | 0, _, _, _, _ => none
  | fuel + 1, pieces, index, compress, cs =>
    match cs with
    | [] => some (pieces, index, compress)
    | _ =>
      if index == 8 then none
      else
        match cs with
        | ':' :: rest =>
          if compress.isSome then none else ipv6Pieces fuel pieces (index + 1) (some (index + 1)) rest
        | _ =>
          let (hex, _) := cs.span (fun c => (hexValue? c).isSome)
          let hex := hex.take 4
          let rest := cs.drop hex.length
          let value := hex.foldl (fun a d => a * 16 + (hexValue? d).getD 0) 0
          match rest with
          | '.' :: _ =>
            if hex.isEmpty || index > 6 then none
            else
              match ipv4Tail pieces index (cs.length + 1) 0 cs with
              | some (pieces, index) => some (pieces, index, compress)
              | none => none
          | ':' :: [] => none
          | ':' :: r => ipv6Pieces fuel (setPiece pieces index value) (index + 1) compress r
          | [] => some (setPiece pieces index value, index + 1, compress)
          | _ => none

def parseIpv6? (cs : List Char) : Option (List Nat) := do
  let (pieces, index, compress, rest) ←
    match cs with
    | ':' :: ':' :: r => some (List.replicate 8 0, 1, some 1, r)
    | ':' :: _ => none
    | r => some (List.replicate 8 0, 0, none, r)
  let (pieces, index, compress) ← ipv6Pieces (rest.length + 2) pieces index compress rest
  match compress with
  | some c =>
    -- move the pieces after the compression to the end
    let moved := pieces.take index
    let before := moved.take c
    let after := moved.drop c
    some (before ++ List.replicate (8 - before.length - after.length) 0 ++ after)
  | none => if index == 8 then some pieces else none

def longestZeroRun (pieces : List Nat) : Option (Nat × Nat) :=
  let (best, _, _) := pieces.zipIdx.foldl (fun (best, start, len) (p, i) =>
    if p == 0 then
      let start := if len == 0 then i else start
      let len := len + 1
      let best := match best with
        | some (_, l) => if len > l then some (start, len) else best
        | none => some (start, len)
      (best, start, len)
    else (best, start, 0)) ((none : Option (Nat × Nat)), 0, 0)
  match best with
  | some (s, l) => if l > 1 then some (s, l) else none
  | none => none

def serializeIpv6 (pieces : List Nat) : String :=
  let hex (n : Nat) : String := String.ofList (Nat.toDigits 16 n)
  match longestZeroRun pieces with
  | none => ":".intercalate (pieces.map hex)
  | some (s, l) =>
    ":".intercalate ((pieces.take s).map hex) ++ "::" ++ ":".intercalate ((pieces.drop (s + l)).map hex)

/-- Reads a host; `special` tells whether the scheme is special. Gives the serialised host. -/
def parseHost? (input : List Char) (special : Bool) : Option String :=
  match input with
  | '[' :: rest =>
    match rest.getLast? with
    | some ']' => (parseIpv6? rest.dropLast).map fun p => "[" ++ serializeIpv6 p ++ "]"
    | _ => none
  | _ =>
    if !special then
      if input.any (forbiddenHostChars.contains ·) then none
      else some (String.ofList (percentEncode c0ControlSet input))
    else do
      let domain := percentDecode input
      let ascii ← domainToAscii? domain
      if ascii.isEmpty || ascii.any isForbiddenDomainChar then none
      if endsInNumber ascii then
        let n ← parseIpv4? ascii
        return serializeIpv4 n
      else return String.ofList ascii

end SchemaTypes.Url
