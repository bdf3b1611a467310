set_option autoImplicit false

/-!
Percent-encoding as the URL standard defines it. A character outside an encode set is kept; one
inside is written as its UTF-8 bytes, each as `%` and two uppercase hexadecimal digits. Every set
holds the C0 controls and all code points above `~`. Decoding turns each `%` and two hexadecimal
digits into a byte, and reads the bytes as UTF-8 with replacement characters for malformed
sequences.
-/

namespace SchemaTypes.Url

def utf8Bytes (c : Char) : List Nat :=
  let n := c.toNat
  if n < 0x80 then [n]
  else if n < 0x800 then [0xC0 + n / 64, 0x80 + n % 64]
  else if n < 0x10000 then [0xE0 + n / 4096, 0x80 + (n / 64) % 64, 0x80 + n % 64]
  else [0xF0 + n / 262144, 0x80 + (n / 4096) % 64, 0x80 + (n / 64) % 64, 0x80 + n % 64]

def hexDigitUpper (n : Nat) : Char :=
  if n < 10 then Char.ofNat ('0'.toNat + n) else Char.ofNat ('A'.toNat + n - 10)

def percentByte (b : Nat) : List Char := ['%', hexDigitUpper (b / 16), hexDigitUpper (b % 16)]

/-- A set of characters to encode, given by the ASCII characters it adds to the C0 controls and
the code points above `~`. -/
structure EncodeSet where
  extra : List Char

def EncodeSet.contains (s : EncodeSet) (c : Char) : Bool :=
  c.toNat < 0x20 || c.toNat > 0x7E || s.extra.contains c

def c0ControlSet : EncodeSet := ⟨[]⟩

def fragmentSet : EncodeSet := ⟨[' ', '"', '<', '>', '\x60']⟩

def querySet : EncodeSet := ⟨[' ', '"', '#', '<', '>']⟩

def specialQuerySet : EncodeSet := ⟨[' ', '"', '#', '<', '>', '\'']⟩

def pathSet : EncodeSet := ⟨[' ', '"', '<', '>', '\x60', '#', '?', '\x7b', '\x7d']⟩

def userinfoSet : EncodeSet :=
  ⟨pathSet.extra ++ ['/', ':', ';', '=', '@', '[', '\\', ']', '^', '|']⟩

def encodeChar (s : EncodeSet) (c : Char) : List Char :=
  if s.contains c then (utf8Bytes c).flatMap percentByte else [c]

def percentEncode (s : EncodeSet) (cs : List Char) : List Char := cs.flatMap (encodeChar s)

def hexValue? (c : Char) : Option Nat :=
  if '0' ≤ c && c ≤ '9' then some (c.toNat - '0'.toNat)
  else if 'a' ≤ c && c ≤ 'f' then some (c.toNat - 'a'.toNat + 10)
  else if 'A' ≤ c && c ≤ 'F' then some (c.toNat - 'A'.toNat + 10)
  else none

def percentDecodeBytes : List Char → List Nat
  | '%' :: a :: b :: r =>
    match hexValue? a, hexValue? b with
    | some x, some y => (16 * x + y) :: percentDecodeBytes r
    | _, _ => utf8Bytes '%' ++ percentDecodeBytes (a :: b :: r)
  | c :: r => utf8Bytes c ++ percentDecodeBytes r
  | [] => []

def isContinuation (b : Nat) : Bool := 0x80 ≤ b && b ≤ 0xBF

def decodeOne : List Nat → Char × List Nat
  | [] => ('\uFFFD', [])
  | b :: r =>
    if b < 0x80 then (Char.ofNat b, r)
    else
      let (need, init, lo, hi) :=
        if 0xC2 ≤ b && b ≤ 0xDF then (1, b - 0xC0, 0x80, 0xBF)
        else if b == 0xE0 then (2, 0, 0xA0, 0xBF)
        else if b == 0xED then (2, 0xD, 0x80, 0x9F)
        else if 0xE1 ≤ b && b ≤ 0xEF then (2, b - 0xE0, 0x80, 0xBF)
        else if b == 0xF0 then (3, 0, 0x90, 0xBF)
        else if b == 0xF4 then (3, 4, 0x80, 0x8F)
        else if 0xF1 ≤ b && b ≤ 0xF3 then (3, b - 0xF0, 0x80, 0xBF)
        else (0, 0, 0, 0)
      if need == 0 then ('\uFFFD', r)
      else
        match r with
        | c1 :: r1 =>
          if c1 < lo || c1 > hi then ('\uFFFD', r)
          else
            let v1 := init * 64 + (c1 - 0x80)
            if need == 1 then (Char.ofNat v1, r1)
            else
              match r1 with
              | c2 :: r2 =>
                if !isContinuation c2 then ('\uFFFD', r1)
                else
                  let v2 := v1 * 64 + (c2 - 0x80)
                  if need == 2 then (Char.ofNat v2, r2)
                  else
                    match r2 with
                    | c3 :: r3 =>
                      if !isContinuation c3 then ('\uFFFD', r2)
                      else (Char.ofNat (v2 * 64 + (c3 - 0x80)), r3)
                    | [] => ('\uFFFD', [])
              | [] => ('\uFFFD', [])
        | [] => ('\uFFFD', [])

def decodeUtf8 : Nat → List Nat → List Char
  | 0, _ => []
  | fuel + 1, bs =>
    match bs with
    | [] => []
    | _ =>
      let (c, rest) := decodeOne bs
      c :: decodeUtf8 fuel rest

def percentDecode (cs : List Char) : List Char :=
  let bs := percentDecodeBytes cs
  decodeUtf8 (bs.length + 1) bs

end SchemaTypes.Url
