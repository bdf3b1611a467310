import SchemaTypes.Url.PercentEncode
set_option autoImplicit false

/-!
Hierarchical paths of web addresses, read into their serialised text: empty, or `/` followed by
the segments joined with `/`. Reading appends each character, percent-encoded, to the text, and
closes a segment at each separator. A segment `.` is dropped, and a segment `..` removes the one
before it, unless that one looks like a Windows drive letter (a letter, then `:` or `|`, then the
end of the segment): in every scheme such a segment stays and `..` leaves the path as it was. In
file addresses a first segment that is a drive letter is written with `:` (and the address loses
its host), a drive letter at the end of a base path is not removed, and once the path is read the
empty segments at its start are dropped.

The one statement here is that a file path, once read, starts with `/`.
-/

namespace SchemaTypes.Url

def isAsciiAlpha (c : Char) : Bool := ('a' ≤ c && c ≤ 'z') || ('A' ≤ c && c ≤ 'Z')

def asciiLower (c : Char) : Char := if 'A' ≤ c && c ≤ 'Z' then Char.ofNat (c.toNat + 32) else c

def isSlashLike (c : Char) : Bool := c == '/' || c == '\\'

def isDriveEnd (c : Char) : Bool := isSlashLike c || c == '?' || c == '#'

def isDriveLetter (cs : List Char) : Bool :=
  match cs with
  | [a, b] => isAsciiAlpha a && (b == ':' || b == '|')
  | _ => false

def isNormalizedDriveLetter (cs : List Char) : Bool :=
  match cs with
  | [a, ':'] => isAsciiAlpha a
  | _ => false

def startsWithDriveLetter (cs : List Char) : Bool :=
  match cs with
  | a :: b :: rest =>
    isDriveLetter [a, b] &&
      (match rest with
        | [] => true
        | c :: _ => isDriveEnd c)
  | _ => false

def isDoubleDot (seg : List Char) : Bool :=
  let s := String.ofList (seg.map asciiLower)
  s == ".." || s == ".%2e" || s == "%2e." || s == "%2e%2e"

def isSingleDot (seg : List Char) : Bool :=
  let s := String.ofList (seg.map asciiLower)
  s == "." || s == "%2e"

def splitLastSlash (p : List Char) : Option (List Char × List Char) :=
  match p.reverse.span (· != '/') with
  | (_, []) => none
  | (seg, _ :: before) => some (before.reverse ++ ['/'], seg.reverse)

def popSegment (file : Bool) (p : List Char) : List Char :=
  match splitLastSlash p with
  | some (init, seg) => if file && isNormalizedDriveLetter seg then p else init
  | none => p

def slashRemovable (p : List Char) : Bool :=
  match splitLastSlash p.dropLast with
  | some (_, seg) => !startsWithDriveLetter (seg ++ ['/'])
  | none => false

/-- What reading a path depends on: whether the scheme is special, and whether it is `file`. -/
structure PathRules where
  special : Bool
  file : Bool
  deriving Repr, DecidableEq, Inhabited

namespace PathRules

def isSeparator (r : PathRules) (c : Char) : Bool := c == '/' || (r.special && c == '\\')

def finish (r : PathRules) (p : List Char) : List Char :=
  if r.file then '/' :: p.dropWhile (· == '/') else p

def closeSegment (r : PathRules) (p : List Char) (start : Nat) (slash hasHost : Bool) :
    List Char × Bool :=
  let seg := if slash then (p.drop start).dropLast else p.drop start
  let before := p.take start
  if isDoubleDot seg then
    let q := if before.getLast? == some '/' && slashRemovable before then before.dropLast else before
    let q := popSegment r.file q
    (if slash && q.getLast? != some '/' then q ++ ['/'] else q, hasHost)
  else if isSingleDot seg then
    (if before.getLast? != some '/' then before ++ ['/'] else before, hasHost)
  else if r.file && start == 1 && isDriveLetter seg then
    (before ++ seg.take 1 ++ [':'] ++ (if slash then ['/'] else []), false)
  else (p, hasHost)

def readSegments (r : PathRules) (p : List Char) (start : Nat) (hasHost : Bool) :
    List Char → List Char × Bool × List Char
  | [] =>
    let (p, h) := r.closeSegment p start false hasHost
    (r.finish p, h, [])
  | c :: rest =>
    if r.isSeparator c then
      let (p, h) := r.closeSegment (p ++ ['/']) start true hasHost
      readSegments r p p.length h rest
    else if c == '?' || c == '#' then
      let (p, h) := r.closeSegment p start false hasHost
      (r.finish p, h, c :: rest)
    else
      let (p, start) :=
        if r.file && isNormalizedDriveLetter (p.drop 1) then (p ++ ['/'], start + 1) else (p, start)
      readSegments r (p ++ encodeChar pathSet c) start hasHost rest

end PathRules

theorem PathRules.finish_head (r : PathRules) (p : List Char) (h : r.file = true) :
    (r.finish p).head? = some '/' := by
  simp [finish, h]

end SchemaTypes.Url
