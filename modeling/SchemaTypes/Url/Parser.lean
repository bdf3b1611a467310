import SchemaTypes.Url.Basic
import SchemaTypes.Url.Host
import SchemaTypes.Url.Path
set_option autoImplicit false

/-!
Parsing web addresses, against an optional base. Leading and trailing C0 controls and spaces are
dropped and tabs and line breaks removed. An address with a scheme is read by the rules of that
scheme; one without is resolved against the base, taking from it what it does not give itself.

The authority after `//` holds credentials before its last `@`, then a host, then a port. Credentials
that are empty, such as a lone `:`, are no credentials. A port ends at `/`, `\`, `?` or `#` in every
scheme. A special scheme needs a host; any other may go without one, unless it has credentials.
A relative reference that starts with exactly `//` reads an authority from what follows, slashes
included; one that starts with two or more slashes and backslashes mixed reads it after all of them.
-/

namespace SchemaTypes.Url

def preprocess (s : String) : List Char :=
  let edge (c : Char) : Bool := c.toNat ≤ 0x20
  let cs := ((s.toList.dropWhile edge).reverse.dropWhile edge).reverse
  cs.filter fun c => c != '\t' && c != '\n' && c != '\r'

def schemeOf? (cs : List Char) : Option (String × List Char) :=
  match cs with
  | c :: _ =>
    if !isAsciiAlpha c then none
    else
      let (sch, rest) := cs.span fun c => isAsciiAlpha c || isDigitChar c || c == '+' || c == '-' || c == '.'
      match rest with
      | ':' :: r => some (String.ofList (sch.map asciiLower), r)
      | _ => none
  | [] => none

def withFragment (url : Url) (cs : List Char) : Url :=
  { url with fragment := some (String.ofList (percentEncode fragmentSet cs)) }

def withQuery (url : Url) (cs : List Char) : Url :=
  let (q, rest) := cs.span (· != '#')
  let set := if url.isSpecial then specialQuerySet else querySet
  let url := { url with query := some (String.ofList (percentEncode set q)) }
  match rest with
  | _ :: f => withFragment url f
  | [] => url

def withQueryAndFragment (url : Url) (cs : List Char) : Url :=
  match cs with
  | '?' :: r => withQuery url r
  | '#' :: r => withFragment url r
  | _ => url

def pathRules (scheme : String) : PathRules := ⟨isSpecialScheme scheme, scheme == "file"⟩

def pathChars (u : Url) : List Char :=
  match u.path with
  | .hierarchical t => t.toList
  | .single _ => []

def readPathOnto (url : Url) (p : List Char) (cs : List Char) : Url :=
  let (p, _, rest) := (pathRules url.scheme).readSegments p p.length true cs
  withQueryAndFragment { url with path := .hierarchical (String.ofList p) } rest

def readOpaquePath (url : Url) (cs : List Char) : Url :=
  let (p, rest) := cs.span fun c => c != '?' && c != '#'
  withQueryAndFragment { url with path := .single (String.ofList (percentEncode c0ControlSet p)) } rest

def endsAuthority (special : Bool) (c : Char) : Bool :=
  c == '/' || c == '?' || c == '#' || (special && c == '\\')

def splitLastAt (cs : List Char) : Option (List Char × List Char) :=
  match cs.reverse.span (· != '@') with
  | (_, []) => none
  | (after, _ :: before) => some (before.reverse, after.reverse)

def splitUserinfo? (special : Bool) (cs : List Char) : Option (Option (List Char) × List Char) :=
  match splitLastAt (cs.takeWhile fun c => !endsAuthority special c) with
  | none => some (none, cs)
  | some (userinfo, _) =>
    let rest := cs.drop (userinfo.length + 1)
    if !userinfo.isEmpty then some (some userinfo, rest)
    else
      match rest with
      | c :: _ => if endsAuthority special c then none else some (none, rest)
      | [] => some (none, rest)

def withCredentials (url : Url) (userinfo : List Char) : Url :=
  let (user, pass) := match userinfo.span (· != ':') with
    | (u, _ :: p) => (u, p)
    | (u, []) => (u, [])
  { url with
    username := String.ofList (percentEncode userinfoSet user)
    password := String.ofList (percentEncode userinfoSet pass) }

def splitHost (special : Bool) (cs : List Char) : List Char × List Char :=
  let rec go (inside : Bool) (acc : List Char) : List Char → List Char × List Char
    | [] => (acc.reverse, [])
    | c :: r =>
      if (c == ':' && !inside) || endsAuthority special c then (acc.reverse, c :: r)
      else go (if c == '[' then true else if c == ']' then false else inside) (c :: acc) r
  go false [] cs

def readPort? (scheme : String) (cs : List Char) : Option (Option Nat × List Char) :=
  let (ds, rest) := cs.span isDigitChar
  let n := ds.foldl (fun a d => a * 10 + (d.toNat - '0'.toNat)) 0
  if n > 65535 then none
  else if rest.head?.any (!isDriveEnd ·) then none
  else if ds.isEmpty || Url.defaultPort? scheme == some n then some (none, rest)
  else some (some n, rest)

def readPathStart (url : Url) (cs : List Char) : Url :=
  if url.isSpecial then
    match cs with
    | c :: r => readPathOnto url ['/'] (if isSlashLike c then r else cs)
    | [] => readPathOnto url ['/'] []
  else
    match cs with
    | [] => url
    | '?' :: _ | '#' :: _ => withQueryAndFragment url cs
    | '/' :: r => readPathOnto url ['/'] r
    | _ => readPathOnto url ['/'] cs

def readAuthority (url : Url) (cs : List Char) : Option Url := do
  let special := url.isSpecial
  let (userinfo, rest) ← splitUserinfo? special cs
  let url := match userinfo with
    | some ui => withCredentials url ui
    | none => url
  let (hostChars, rest) := splitHost special rest
  if special && hostChars.isEmpty then none
  let host ← parseHost? hostChars special
  if host.isEmpty && rest.head? == some ':' then none
  let (port, rest) ← match rest with
    | ':' :: r => readPort? url.scheme r
    | _ => some (none, rest)
  if host.isEmpty && url.hasCredentials then none
  return readPathStart { url with host := some host, port } rest

def readFileHost (url : Url) (cs : List Char) : Option Url := do
  let (hostChars, rest) := cs.span fun c => !isDriveEnd c
  let (host, rest) ←
    if isDriveLetter hostChars then some ("", cs)
    else if hostChars.isEmpty then some ("", rest)
    else do
      let h ← parseHost? hostChars true
      some (if h == "localhost" then "" else h, rest)
  let hasHost := !host.isEmpty
  let input := match rest with
    | c :: r => if hasHost && isSlashLike c then r else rest
    | [] => rest
  let (p, keep, rest) := (pathRules "file").readSegments ['/'] 1 hasHost input
  return withQueryAndFragment
    { url with host := some (if keep then host else ""), path := .hierarchical (String.ofList p) } rest

def firstSegment (p : List Char) : List Char := (p.drop 1).takeWhile (· != '/')

def readFile (base : Option Url) (cs : List Char) : Option Url :=
  let url : Url := { scheme := "file", host := some "" }
  let afterOneSlash (r : List Char) : Url :=
    let (lead, host) :=
      if startsWithDriveLetter r then ([], "")
      else
        match base with
        | some b =>
          let first := firstSegment b.pathChars
          if isNormalizedDriveLetter first then ('/' :: first, "") else ([], b.host.getD "")
        | none => ([], "")
    let (p, _, rest) := (pathRules "file").readSegments lead lead.length false cs
    withQueryAndFragment { url with host := some host, path := .hierarchical (String.ofList p) } rest
  let noSlash : Option Url :=
    match base with
    | some b =>
      match cs with
      | [] => some { b with fragment := none }
      | '?' :: r => some (withQuery { b with query := none, fragment := none } r)
      | '#' :: r => some (withFragment { b with fragment := none } r)
      | _ =>
        if startsWithDriveLetter cs then some (readPathOnto url ['/'] cs)
        else some (readPathOnto { b with query := none, fragment := none } (popSegment true b.pathChars) cs)
    | none => some (readPathOnto url ['/'] cs)
  match cs with
  | c :: r =>
    if isSlashLike c then
      match r with
      | d :: r' => if isSlashLike d then readFileHost url r' else some (afterOneSlash r)
      | [] => some (afterOneSlash r)
    else noSlash
  | [] => noSlash

def readRelative (base : Url) (cs : List Char) : Option Url :=
  let kept := { base with query := none, fragment := none }
  match cs with
  | [] => some { base with fragment := none }
  | '?' :: r => some (withQuery kept r)
  | '#' :: r => some (withFragment { base with fragment := none } r)
  | c :: r =>
    if isSlashLike c then
      let slashes := (cs.takeWhile isSlashLike).length
      if slashes ≥ 2 then
        let url : Url := { scheme := base.scheme }
        match cs with
        | '/' :: '/' :: rest => readAuthority url rest
        | _ => readAuthority url (cs.drop slashes)
      else some (readPathOnto kept ['/'] r)
    else
      let p := popSegment false base.pathChars
      some (readPathOnto kept (if p.isEmpty then ['/'] else p) cs)

/-- Parses an address, relative to a base when one is given. -/
def parse? (input : String) (base : Option Url) : Option Url :=
  let cs := preprocess input
  match schemeOf? cs with
  | some (scheme, rest) =>
    if scheme == "file" then readFile (base.filter (·.scheme == "file")) rest
    else if isSpecialScheme scheme then
      let slashes := (rest.takeWhile isSlashLike).length
      match base with
      | some b =>
        if slashes < 2 && b.scheme == scheme then readRelative b rest
        else readAuthority { scheme } (rest.drop slashes)
      | none => readAuthority { scheme } (rest.drop slashes)
    else
      match rest with
      | '/' :: '/' :: r => readAuthority { scheme } r
      | '/' :: r => some (readPathOnto { scheme } ['/'] r)
      | _ => some (readOpaquePath { scheme } rest)
  | none =>
    match base with
    | none => none
    | some b =>
      match cs with
      | '#' :: r => some (withFragment { b with fragment := none } r)
      | _ =>
        match b.path with
        | .single _ => none
        | .hierarchical _ => if b.scheme == "file" then readFile (some b) cs else readRelative b cs

end SchemaTypes.Url
