set_option autoImplicit false

/-!
Web addresses as the URL standard models them: a scheme, credentials, a host and port, a path that
is either hierarchical or one opaque text, a query and a fragment, each already in its serialised
form. A hierarchical path is kept as its text: empty, or `/` followed by its segments joined with
`/`. Serialising joins the parts with their delimiters.
-/

namespace SchemaTypes

/-- The path of an address, serialised: a hierarchical path or an opaque one. -/
inductive UrlPath where
  | single (text : String)
  | hierarchical (text : String)
  deriving Repr, DecidableEq, Inhabited

/-- An address, each part in serialised form. -/
structure Url where
  scheme : String
  username : String := ""
  password : String := ""
  host : Option String := none
  port : Option Nat := none
  path : UrlPath := .hierarchical ""
  query : Option String := none
  fragment : Option String := none
  deriving Repr, DecidableEq, Inhabited

namespace Url

def specialSchemes : List String := ["ftp", "file", "http", "https", "ws", "wss"]

def isSpecialScheme (s : String) : Bool := specialSchemes.contains s

def defaultPort? : String → Option Nat
  | "ftp" => some 21
  | "http" => some 80
  | "https" => some 443
  | "ws" => some 80
  | "wss" => some 443
  | _ => none

def isSpecial (u : Url) : Bool := isSpecialScheme u.scheme

def hasCredentials (u : Url) : Bool := !u.username.isEmpty || !u.password.isEmpty

def pathText (u : Url) : String :=
  match u.path with
  | .single t => t
  | .hierarchical t => t

def serialize (u : Url) : String :=
  let authority :=
    match u.host with
    | some h =>
      let cred :=
        if u.hasCredentials then
          u.username ++ (if u.password.isEmpty then "" else ":" ++ u.password) ++ "@"
        else ""
      let port := match u.port with
        | some p => ":" ++ toString p
        | none => ""
      "//" ++ cred ++ h ++ port
    | none => ""
  -- a path that starts with an empty segment must not be read back as an authority
  let pathPrefix :=
    match u.host, u.path with
    | none, .hierarchical t => if t.startsWith "//" then "/." else ""
    | _, _ => ""
  let query := match u.query with
    | some q => "?" ++ q
    | none => ""
  let fragment := match u.fragment with
    | some f => "#" ++ f
    | none => ""
  u.scheme ++ ":" ++ authority ++ pathPrefix ++ u.pathText ++ query ++ fragment

end Url

end SchemaTypes
