import SchemaTypes.Xml.Char
import SchemaTypes.Xml.Error
set_option autoImplicit false

/-!
The small pieces of markup: blanks, literal strings, runs of characters, names, qualified names,
quotes and references. Each reader takes the input as a character list and gives back what it read
with the rest of the input. Reading a run checks that every character is one a document may hold.
-/

namespace SchemaTypes.Xml

abbrev Reading (α : Type) := Except XmlError (α × List Char)

def startsWith (cs : List Char) (lit : String) : Bool := lit.toList.isPrefixOf cs

def unexpectedAt : List Char → XmlError
  | c :: _ => .unexpected c
  | [] => .unexpectedEnd

def skipBlanks (cs : List Char) : List Char := cs.dropWhile isBlank

def needBlanks (cs : List Char) : Except XmlError (List Char) :=
  match cs with
  | c :: _ => if isBlank c then .ok (skipBlanks cs) else .error (.unexpected c)
  | [] => .error .unexpectedEnd

def expectText (lit : String) (cs : List Char) : Except XmlError (List Char) :=
  if startsWith cs lit then .ok (cs.drop lit.length) else .error (unexpectedAt cs)

def expectChar (c : Char) (cs : List Char) : Except XmlError (List Char) :=
  match cs with
  | d :: r => if d == c then .ok r else .error (.unexpected d)
  | [] => .error .unexpectedEnd

def takeUntil (stop : List Char → Bool) (acc : List Char) : List Char → Reading (List Char)
  | [] => .ok (acc.reverse, [])
  | cs@(c :: r) =>
    if !isDocumentChar c then .error (.forbiddenChar c)
    else if stop cs then .ok (acc.reverse, cs)
    else takeUntil stop (c :: acc) r

def takeName (cs : List Char) : Reading String :=
  match cs with
  | c :: r =>
    if isNameStart c then
      let (more, rest) := r.span isNameChar
      .ok (String.ofList (c :: more), rest)
    else .error .invalidName
  | [] => .error .invalidName

def splitQName (tok : List Char) : Except XmlError (String × String) :=
  let startsWell (part : List Char) : Bool :=
    match part with
    | c :: _ => isNameStart c
    | [] => false
  match tok.splitOn ':' with
  | [loc] => if startsWell loc then .ok ("", String.ofList loc) else .error .invalidName
  | [pre, loc] =>
    if (pre.isEmpty || startsWell pre) && startsWell loc then
      .ok (String.ofList pre, String.ofList loc)
    else .error .invalidName
  | _ => .error .invalidName

def takeQName (cs : List Char) : Reading (String × String) :=
  let (tok, rest) := cs.span isNameChar
  (splitQName tok).map fun q => (q, rest)

def takeQuote (cs : List Char) : Reading Char :=
  match cs with
  | '"' :: r => .ok ('"', r)
  | '\'' :: r => .ok ('\'', r)
  | c :: _ => .error (.unexpected c)
  | [] => .error .unexpectedEnd

def takeEquals (cs : List Char) : Except XmlError (List Char) :=
  (expectChar '=' (skipBlanks cs)).map skipBlanks

/-- A reference: a character, written by number or by one of the five predefined names, or a
declared entity. -/
inductive Reference where
  | char (c : Char)
  | entity (name : String)
  deriving Repr, DecidableEq

def digitsValue (base : Nat) (ds : List Char) : Nat :=
  ds.foldl (fun acc d =>
    let v := if isDecimalDigit d then d.toNat - '0'.toNat
      else if 'a' ≤ d && d ≤ 'f' then d.toNat - 'a'.toNat + 10
      else d.toNat - 'A'.toNat + 10
    acc * base + v) 0

def charOfCode (n : Nat) : Char :=
  if n < 0xD800 || (0xDFFF < n && n < 0x110000) then Char.ofNat n else '\uFFFD'

def numericReference (base : Nat) (ds : List Char) : Except XmlError Reference :=
  if ds.isEmpty then .error .invalidReference
  else
    let n := digitsValue base ds
    if n ≥ Nat.pow 2 32 then .error .invalidReference
    else
      let c := charOfCode n
      if isDocumentChar c then .ok (.char c) else .error .invalidReference

def predefined? : String → Option Char
  | "quot" => some '"'
  | "amp" => some '&'
  | "apos" => some '\''
  | "lt" => some '<'
  | "gt" => some '>'
  | _ => none

def takeReference (cs : List Char) : Reading Reference :=
  let body : Reading Reference :=
    match cs with
    | '#' :: 'x' :: r =>
      let (ds, rest) := r.span isHexDigit
      (numericReference 16 ds).map fun ref => (ref, rest)
    | '#' :: r =>
      let (ds, rest) := r.span isDecimalDigit
      (numericReference 10 ds).map fun ref => (ref, rest)
    | _ =>
      match takeName cs with
      | .ok (name, rest) =>
        match predefined? name with
        | some c => .ok (.char c, rest)
        | none => .ok (.entity name, rest)
      | .error _ => .error .invalidReference
  match body with
  | .ok (ref, ';' :: rest) => .ok (ref, rest)
  | _ => .error .invalidReference

def pushText (buf : List Char) (c : Char) (atEnd : Bool) : List Char :=
  match buf with
  | '\r' :: b =>
    let b := '\n' :: b
    if atEnd && c == '\r' then '\n' :: b else if c != '\n' then c :: b else b
  | _ => if atEnd && c == '\r' then '\n' :: buf else c :: buf

def pushAttr (buf : List Char) (c : Char) (next : Option Char) : List Char :=
  if c == '\r' && next == some '\n' then buf
  else if c == '\n' || c == '\r' || c == '\t' then ' ' :: buf
  else c :: buf

end SchemaTypes.Xml
