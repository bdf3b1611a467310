import SchemaTypes.Location.Path
import SchemaTypes.Url.Parser
set_option autoImplicit false

/-!
Where a schema document lives: a file path or a web address. Only locators that start with
`http://` or `https://` are addresses; anything else is a path, taken relative to a working
directory. A `schemaLocation` is resolved against the document that names it: an address is read
on its own, against an address base it is joined by the URL standard, and against a path base it
is joined to the base's parent directory.
-/

namespace SchemaTypes

open SchemaTypes.Location SchemaTypes.Url

/-- The location of a schema document. -/
inductive Location where
  | path (p : DocPath)
  | url (u : Url)
  deriving Repr, Inhabited

/-- What decides whether two locations are the same: the components of a path, the serialised
form of an address. -/
inductive LocationKey where
  | path (components : List Component)
  | url (href : String)
  deriving Repr, DecidableEq, Inhabited

namespace Location

def isAddress (locator : String) : Bool :=
  locator.startsWith "http://" || locator.startsWith "https://"

def display : Location → String
  | path p => p.text
  | url u => u.serialize

def key : Location → LocationKey
  | path p => .path p.components
  | url u => .url u.serialize

def kindName : Location → String
  | path _ => "path"
  | url _ => "url"

def parse? (locator : String) (workingDir : DocPath) : Option Location :=
  if isAddress locator then (Url.parse? locator none).map url
  else some (path (workingDir.join locator))

def join? (loc : Location) (schemaLocation : String) : Option Location :=
  if isAddress schemaLocation then parse? schemaLocation ⟨""⟩
  else
    match loc with
    | url base => (Url.parse? schemaLocation (some base)).map url
    | path base => some (path ((base.parent?.getD ⟨""⟩).join schemaLocation))

end Location

end SchemaTypes
