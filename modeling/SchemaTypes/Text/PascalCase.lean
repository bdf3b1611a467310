import SchemaTypes.Unicode.Alphabetic
import SchemaTypes.Unicode.Numeric
import SchemaTypes.Unicode.Lowercase
import SchemaTypes.Unicode.Uppercase
import SchemaTypes.Unicode.CaseMapping
set_option autoImplicit false

/-!
Pascal case over all of Unicode. A text is cut into pieces at every character that is neither
alphabetic nor numeric. A piece is cut into words before an uppercase letter that follows a
lowercase one (characters without case keep the state of the last cased one), and before the last
capital of a run of capitals that a lowercase letter follows. Each word is written with its first
character in full uppercase and the rest in full lowercase, a final capital sigma becoming the
final small sigma.
-/

namespace SchemaTypes.Text

open SchemaTypes.Unicode

def isAlphanumeric (c : Char) : Bool := isAlphabetic c || isNumeric c

/-- The case of the last cased character of the word being read. -/
inductive WordCase where
  | none
  | lower
  | upper
  deriving DecidableEq, Repr

def WordCase.after (state : WordCase) (c : Char) : WordCase :=
  if isLowercase c then .lower else if isUppercase c then .upper else state

def pieceWords (state : WordCase) (current : List Char) : List Char → List (List Char)
  | [] => []
  | [c] => [current ++ [c]]
  | c :: rest@(n :: _) =>
    if state.after c = .lower ∧ isUppercase n then
      (current ++ [c]) :: pieceWords .none [] rest
    else if state = .upper ∧ isUppercase c ∧ isLowercase n then
      current :: pieceWords .none [c] rest
    else
      pieceWords (state.after c) (current ++ [c]) rest

def lowerTail : List Char → List Char
  | [] => []
  | ['Σ'] => ['ς']
  | c :: rest => toLowerFull c ++ lowerTail rest

def capitalize : List Char → List Char
  | [] => []
  | c :: rest => toUpperFull c ++ lowerTail rest

def wordsOf (cs : List Char) : List (List Char) :=
  (cs.splitOnP fun c => !isAlphanumeric c).flatMap (pieceWords .none [])

def pascalCase (s : String) : String :=
  String.ofList ((wordsOf s.toList).flatMap capitalize)

end SchemaTypes.Text
