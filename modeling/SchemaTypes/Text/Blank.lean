import SchemaTypes.Unicode.WhiteSpace
set_option autoImplicit false

/-!
Trimming and word splitting at Unicode white space. Every character with the property White_Space
counts, so the no-break space and the ideographic space are trimmed like the ASCII blanks.
-/

namespace SchemaTypes.Text

open SchemaTypes.Unicode

def dropBlankEnd (cs : List Char) : List Char :=
  ((cs.reverse).dropWhile isWhiteSpace).reverse

def dropBlankBoth (cs : List Char) : List Char :=
  dropBlankEnd (cs.dropWhile isWhiteSpace)

/-- The text without white space at either end. -/
def trim (s : String) : String := String.ofList (dropBlankBoth s.toList)

def trimEnd (s : String) : String := String.ofList (dropBlankEnd s.toList)

def words (s : String) : List String :=
  ((s.toList.splitOnP isWhiteSpace).filter (· ≠ [])).map String.ofList

theorem dropBlankEnd_append_blank (cs : List Char) (c : Char) (h : isWhiteSpace c = true) :
    dropBlankEnd (cs ++ [c]) = dropBlankEnd cs := by
  simp [dropBlankEnd, h]

end SchemaTypes.Text
