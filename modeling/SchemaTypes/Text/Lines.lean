set_option autoImplicit false

/-!
Splitting text into lines. A line ends at a line feed, which is not part of it; a carriage return
right before that line feed is dropped too. A line feed that ends the text does not start another
line, so the empty text has no lines.
-/

namespace SchemaTypes.Text

def dropReturn (line : List Char) : List Char :=
  match line.getLast? with
  | some '\r' => line.dropLast
  | _ => line

def linesOf : List Char → List (List Char)
  | [] => []
  | cs =>
    match cs.splitOn '\n' with
    | [] => []
    | pieces =>
      -- the piece after the last line feed is a line only if it is not empty
      let ended := pieces.dropLast.map dropReturn
      match pieces.getLast? with
      | some [] => ended
      | some last => ended ++ [last]
      | none => ended

/-- The lines of a text. -/
def lines (s : String) : List String := (linesOf s.toList).map String.ofList

end SchemaTypes.Text
