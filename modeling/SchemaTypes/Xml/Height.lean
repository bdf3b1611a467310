import SchemaTypes.Xml.Node
set_option autoImplicit false

/-!
The height of a tree: a leaf has height zero and an element one more than its highest child. A
child is lower than its parent, so functions that descend from an element to its children end.
-/

namespace SchemaTypes.Xml

mutual

def Node.height : Node → Nat
  | .element _ _ _ _ cs => Node.heightOfList cs + 1
  | _ => 0

def Node.heightOfList : List Node → Nat
  | [] => 0
  | c :: r => max c.height (Node.heightOfList r)

end

theorem Node.height_le_heightOfList {c : Node} : {cs : List Node} → c ∈ cs → c.height ≤ Node.heightOfList cs
  | _ :: r, .head _ => by simp only [Node.heightOfList]; omega
  | _ :: r, .tail _ h => by
    have := Node.height_le_heightOfList h
    simp only [Node.heightOfList]; omega

theorem Node.height_lt_of_mem_children {c n : Node} (h : c ∈ n.children) : c.height < n.height := by
  cases n with
  | element _ _ _ _ cs =>
    have : c.height ≤ Node.heightOfList cs := Node.height_le_heightOfList h
    simp only [Node.height]; omega
  | text _ => simp [Node.children] at h
  | comment _ => simp [Node.children] at h
  | instruction _ _ => simp [Node.children] at h

theorem Node.mem_children_of_mem_childrenNamed {c n : Node} {tag : String}
    (h : c ∈ n.childrenNamed tag) : c ∈ n.children :=
  (List.mem_filter.1 h).1

theorem Node.mem_children_of_mem_elementChildren {c n : Node}
    (h : c ∈ n.elementChildren) : c ∈ n.children :=
  (List.mem_filter.1 h).1

theorem Node.mem_children_of_childNamed {c n : Node} {tag : String}
    (h : n.childNamed? tag = some c) : c ∈ n.children :=
  List.mem_of_find?_eq_some h

end SchemaTypes.Xml
