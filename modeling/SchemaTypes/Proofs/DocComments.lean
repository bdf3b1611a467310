import SchemaTypes.Component.Render
set_option autoImplicit false

/-!
Doc comments close on their last line only. A doc comment line writes every `*/` of its text as
`*\/`, bodies join such lines with line feeds, and a comment cuts its body at line feeds again, so
no line of the comment but the closing one holds `*/`, whatever the documentation, the enumerated
values or the facets hold (`docComment_closes_once`).
-/

namespace SchemaTypes.Script

open SchemaTypes.Text

/-! ## Texts without a comment end -/

def NoCommentEnd (cs : List Char) : Prop := ¬['*', '/'] <:+: cs

theorem NoCommentEnd.of_infix {cs ds : List Char} (h : NoCommentEnd cs) (hds : ds <:+: cs) :
    NoCommentEnd ds :=
  fun hd => h (hd.trans hds)

@[simp] theorem noCommentEnd_nil : NoCommentEnd [] := by
  simp [NoCommentEnd]

theorem noCommentEnd_append_iff {xs ys : List Char} : NoCommentEnd (xs ++ ys) ↔
    NoCommentEnd xs ∧ NoCommentEnd ys ∧ ¬(xs.getLast? = some '*' ∧ ys.head? = some '/') := by
  simp only [NoCommentEnd, List.infix_append_iff_ne_nil, not_or]
  have hseam : (∃ l₁ l₂, l₁ ≠ [] ∧ l₂ ≠ [] ∧ ['*', '/'] = l₁ ++ l₂ ∧ l₁ <:+ xs ∧ l₂ <+: ys) ↔
      xs.getLast? = some '*' ∧ ys.head? = some '/' := by
    rw [← List.singleton_suffix_iff_getLast?_eq_some, ← List.singleton_prefix_iff_head?_eq_some]
    constructor
    · rintro ⟨l₁, l₂, h₁, h₂, h, hx, hy⟩
      obtain ⟨a, l₁, rfl⟩ := List.exists_cons_of_ne_nil h₁
      obtain ⟨b, l₂, rfl⟩ := List.exists_cons_of_ne_nil h₂
      have hlen := congrArg List.length h
      simp only [List.length_cons, List.length_nil, List.cons_append, List.length_append] at hlen
      obtain rfl : l₁ = [] := List.eq_nil_of_length_eq_zero (by omega)
      obtain rfl : l₂ = [] := List.eq_nil_of_length_eq_zero (by omega)
      simp only [List.cons_append, List.nil_append, List.cons.injEq, and_true] at h
      exact h.1 ▸ h.2 ▸ ⟨hx, hy⟩
    · rintro ⟨hx, hy⟩
      exact ⟨['*'], ['/'], by simp, by simp, rfl, hx, hy⟩
  rw [hseam]

@[simp] theorem noCommentEnd_singleton (c : Char) : NoCommentEnd [c] := by
  intro h
  have := h.length_le
  simp at this

theorem noCommentEnd_cons_iff {c : Char} {cs : List Char} :
    NoCommentEnd (c :: cs) ↔ NoCommentEnd cs ∧ ¬(c = '*' ∧ cs.head? = some '/') := by
  rw [← List.singleton_append, noCommentEnd_append_iff]
  simp

theorem NoCommentEnd.append_of_last {xs ys : List Char} (hx : NoCommentEnd xs) (hy : NoCommentEnd ys)
    (h : xs.getLast? ≠ some '*') : NoCommentEnd (xs ++ ys) :=
  noCommentEnd_append_iff.2 ⟨hx, hy, fun h' => h h'.1⟩

theorem NoCommentEnd.append_of_head {xs ys : List Char} (hx : NoCommentEnd xs) (hy : NoCommentEnd ys)
    (h : ys.head? ≠ some '/') : NoCommentEnd (xs ++ ys) :=
  noCommentEnd_append_iff.2 ⟨hx, hy, fun h' => h h'.2⟩

theorem noCommentEnd_of_star_not_mem {cs : List Char} (h : '*' ∉ cs) : NoCommentEnd cs :=
  fun hi => h (hi.subset (by simp))

theorem noCommentEnd_replicate_space (n : Nat) : NoCommentEnd (List.replicate n ' ') :=
  noCommentEnd_of_star_not_mem (by simp [List.mem_replicate])

theorem noCommentEnd_intercalate {sep : List Char} (hsep : NoCommentEnd sep)
    (hhead : sep.head? = some '\n') (hlast : sep.getLast? = some '\n') :
    ∀ {ls : List (List Char)}, (∀ l ∈ ls, NoCommentEnd l) → NoCommentEnd (sep.intercalate ls)
  | [], _ => noCommentEnd_nil
  | [l], h => by simpa using h l (by simp)
  | l :: l' :: ls, h => by
    have hrest : NoCommentEnd (sep.intercalate (l' :: ls)) :=
      noCommentEnd_intercalate hsep hhead hlast fun x hx => h x (List.mem_cons_of_mem _ hx)
    rw [List.intercalate_cons_cons, List.append_assoc]
    have hafter : NoCommentEnd (sep ++ sep.intercalate (l' :: ls)) :=
      hsep.append_of_last hrest (by simp [hlast])
    refine (h l (by simp)).append_of_head hafter ?_
    rw [List.head?_append, hhead]
    simp

/-! ## Doc comment lines -/

theorem head?_escapeCommentEnd (cs : List Char) : (escapeCommentEnd cs).head? = cs.head? := by
  fun_cases escapeCommentEnd cs <;> rfl

theorem noCommentEnd_escapeCommentEnd (cs : List Char) : NoCommentEnd (escapeCommentEnd cs) := by
  fun_induction escapeCommentEnd cs with
  | case1 r ih => simpa [noCommentEnd_cons_iff] using ih
  | case2 c r hc ih =>
    rw [noCommentEnd_cons_iff, head?_escapeCommentEnd]
    refine ⟨ih, ?_⟩
    rintro ⟨hstar, hslash⟩
    obtain ⟨r', rfl⟩ := List.head?_eq_some_iff.1 hslash
    exact hc r' hstar rfl
  | case3 => exact noCommentEnd_nil

theorem noCommentEnd_docLine (text : String) : NoCommentEnd (docLine text).toList := by
  unfold docLine
  split
  · simp [noCommentEnd_cons_iff]
  · simp only [String.toList_append, String.toList_ofList]
    refine NoCommentEnd.append_of_last ?_ (noCommentEnd_escapeCommentEnd _) (by simp)
    simp [noCommentEnd_cons_iff]

theorem noCommentEnd_docLines {ls : List String} (h : ∀ l ∈ ls, ∃ text, l = docLine text) :
    NoCommentEnd ("\n".intercalate ls).toList := by
  rw [String.toList_intercalate]
  refine noCommentEnd_intercalate (noCommentEnd_singleton _) rfl rfl ?_
  intro l hl
  obtain ⟨line, hline, rfl⟩ := List.mem_map.1 hl
  obtain ⟨text, rfl⟩ := h line hline
  exact noCommentEnd_docLine text

/-! ## Bodies -/

theorem mem_renderDoc_go : ∀ {docs : List String} {l : String},
    l ∈ Component.Annotations.renderDoc.go docs → ∃ text, l = docLine text
  | [], _, h => by simp [Component.Annotations.renderDoc.go] at h
  | [e], _, h => by
    simp only [Component.Annotations.renderDoc.go, Component.Annotations.entryLines, List.mem_map] at h
    obtain ⟨line, -, rfl⟩ := h
    exact ⟨_, rfl⟩
  | e :: e' :: rest, _, h => by
    simp only [Component.Annotations.renderDoc.go, Component.Annotations.entryLines, List.mem_append,
      List.mem_map, List.mem_singleton] at h
    rcases h with (⟨line, -, rfl⟩ | rfl) | h
    · exact ⟨_, rfl⟩
    · exact ⟨_, rfl⟩
    · exact mem_renderDoc_go h

theorem noCommentEnd_renderDoc (a : Component.Annotations) : NoCommentEnd a.renderDoc.toList :=
  noCommentEnd_docLines fun _ hl => mem_renderDoc_go hl

theorem EnumerationValue.docEntry_eq (v : Component.EnumerationValue) : ∃ text, v.docEntry = docLine text := by
  unfold Component.EnumerationValue.docEntry
  split
  · exact ⟨_, rfl⟩
  · exact ⟨_, rfl⟩

theorem noCommentEnd_simpleType_renderDoc {t : Component.SimpleType} {body : String}
    (h : t.renderDoc = some body) : NoCommentEnd body.toList := by
  unfold Component.SimpleType.renderDoc at h
  extract_lets own values facets at h
  have hown : ∀ s ∈ own, NoCommentEnd s.toList := by
    intro s hs
    obtain ⟨a, -, rfl⟩ := Option.map_eq_some_iff.1 (Option.mem_def.1 hs)
    exact noCommentEnd_renderDoc a
  have hvalues : ∀ s ∈ values, NoCommentEnd s.toList := by
    intro s hs
    simp only [values] at hs
    split at hs
    · rw [Option.mem_def, Option.some.injEq] at hs
      rw [← hs]
      refine noCommentEnd_docLines fun l hl => ?_
      rcases List.mem_cons.1 hl with rfl | hl
      · exact ⟨_, rfl⟩
      · obtain ⟨v, -, rfl⟩ := List.mem_map.1 hl
        exact EnumerationValue.docEntry_eq v
    · cases hs
  have hfacets : ∀ s ∈ facets, NoCommentEnd s.toList := by
    intro s hs
    simp only [facets] at hs
    split at hs
    · cases hs
    · rw [Option.mem_def, Option.some.injEq] at hs
      rw [← hs]
      refine noCommentEnd_docLines fun l hl => ?_
      obtain ⟨line, -, rfl⟩ := List.mem_map.1 hl
      exact ⟨_, rfl⟩
  generalize hsections : own.toList ++ values.toList ++ facets.toList = sections at h
  cases sections with
  | nil => cases h
  | cons s₀ rest =>
    rw [Option.some.injEq] at h
    rw [← h, String.toList_intercalate]
    refine noCommentEnd_intercalate ?_ rfl ?_ ?_
    · simp [noCommentEnd_cons_iff, docLine, dropBlankEnd]
    · simp [docLine, dropBlankEnd]
    · intro l hl
      obtain ⟨s, hs, rfl⟩ := List.mem_map.1 hl
      rw [← hsections] at hs
      simp only [List.mem_append, Option.mem_toList] at hs
      rcases hs with (hs | hs) | hs
      · exact hown s hs
      · exact hvalues s hs
      · exact hfacets s hs

/-! ## Lines -/

theorem mem_infix_intercalate (sep : List Char) {l : List Char} : ∀ {ls : List (List Char)}, l ∈ ls →
    l <:+: sep.intercalate ls
  | [], h => by cases h
  | [x], h => by simp_all
  | x :: y :: ls, h => by
    rw [List.intercalate_cons_cons]
    rcases List.mem_cons.1 h with rfl | h
    · exact List.infix_append_left.trans (List.infix_append_left)
    · exact (mem_infix_intercalate sep h).trans List.infix_append_right

theorem infix_of_mem_linesOf {cs l : List Char} (h : l ∈ linesOf cs) : l <:+: cs := by
  have hpiece : ∀ p ∈ cs.splitOn '\n', p <:+: cs := fun p hp => by
    have := mem_infix_intercalate ['\n'] hp
    rwa [List.intercalate_splitOn] at this
  have hreturn : ∀ p, dropReturn p <+: p := fun p => by
    unfold dropReturn
    split
    · exact List.dropLast_prefix p
    · exact List.prefix_refl p
  have hended : ∀ x ∈ (cs.splitOn '\n').dropLast.map dropReturn, x <:+: cs := fun x hx => by
    obtain ⟨p, hp, rfl⟩ := List.mem_map.1 hx
    exact (hreturn p).isInfix.trans (hpiece p (List.dropLast_subset _ hp))
  unfold linesOf at h
  split at h
  · cases h
  · generalize hpieces : cs.splitOn '\n' = pieces at h hended hpiece
    cases pieces with
    | nil => cases h
    | cons p ps =>
      simp only at h
      generalize hlast : (p :: ps).getLast? = last at h
      cases last with
      | none => exact hended l h
      | some last =>
        have hmem : last ∈ p :: ps := List.mem_of_getLast? hlast
        cases last with
        | nil => exact hended l h
        | cons c r =>
          rcases List.mem_append.1 h with h | h
          · exact hended l h
          · rw [List.mem_singleton.1 h]
            exact hpiece _ hmem

theorem noCommentEnd_of_mem_lines {body l : String} (hbody : NoCommentEnd body.toList) (h : l ∈ lines body) :
    NoCommentEnd l.toList := by
  obtain ⟨cs, hcs, rfl⟩ := List.mem_map.1 h
  rw [String.toList_ofList]
  exact hbody.of_infix (infix_of_mem_linesOf hcs)

/-! ## Comments -/

/-- A doc comment at a depth: it opens with `/**` at the indentation of the depth, its last line is
` */` at that indentation, and that line holds its only `*/`. -/
structure IsDocComment (depth : Nat) (c : List Char) : Prop where
  opens : (indent depth ++ "/**\n").toList <+: c
  closes : '\n' :: (indent depth ++ " */\n").toList <:+ c
  closes_once : ∀ u v, c = u ++ '*' :: '/' :: v → v = ['\n']

theorem docComment_toList (body : String) (depth : Nat) : (docComment body depth).toList =
    ((indent depth ++ "/**").toList :: (lines body).map fun l => (indent depth ++ l).toList).flatMap
      (· ++ ['\n']) ++ (indent depth ++ " */\n").toList := by
  simp [docComment, String.toList_append, String.toList_join, List.flatMap_map]

theorem noCommentEnd_flatMap_lines : ∀ {ls : List (List Char)}, (∀ l ∈ ls, NoCommentEnd l) →
    NoCommentEnd (ls.flatMap (· ++ ['\n']))
  | [], _ => noCommentEnd_nil
  | l :: ls, h => by
    rw [List.flatMap_cons, List.append_assoc]
    have hrest : NoCommentEnd (['\n'] ++ ls.flatMap (· ++ ['\n'])) :=
      (noCommentEnd_singleton _).append_of_last (noCommentEnd_flatMap_lines fun x hx =>
        h x (List.mem_cons_of_mem _ hx)) (by simp)
    exact (h l (by simp)).append_of_head hrest (by simp)

theorem flatMap_lines_eq_append (l : List Char) :
    ∀ ls : List (List Char), ∃ before, (l :: ls).flatMap (· ++ ['\n']) = before ++ ['\n']
  | [] => ⟨l, by simp⟩
  | l' :: ls => by
    obtain ⟨before, h⟩ := flatMap_lines_eq_append l' ls
    exact ⟨l ++ ['\n'] ++ before, by simp [List.flatMap_cons, h]⟩

theorem NoCommentEnd.indent_append {l : List Char} (h : NoCommentEnd l) (depth : Nat) :
    NoCommentEnd ((indent depth).toList ++ l) := by
  rw [indent, String.toList_ofList]
  refine (noCommentEnd_replicate_space _).append_of_last h ?_
  rw [List.getLast?_replicate]
  split <;> simp

theorem eq_newline_of_commentEnd {x u v : List Char} (hx : NoCommentEnd (x ++ ['*']))
    (h : x ++ ['*', '/', '\n'] = u ++ '*' :: '/' :: v) : v = ['\n'] := by
  rcases List.append_eq_append_iff.1 h with ⟨a, rfl, ha⟩ | ⟨c, rfl, hc⟩
  · rcases a with _ | ⟨a₀, _ | ⟨a₁, a⟩⟩
    · simpa using ha.symm
    · simp at ha
    · have := congrArg List.length ha
      simp at this
      omega
  · rcases c with _ | ⟨c₀, _ | ⟨c₁, c⟩⟩
    · simpa using hc
    · simp at hc
    · simp only [List.cons_append, List.cons.injEq] at hc
      obtain ⟨rfl, rfl, -⟩ := hc
      exact absurd ⟨u, c ++ ['*'], by simp⟩ hx

theorem docComment_closes_once {body : String} (hbody : NoCommentEnd body.toList) (depth : Nat) :
    IsDocComment depth (docComment body depth).toList := by
  rw [docComment_toList]
  generalize hopen : (indent depth ++ "/**").toList = opening
  generalize hls : (lines body).map (fun l => (indent depth ++ l).toList) = ls
  have hlines : ∀ l ∈ opening :: ls, NoCommentEnd l := by
    intro l hl
    rcases List.mem_cons.1 hl with rfl | hl
    · rw [← hopen, String.toList_append]
      exact NoCommentEnd.indent_append (by simp [noCommentEnd_cons_iff]) depth
    · rw [← hls] at hl
      obtain ⟨line, hline, rfl⟩ := List.mem_map.1 hl
      rw [String.toList_append]
      exact (noCommentEnd_of_mem_lines hbody hline).indent_append depth
  have hbefore := noCommentEnd_flatMap_lines hlines
  refine ⟨?_, ?_, ?_⟩
  · rw [List.flatMap_cons, ← hopen]
    exact ⟨ls.flatMap (· ++ ['\n']) ++ (indent depth ++ " */\n").toList, by simp [String.toList_append]⟩
  all_goals
    obtain ⟨before, hbefore_eq⟩ := flatMap_lines_eq_append opening ls
    rw [hbefore_eq]
  · exact ⟨before, by simp⟩
  · have hfront : NoCommentEnd (before ++ ['\n'] ++ ((indent depth).toList ++ [' ', '*'])) := by
      refine (hbefore_eq ▸ hbefore).append_of_last ?_ (by simp)
      exact NoCommentEnd.indent_append (by simp [noCommentEnd_cons_iff]) depth
    intro u v h
    refine eq_newline_of_commentEnd (x := before ++ ['\n'] ++ (indent depth).toList ++ [' ']) (u := u) ?_ ?_
    · simpa using hfront
    · rw [← h]
      simp [String.toList_append]

/-- A rendered doc comment holds `*/` only on its last line, whatever text it documents. -/
theorem doc_comments_close_only_on_their_last_line (depth : Nat) :
    (∀ a : Component.Annotations, IsDocComment depth (docComment a.renderDoc depth).toList) ∧
    ∀ (t : Component.SimpleType) (body : String), t.renderDoc = some body →
      IsDocComment depth (docComment body depth).toList :=
  ⟨fun a => docComment_closes_once (noCommentEnd_renderDoc a) depth,
    fun _ _ h => docComment_closes_once (noCommentEnd_simpleType_renderDoc h) depth⟩

/-- A simple type whose documentation and pattern hold `*/`, and whose lower bound puts a star and
a slash on either side of a carriage return and a line feed. -/
def commentEndType : Component.SimpleType :=
  ⟨"T", .anySimpleType, { minInclusive := some "1*\r\n/2", pattern := some "a*/b" }, some ⟨["x */ y"]⟩⟩

/-- Its doc comment escapes the two `*/`, and the star and the slash of the lower bound end up on
two lines, so at depth 0 the comment still closes on its last line only. -/
theorem commentEndType_comment_closes_once :
    commentEndType.renderDoc = some " * x *\\/ y\n *\n * Min: 1*\r\n/2\n * Pattern: a*\\/b" ∧
    IsDocComment 0 (docComment " * x *\\/ y\n *\n * Min: 1*\r\n/2\n * Pattern: a*\\/b" 0).toList := by
  have hbody : commentEndType.renderDoc = some " * x *\\/ y\n *\n * Min: 1*\r\n/2\n * Pattern: a*\\/b" := by
    decide +kernel
  exact ⟨hbody, (doc_comments_close_only_on_their_last_line 0).2 _ _ hbody⟩

end SchemaTypes.Script
