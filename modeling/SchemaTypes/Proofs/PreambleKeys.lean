import SchemaTypes.Script.TemplateReading
import SchemaTypes.Proofs.LiteralSyntax
set_option autoImplicit false

/-!
The keys of the helper types. The attribute properties of the element and document types are
string literals of the prefixed names, so they denote those names. The namespace declarations are
an index signature over a template literal type whose text is the prefix and `xmlns:`, escaped by
three passes: backslashes, then backquotes, then `${`. The passes escape each of these once and
nothing else (`templateText_eq_templateChars`), so the text reads back up to the substitution that
follows it; but a carriage return is not escaped, and a template reads it as a line feed
(`readTemplateText_templateChars`). The text denotes the prefix and `xmlns:` exactly when the
prefix holds no carriage return.
-/

namespace SchemaTypes.Script

/-! ## Escaping once -/

/-- A text escaped for a template in one pass: a backslash before every backslash, every backquote
and every `${`. -/
def templateChars : List Char → List Char
  | '\\' :: r => '\\' :: '\\' :: templateChars r
  | '\x60' :: r => '\\' :: '\x60' :: templateChars r
  | '$' :: '\x7b' :: r => '\\' :: '$' :: '\x7b' :: templateChars r
  | c :: r => c :: templateChars r
  | [] => []

theorem escapeBackquote_escapeBackslash_brace {r r' : List Char}
    (h : escapeBackquote (escapeBackslash r) = '\x7b' :: r') : r.head? = some '\x7b' := by
  cases r with
  | nil => simp [escapeBackslash, escapeBackquote] at h
  | cons c r =>
    by_cases hb : c = '\\'
    · subst hb
      simp [escapeBackslash, escapeBackquote] at h
    · by_cases hq : c = '\x60'
      · subst hq
        simp [escapeBackslash, escapeBackquote] at h
      · rw [escapeBackslash.eq_3 c r hb, escapeBackquote, if_neg hq, List.cons.injEq] at h
        simp [h.1]

theorem templateText_eq_templateChars (cs : List Char) : templateText cs = templateChars cs := by
  fun_induction templateChars cs with
  | case1 r ih => simp [templateText, escapeBackslash, escapeBackquote, escapeSubstitution, ← ih]
  | case2 r ih => simp [templateText, escapeBackslash, escapeBackquote, escapeSubstitution, ← ih]
  | case3 r ih => simp [templateText, escapeBackslash, escapeBackquote, escapeSubstitution, ← ih]
  | case4 c r hb hq hs ih =>
    rw [templateText, escapeBackslash.eq_3 c r hb, escapeBackquote, if_neg hq, ← ih, templateText]
    rw [escapeSubstitution.eq_3]
    intro r' hc hr'
    subst hc
    obtain ⟨r'', rfl⟩ := List.head?_eq_some_iff.1 (escapeBackquote_escapeBackslash_brace hr')
    exact hs r'' rfl rfl
  | case5 => rfl

/-! ## Reading the text back -/

/-- The text with each carriage return, alone or before a line feed, made one line feed. -/
def normalizeLineEnds : List Char → List Char
  | '\r' :: '\n' :: r => '\n' :: normalizeLineEnds r
  | '\r' :: r => '\n' :: normalizeLineEnds r
  | c :: r => c :: normalizeLineEnds r
  | [] => []

theorem normalizeLineEnds_eq_self_iff (cs : List Char) : normalizeLineEnds cs = cs ↔ '\r' ∉ cs := by
  fun_induction normalizeLineEnds cs with
  | case1 r ih => simp
  | case2 r _ ih => simp
  | case3 c r _ hc ih =>
    simp only [List.cons.injEq, true_and, List.mem_cons, not_or, ih]
    exact ⟨fun h => ⟨Ne.symm hc, h⟩, fun h => h.2⟩
  | case4 => simp

theorem head?_templateChars_append (r rest : List Char) {x : Char}
    (h : (templateChars r ++ rest).head? = some x) :
    x = '\\' ∨ r.head? = some x ∨ (r = [] ∧ rest.head? = some x) := by
  fun_cases templateChars r with
  | case1 r | case2 r | case3 r =>
    simp only [templateChars, List.cons_append, List.head?_cons, Option.some.injEq] at h
    exact .inl h.symm
  | case4 c r => simp_all [templateChars]
  | case5 => simp_all [templateChars]

theorem readTemplateText_escaped {e : Char} (he : e = '\\' ∨ e = '\x60' ∨ e = '$') (r : List Char) :
    readTemplateText ('\\' :: e :: r) = withFirst e (readTemplateText r) := by
  rw [readTemplateText.eq_10 e r]
  · rcases he with rfl | rfl | rfl <;> rfl
  all_goals rcases he with rfl | rfl | rfl <;> simp

theorem readTemplateText_plain {c : Char} {r : List Char} (hq : c ≠ '\x60') (hb : c ≠ '\\')
    (hr : c ≠ '\r') (hs : c = '$' → r.head? ≠ some '\x7b') :
    readTemplateText (c :: r) = withFirst c (readTemplateText r) := by
  rw [readTemplateText.eq_12 c r hq (fun _ hc h => hs hc (by simp [h])) (fun _ hc _ => hr hc) hr
    (fun _ hc _ => hb hc) (fun _ hc _ => hb hc) (fun _ _ _ hc _ => hb hc) (fun _ _ _ _ _ hc _ => hb hc)
    (fun _ _ hc _ => hb hc) (fun hc _ => hb hc)]

theorem templateChars_plain {c : Char} {r : List Char} (hb : c ≠ '\\') (hq : c ≠ '\x60')
    (hs : c = '$' → r.head? ≠ some '\x7b') : templateChars (c :: r) = c :: templateChars r :=
  templateChars.eq_4 c r hb hq fun _ hc h => hs hc (by simp [h])

theorem readTemplateText_templateChars (cs rest : List Char) :
    readTemplateText (templateChars cs ++ '$' :: '\x7b' :: rest) =
      some (normalizeLineEnds cs, '$' :: '\x7b' :: rest) := by
  fun_induction normalizeLineEnds cs with
  | case1 r ih =>
    rw [templateChars_plain (by decide) (by decide) (fun h => absurd h (by decide)),
      templateChars_plain (by decide) (by decide) (fun h => absurd h (by decide)), List.cons_append,
      List.cons_append, readTemplateText.eq_4, ih]
    rfl
  | case2 r hr ih =>
    rw [templateChars_plain (by decide) (by decide) (fun h => absurd h (by decide)), List.cons_append,
      readTemplateText.eq_5]
    · rw [ih]
      rfl
    · intro r' hr'
      rcases head?_templateChars_append r ('$' :: '\x7b' :: rest) (x := '\n') (by rw [hr']; rfl) with
        h | h | ⟨-, h⟩
      · exact absurd h (by decide)
      · obtain ⟨r'', rfl⟩ := List.head?_eq_some_iff.1 h
        exact hr r'' rfl
      · simp at h
  | case3 c r _ hc ih =>
    by_cases hb : c = '\\'
    · subst hb
      rw [templateChars, List.cons_append, List.cons_append, readTemplateText_escaped (.inl rfl), ih]
      rfl
    by_cases hq : c = '\x60'
    · subst hq
      rw [templateChars, List.cons_append, List.cons_append, readTemplateText_escaped (.inr (.inl rfl)), ih]
      rfl
    by_cases hs : c = '$' ∧ r.head? = some '\x7b'
    · obtain ⟨rfl, hr⟩ := hs
      obtain ⟨r', rfl⟩ := List.head?_eq_some_iff.1 hr
      rw [templateChars, ← templateChars_plain (by decide) (by decide) (fun h => absurd h (by decide)),
        List.cons_append,
        List.cons_append, readTemplateText_escaped (.inr (.inr rfl)), ih]
      rfl
    rw [templateChars_plain hb hq fun h => fun h' => hs ⟨h, h'⟩, List.cons_append,
      readTemplateText_plain hq hb hc, ih]
    · rfl
    · intro hd hbrace
      rcases head?_templateChars_append r ('$' :: '\x7b' :: rest) hbrace with h | h | ⟨-, h⟩
      · exact absurd h (by decide)
      · exact hs ⟨hd, h⟩
      · simp at h
  | case4 => rfl

/-! ## The helper types -/

theorem infix_toList_append_left {s t : String} {l : List Char} (h : l <:+: s.toList) :
    l <:+: (s ++ t).toList := by
  rw [String.toList_append]
  exact h.trans List.infix_append_left

theorem infix_toList_append_right {s t : String} {l : List Char} (h : l <:+: t.toList) :
    l <:+: (s ++ t).toList := by
  rw [String.toList_append]
  exact h.trans List.infix_append_right

theorem field_ne_empty (depth : Nat) (name : String) (optional : Bool) (type : String) :
    field depth name optional type ≠ "" := by
  intro h
  have := congrArg String.length h
  simp [field, String.length_append] at this

theorem record_of_ne_empty {fields : String} (h : fields ≠ "") (depth : Nat) :
    record fields depth = "\x7b\n" ++ fields ++ indent depth ++ "\x7d" := by
  rw [record, if_neg (by simpa [String.isEmpty_iff] using h)]

theorem namespaceSignature_infix_preamble (config : Config) :
    (namespaceSignature config).toList <:+: (preamble config).toList := by
  unfold preamble
  exact infix_toList_append_left (infix_toList_append_left (infix_toList_append_left
    (infix_toList_append_left (infix_toList_append_left (infix_toList_append_left
    (infix_toList_append_left (infix_toList_append_right (List.infix_refl _))))))))

theorem attributeField_infix_preamble (config : Config) :
    ∀ name ∈ ["xmlns", "version", "encoding", "standalone"], ∃ depth,
      (field depth (attributeKey config name) true "string").toList <:+: (preamble config).toList := by
  intro name hname
  unfold preamble
  extract_lets prolog
  rcases List.mem_cons.1 hname with rfl | hname
  · exact ⟨1, infix_toList_append_left (infix_toList_append_left (infix_toList_append_left
      (infix_toList_append_left (infix_toList_append_left (infix_toList_append_left
      (infix_toList_append_left (infix_toList_append_left (infix_toList_append_right
        (List.infix_refl _)))))))))⟩
  · have hprolog : (field 2 (attributeKey config name) true "string").toList <:+: prolog.toList := by
      simp only [prolog, String.toList_join]
      exact List.infix_of_mem_flatten (List.mem_map.2 ⟨_, List.mem_map.2 ⟨name, hname, rfl⟩, rfl⟩)
    have hne : prolog ≠ "" := by
      simp only [prolog, List.map_cons, String.join_cons]
      intro h
      exact field_ne_empty 2 _ true "string" (String.append_eq_empty_iff.1 h).1
    refine ⟨2, infix_toList_append_left (infix_toList_append_right ?_)⟩
    unfold field
    rw [record_of_ne_empty hne]
    exact infix_toList_append_left (infix_toList_append_right (infix_toList_append_left
      (infix_toList_append_left (infix_toList_append_right hprolog))))

theorem field_attributeKey (config : Config) (depth : Nat) (name : String) (optional : Bool)
    (type : String) : field depth (attributeKey config name) optional type =
      indent depth ++ attributeKey config name ++ (if optional then "?" else "") ++ ": " ++ type ++ ";\n" := by
  have hquote : (attributeKey config name).toList.head? = some '"' := head_stringLiteral _
  rw [field, if_pos hquote]

theorem keyName?_stringLiteral (s : String) : keyName? (stringLiteral s) = some s := by
  rw [keyName?, isPlainName_of_quoted (head_stringLiteral s), decodeLiteral_stringLiteral]
  simp [String.ofList_toList]

/-! ## Main statements -/

theorem namespaceSignature_toList (config : Config) : (namespaceSignature config).toList =
    "  [xmlns: \x60".toList ++ templateChars (config.attributePrefix ++ "xmlns:").toList ++
      "$\x7bstring\x7d\x60]: string;\n".toList := by
  simp only [namespaceSignature, String.toList_append, String.toList_ofList, templateText_eq_templateChars]

/-- The namespace signature and the keys of the helper types denote the attribute prefix, with each
carriage return read as a line feed. -/
theorem namespace_signature_denotes_the_prefix_up_to_line_ends (config : Config) :
    (namespaceSignature config).toList <:+: (preamble config).toList ∧
    (namespaceSignature config).toList = "  [xmlns: \x60".toList ++
      templateChars (config.attributePrefix ++ "xmlns:").toList ++ "$\x7bstring\x7d\x60]: string;\n".toList ∧
    readTemplateText (templateChars (config.attributePrefix ++ "xmlns:").toList ++
        "$\x7bstring\x7d\x60]: string;\n".toList) =
      some (normalizeLineEnds (config.attributePrefix ++ "xmlns:").toList,
        "$\x7bstring\x7d\x60]: string;\n".toList) ∧
    (normalizeLineEnds (config.attributePrefix ++ "xmlns:").toList = (config.attributePrefix ++ "xmlns:").toList ↔
      '\r' ∉ config.attributePrefix.toList) ∧
    ∀ name ∈ ["xmlns", "version", "encoding", "standalone"], ∃ depth,
      (indent depth ++ attributeKey config name ++ "?: string;\n").toList <:+: (preamble config).toList ∧
      keyName? (attributeKey config name) = some (config.attributePrefix ++ name) := by
  have hsub : "$\x7bstring\x7d\x60]: string;\n".toList = '$' :: '\x7b' :: "string\x7d\x60]: string;\n".toList := by
    simp
  refine ⟨namespaceSignature_infix_preamble config, namespaceSignature_toList config, ?_, ?_, ?_⟩
  · rw [hsub, readTemplateText_templateChars]
  · rw [normalizeLineEnds_eq_self_iff, String.toList_append, List.mem_append]
    simp
  · intro name hname
    obtain ⟨depth, hfield⟩ := attributeField_infix_preamble config name hname
    refine ⟨depth, ?_, keyName?_stringLiteral _⟩
    rw [field_attributeKey] at hfield
    simpa [String.append_assoc] using hfield

/-- A carriage return in the attribute prefix is read back as a line feed. -/
theorem carriageReturnPrefix_signature_denotes_a_line_feed :
    namespaceSignature { attributePrefix := "\r" } = "  [xmlns: \x60\rxmlns:$\x7bstring\x7d\x60]: string;\n" ∧
    readTemplateText "\rxmlns:$\x7bstring\x7d\x60]: string;\n".toList =
      some ("\nxmlns:".toList, "$\x7bstring\x7d\x60]: string;\n".toList) ∧
    "\nxmlns:" ≠ "\r" ++ "xmlns:" := by
  decide +kernel

end SchemaTypes.Script
