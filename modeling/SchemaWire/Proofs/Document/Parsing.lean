import SchemaWire.Document.Parse
import SchemaWire.Proofs.Binds
import SchemaWire.Proofs.Document.Grammar

/-!
Tokens are read by the grammar: every tree is read back from its tokens, and whatever is read is a
tree. So a sequence of tokens is a document exactly when it is derived.
-/
namespace SchemaWire.Grammar

/-! Every tree is read back from its tokens, whatever follows them. -/

section Reading

open Document

variable {last : Token} {rest : List Token}

theorem take_terminal {kind : TokenKind} (t : Terminal kind) (expected : Expected) :
    take last kind expected (t.val :: rest) = .ok (t.val, rest) :=
  if_pos (beq_iff_eq.mpr t.property)

theorem docs_unattach (ds : List (Terminal .doc)) {t : Token} (other : t.kind ≠ .doc)
    (rest : List Token) :
    docs (ds.unattach ++ t :: rest) = ds.unattach ∧
      afterDocs (ds.unattach ++ t :: rest) = t :: rest := by
  induction ds with
  | nil => simp [docs, afterDocs, other]
  | cons d ds ih =>
      simp only [docs, afterDocs] at ih ⊢
      simp [d.property, ih]

theorem joinDocs_unattach (ds : List (Terminal .doc)) : joinDocs ds.unattach = docText ds := by
  cases ds with
  | nil => rfl
  | cons d ds =>
      rw [List.unattach, joinDocs, List.map_map]
      rfl

theorem typeExpr_tokens (t : TypeTree) :
    typeExpr last (t.tokens ++ rest) = .ok (t.expr, rest) := by
  induction t with
  | primitive word p spelled =>
      have found := p.ofName?_name
      rw [spelled] at found
      unfold typeExpr
      simp [TypeTree.tokens, TypeTree.expr, word.property, typeOfName, found]
  | named word other =>
      have missing : PrimitiveType.ofName? word.val.text = none := by
        simpa [PrimitiveType.ofName?] using fun p _ => other p
      unfold typeExpr
      simp [TypeTree.tokens, TypeTree.expr, word.property, typeOfName, missing]
  | array opening closing element ih =>
      simp [TypeTree.tokens, TypeTree.expr, typeExpr, opening.property, closing.property, ih, bind,
        Except.bind, pure, Except.pure]

/-- A type starts with no question mark. -/
theorem TypeTree.takeIf_question (t : TypeTree) (question : Option (Terminal .question)) :
    takeIf .question (question.toList.unattach ++ (t.tokens ++ rest)) =
      (question.isSome, t.tokens ++ rest) := by
  cases question with
  | some q => simp [takeIf, q.property]
  | none => cases t with
    | primitive word p spelled => simp [takeIf, tokens, word.property]
    | named word other => simp [takeIf, tokens, word.property]
    | array opening closing element => simp [takeIf, tokens, opening.property]

theorem fieldDecl_core (f : FieldTree) :
    fieldDecl last f.docs.unattach (f.core ++ rest) = .ok (f.decl, rest) := by
  simp only [fieldDecl, FieldTree.core, List.cons_append, List.append_assoc, take_terminal, bind,
    Except.bind, f.type.takeIf_question, typeExpr_tokens, joinDocs_unattach, pure, Except.pure]
  rfl

theorem docs_field (f : FieldTree) :
    docs (f.tokens ++ rest) = f.docs.unattach ∧ afterDocs (f.tokens ++ rest) = f.core ++ rest := by
  have word : f.name.val.kind ≠ .doc := by simp [f.name.property]
  simpa [FieldTree.tokens, FieldTree.core] using docs_unattach f.docs word (f.core.tail ++ rest)

theorem fieldDecls_closing (closing : Terminal .closeBrace) :
    fieldDecls last (closing.val :: rest) = .ok ([], rest) := by
  have brace : closing.val.kind ≠ .doc := by simp [closing.property]
  obtain ⟨none, front⟩ := docs_unattach [] brace rest
  simp only [List.unattach_nil, List.nil_append] at none front
  simp [fieldDecls, none, front, closing.property]

/-- Reading the fields of a struct comes to reading one and going on behind it. -/
theorem fieldDecls_tokens (f : FieldTree) :
    fieldDecls last (f.tokens ++ rest) =
      match rest with
      | [] => .error (unexpected last .commaOrBrace [])
      | token :: more =>
        if token.kind == .comma then do
          let (fields, rest) ← fieldDecls last more
          return (f.decl :: fields, rest)
        else do
          let (_, rest) ← take last .closeBrace .commaOrBrace (token :: more)
          return ([f.decl], rest) := by
  have read : fieldDecl last (docs (f.tokens ++ rest)) (afterDocs (f.tokens ++ rest)) =
      .ok (f.decl, rest) := by
    rw [(docs_field f).1, (docs_field f).2, fieldDecl_core]
  have open? : ¬((afterDocs (f.tokens ++ rest)).headD last).kind == .closeBrace := by
    simp [(docs_field f).2, FieldTree.core, f.name.property]
  rw [fieldDecls, if_neg open?]
  split
  · next failed =>
      rw [read] at failed
      cases failed
  · next found =>
      rw [read] at found
      cases found
      cases rest with
      | nil => rfl
      | cons token more => rfl

theorem fieldDecls_tail (first : FieldTree) (more : List (Terminal .comma × FieldTree))
    (trailing : Option (Terminal .comma)) (closing : Terminal .closeBrace) :
    fieldDecls last (first.tokens ++ (FieldList.tail more trailing ++ closing.val :: rest)) =
      .ok (first.decl :: more.map (·.2.decl), rest) := by
  induction more generalizing first with
  | nil =>
      cases trailing with
      | none => simp [fieldDecls_tokens, FieldList.tail, closing.property, take_terminal, bind,
          Except.bind, pure, Except.pure]
      | some comma => simp [fieldDecls_tokens, FieldList.tail, comma.property, fieldDecls_closing,
          bind, Except.bind, pure, Except.pure]
  | cons entry more ih =>
      obtain ⟨comma, field⟩ := entry
      have later := ih field
      simp only [FieldList.tail, List.append_assoc] at later
      simp [fieldDecls_tokens, FieldList.tail, comma.property, later, bind, Except.bind, pure,
        Except.pure]

theorem fieldDecls_body (body : Option FieldList) (closing : Terminal .closeBrace) :
    fieldDecls last (bodyTokens body ++ closing.val :: rest) = .ok (bodyDecls body, rest) := by
  cases body with
  | none => exact fieldDecls_closing closing
  | some l =>
      rw [bodyTokens, FieldList.tokens, List.append_assoc]
      exact fieldDecls_tail l.first l.more l.trailing closing

theorem structDecl_core (s : StructTree) :
    structDecl last s.docs.unattach (s.core ++ rest) = .ok (s.decl, rest) := by
  simp only [structDecl, StructTree.core, List.cons_append, List.append_assoc, take_terminal, bind,
    Except.bind, List.nil_append, fieldDecls_body, joinDocs_unattach, pure, Except.pure]
  rfl

theorem structDecls_tokens (s : StructTree) :
    structDecls last (s.tokens ++ rest) = do return s.decl :: (← structDecls last rest) := by
  have word : s.keyword.val.kind ≠ .doc := by simp [s.keyword.property]
  have split := docs_unattach s.docs word (s.core.tail ++ rest)
  have front : docs (s.tokens ++ rest) = s.docs.unattach ∧
      afterDocs (s.tokens ++ rest) = s.core ++ rest := by
    simpa [StructTree.tokens, StructTree.core] using split
  have more : ¬((afterDocs (s.tokens ++ rest)).headD last).kind == .eof := by
    simp [front.2, StructTree.core, s.keyword.property]
  rw [structDecls, if_neg more]
  split
  · next failed =>
      rw [front.1, front.2, structDecl_core] at failed
      cases failed
  · next found =>
      rw [front.1, front.2, structDecl_core] at found
      cases found
      rfl

theorem structDecls_eof (eof : Terminal .eof) : structDecls last [eof.val] = .ok [] := by
  simp [structDecls, docs, afterDocs, eof.property]

theorem ofTokens_tokens (tree : SchemaTree) (eof : Terminal .eof) :
    ofTokens (tree.tokens ++ [eof.val]) = .ok tree.document := by
  have read : structDecls eof.val (tree.tokens ++ [eof.val]) = .ok (tree.map (·.decl)) := by
    induction tree with
    | nil => exact structDecls_eof eof
    | cons s tree ih =>
        rw [SchemaTree.tokens, List.flatMap_cons, List.append_assoc, structDecls_tokens]
        change (do return s.decl :: (← structDecls eof.val (SchemaTree.tokens tree ++ [eof.val]))) = _
        rw [ih]
        rfl
  rw [ofTokens, List.getLast?_concat]
  simp only [read]
  rfl

/-! What is read is a tree. -/

theorem take_eq_ok {kind : TokenKind} {expected : Expected} {tokens : List Token} {t : Token}
    (h : take last kind expected tokens = .ok (t, rest)) :
    ∃ terminal : Terminal kind, terminal.val = t ∧ tokens = terminal.val :: rest := by
  unfold take at h
  split at h
  · split at h
    · next same =>
        cases h
        exact ⟨⟨_, beq_iff_eq.mp same⟩, rfl, rfl⟩
    · cases h
  · cases h

theorem takeIf_eq (kind : TokenKind) (tokens : List Token) :
    ∃ terminal : Option (Terminal kind), terminal.isSome = (takeIf kind tokens).1 ∧
      tokens = terminal.toList.unattach ++ (takeIf kind tokens).2 := by
  cases tokens with
  | nil => exact ⟨none, rfl, rfl⟩
  | cons t more =>
      by_cases same : t.kind = kind
      · exact ⟨some ⟨t, same⟩, by simp [takeIf, same], by simp [takeIf, same]⟩
      · exact ⟨none, by simp [takeIf, same], by simp [takeIf, same]⟩

theorem docs_eq (tokens : List Token) :
    ∃ ds : List (Terminal .doc), ds.unattach = docs tokens ∧
      tokens = ds.unattach ++ afterDocs tokens := by
  induction tokens with
  | nil => exact ⟨[], rfl, rfl⟩
  | cons t more ih =>
      by_cases same : t.kind = .doc
      · obtain ⟨ds, front, whole⟩ := ih
        refine ⟨⟨t, same⟩ :: ds, ?_, ?_⟩
        · simpa [docs, same] using front
        · simpa [afterDocs, same] using whole
      · exact ⟨[], by simp [docs, same], by simp [afterDocs, same]⟩

theorem exists_typeTree (word : Terminal .ident) :
    ∃ t : TypeTree, t.expr = typeOfName word.val.text ∧ t.tokens = [word.val] := by
  unfold typeOfName
  cases found : PrimitiveType.ofName? word.val.text with
  | some p =>
      have spelled := List.find?_some (p := fun p : PrimitiveType => p.name == word.val.text) found
      exact ⟨.primitive word p (beq_iff_eq.mp spelled), rfl, rfl⟩
  | none =>
      exact ⟨.named word (PrimitiveType.name_ne_of_ofName? found), rfl, rfl⟩

theorem typeExpr_eq_ok {tokens : List Token} {type : TypeExpr}
    (h : typeExpr last tokens = .ok (type, rest)) :
    ∃ t : TypeTree, t.expr = type ∧ tokens = t.tokens ++ rest := by
  fun_induction typeExpr last tokens generalizing type rest with
  | case1 => cases h
  | case2 => cases h
  | case3 token opened closing more closed ih =>
      obtain ⟨⟨element, left⟩, read, h⟩ := except_bind_eq_ok.mp h
      cases h
      obtain ⟨t, rfl, rfl⟩ := ih read
      exact ⟨.array ⟨token, beq_iff_eq.mp opened⟩ ⟨closing, beq_iff_eq.mp closed⟩ t, rfl, rfl⟩
  | case4 => cases h
  | case5 token more opened word =>
      cases h
      obtain ⟨t, meaning, spelled⟩ := exists_typeTree ⟨token, beq_iff_eq.mp word⟩
      exact ⟨t, meaning, by rw [spelled]; rfl⟩
  | case6 => cases h

theorem fieldDecl_eq_ok {ds : List (Terminal .doc)} {tokens : List Token} {field : FieldDecl}
    (h : fieldDecl last ds.unattach tokens = .ok (field, rest)) :
    ∃ f : FieldTree, f.docs = ds ∧ f.decl = field ∧ tokens = f.core ++ rest := by
  obtain ⟨⟨_, behindName⟩, named, h⟩ := except_bind_eq_ok.mp h
  obtain ⟨⟨_, behindColon⟩, marked, h⟩ := except_bind_eq_ok.mp h
  obtain ⟨question, present, flagged⟩ := takeIf_eq .question behindColon
  dsimp only at h
  generalize takeIf .question behindColon = found at h present flagged
  obtain ⟨optional, behindQuestion⟩ := found
  obtain ⟨⟨_, behindType⟩, typed, h⟩ := except_bind_eq_ok.mp h
  cases h
  obtain ⟨name, rfl, rfl⟩ := take_eq_ok named
  obtain ⟨colon, rfl, rfl⟩ := take_eq_ok marked
  obtain ⟨type, rfl, rfl⟩ := typeExpr_eq_ok typed
  refine ⟨⟨ds, name, colon, question, type⟩, rfl, ?_, ?_⟩
  · rw [joinDocs_unattach, ← present]
    rfl
  · rw [flagged]
    simp [FieldTree.core]

/-- The fields up to a closing brace. The token behind the last one is no brace. -/
theorem fieldDecls_eq_ok (ends : last.kind = .eof) {tokens : List Token} {fields : List FieldDecl}
    (h : fieldDecls last tokens = .ok (fields, rest)) :
    ∃ (body : Option FieldList) (closing : Terminal .closeBrace), bodyDecls body = fields ∧
      tokens = bodyTokens body ++ closing.val :: rest := by
  fun_induction fieldDecls last tokens generalizing fields rest with
  | case1 => cases h
  | case2 tokens brace none =>
      cases h
      obtain ⟨ds, front, whole⟩ := docs_eq tokens
      cases shape : afterDocs tokens with
      | nil => simp [shape, ends] at brace
      | cons t more =>
          simp only [shape, List.headD_cons, beq_iff_eq] at brace
          refine ⟨.none, ⟨t, brace⟩, rfl, ?_⟩
          rw [front, none, shape] at whole
          exact whole
  | case3 => cases h
  | case4 tokens brace field token more read comma _ ih =>
      obtain ⟨ds, front, whole⟩ := docs_eq tokens
      rw [← front] at read
      obtain ⟨f, rfl, rfl, core⟩ := fieldDecl_eq_ok read
      obtain ⟨⟨others, left⟩, later, h⟩ := except_bind_eq_ok.mp h
      cases h
      obtain ⟨body, closing, rfl, rfl⟩ := ih later
      have spelled : tokens = f.tokens ++ token :: (bodyTokens body ++ closing.val :: rest) := by
        rw [whole, core, FieldTree.tokens, List.append_assoc]
      cases body with
      | none =>
          refine ⟨some ⟨f, [], some ⟨token, beq_iff_eq.mp comma⟩⟩, closing, rfl, ?_⟩
          simp [spelled, bodyTokens, FieldList.tokens, FieldList.tail]
      | some l =>
          refine ⟨some ⟨f, (⟨token, beq_iff_eq.mp comma⟩, l.first) :: l.more, l.trailing⟩, closing,
            rfl, ?_⟩
          simp [spelled, bodyTokens, FieldList.tokens, FieldList.tail]
  | case5 tokens brace field token more read comma =>
      obtain ⟨ds, front, whole⟩ := docs_eq tokens
      rw [← front] at read
      obtain ⟨f, rfl, rfl, core⟩ := fieldDecl_eq_ok read
      obtain ⟨⟨t, left⟩, closed, h⟩ := except_bind_eq_ok.mp h
      cases h
      obtain ⟨closing, rfl, shape⟩ := take_eq_ok closed
      refine ⟨some ⟨f, [], none⟩, closing, rfl, ?_⟩
      rw [whole, core, shape]
      simp [bodyTokens, FieldList.tokens, FieldList.tail, FieldTree.tokens]
  | case6 => cases h

theorem structDecl_eq_ok (ends : last.kind = .eof) {ds : List (Terminal .doc)}
    {tokens : List Token} {struct : StructDecl}
    (h : structDecl last ds.unattach tokens = .ok (struct, rest)) :
    ∃ s : StructTree, s.docs = ds ∧ s.decl = struct ∧ tokens = s.core ++ rest := by
  obtain ⟨⟨_, behindKeyword⟩, announced, h⟩ := except_bind_eq_ok.mp h
  obtain ⟨⟨_, behindName⟩, named, h⟩ := except_bind_eq_ok.mp h
  obtain ⟨⟨_, inside⟩, opened, h⟩ := except_bind_eq_ok.mp h
  obtain ⟨⟨_, behind⟩, read, h⟩ := except_bind_eq_ok.mp h
  cases h
  obtain ⟨keyword, rfl, rfl⟩ := take_eq_ok announced
  obtain ⟨name, rfl, rfl⟩ := take_eq_ok named
  obtain ⟨opening, rfl, rfl⟩ := take_eq_ok opened
  obtain ⟨body, closing, rfl, rfl⟩ := fieldDecls_eq_ok ends read
  refine ⟨⟨ds, keyword, name, opening, body, closing⟩, rfl, ?_, ?_⟩
  · rw [joinDocs_unattach]
    rfl
  · simp [StructTree.core]

theorem structDecls_eq_ok (ends : last.kind = .eof) {tokens : List Token}
    {structs : List StructDecl} (h : structDecls last tokens = .ok structs) :
    ∃ (tree : SchemaTree) (rest : List Token), tree.map (·.decl) = structs ∧
      tokens = tree.tokens ++ rest ∧ (rest.headD last).kind = .eof := by
  fun_induction structDecls last tokens generalizing structs with
  | case1 => cases h
  | case2 tokens stop none =>
      cases h
      obtain ⟨ds, front, whole⟩ := docs_eq tokens
      rw [front, none] at whole
      exact ⟨[], afterDocs tokens, rfl, whole, beq_iff_eq.mp stop⟩
  | case3 => cases h
  | case4 tokens stop struct more read ih =>
      obtain ⟨ds, front, whole⟩ := docs_eq tokens
      rw [← front] at read
      obtain ⟨s, rfl, rfl, core⟩ := structDecl_eq_ok ends read
      obtain ⟨others, later, h⟩ := except_bind_eq_ok.mp h
      cases h
      obtain ⟨tree, left, rfl, rfl, final⟩ := ih later
      refine ⟨s :: tree, left, rfl, ?_, final⟩
      rw [whole, core]
      simp [SchemaTree.tokens, StructTree.tokens]

end Reading

/-- Tokens without an end and then an end are read as a document exactly when they spell a tree of
that document. No other tree is spelled by them. -/
theorem ofTokens_eq_ok_iff {tokens : List Token} (inner : ∀ t ∈ tokens, t.kind ≠ .eof)
    {eof : Token} (ends : eof.kind = .eof) (d : Document) :
    Document.ofTokens (tokens ++ [eof]) = .ok d ↔
      ∃ tree : SchemaTree, tree.tokens = tokens ∧ tree.document = d ∧
        ∀ other : SchemaTree, other.tokens = tokens → other = tree := by
  constructor
  · intro h
    rw [Document.ofTokens, List.getLast?_concat] at h
    obtain ⟨structs, read, h⟩ := except_bind_eq_ok.mp h
    cases h
    obtain ⟨tree, rest, rfl, whole, stop⟩ := structDecls_eq_ok ends read
    have spelled : tree.tokens = tokens := by
      cases rest with
      | nil =>
          rw [List.append_nil] at whole
          exact absurd whole (tree.tokens_ne_concat tokens ⟨eof, ends⟩)
      | cons t more =>
          rcases List.eq_nil_or_concat more with rfl | ⟨front, x, rfl⟩
          · exact (List.append_inj' whole rfl).1.symm
          · -- The end at which reading stopped would stand among the tokens before the last.
            rw [List.concat_eq_append, ← List.cons_append, ← List.append_assoc] at whole
            have early := (List.append_inj' whole rfl).1
            exact absurd stop (inner t (by rw [early]; simp))
    refine ⟨tree, spelled, rfl, ?_⟩
    intro other same
    exact SchemaTree.tokens_inj (same.trans spelled.symm)
  · rintro ⟨tree, rfl, rfl, -⟩
    exact ofTokens_tokens tree ⟨eof, ends⟩

def terminal (kind : TokenKind) (text : String) (column : Nat) : Terminal kind :=
  ⟨⟨kind, text, ⟨3, column⟩⟩, rfl⟩

/-- Two doc comments, and on the line behind them `struct Path { at: ?Point, grid: [][]u8, }`. -/
def pathTree : StructTree where
  docs := [⟨⟨.doc, "A way", ⟨1, 1⟩⟩, rfl⟩, ⟨⟨.doc, "to go", ⟨2, 1⟩⟩, rfl⟩]
  keyword := terminal .struct "struct" 1
  name := terminal .ident "Path" 8
  opening := terminal .openBrace "\x7b" 13
  fields := some {
    first := {
      docs := []
      name := terminal .ident "at" 15
      colon := terminal .colon ":" 17
      question := some (terminal .question "?" 19)
      type := .named (terminal .ident "Point" 20) (PrimitiveType.name_ne_of_ofName? (by decide)) }
    more := [(terminal .comma "," 25, {
      docs := []
      name := terminal .ident "grid" 27
      colon := terminal .colon ":" 31
      question := none
      type := .array (terminal .openBracket "[" 33) (terminal .closeBracket "]" 34)
        (.array (terminal .openBracket "[" 35) (terminal .closeBracket "]" 36)
          (.primitive (terminal .ident "u8" 37) (.scalar (.word .u8)) rfl)) })]
    trailing := some (terminal .comma "," 39) }
  closing := terminal .closeBrace "\x7d" 41

theorem ofTokens_eq_ok_iff_path :
    (∀ t ∈ pathTree.tokens, t.kind ≠ .eof) ∧
      Document.ofTokens (pathTree.tokens ++ [⟨.eof, "", ⟨3, 42⟩⟩]) = .ok ⟨[{
        name := "Path"
        position := ⟨3, 8⟩
        doc := some "A way\nto go"
        fields := [
          ⟨"at", ⟨3, 15⟩, none, .named "Point", true⟩,
          ⟨"grid", ⟨3, 27⟩, none, .array (.array (.primitive (.scalar (.word .u8)))), false⟩] }]⟩ := by
  have inner : ∀ t ∈ pathTree.tokens, t.kind ≠ .eof := by decide
  refine ⟨inner, (ofTokens_eq_ok_iff inner rfl _).mpr ⟨[pathTree], ?_, ?_, ?_⟩⟩
  · exact List.append_nil _
  · rfl
  · intro other same
    exact SchemaTree.tokens_inj (same.trans (List.append_nil _).symm)

end SchemaWire.Grammar
