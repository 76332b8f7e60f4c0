import SchemaWire.Document.Compile
import SchemaWire.Proofs.Document.Bare
import SchemaWire.Proofs.Document.Parsing
import SchemaWire.Proofs.Document.Rendering
import SchemaWire.Proofs.Document.Resolution

/-!
Reading written documents. The words of a document are the tokens of a tree that declares it, apart
from positions, and no rule looks at positions. So a valid document is read back from its text.
-/
namespace SchemaWire

/-! Documents apart from the positions in them. -/

def FieldDecl.unplaced (f : FieldDecl) : FieldDecl := { f with position := ⟨0, 0⟩ }

def StructDecl.unplaced (s : StructDecl) : StructDecl :=
  { s with position := ⟨0, 0⟩, fields := s.fields.map FieldDecl.unplaced }

def Document.unplaced (d : Document) : Document := ⟨d.structs.map StructDecl.unplaced⟩

namespace Grammar

open Token (Word)

section Trees

variable {tokens : List Token} {words : List Word}

theorem exists_terminal {kind : TokenKind} {text : String}
    (h : tokens.map Token.unplaced = (kind, text) :: words) :
    ∃ (t : Terminal kind) (rest : List Token), tokens = t.val :: rest ∧ t.val.text = text ∧
      rest.map Token.unplaced = words := by
  obtain ⟨t, rest, rfl, word, later⟩ := List.map_eq_cons_iff.mp h
  obtain ⟨kinds, texts⟩ := Prod.mk.inj word
  exact ⟨⟨t, kinds⟩, rest, rfl, texts, later⟩

theorem exists_terminals {kind : TokenKind} {texts : List String}
    (h : tokens.map Token.unplaced = texts.map fun text => (kind, text)) :
    ∃ ts : List (Terminal kind), ts.unattach = tokens ∧ ts.map (·.val.text) = texts := by
  induction texts generalizing tokens with
  | nil => exact ⟨[], (List.map_eq_nil_iff.mp h).symm, rfl⟩
  | cons text texts ih =>
      obtain ⟨t, rest, rfl, rfl, later⟩ := exists_terminal h
      obtain ⟨ts, rfl, rfl⟩ := ih later
      exact ⟨t :: ts, List.unattach_cons, rfl⟩

/-- The lines of a doc comment make up its text again. -/
theorem exists_docs {doc : Option String} (h : tokens.map Token.unplaced = docWords doc) :
    ∃ docs : List (Terminal .doc), docs.unattach = tokens ∧ docText docs = doc := by
  have spelled :
      docWords doc = ((docLines doc).map String.ofList).map fun text => (.doc, text) := by
    rw [docWords, List.map_map]
    rfl
  obtain ⟨docs, attached, texts⟩ := exists_terminals (h.trans spelled)
  refine ⟨docs, attached, ?_⟩
  cases doc with
  | none =>
      obtain rfl : docs = [] := List.map_eq_nil_iff.mp texts
      rfl
  | some text =>
      have joined : String.intercalate "\n" (docs.map (·.val.text)) = text := by
        have same : String.toList ∘ String.ofList = id := funext fun _ => String.toList_ofList
        rw [texts, ← String.toList_inj, String.toList_intercalate, List.map_map, same, List.map_id]
        exact List.intercalate_splitOn '\n'
      cases docs with
      | nil => exact absurd (List.map_eq_nil_iff.mp texts.symm) (List.splitOn_ne_nil _ _)
      | cons d ds => exact congrArg some joined

theorem exists_question {optional : Bool}
    (h : tokens.map Token.unplaced =
      (if optional then [(.question, "?")] else []) ++ words) :
    ∃ (question : Option (Terminal .question)) (rest : List Token),
      tokens = question.toList.unattach ++ rest ∧ question.isSome = optional ∧
        rest.map Token.unplaced = words := by
  cases optional with
  | false => exact ⟨none, tokens, rfl, rfl, h⟩
  | true =>
      obtain ⟨question, rest, rfl, -, later⟩ := exists_terminal h
      exact ⟨some question, rest, rfl, rfl, later⟩

theorem exists_type {type : TypeExpr}
    (other : ∀ name, type.Names name → ∀ p : PrimitiveType, p.name ≠ name)
    (h : tokens.map Token.unplaced = type.words ++ words) :
    ∃ (tree : TypeTree) (rest : List Token), tokens = tree.tokens ++ rest ∧ tree.expr = type ∧
      rest.map Token.unplaced = words := by
  induction type generalizing tokens with
  | primitive p =>
      obtain ⟨word, rest, rfl, text, later⟩ := exists_terminal h
      exact ⟨.primitive word p text.symm, rest, rfl, rfl, later⟩
  | named name =>
      obtain ⟨word, rest, rfl, rfl, later⟩ := exists_terminal h
      exact ⟨.named word (other _ (.named _)), rest, rfl, rfl, later⟩
  | array element ih =>
      obtain ⟨opening, _, rfl, -, h⟩ := exists_terminal h
      obtain ⟨closing, _, rfl, -, h⟩ := exists_terminal h
      obtain ⟨tree, rest, rfl, rfl, later⟩ := ih (fun name names => other name (.array names)) h
      exact ⟨.array opening closing tree, rest, rfl, rfl, later⟩

theorem exists_field {f : FieldDecl}
    (other : ∀ name, f.type.Names name → ∀ p : PrimitiveType, p.name ≠ name)
    (h : tokens.map Token.unplaced = f.words ++ words) :
    ∃ (tree : FieldTree) (comma : Terminal .comma) (rest : List Token),
      tokens = tree.tokens ++ comma.val :: rest ∧ tree.decl.unplaced = f.unplaced ∧
        rest.map Token.unplaced = words := by
  simp only [FieldDecl.words, List.append_assoc, List.cons_append] at h
  obtain ⟨_, _, rfl, documented, behindDocs⟩ := List.map_eq_append_iff.mp h
  obtain ⟨docs, rfl, text⟩ := exists_docs documented
  obtain ⟨name, _, rfl, named, behindName⟩ := exists_terminal behindDocs
  obtain ⟨colon, _, rfl, -, behindColon⟩ := exists_terminal behindName
  obtain ⟨question, _, rfl, flagged, behindFlag⟩ := exists_question behindColon
  obtain ⟨type, _, rfl, typed, behindType⟩ := exists_type other behindFlag
  obtain ⟨comma, rest, rfl, -, later⟩ := exists_terminal behindType
  refine ⟨⟨docs, name, colon, question, type⟩, comma, rest, ?_, ?_, later⟩
  · simp [FieldTree.tokens, FieldTree.core]
  · simp [FieldTree.decl, FieldDecl.unplaced, named, text, typed, flagged]

theorem exists_body {fields : List FieldDecl}
    (other : ∀ f ∈ fields, ∀ name, f.type.Names name → ∀ p : PrimitiveType, p.name ≠ name)
    (h : tokens.map Token.unplaced = fields.flatMap FieldDecl.words) :
    ∃ body : Option FieldList, bodyTokens body = tokens ∧
      (bodyDecls body).map FieldDecl.unplaced = fields.map FieldDecl.unplaced := by
  induction fields generalizing tokens with
  | nil => exact ⟨none, (List.map_eq_nil_iff.mp h).symm, rfl⟩
  | cons f fields ih =>
      obtain ⟨here, inside⟩ := List.forall_mem_cons.mp other
      obtain ⟨tree, comma, rest, rfl, same, later⟩ := exists_field here h
      obtain ⟨body, rfl, others⟩ := ih inside later
      cases body with
      | none =>
          refine ⟨some ⟨tree, [], some comma⟩, ?_, ?_⟩
          · simp [bodyTokens, FieldList.tokens, FieldList.tail]
          · rw [List.map_cons, ← same, ← others]
            rfl
      | some l =>
          refine ⟨some ⟨tree, (comma, l.first) :: l.more, l.trailing⟩, ?_, ?_⟩
          · simp [bodyTokens, FieldList.tokens, FieldList.tail]
          · rw [List.map_cons, ← same, ← others]
            rfl

theorem exists_struct {s : StructDecl}
    (other : ∀ f ∈ s.fields, ∀ name, f.type.Names name → ∀ p : PrimitiveType, p.name ≠ name)
    (h : tokens.map Token.unplaced = s.words ++ words) :
    ∃ (tree : StructTree) (rest : List Token), tokens = tree.tokens ++ rest ∧
      tree.decl.unplaced = s.unplaced ∧ rest.map Token.unplaced = words := by
  simp only [StructDecl.words, List.append_assoc, List.cons_append] at h
  obtain ⟨_, _, rfl, documented, behindDocs⟩ := List.map_eq_append_iff.mp h
  obtain ⟨docs, rfl, text⟩ := exists_docs documented
  obtain ⟨keyword, _, rfl, -, behindKeyword⟩ := exists_terminal behindDocs
  obtain ⟨name, _, rfl, named, behindName⟩ := exists_terminal behindKeyword
  obtain ⟨opening, _, rfl, -, behindBrace⟩ := exists_terminal behindName
  obtain ⟨_, _, rfl, inner, behindBody⟩ := List.map_eq_append_iff.mp behindBrace
  obtain ⟨body, rfl, fields⟩ := exists_body other inner
  obtain ⟨closing, rest, rfl, -, later⟩ := exists_terminal behindBody
  refine ⟨⟨docs, keyword, name, opening, body, closing⟩, rest, ?_, ?_, later⟩
  · simp [StructTree.tokens, StructTree.core]
  · simp [StructTree.decl, StructDecl.unplaced, named, text, fields]

theorem exists_schema {d : Document}
    (other : ∀ s ∈ d.structs, ∀ f ∈ s.fields, ∀ name, f.type.Names name →
      ∀ p : PrimitiveType, p.name ≠ name)
    (h : tokens.map Token.unplaced = d.words ++ words) :
    ∃ (tree : SchemaTree) (rest : List Token), tokens = tree.tokens ++ rest ∧
      tree.document.unplaced = d.unplaced ∧ rest.map Token.unplaced = words := by
  obtain ⟨structs⟩ := d
  induction structs generalizing tokens with
  | nil => exact ⟨[], tokens, rfl, rfl, h⟩
  | cons s structs ih =>
      rw [Document.words, List.flatMap_cons, List.append_assoc] at h
      obtain ⟨first, _, rfl, same, behind⟩ := exists_struct (other s (List.mem_cons_self ..)) h
      obtain ⟨tree, rest, rfl, others, later⟩ :=
        ih (fun t member => other t (List.mem_cons_of_mem s member)) behind
      refine ⟨first :: tree, rest, ?_, ?_, later⟩
      · simp [SchemaTree.tokens]
      · simp only [SchemaTree.document, Document.unplaced, Document.mk.injEq] at others ⊢
        simp [same, others]

end Trees
end Grammar

/-! No rule looks at positions. -/

namespace Document

theorem bare_unplaced (d : Document) : d.unplaced.bare = d.bare := by
  simp [bare, unplaced, StructDecl.bare, StructDecl.unplaced, FieldDecl.bare, FieldDecl.unplaced]

theorem violations_unplaced (d : Document) : d.unplaced.violations = d.violations := by
  rw [← violations_bare, bare_unplaced, violations_bare]

/-! The names of a valid document can be written. -/

theorem plain_of_unreserved {name : String} (identifier : Identifier name)
    (free : ∀ e ∈ Reserved.ecosystems, ¬ e.Reserves name) : Plain name := by
  refine ⟨identifier, ?_⟩
  rintro rfl
  have reserved : Text.lower "struct" ∈ Reserved.go.words :=
    List.mem_map_of_mem (by decide)
  exact free Reserved.go (List.mem_cons_self ..) reserved

theorem name_ne_of_unreserved {name : String} (free : ∀ p : PrimitiveType, p.name ≠ Text.lower name)
    (p : PrimitiveType) : p.name ≠ name := by
  rintro rfl
  exact free p p.lower_name.symm

theorem struct_name_of_valid {d : Document} (valid : d.violations = []) {s : StructDecl}
    (member : s ∈ d.structs) : Plain s.name ∧ ∀ p : PrimitiveType, p.name ≠ s.name := by
  obtain ⟨-, -, naming, -⟩ := passes_of_valid valid
  obtain ⟨identifier, free, -⟩ := (namingViolations_eq_nil_iff.mp naming).1 s member
  obtain ⟨words, builtIn, -⟩ := Reserved.forStruct_eq_nil_iff.mp free
  exact ⟨plain_of_unreserved identifier words, name_ne_of_unreserved builtIn⟩

theorem type_names_of_valid {d : Document} (valid : d.violations = []) {s : StructDecl}
    (member : s ∈ d.structs) {f : FieldDecl} (field : f ∈ s.fields) {name : String}
    (names : f.type.Names name) : Plain name ∧ ∀ p : PrimitiveType, p.name ≠ name := by
  obtain ⟨-, references, -, -⟩ := passes_of_valid valid
  obtain ⟨t, declared, rfl⟩ :=
    (referenceViolations_eq_nil_iff.mp references s member f field).1 name names
  exact struct_name_of_valid valid declared

theorem writable_of_valid {d : Document} (valid : d.violations = [])
    (clean : ∀ s ∈ d.structs, CleanDoc s.doc ∧ ∀ f ∈ s.fields, CleanDoc f.doc) :
    ∀ s ∈ d.structs, s.Writable := by
  intro s member
  obtain ⟨-, -, naming, -⟩ := passes_of_valid valid
  obtain ⟨-, -, fields, -⟩ := (namingViolations_eq_nil_iff.mp naming).1 s member
  refine ⟨(struct_name_of_valid valid member).1, (clean s member).1, ?_⟩
  intro f field
  obtain ⟨identifier, free⟩ := fields f field
  exact {
    name := plain_of_unreserved identifier free
    doc := (clean s member).2 f field
    type := fun name names => (type_names_of_valid valid member field names).1 }

/-- A valid document, none of whose doc comments has a line that ends in a carriage return, is read
back from its text. Only positions differ. -/
theorem compile_render {d : Document} (valid : d.violations = [])
    (clean : ∀ s ∈ d.structs, CleanDoc s.doc ∧ ∀ f ∈ s.fields, CleanDoc f.doc) :
    ∃ d', compile d.render = .ok d' ∧ d'.unplaced = d.unplaced := by
  obtain ⟨tokens, scanned, spelled⟩ := Document.lexes (writable_of_valid valid clean) ⟨1, 1⟩
  obtain ⟨tree, _, rfl, same, behind⟩ := Grammar.exists_schema
    (fun s member f field name names => (type_names_of_valid valid member field names).2) spelled
  obtain ⟨eof, rest, rfl, -, none⟩ := Grammar.exists_terminal behind
  obtain rfl : rest = [] := List.map_eq_nil_iff.mp none
  refine ⟨tree.document, ?_, same⟩
  have read : parse d.render = .ok tree.document := by
    rw [parse, ofText, Token.scan, scanned]
    change (ofTokens _).mapError CompileError.parse = _
    rw [Grammar.ofTokens_tokens]
    rfl
  have verified : tree.document.verify = .ok () := by
    rw [verify, ← violations_unplaced, same, violations_unplaced, valid]
  exact except_bind_eq_ok.mpr ⟨_, read, except_bind_eq_ok.mpr ⟨(), verified, rfl⟩⟩

/-- Doc comments with an empty line, with slashes and with a carriage return inside a line. -/
def routes : Document where
  structs := [
    { name := "Path"
      position := ⟨7, 8⟩
      doc := some "A way\n\n/// to \rgo"
      fields := [
        ⟨"at", ⟨9, 5⟩, some "", .named "Point", true⟩,
        ⟨"grid", ⟨9, 17⟩, none, .array (.array (.named "Point")), false⟩] },
    { name := "Point"
      position := ⟨1, 8⟩
      doc := none
      fields := [⟨"x", ⟨2, 5⟩, none, .primitive (.scalar (.word .u8)), false⟩] }]

theorem routes_violations : routes.violations = [] := by
  have structural : routes.structureViolations = [] := by decide
  have references : routes.referenceViolations = [] := by
    simp [referenceViolations, fieldReferenceViolations, names, routes, TypeExpr.named?]
  have naming : routes.namingViolations = [] :=
    namingViolations_eq_nil_iff_byCode.mpr (by decide +kernel)
  have acyclic : routes.cycleViolations = [] := by
    apply cycleViolations_eq_nil_of_measure fun name => if name = "Path" then 1 else 0
    simp [routes, TypeExpr.named?]
  rw [violations, structural, references, naming, acyclic]
  rfl

theorem compile_render_routes :
    (routes.violations = [] ∧
      ∀ s ∈ routes.structs, CleanDoc s.doc ∧ ∀ f ∈ s.fields, CleanDoc f.doc) ∧
      routes.render = Text.unlines [
        "/// A way", "/// ", "/// /// to \rgo", "struct Path \x7b", "/// ", "at: ?Point,",
        "grid: [][]Point,", "\x7d", "struct Point \x7b", "x: u8,", "\x7d"] ∧
      ∃ d', compile routes.render = .ok d' ∧ d'.unplaced = routes.unplaced := by
  have clean : ∀ s ∈ routes.structs, CleanDoc s.doc ∧ ∀ f ∈ s.fields, CleanDoc f.doc := by
    unfold CleanDoc
    decide +kernel
  refine ⟨⟨routes_violations, clean⟩, ?_, compile_render routes_violations clean⟩
  decide +kernel

end Document
end SchemaWire
