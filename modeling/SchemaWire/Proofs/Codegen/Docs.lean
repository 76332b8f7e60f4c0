import SchemaWire.Proofs.Codegen.TypeIds

/-!
Doc comments in generated files. Every line of a doc comment becomes a comment line of its own, and
nothing else in a file comes from doc comments. So without its comment lines, a file is the same
whatever the doc comments are.
-/
namespace SchemaWire

/-! Documents apart from the doc comments in them. -/

def FieldDecl.undocumented (f : FieldDecl) : FieldDecl := { f with doc := none }

def StructDecl.undocumented (s : StructDecl) : StructDecl :=
  { s with doc := none, fields := s.fields.map FieldDecl.undocumented }

def Document.undocumented (d : Document) : Document := ⟨d.structs.map StructDecl.undocumented⟩

theorem Document.bare_undocumented (d : Document) : d.undocumented.bare = d.bare := by
  simp [bare, undocumented, StructDecl.bare, StructDecl.undocumented, FieldDecl.bare,
    FieldDecl.undocumented]

namespace Codegen

/-- Three slashes stand behind the spaces that a line starts with. -/
def Commented (line : String) : Prop := ['/', '/', '/'] <+: line.toList.dropWhile (· = ' ')

instance : DecidablePred Commented := fun _ => inferInstanceAs (Decidable (_ <+: _))

def code (lines : List String) : List String := lines.filter fun line => ¬ Commented line

def SourceFile.codeLines (file : SourceFile) : List String := code file.lines

theorem code_append (before after : List String) :
    code (before ++ after) = code before ++ code after := List.filter_append ..

theorem code_flatMap {α : Type} (xs : List α) (lines : α → List String) :
    code (xs.flatMap lines) = xs.flatMap fun x => code (lines x) := List.filter_flatMap ..

/-! Doc comments are comment lines. -/

theorem commented_append {indent : String} (blank : ∀ c ∈ indent.toList, c = ' ') (rest : String) :
    Commented (indent ++ "///" ++ rest) := by
  have spaces : ∀ c ∈ indent.toList, decide (c = ' ') = true :=
    fun c member => decide_eq_true (blank c member)
  rw [Commented, String.append_assoc, String.toList_append, List.dropWhile_append_of_pos spaces]
  simp

theorem commented_docLines {indent : String} (blank : ∀ c ∈ indent.toList, c = ' ')
    (doc : Option String) : ∀ line ∈ docLines indent doc, Commented line := by
  unfold docLines
  cases doc with
  | none => exact List.forall_mem_nil _
  | some text =>
      rw [List.forall_mem_map]
      intro line _
      split
      · simpa using commented_append blank ""
      · have spaced : "/// " = "///" ++ " " := rfl
        rw [spaced, ← String.append_assoc, String.append_assoc]
        exact commented_append blank _

theorem code_docLines {indent : String} (blank : ∀ c ∈ indent.toList, c = ' ')
    (doc : Option String) : code (docLines indent doc) = [] := by
  rw [code, List.filter_eq_nil_iff]
  simpa using commented_docLines blank doc

/-! The parts of a file look at bare declarations only, apart from comment lines. -/

theorem borrowRound_bare (structs : List StructDecl) (borrowing : List String) :
    borrowRound (structs.map StructDecl.bare) borrowing = borrowRound structs borrowing := by
  simp only [borrowRound, List.foldl_map, StructDecl.bare, List.any_map]
  rfl

theorem borrowUntilStable_bare (structs : List StructDecl) (rounds : Nat) (borrowing : List String) :
    borrowUntilStable (structs.map StructDecl.bare) rounds borrowing =
      borrowUntilStable structs rounds borrowing := by
  induction rounds generalizing borrowing with
  | zero => rfl
  | succ rounds ih => simp only [borrowUntilStable, borrowRound_bare, ih]

theorem borrowingStructs_bare (d : Document) : borrowingStructs d.bare = borrowingStructs d := by
  rw [borrowingStructs, Document.bare, borrowUntilStable_bare, List.length_map]
  rfl

theorem header_bare (runtimePath : String) (d : Document) :
    header runtimePath d.bare = header runtimePath d := by
  unfold header Document.bare
  rw [List.length_map]

theorem framing_bare (d : Document) : framing d.bare = framing d := by
  unfold framing Document.bare
  rw [List.map_map]
  rfl

theorem giveFields_bare (s : StructDecl) : giveFields s.bare = giveFields s := by
  rw [giveFields, StructDecl.bare, List.foldlM_map]
  rfl

theorem check_bare (d : Document) : check d.bare = check d := by
  simp only [check, Document.bare, List.length_map, List.foldlM_map, giveFields_bare]
  rfl

section Struct

variable (borrowing : List String) (s : StructDecl)

theorem map_bare {α : Type} (line : FieldDecl → α) (same : ∀ f, line f.bare = line f) :
    s.bare.fields.map line = s.fields.map line := by
  rw [StructDecl.bare, List.map_map]
  exact List.map_congr_left fun f _ => same f

theorem sizeCalculator_bare : sizeCalculator s.bare = sizeCalculator s := by
  unfold sizeCalculator
  rw [map_bare s _ fun _ => rfl]

theorem encoder_bare : encoder s.bare = encoder s := by
  unfold encoder
  rw [map_bare s _ fun _ => rfl]

theorem structLiteral_bare (name : String) (form : Form) :
    structLiteral name form s.bare = structLiteral name form s := by
  unfold structLiteral
  rw [map_bare s _ fun _ => rfl]

theorem decoder_bare : decoder s.bare = decoder s := by
  unfold decoder
  dsimp only
  rw [structLiteral_bare]
  rfl

theorem borrowedDecoder_bare : borrowedDecoder borrowing s.bare = borrowedDecoder borrowing s := by
  unfold borrowedDecoder
  dsimp only
  rw [structLiteral_bare, map_bare s _ fun _ => rfl]
  rfl

theorem arenaDecoder_bare : arenaDecoder borrowing s.bare = arenaDecoder borrowing s := by
  unfold arenaDecoder
  dsimp only
  rw [structLiteral_bare, map_bare s (recordSizeTerm borrowing) fun _ => rfl,
    map_bare s writeRecordLine fun _ => rfl, map_bare s (readRecordLine borrowing) fun _ => rfl]
  rfl

theorem code_fieldLines_bare (form : Form) (documented : Bool) (f : FieldDecl) :
    code (fieldLines borrowing form documented f.bare) =
      code (fieldLines borrowing form documented f) := by
  have blank : ∀ c ∈ "    ".toList, c = ' ' := by simp
  unfold fieldLines
  cases documented with
  | false => rfl
  | true =>
      rw [if_pos rfl, if_pos rfl, code_append, code_append, code_docLines blank,
        code_docLines blank]
      rfl

theorem code_types_bare : code (types borrowing s.bare) = code (types borrowing s) := by
  have blank : ∀ c ∈ "".toList, c = ' ' := by simp
  have fields (form : Form) (documented : Bool) :
      code (s.bare.fields.flatMap (fieldLines borrowing form documented)) =
        code (s.fields.flatMap (fieldLines borrowing form documented)) := by
    rw [code_flatMap, code_flatMap, StructDecl.bare, List.flatMap_map]
    exact List.flatMap_congr fun f _ => code_fieldLines_bare borrowing form documented f
  unfold types
  dsimp only
  simp only [code_append, code_docLines blank, fields]
  rfl

theorem code_structLines_bare (i : Nat) :
    code (structLines borrowing (s.bare, i)) = code (structLines borrowing (s, i)) := by
  unfold structLines assemble partsOf
  dsimp only
  simp only [code_append, code_types_bare, sizeCalculator_bare, encoder_bare, decoder_bare,
    borrowedDecoder_bare, arenaDecoder_bare]
  rfl

end Struct

theorem code_fileLines_bare (d : Document) : code (fileLines d.bare) = code (fileLines d) := by
  have structs (borrowing : List String) :
      code (d.bare.structs.zipIdx.flatMap (structLines borrowing)) =
        code (d.structs.zipIdx.flatMap (structLines borrowing)) := by
    rw [code_flatMap, code_flatMap, Document.bare, List.zipIdx_map, List.flatMap_map]
    exact List.flatMap_congr fun p _ => code_structLines_bare borrowing p.1 p.2
  rw [fileLines, code_append, code_append, header_bare, borrowingStructs_bare, structs, framing_bare,
    fileLines, code_append, code_append]

theorem codeLines_of_generate {d : Document} {file : SourceFile} (h : generate d = .ok file) :
    file.codeLines = code (fileLines d.bare) ++ [""] := by
  obtain ⟨valid, -, rfl⟩ := generate_eq_ok.mp h
  have ending : code [""] = [""] := by decide
  rw [SourceFile.codeLines, lines_fileWith (spelled_of_valid valid), code_append, ending,
    code_fileLines_bare]

theorem exists_generate_iff (d : Document) :
    (∃ file, generate d = .ok file) ↔ d.bare.violations = [] ∧ check d.bare = .ok () := by
  simp only [generate_eq_ok, Document.violations_bare, check_bare]
  constructor
  · rintro ⟨_, valid, checked, -⟩
    exact ⟨valid, checked⟩
  · rintro ⟨valid, checked⟩
    exact ⟨_, valid, checked, rfl⟩

/-- Documents that differ in their doc comments only are both refused, or give files that differ in
comment lines only. -/
theorem generate_ignores_docs {d d' : Document} (same : d.undocumented = d'.undocumented) :
    ((∃ file, generate d = .ok file) ↔ ∃ file, generate d' = .ok file) ∧
      ∀ file file', generate d = .ok file → generate d' = .ok file' →
        file.path = file'.path ∧ file.codeLines = file'.codeLines := by
  have bare : d.bare = d'.bare := by
    rw [← Document.bare_undocumented, same, Document.bare_undocumented]
  refine ⟨?_, fun file file' given given' => ⟨?_, ?_⟩⟩
  · rw [exists_generate_iff, exists_generate_iff, bare]
  · obtain ⟨-, -, rfl⟩ := generate_eq_ok.mp given
    obtain ⟨-, -, rfl⟩ := generate_eq_ok.mp given'
    rfl
  · rw [codeLines_of_generate given, codeLines_of_generate given', bare]

theorem generate_ignores_docs_routes :
    Document.routes ≠ Document.routes.undocumented ∧
      ∃ file file', generate Document.routes = .ok file ∧
        generate Document.routes.undocumented = .ok file' ∧ file.codeLines = file'.codeLines := by
  have same : Document.routes.undocumented = Document.routes.undocumented.undocumented := rfl
  obtain ⟨succeeds, agree⟩ := generate_ignores_docs same
  have first := generate_eq_ok.mpr ⟨Document.routes_violations, check_routes, rfl⟩
  obtain ⟨file', second⟩ := succeeds.mp ⟨_, first⟩
  exact ⟨by decide, _, file', first, second, (agree _ file' first second).2⟩

end Codegen
end SchemaWire
