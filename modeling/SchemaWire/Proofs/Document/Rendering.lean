import SchemaWire.Proofs.Document.Scanning
import SchemaWire.Proofs.Text.Lines

/-!
Writing documents. Every item of a document is written on a line of its own, and the text is cut
into the words that spell the document.
-/
namespace SchemaWire

open Token (Lexes Word)

def docLines : Option String → List (List Char)
  | none => []
  | some text => text.toList.splitOn '\n'

def writeDoc (doc : Option String) : List String :=
  (docLines doc).map fun line => "/// " ++ String.ofList line

def FieldDecl.lines (f : FieldDecl) : List String :=
  writeDoc f.doc ++ [f.name ++ ": " ++ (if f.optional then "?" else "") ++ f.type.spelling ++ ","]

def StructDecl.lines (s : StructDecl) : List String :=
  writeDoc s.doc ++ ("struct " ++ s.name ++ " \x7b") ::
    (s.fields.flatMap FieldDecl.lines ++ ["\x7d"])

def Document.render (d : Document) : String := Text.unlines (d.structs.flatMap StructDecl.lines)

/-! The words of a document. -/

def docWords (doc : Option String) : List Word :=
  (docLines doc).map fun line => (.doc, String.ofList line)

def TypeExpr.words : TypeExpr → List Word
  | .primitive p => [(.ident, p.name)]
  | .named name => [(.ident, name)]
  | .array element => (.openBracket, "[") :: (.closeBracket, "]") :: element.words

def FieldDecl.words (f : FieldDecl) : List Word :=
  docWords f.doc ++ (.ident, f.name) :: (.colon, ":") ::
    ((if f.optional then [(.question, "?")] else []) ++ (f.type.words ++ [(.comma, ",")]))

def StructDecl.words (s : StructDecl) : List Word :=
  docWords s.doc ++ (.struct, "struct") :: (.ident, s.name) :: (.openBrace, "\x7b") ::
    (s.fields.flatMap FieldDecl.words ++ [(.closeBrace, "\x7d")])

def Document.words (d : Document) : List Word := d.structs.flatMap StructDecl.words

/-! What can be written: identifiers other than the keyword, and doc comments whose lines end in no
carriage return, which reading would take away. -/

def Plain (name : String) : Prop := Identifier name ∧ name ≠ "struct"

def CleanDoc (doc : Option String) : Prop := ∀ line ∈ docLines doc, line.getLast? ≠ some '\r'

structure FieldDecl.Writable (f : FieldDecl) : Prop where
  name : Plain f.name
  doc : CleanDoc f.doc
  type : ∀ name, f.type.Names name → Plain name

structure StructDecl.Writable (s : StructDecl) : Prop where
  name : Plain s.name
  doc : CleanDoc s.doc
  fields : ∀ f ∈ s.fields, f.Writable

theorem not_mem_of_mem_splitOn {α : Type} [DecidableEq α] {a : α} {xs piece : List α}
    (member : piece ∈ xs.splitOn a) : a ∉ piece := by
  induction xs generalizing piece with
  | nil =>
      obtain rfl := List.mem_singleton.mp member
      exact List.not_mem_nil
  | cons x xs ih =>
      rw [List.splitOn_cons_eq_if_modifyHead] at member
      by_cases same : x = a
      · rw [if_pos (beq_iff_eq.mpr same)] at member
        rcases List.mem_cons.mp member with rfl | later
        · exact List.not_mem_nil
        · exact ih later
      · rw [if_neg (by simpa using same)] at member
        cases pieces : xs.splitOn a with
        | nil => exact absurd pieces (List.splitOn_ne_nil _ _)
        | cons first others =>
            rw [pieces, List.modifyHead_cons, List.mem_cons] at member
            rcases member with rfl | later
            · have clear := ih (by rw [pieces]; exact List.mem_cons_self ..)
              simp [clear, Ne.symm same]
            · exact ih (by rw [pieces]; exact List.mem_cons_of_mem first later)

section Lexing

variable {cs : List Char} {words : List Word}

theorem Token.Lexes.ident {next : Char} (later : Lexes (next :: cs) words)
    (stop : Text.isWordChar next = false) {name : String} (plain : Plain name) :
    Lexes (name.toList ++ next :: cs) ((.ident, name) :: words) := by
  have found := later.name stop plain.1
  rwa [if_neg plain.2] at found

theorem PrimitiveType.plain_name (p : PrimitiveType) : Plain p.name := by
  have each : ∀ p ∈ all, p.name ≠ "struct" := by decide +kernel
  exact ⟨p.identifier_name, each p p.mem_all⟩

theorem TypeExpr.lexes {next : Char} (later : Lexes (next :: cs) words)
    (stop : Text.isWordChar next = false) {type : TypeExpr}
    (plain : ∀ name, type.Names name → Plain name) :
    Lexes (type.spelling.toList ++ next :: cs) (type.words ++ words) := by
  induction type with
  | primitive p => exact later.ident stop p.plain_name
  | named name => exact later.ident stop (plain name (.named name))
  | array element ih =>
      have inner := ih fun name names => plain name (.array names)
      rw [spelling, String.toList_append]
      exact (inner.mark (c := ']') rfl).mark (c := '[') rfl

theorem lexes_doc {doc : Option String} (clean : CleanDoc doc) (later : Lexes cs words) :
    Lexes ((writeDoc doc).flatMap (·.toList ++ ['\n']) ++ cs) (docWords doc ++ words) := by
  have inside : ∀ line ∈ docLines doc, '\n' ∉ line := by
    intro line member
    cases doc with
    | none => cases member
    | some text => exact not_mem_of_mem_splitOn member
  rw [writeDoc, docWords]
  rw [CleanDoc] at clean
  generalize docLines doc = lines at clean inside
  induction lines with
  | nil => exact later
  | cons line rest ih =>
      have others := ih (fun l member => clean l (List.mem_cons_of_mem line member))
        fun l member => inside l (List.mem_cons_of_mem line member)
      have whole :=
        others.doc (inside line (List.mem_cons_self ..)) (clean line (List.mem_cons_self ..))
      simpa using whole

theorem FieldDecl.lexes {f : FieldDecl} (writable : f.Writable) (later : Lexes cs words) :
    Lexes (f.lines.flatMap (·.toList ++ ['\n']) ++ cs) (f.words ++ words) := by
  have ended : Lexes (',' :: '\n' :: cs) ((.comma, ",") :: words) :=
    (later.blank (by decide)).mark rfl
  have typed := TypeExpr.lexes ended (by decide) writable.type
  have flagged : Lexes
      ((if f.optional then "?" else "").toList ++ (f.type.spelling.toList ++ ',' :: '\n' :: cs))
      ((if f.optional then [(.question, "?")] else []) ++
        (f.type.words ++ (.comma, ",") :: words)) := by
    cases f.optional with
    | false => exact typed
    | true => exact typed.mark (c := '?') rfl
  have spaced := (flagged.blank (c := ' ') (by decide)).mark (c := ':') rfl
  have named := spaced.ident (by decide) writable.name
  simpa [lines, FieldDecl.words] using lexes_doc writable.doc named

theorem lexes_flatMap {α : Type} {lines : α → List String} {spelled : α → List Word} {xs : List α}
    (each : ∀ x ∈ xs, ∀ {cs words}, Lexes cs words →
      Lexes ((lines x).flatMap (·.toList ++ ['\n']) ++ cs) (spelled x ++ words))
    (later : Lexes cs words) :
    Lexes ((xs.flatMap lines).flatMap (·.toList ++ ['\n']) ++ cs)
      (xs.flatMap spelled ++ words) := by
  induction xs with
  | nil => exact later
  | cons x xs ih =>
      have others := ih fun y member => each y (List.mem_cons_of_mem x member)
      simpa using each x (List.mem_cons_self ..) others

theorem StructDecl.lexes {s : StructDecl} (writable : s.Writable) (later : Lexes cs words) :
    Lexes (s.lines.flatMap (·.toList ++ ['\n']) ++ cs) (s.words ++ words) := by
  have ended : Lexes ('\x7d' :: '\n' :: cs) ((.closeBrace, "\x7d") :: words) :=
    (later.blank (by decide)).mark rfl
  have inner := lexes_flatMap (fun f member => FieldDecl.lexes (writable.fields f member)) ended
  have opened := (inner.blank (c := '\n') (by decide)).mark (c := '\x7b') rfl
  have named := (opened.blank (c := ' ') (by decide)).ident (by decide) writable.name
  have keyword : Identifier "struct" := nameProblem?_eq_none_iff.mp (by decide +kernel)
  have announced := (named.blank (c := ' ') (by decide)).name (by decide) keyword
  simpa [lines, StructDecl.words] using lexes_doc writable.doc announced

end Lexing

theorem Document.lexes {d : Document} (writable : ∀ s ∈ d.structs, s.Writable) :
    Lexes d.render.toList (d.words ++ [(.eof, "")]) := by
  have whole := lexes_flatMap (fun s member => StructDecl.lexes (writable s member)) Token.lexes_nil
  rwa [List.append_nil, ← Text.toList_unlines] at whole

end SchemaWire
