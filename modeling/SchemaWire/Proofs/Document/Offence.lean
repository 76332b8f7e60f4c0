import SchemaWire.Proofs.Document.Parsing
import SchemaWire.Proofs.Document.Reader

/-!
Where a syntax error is reported. Tokens are viable if a document can start with them. The reader
takes viable tokens only, and it refuses a token only if no document goes on with it; so the error
is about the first token that cannot be repaired by whatever follows.
-/
namespace SchemaWire.Document

/-- Some tree with an end behind it starts with these tokens. -/
def Viable (front : List Token) : Prop :=
  ∃ (tree : Grammar.SchemaTree) (eof : Terminal .eof), front <+: tree.tokens ++ [eof.val]

/-- The longest run of doc comments at the end of some tokens, by its first. -/
def EndsInDocs (tokens : List Token) (first : Token) : Prop :=
  ∃ before more, tokens = before ++ first :: more ∧ (∀ t ∈ first :: more, t.kind = .doc) ∧
    ∀ t ∈ before.getLast?, t.kind ≠ .doc

/-- What is reported of a token behind others: its own position, unless doc comments stand before
it that document nothing. -/
inductive Reports (front : List Token) (offender : Token) : ParseError → Prop where
  | unexpected (expected : Expected) :
      Reports front offender ⟨.unexpectedToken expected offender, offender.position⟩
  | docWithoutStruct {first : Token} (docs : EndsInDocs front first) (ends : offender.kind = .eof) :
      Reports front offender ⟨.docWithoutStruct, first.position⟩
  | docWithoutField {first : Token} (docs : EndsInDocs front first)
      (closes : offender.kind = .closeBrace) :
      Reports front offender ⟨.docWithoutField, first.position⟩

/-- The doc comments that still need something to document. -/
def Stage.pending : Stage → List Token
  | .declaration docs => docs
  | .field _ docs => docs
  | _ => []

/-- The fewest tokens that complete a document. -/
def Stage.completion : Stage → List TokenKind
  | .declaration [] => []
  | .declaration (_ :: _) => [.struct, .ident, .openBrace, .closeBrace]
  | .structName _ => [.ident, .openBrace, .closeBrace]
  | .openBrace _ _ => [.openBrace, .closeBrace]
  | .field _ [] => [.closeBrace]
  | .field _ (_ :: _) => [.ident, .colon, .ident, .closeBrace]
  | .colon _ _ => [.colon, .ident, .closeBrace]
  | .mark _ _ | .type _ _ => [.ident, .closeBrace]
  | .closeBracket _ _ => [.closeBracket, .ident, .closeBrace]
  | .separator _ => [.closeBrace]

def anyToken (kind : TokenKind) : Token := ⟨kind, "", ⟨0, 0⟩⟩

namespace Reader

/-- From the start on, all these tokens are taken. -/
inductive Takes : List Token → Reader → Prop where
  | start : Takes [] .start
  | step {front : List Token} {r r' : Reader} {token : Token} (earlier : Takes front r)
      (here : r.step token = .next r') : Takes (front ++ [token]) r'

theorem pending_of_step {r r' : Reader} {token : Token} (h : r.step token = .next r') :
    r'.stage.pending = if token.kind = .doc then r.stage.pending ++ [token] else [] := by
  obtain ⟨structs, stage⟩ := r
  unfold step at h
  split at h <;> cases h <;> simp_all [Stage.pending]

theorem ne_eof_of_step {r r' : Reader} {token : Token} (h : r.step token = .next r') :
    token.kind ≠ .eof := by
  unfold step at h
  split at h <;> cases h <;> simp_all

theorem error_of_step {r : Reader} {token : Token} {e : ParseError}
    (h : r.step token = .stop (.error e)) :
    e = r.stage.refusal token ∨ ∃ doc more, r.stage.pending = doc :: more ∧
      (e = ⟨.docWithoutStruct, doc.position⟩ ∧ token.kind = .eof ∨
        e = ⟨.docWithoutField, doc.position⟩ ∧ token.kind = .closeBrace) := by
  obtain ⟨structs, stage⟩ := r
  unfold step at h
  split at h <;> cases h <;> simp_all [Stage.pending]

/-- Whatever is taken can be completed. -/
theorem outcome?_completion (last : Token) (r : Reader) :
    ∃ d, r.outcome? last (r.stage.completion.map anyToken ++ [anyToken .eof]) = some (.ok d) := by
  obtain ⟨structs, stage⟩ := r
  cases stage with
  | declaration docs => cases docs <;> exact ⟨_, rfl⟩
  | field s docs => cases docs <;> exact ⟨_, rfl⟩
  | structName docs => exact ⟨_, rfl⟩
  | openBrace docs name => exact ⟨_, rfl⟩
  | colon s f => exact ⟨_, rfl⟩
  | mark s f => exact ⟨_, rfl⟩
  | type s f => exact ⟨_, rfl⟩
  | closeBracket s f => exact ⟨_, rfl⟩
  | separator s => exact ⟨_, rfl⟩

theorem outcome?_concat (tokens : List Token) {eof : Token} (ends : eof.kind = .eof) :
    start.outcome? eof (tokens ++ [eof]) = some (ofTokens (tokens ++ [eof])) := by
  have real : ((tokens ++ [eof]).getLast (List.concat_ne_nil eof tokens)).kind ≠ .doc := by
    simp [ends]
  simpa using outcome?_start (List.concat_ne_nil eof tokens) real

namespace Takes

variable {front : List Token} {r : Reader}

theorem ne_eof (taken : Takes front r) : ∀ t ∈ front, t.kind ≠ .eof := by
  induction taken with
  | start => exact List.forall_mem_nil _
  | step earlier here ih =>
      rw [List.forall_mem_append, List.forall_mem_singleton]
      exact ⟨ih, ne_eof_of_step here⟩

theorem outcome? (taken : Takes front r) (last : Token) (rest : List Token) :
    Reader.start.outcome? last (front ++ rest) = r.outcome? last rest := by
  induction taken generalizing rest with
  | start => rfl
  | step earlier here ih =>
      rw [List.append_assoc, List.singleton_append, ih, Reader.outcome?, here]

/-- The doc comments that are pending are those at the end of what was taken. -/
theorem pending (taken : Takes front r) :
    ∃ before, front = before ++ r.stage.pending ∧ (∀ t ∈ r.stage.pending, t.kind = .doc) ∧
      ∀ t ∈ before.getLast?, t.kind ≠ .doc := by
  induction taken with
  | start => exact ⟨[], rfl, List.forall_mem_nil _, by simp⟩
  | @step front r r' token earlier here ih =>
      rw [pending_of_step here]
      by_cases doc : token.kind = .doc
      · obtain ⟨before, shape, docs, longest⟩ := ih
        refine ⟨before, ?_, ?_, longest⟩
        · rw [if_pos doc, shape, List.append_assoc]
        · rw [if_pos doc, List.forall_mem_append, List.forall_mem_singleton]
          exact ⟨docs, doc⟩
      · refine ⟨front ++ [token], ?_, ?_, ?_⟩
        · rw [if_neg doc, List.append_nil]
        · rw [if_neg doc]
          exact List.forall_mem_nil _
        · simpa using doc

theorem viable (taken : Takes front r) : Viable front := by
  obtain ⟨d, accepted⟩ := outcome?_completion (anyToken .eof) r
  rw [← taken.outcome?, ← List.append_assoc, outcome?_concat _ rfl, Option.some.injEq, ofTokens,
    List.getLast?_concat] at accepted
  obtain ⟨structs, read, -⟩ := except_bind_eq_ok.mp accepted
  obtain ⟨tree, rest, -, whole, stop⟩ := Grammar.structDecls_eq_ok rfl read
  rw [List.append_assoc] at whole
  refine ⟨tree, ⟨anyToken .eof, rfl⟩, ?_⟩
  -- The tree ends at an end of the input, and none is among the tokens that were taken.
  rcases List.append_eq_append_iff.mp whole with ⟨more, spelled, -⟩ | ⟨more, spelled, left⟩
  · rw [spelled, List.append_assoc]
    exact List.prefix_append ..
  · cases more with
    | nil =>
        rw [spelled, List.append_nil]
        exact List.prefix_append ..
    | cons t more =>
        rw [left] at stop
        exact absurd stop (taken.ne_eof t (by simp [spelled]))

theorem not_viable (taken : Takes front r) {token : Token} {e : ParseError}
    (h : r.step token = .stop (.error e)) : ¬ Viable (front ++ [token]) := by
  rintro ⟨tree, eof, rest, whole⟩
  have read := outcome?_concat tree.tokens eof.property
  rw [Grammar.ofTokens_tokens, ← whole, List.append_assoc, taken.outcome?] at read
  rw [List.singleton_append, Reader.outcome?, h] at read
  cases read

theorem reports (taken : Takes front r) {token : Token} {e : ParseError}
    (h : r.step token = .stop (.error e)) : Reports front token e := by
  obtain ⟨before, shape, docs, longest⟩ := taken.pending
  rcases error_of_step h with rfl | ⟨doc, more, waiting, report⟩
  · exact .unexpected r.stage.expected
  · rw [waiting] at shape docs
    have run : EndsInDocs front doc := ⟨before, more, shape, docs, longest⟩
    rcases report with ⟨rfl, ends⟩ | ⟨rfl, closes⟩
    · exact .docWithoutStruct run ends
    · exact .docWithoutField run closes

end Takes

/-- What is reported is reported at some token, or where the last one is read once more. -/
theorem exists_stop {last : Token} {front rest : List Token} {r : Reader}
    {outcome : Except ParseError Document} (taken : Takes front r)
    (h : r.outcome? last rest = some outcome) :
    ∃ front' r', Takes front' r' ∧ (front' = front ++ rest ∨ ∃ token behind,
      front ++ rest = front' ++ token :: behind ∧ r'.step token = .stop outcome) := by
  induction rest generalizing front r with
  | nil => exact ⟨front, r, taken, .inl (List.append_nil front).symm⟩
  | cons t rest ih =>
      rcases outcome?_cases h with here | ⟨_, _, r', left, next, later⟩
      · exact ⟨front, r, taken, .inr ⟨t, rest, rfl, here⟩⟩
      · cases left
        have more := ih (taken.step next) later
        rwa [List.append_assoc] at more

end Reader

/-- An error is reported at the first token that no document goes on with, where a document can
start with the tokens before it. -/
theorem reported_at_first_offence {tokens : List Token} {eof : Token} (ends : eof.kind = .eof)
    {e : ParseError} (failed : ofTokens (tokens ++ [eof]) = .error e) :
    ∃ front offender behind, tokens ++ [eof] = front ++ offender :: behind ∧ Viable front ∧
      ¬ Viable (front ++ [offender]) ∧ Reports front offender e := by
  have read := Reader.outcome?_concat tokens ends
  rw [failed] at read
  obtain ⟨front, r, taken, stopped⟩ := Reader.exists_stop .start read
  rcases stopped with whole | ⟨offender, behind, whole, here⟩
  · -- An end is never taken, so reading stops there at the latest.
    exact absurd ends (taken.ne_eof eof (by simp [whole]))
  · exact ⟨front, offender, behind, whole, taken.viable, taken.not_viable here, taken.reports here⟩

/-- `struct A { x: u8,`, two doc comments on lines of their own, and `}`. -/
def dangling : List Token := [
  ⟨.struct, "struct", ⟨1, 1⟩⟩, ⟨.ident, "A", ⟨1, 8⟩⟩, ⟨.openBrace, "\x7b", ⟨1, 10⟩⟩,
  ⟨.ident, "x", ⟨1, 12⟩⟩, ⟨.colon, ":", ⟨1, 13⟩⟩, ⟨.ident, "u8", ⟨1, 15⟩⟩, ⟨.comma, ",", ⟨1, 17⟩⟩,
  ⟨.doc, "Nothing", ⟨2, 1⟩⟩, ⟨.doc, "at all", ⟨3, 1⟩⟩, ⟨.closeBrace, "\x7d", ⟨4, 1⟩⟩]

theorem reported_at_first_offence_dangling :
    ofTokens (dangling ++ [⟨.eof, "", ⟨4, 2⟩⟩]) = .error ⟨.docWithoutField, ⟨2, 1⟩⟩ ∧
      ∃ front offender behind, dangling ++ [⟨.eof, "", ⟨4, 2⟩⟩] = front ++ offender :: behind ∧
        Viable front ∧ ¬ Viable (front ++ [offender]) ∧
          Reports front offender ⟨.docWithoutField, ⟨2, 1⟩⟩ := by
  have run : Reader.start.outcome? ⟨.eof, "", ⟨4, 2⟩⟩ (dangling ++ [⟨.eof, "", ⟨4, 2⟩⟩]) =
      some (.error ⟨.docWithoutField, ⟨2, 1⟩⟩) := rfl
  rw [Reader.outcome?_concat dangling rfl] at run
  have failed := Option.some.inj run
  exact ⟨failed, reported_at_first_offence rfl failed⟩
end SchemaWire.Document
