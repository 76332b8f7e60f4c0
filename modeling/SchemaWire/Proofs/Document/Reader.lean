import SchemaWire.Document.Parse

/-!
Reading tokens one at a time. A reader takes a token and goes on, or it stops at the token with an
outcome; it never looks at a token twice or ahead. Read from its first token on, a sequence that
does not end in a doc comment has the outcome that the recursive functions give it.
-/
namespace SchemaWire.Document

/-- A type inside as many pairs of brackets. -/
def arrays : Nat → TypeExpr → TypeExpr
  | 0, type => type
  | depth + 1, type => arrays depth (.array type)

/-- A field whose type was not read yet, with the pairs of brackets that stand before it. -/
structure OpenField where
  docs : List Token
  name : Token
  optional : Bool
  depth : Nat

def OpenField.close (f : OpenField) (type : TypeExpr) : FieldDecl :=
  ⟨f.name.text, f.name.position, joinDocs f.docs, arrays f.depth type, f.optional⟩

/-- A struct whose closing brace was not read yet. -/
structure OpenStruct where
  docs : List Token
  name : Token
  fields : List FieldDecl

def OpenStruct.add (s : OpenStruct) (fields : List FieldDecl) : OpenStruct :=
  { s with fields := s.fields ++ fields }

theorem OpenStruct.add_nil (s : OpenStruct) : s.add [] = s := by
  rw [add, List.append_nil]

theorem OpenStruct.add_add (s : OpenStruct) (fields more : List FieldDecl) :
    (s.add fields).add more = s.add (fields ++ more) := by
  rw [add, add, add, List.append_assoc]

def OpenStruct.close (s : OpenStruct) : StructDecl :=
  ⟨s.name.text, s.name.position, joinDocs s.docs, s.fields⟩

/-- Where reading stands in a declaration, by what comes next. -/
inductive Stage where
  | declaration (docs : List Token)
  | structName (docs : List Token)
  | openBrace (docs : List Token) (name : Token)
  | field (s : OpenStruct) (docs : List Token)
  | colon (s : OpenStruct) (f : OpenField)
  /-- A type that a question mark may come before. -/
  | mark (s : OpenStruct) (f : OpenField)
  | type (s : OpenStruct) (f : OpenField)
  | closeBracket (s : OpenStruct) (f : OpenField)
  | separator (s : OpenStruct)

namespace Stage

def expected : Stage → Expected
  | .declaration _ => .structKeyword
  | .structName _ => .structName
  | .openBrace _ _ => .openBrace
  | .field _ _ => .fieldName
  | .colon _ _ => .colon
  | .mark _ _ | .type _ _ => .type
  | .closeBracket _ _ => .closeBracket
  | .separator _ => .commaOrBrace

def refusal (stage : Stage) (token : Token) : ParseError :=
  ⟨.unexpectedToken stage.expected token, token.position⟩

end Stage

/-- The structs read so far, and where reading stands in the next. -/
structure Reader where
  structs : List StructDecl
  stage : Stage

/-- What a token does: it is taken, or reading stops at it. -/
inductive Step where
  | next (r : Reader)
  | stop (outcome : Except ParseError Document)

namespace Reader

def start : Reader := ⟨[], .declaration []⟩

def go (r : Reader) (stage : Stage) : Step := .next { r with stage }

def close (r : Reader) (s : OpenStruct) : Step := .next ⟨r.structs ++ [s.close], .declaration []⟩

def step (r : Reader) (token : Token) : Step :=
  match r.stage, token.kind with
  | .declaration docs, .doc => r.go (.declaration (docs ++ [token]))
  | .declaration docs, .struct => r.go (.structName docs)
  | .declaration [], .eof => .stop (.ok ⟨r.structs⟩)
  | .declaration (doc :: _), .eof => .stop (.error ⟨.docWithoutStruct, doc.position⟩)
  | .structName docs, .ident => r.go (.openBrace docs token)
  | .openBrace docs name, .openBrace => r.go (.field ⟨docs, name, []⟩ [])
  | .field s docs, .doc => r.go (.field s (docs ++ [token]))
  | .field s docs, .ident => r.go (.colon s ⟨docs, token, false, 0⟩)
  | .field s [], .closeBrace => r.close s
  | .field _ (doc :: _), .closeBrace => .stop (.error ⟨.docWithoutField, doc.position⟩)
  | .colon s f, .colon => r.go (.mark s f)
  | .mark s f, .question => r.go (.type s { f with optional := true })
  | .mark s f, .openBracket | .type s f, .openBracket => r.go (.closeBracket s f)
  | .mark s f, .ident | .type s f, .ident =>
    r.go (.separator (s.add [f.close (typeOfName token.text)]))
  | .closeBracket s f, .closeBracket => r.go (.type s { f with depth := f.depth + 1 })
  | .separator s, .comma => r.go (.field s [])
  | .separator s, .closeBrace => r.close s
  | stage, _ => .stop (.error (stage.refusal token))

/-- Reads on to the outcome. Where no token is left, the last one is read once more. -/
def outcome? (last : Token) : Reader → List Token → Option (Except ParseError Document)
  | r, [] =>
    match r.step last with
    | .next _ => none
    | .stop outcome => some outcome
  | r, token :: rest =>
    match r.step token with
    | .next r => r.outcome? last rest
    | .stop outcome => some outcome

/-- No token but a doc comment is taken twice in a row. -/
theorem refuses_of_step {r r' : Reader} {token : Token} (h : r.step token = .next r')
    (real : token.kind ≠ .doc) : r'.step token = .stop (.error (r'.stage.refusal token)) := by
  obtain ⟨structs, stage⟩ := r
  obtain ⟨kind, text, position⟩ := token
  unfold step at h
  split at h <;> cases h <;> simp_all [step]

/-- The last token ends what is left to read, and where nothing is left it was taken already. -/
structure Ready (last : Token) (r : Reader) (tokens : List Token) : Prop where
  ends : ∀ token ∈ tokens.getLast?, token = last
  refuses : tokens = [] → r.step last = .stop (.error (r.stage.refusal last))

/-- Reading one sequence comes to reading on at another. -/
structure Leads (last : Token) (r : Reader) (tokens : List Token) (r' : Reader)
    (rest : List Token) : Prop where
  outcome : r.outcome? last tokens = r'.outcome? last rest
  ready : r.Ready last tokens → r'.Ready last rest

/-- The reader fails as the given result does, or else goes on behind what was read. -/
def Tracks (last : Token) (r : Reader) (tokens : List Token) {α : Type} (next : α → Reader) :
    Except ParseError (α × List Token) → Prop
  | .error e => r.outcome? last tokens = some (.error e)
  | .ok (a, rest) => r.Leads last tokens (next a) rest

section Laws

variable {last : Token} {r r' r'' : Reader} {tokens rest rest' : List Token} {α β : Type}

theorem Leads.refl : r.Leads last tokens r tokens := ⟨rfl, id⟩

theorem Leads.trans (first : r.Leads last tokens r' rest) (second : r'.Leads last rest r'' rest') :
    r.Leads last tokens r'' rest' :=
  ⟨first.outcome.trans second.outcome, fun ready => second.ready (first.ready ready)⟩

theorem leads_of_step (real : last.kind ≠ .doc) {token : Token} (h : r.step token = .next r') :
    r.Leads last (token :: rest) r' rest where
  outcome := by rw [outcome?, h]
  ready := by
    rintro ⟨ends, -⟩
    cases rest with
    | nil =>
        obtain rfl : token = last := ends token rfl
        refine ⟨?_, fun _ => refuses_of_step h real⟩
        intro t member
        cases member
    | cons t more => exact ⟨ends, fun none => absurd none (List.cons_ne_nil t more)⟩

/-- Two readers that do the same at the next token. -/
theorem leads_of_same_step (same : r.step (tokens.headD last) = r'.step (tokens.headD last))
    (alike : r.stage.expected = r'.stage.expected) : r.Leads last tokens r' tokens := by
  cases tokens with
  | nil =>
      change r.step last = r'.step last at same
      refine ⟨by rw [outcome?, outcome?, same], fun ready => ⟨ready.ends, fun none => ?_⟩⟩
      rw [← same, ready.refuses none, Stage.refusal, alike]
      rfl
  | cons t rest =>
      change r.step t = r'.step t at same
      refine ⟨by rw [outcome?, outcome?, same], fun ready => ⟨ready.ends, fun none => ?_⟩⟩
      exact absurd none (List.cons_ne_nil t rest)

theorem outcome?_of_stop {outcome : Except ParseError Document}
    (h : r.step (tokens.headD last) = .stop outcome) : r.outcome? last tokens = some outcome := by
  cases tokens with
  | nil => rw [outcome?, show r.step last = .stop outcome from h]
  | cons t rest => rw [outcome?, show r.step t = .stop outcome from h]

/-- An outcome comes at the next token, or behind it. -/
theorem outcome?_cases {outcome : Except ParseError Document}
    (h : r.outcome? last tokens = some outcome) :
    r.step (tokens.headD last) = .stop outcome ∨ ∃ token rest r', tokens = token :: rest ∧
      r.step token = .next r' ∧ r'.outcome? last rest = some outcome := by
  cases tokens with
  | nil =>
      rw [outcome?] at h
      split at h
      · cases h
      · next found here =>
          cases h
          exact .inl here
  | cons t rest =>
      rw [outcome?] at h
      split at h
      · next r' here => exact .inr ⟨t, rest, r', rfl, here, h⟩
      · next found here =>
          cases h
          exact .inl here

theorem Ready.outcome? (ready : r.Ready last []) :
    r.outcome? last [] = some (.error (r.stage.refusal last)) :=
  outcome?_of_stop (ready.refuses rfl)

/-- A token that is taken is there to be read. -/
theorem Ready.exists_cons (ready : r.Ready last tokens)
    (h : r.step (tokens.headD last) = .next r') : ∃ token rest, tokens = token :: rest := by
  cases tokens with
  | nil => exact absurd (h.symm.trans (ready.refuses rfl)) (by simp)
  | cons t rest => exact ⟨t, rest, rfl⟩

theorem Leads.tracks {next : α → Reader} {result : Except ParseError (α × List Token)}
    (first : r.Leads last tokens r' rest) (second : r'.Tracks last rest next result) :
    r.Tracks last tokens next result := by
  cases result with
  | error e => exact first.outcome.trans second
  | ok found => exact first.trans second

theorem Tracks.bind {next : α → Reader} {next' : β → Reader}
    {x : Except ParseError (α × List Token)}
    {f : α × List Token → Except ParseError (β × List Token)} (ready : r.Ready last tokens)
    (first : r.Tracks last tokens next x)
    (second : ∀ a rest, (next a).Ready last rest → (next a).Tracks last rest next' (f (a, rest))) :
    r.Tracks last tokens next' (x >>= f) := by
  cases x with
  | error e => exact first
  | ok found => exact Leads.tracks first (second found.1 found.2 (first.ready ready))

end Laws

section Agreement

variable {last : Token} {structs : List StructDecl} {tokens : List Token}

/-- The token is taken if it is of one kind, and refused if it is of any other. -/
def Asks (r : Reader) (kind : TokenKind) (expected : Expected) (behind : Token → Reader)
    (token : Token) : Prop :=
  r.step token =
    if token.kind = kind then .next (behind token)
    else .stop (.error ⟨.unexpectedToken expected token, token.position⟩)

section Asking

variable {r : Reader} {kind : TokenKind} {expected : Expected} {behind : Token → Reader}

theorem Asks.next {token : Token} (asks : r.Asks kind expected behind token)
    (same : token.kind = kind) : r.step token = .next (behind token) :=
  asks.trans (if_pos same)

theorem Asks.stop {token : Token} (asks : r.Asks kind expected behind token)
    (other : token.kind ≠ kind) :
    r.step token = .stop (.error ⟨.unexpectedToken expected token, token.position⟩) :=
  asks.trans (if_neg other)

theorem tracks_take (real : last.kind ≠ .doc) (ready : r.Ready last tokens)
    (asks : r.Asks kind expected behind (tokens.headD last)) :
    r.Tracks last tokens behind (take last kind expected tokens) := by
  by_cases same : (tokens.headD last).kind = kind
  · obtain ⟨t, rest, rfl⟩ := ready.exists_cons (asks.next same)
    have taken : take last kind expected (t :: rest) = .ok (t, rest) := if_pos (beq_iff_eq.mpr same)
    rw [taken]
    exact leads_of_step real (asks.next same)
  · have refused : take last kind expected tokens = .error (unexpected last expected tokens) := by
      cases tokens with
      | nil => rfl
      | cons t rest => exact if_neg (mt beq_iff_eq.mp same)
    rw [refused]
    exact outcome?_of_stop (asks.stop same)

end Asking

theorem asks_structName (docs : List Token) (token : Token) :
    Asks ⟨structs, .structName docs⟩ .ident .structName
      (fun name => ⟨structs, .openBrace docs name⟩) token := by
  obtain ⟨kind, text, position⟩ := token
  cases kind <;> rfl

theorem asks_openBrace (docs : List Token) (name token : Token) :
    Asks ⟨structs, .openBrace docs name⟩ .openBrace .openBrace
      (fun _ => ⟨structs, .field ⟨docs, name, []⟩ []⟩) token := by
  obtain ⟨kind, text, position⟩ := token
  cases kind <;> rfl

theorem asks_colon (s : OpenStruct) (f : OpenField) (token : Token) :
    Asks ⟨structs, .colon s f⟩ .colon .colon (fun _ => ⟨structs, .mark s f⟩) token := by
  obtain ⟨kind, text, position⟩ := token
  cases kind <;> rfl

theorem asks_closeBracket (s : OpenStruct) (f : OpenField) (token : Token) :
    Asks ⟨structs, .closeBracket s f⟩ .closeBracket .closeBracket
      (fun _ => ⟨structs, .type s { f with depth := f.depth + 1 }⟩) token := by
  obtain ⟨kind, text, position⟩ := token
  cases kind <;> rfl

theorem leads_openBracket (real : last.kind ≠ .doc) (structs : List StructDecl) (s : OpenStruct)
    (f : OpenField) {token : Token} (opened : (token.kind == .openBracket) = true)
    (rest : List Token) :
    Leads last ⟨structs, .type s f⟩ (token :: rest) ⟨structs, .closeBracket s f⟩ rest := by
  apply leads_of_step real
  simp only [step, beq_iff_eq.mp opened, go]

theorem tracks_typeExpr (real : last.kind ≠ .doc) (s : OpenStruct) (f : OpenField)
    (ready : Ready last ⟨structs, .type s f⟩ tokens) :
    Tracks last ⟨structs, .type s f⟩ tokens
      (fun type => ⟨structs, .separator (s.add [f.close type])⟩) (typeExpr last tokens) := by
  fun_induction typeExpr last tokens generalizing f with
  | case1 => exact ready.outcome?
  | case2 token opened =>
      have inside := leads_openBracket real structs s f opened []
      exact inside.outcome.trans (inside.ready ready).outcome?
  | case3 token opened closing rest closed ih =>
      have inside := leads_openBracket real structs s f opened (closing :: rest)
      have behind := inside.trans
        (leads_of_step real ((asks_closeBracket s f closing).next (beq_iff_eq.mp closed)))
      have deeper := behind.ready ready
      exact behind.tracks ((ih _ deeper).bind deeper fun _ _ _ => Leads.refl)
  | case4 token opened closing rest closed =>
      have inside := leads_openBracket real structs s f opened (closing :: rest)
      exact inside.outcome.trans
        (outcome?_of_stop ((asks_closeBracket s f closing).stop (mt beq_iff_eq.mpr closed)))
  | case5 token rest opened word =>
      apply leads_of_step real
      simp only [step, beq_iff_eq.mp word, go]
  | case6 token rest opened word =>
      apply outcome?_of_stop
      rw [beq_iff_eq] at opened word
      obtain ⟨kind, text, position⟩ := token
      cases kind with
      | openBracket => exact absurd rfl opened
      | ident => exact absurd rfl word
      | _ => rfl

/-- Where there is no question mark, a type comes next. -/
theorem step_mark (s : OpenStruct) (f : OpenField) {token : Token}
    (other : token.kind ≠ .question) :
    step ⟨structs, .mark s f⟩ token = step ⟨structs, .type s f⟩ token := by
  obtain ⟨kind, text, position⟩ := token
  cases kind with
  | question => exact absurd rfl other
  | _ => rfl

theorem leads_mark (real : last.kind ≠ .doc) (s : OpenStruct) (f : OpenField)
    (required : f.optional = false) (ready : Ready last ⟨structs, .mark s f⟩ tokens) :
    Leads last ⟨structs, .mark s f⟩ tokens
      ⟨structs, .type s { f with optional := (takeIf .question tokens).1 }⟩
      (takeIf .question tokens).2 := by
  obtain ⟨docs, name, optional, depth⟩ := f
  obtain rfl : optional = false := required
  by_cases marked : (tokens.headD last).kind = .question
  · have taken : step ⟨structs, .mark s ⟨docs, name, false, depth⟩⟩ (tokens.headD last) =
        .next ⟨structs, .type s ⟨docs, name, true, depth⟩⟩ := by
      simp only [step, marked, go]
    obtain ⟨t, rest, rfl⟩ := ready.exists_cons taken
    have found : takeIf .question (t :: rest) = (true, rest) := if_pos (beq_iff_eq.mpr marked)
    rw [found]
    exact leads_of_step real taken
  · have plain : takeIf .question tokens = (false, tokens) := by
      cases tokens with
      | nil => rfl
      | cons t rest => exact if_neg (mt beq_iff_eq.mp marked)
    rw [plain]
    exact leads_of_same_step (step_mark s _ marked) rfl

theorem asks_field (structs : List StructDecl) (s : OpenStruct) (docs : List Token) {token : Token}
    (other : token.kind ≠ .doc) (more : token.kind ≠ .closeBrace) :
    Asks ⟨structs, .field s docs⟩ .ident .fieldName
      (fun name => ⟨structs, .colon s ⟨docs, name, false, 0⟩⟩) token := by
  obtain ⟨kind, text, position⟩ := token
  cases kind with
  | doc => exact absurd rfl other
  | closeBrace => exact absurd rfl more
  | _ => rfl

theorem leads_docs (real : last.kind ≠ .doc) {stage : List Token → Stage}
    (takes : ∀ docs token, token.kind = .doc →
      step ⟨structs, stage docs⟩ token = .next ⟨structs, stage (docs ++ [token])⟩)
    (before tokens : List Token) :
    Leads last ⟨structs, stage before⟩ tokens ⟨structs, stage (before ++ docs tokens)⟩
      (afterDocs tokens) := by
  induction tokens generalizing before with
  | nil =>
      rw [docs, List.takeWhile_nil, List.append_nil]
      exact .refl
  | cons t rest ih =>
      by_cases same : t.kind = .doc
      · have lead := (leads_of_step real (takes before t same)).trans (ih (before ++ [t]))
        simpa [docs, afterDocs, same] using lead
      · have other : (t.kind == .doc) = false := beq_eq_false_iff_ne.mpr same
        simpa [docs, afterDocs, other] using Leads.refl

theorem afterDocs_head (real : last.kind ≠ .doc) (tokens : List Token) :
    ((afterDocs tokens).headD last).kind ≠ .doc := by
  induction tokens with
  | nil => exact real
  | cons t rest ih =>
      by_cases same : t.kind = .doc
      · simpa [afterDocs, same] using ih
      · have other : (t.kind == .doc) = false := beq_eq_false_iff_ne.mpr same
        simpa [afterDocs, other] using same

theorem leads_fieldDocs (real : last.kind ≠ .doc) (structs : List StructDecl) (s : OpenStruct)
    (tokens : List Token) :
    Leads last ⟨structs, .field s []⟩ tokens ⟨structs, .field s (docs tokens)⟩
      (afterDocs tokens) := by
  have takes (docs : List Token) (token : Token) (same : token.kind = .doc) :
      step ⟨structs, .field s docs⟩ token = .next ⟨structs, .field s (docs ++ [token])⟩ := by
    simp only [step, same, go]
  exact leads_docs real takes [] tokens

/-- A field and the doc comments before it, unless the struct ends there. -/
theorem tracks_fieldDecl (real : last.kind ≠ .doc) (s : OpenStruct)
    (ready : Ready last ⟨structs, .field s []⟩ tokens)
    (more : ¬((afterDocs tokens).headD last).kind == .closeBrace) :
    Tracks last ⟨structs, .field s []⟩ tokens
      (fun field => ⟨structs, .separator (s.add [field])⟩)
      (fieldDecl last (docs tokens) (afterDocs tokens)) := by
  have lead := leads_fieldDocs real structs s tokens
  have asks := asks_field structs s (docs tokens) (afterDocs_head real tokens)
    (mt beq_iff_eq.mpr more)
  refine lead.tracks ?_
  replace ready := lead.ready ready
  refine (tracks_take real ready asks).bind ready fun name rest ready => ?_
  refine (tracks_take real ready (asks_colon s _ _)).bind ready fun colon rest ready => ?_
  have marked := leads_mark real s _ rfl ready
  replace ready := marked.ready ready
  refine marked.tracks ((tracks_typeExpr real s _ ready).bind ready fun type rest ready => ?_)
  exact .refl

theorem asks_separator (structs : List StructDecl) (s : OpenStruct) {token : Token}
    (other : token.kind ≠ .comma) :
    Asks ⟨structs, .separator s⟩ .closeBrace .commaOrBrace
      (fun _ => ⟨structs ++ [s.close], .declaration []⟩) token := by
  obtain ⟨kind, text, position⟩ := token
  cases kind with
  | comma => exact absurd rfl other
  | _ => rfl

theorem tracks_fieldDecls (real : last.kind ≠ .doc) (s : OpenStruct)
    (ready : Ready last ⟨structs, .field s []⟩ tokens) :
    Tracks last ⟨structs, .field s []⟩ tokens
      (fun fields => ⟨structs ++ [(s.add fields).close], .declaration []⟩)
      (fieldDecls last tokens) := by
  fun_induction fieldDecls last tokens generalizing s with
  | case1 tokens brace doc more found =>
      refine (leads_fieldDocs real structs s tokens).outcome.trans (outcome?_of_stop ?_)
      simp only [step, found, beq_iff_eq.mp brace]
  | case2 tokens brace found =>
      have lead := leads_fieldDocs real structs s tokens
      have closed : step ⟨structs, .field s (docs tokens)⟩ ((afterDocs tokens).headD last) =
          .next ⟨structs ++ [(s.add []).close], .declaration []⟩ := by
        simp only [step, found, beq_iff_eq.mp brace, close, OpenStruct.add_nil]
      obtain ⟨t, rest, shape⟩ := (lead.ready ready).exists_cons closed
      rw [shape] at lead closed ⊢
      exact lead.trans (leads_of_step real closed)
  | case3 tokens brace e failed =>
      have read := tracks_fieldDecl real s ready brace
      rw [failed] at read
      exact read
  | case4 tokens brace field token more read comma _ ih =>
      have lead := tracks_fieldDecl real s ready brace
      rw [read] at lead
      have parted : step ⟨structs, .separator (s.add [field])⟩ token =
          .next ⟨structs, .field (s.add [field]) []⟩ := by
        simp only [step, beq_iff_eq.mp comma, go]
      have behind := Leads.trans lead (leads_of_step real parted)
      refine behind.tracks ((ih _ (behind.ready ready)).bind (behind.ready ready) ?_)
      intro fields rest ready
      rw [OpenStruct.add_add]
      exact .refl
  | case5 tokens brace field token more read comma =>
      have lead := tracks_fieldDecl real s ready brace
      rw [read] at lead
      have asks := asks_separator structs (s.add [field]) (mt beq_iff_eq.mpr comma)
      have behind := lead.ready ready
      refine Leads.tracks lead ((tracks_take real behind asks).bind behind ?_)
      intro closing rest ready
      exact .refl
  | case6 tokens brace field read =>
      have lead := tracks_fieldDecl real s ready brace
      rw [read] at lead
      exact lead.outcome.trans (lead.ready ready).outcome?

theorem leads_structDocs (real : last.kind ≠ .doc) (structs : List StructDecl)
    (tokens : List Token) :
    Leads last ⟨structs, .declaration []⟩ tokens ⟨structs, .declaration (docs tokens)⟩
      (afterDocs tokens) := by
  have takes (docs : List Token) (token : Token) (same : token.kind = .doc) :
      step ⟨structs, .declaration docs⟩ token =
        .next ⟨structs, .declaration (docs ++ [token])⟩ := by
    simp only [step, same, go]
  exact leads_docs real takes [] tokens

theorem asks_declaration (structs : List StructDecl) (docs : List Token) {token : Token}
    (other : token.kind ≠ .doc) (more : token.kind ≠ .eof) :
    Asks ⟨structs, .declaration docs⟩ .struct .structKeyword
      (fun _ => ⟨structs, .structName docs⟩) token := by
  obtain ⟨kind, text, position⟩ := token
  cases kind with
  | doc => exact absurd rfl other
  | eof => exact absurd rfl more
  | _ => rfl

/-- A struct and the doc comments before it, unless the document ends there. -/
theorem tracks_structDecl (real : last.kind ≠ .doc)
    (ready : Ready last ⟨structs, .declaration []⟩ tokens)
    (more : ¬((afterDocs tokens).headD last).kind == .eof) :
    Tracks last ⟨structs, .declaration []⟩ tokens
      (fun struct => ⟨structs ++ [struct], .declaration []⟩)
      (structDecl last (docs tokens) (afterDocs tokens)) := by
  have lead := leads_structDocs real structs tokens
  have asks := asks_declaration structs (docs tokens) (afterDocs_head real tokens)
    (mt beq_iff_eq.mpr more)
  refine lead.tracks ?_
  replace ready := lead.ready ready
  refine (tracks_take real ready asks).bind ready fun keyword rest ready => ?_
  refine (tracks_take real ready (asks_structName _ _)).bind ready fun name rest ready => ?_
  refine (tracks_take real ready (asks_openBrace _ _ _)).bind ready fun brace rest ready => ?_
  refine (tracks_fieldDecls real _ ready).bind ready fun fields rest ready => ?_
  exact .refl

theorem outcome?_structDecls (real : last.kind ≠ .doc)
    (ready : Ready last ⟨structs, .declaration []⟩ tokens) :
    outcome? last ⟨structs, .declaration []⟩ tokens =
      some ((structDecls last tokens).map fun more => ⟨structs ++ more⟩) := by
  fun_induction structDecls last tokens generalizing structs with
  | case1 tokens stop doc more found =>
      refine (leads_structDocs real structs tokens).outcome.trans (outcome?_of_stop ?_)
      simp only [step, found, beq_iff_eq.mp stop]
      rfl
  | case2 tokens stop found =>
      refine (leads_structDocs real structs tokens).outcome.trans (outcome?_of_stop ?_)
      simp only [step, found, beq_iff_eq.mp stop, Except.map, List.append_nil]
  | case3 tokens stop e failed =>
      have read := tracks_structDecl real ready stop
      rw [failed] at read
      exact read
  | case4 tokens stop struct rest read ih =>
      have lead := tracks_structDecl real ready stop
      rw [read] at lead
      refine lead.outcome.trans ((ih (lead.ready ready)).trans ?_)
      cases structDecls last rest with
      | error e => rfl
      | ok more =>
          change some (Except.ok (Document.mk (structs ++ [struct] ++ more))) = _
          rw [List.append_assoc]
          rfl

/-- Reading from the first token on gives what the recursive functions give. -/
theorem outcome?_start (nonempty : tokens ≠ []) (real : (tokens.getLast nonempty).kind ≠ .doc) :
    start.outcome? (tokens.getLast nonempty) tokens = some (ofTokens tokens) := by
  have found := List.getLast?_eq_some_getLast nonempty
  have ready : start.Ready (tokens.getLast nonempty) tokens := by
    refine ⟨?_, fun none => absurd none nonempty⟩
    intro t member
    rw [found] at member
    exact (Option.some.inj member).symm
  simp only [start, outcome?_structDecls real ready, ofTokens, found]
  cases structDecls (tokens.getLast nonempty) tokens with
  | error e => rfl
  | ok structs => rfl

end Agreement

end Reader
end SchemaWire.Document
