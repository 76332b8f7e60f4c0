import SchemaWire.Document.Token

/-!
Reading documents from tokens. A document is a sequence of struct declarations; a declaration is
`struct Name { field, … }`; a field is `name: type` with an optional `?` before the type; a type is
a name or `[]` and a type. Doc comments may stand before structs and fields only.

Every function takes the tokens still to be read and gives those it left. Reading past the last
token finds that token again, so it is passed along as `last`.
-/
namespace SchemaWire.Document

/-- The token at hand is not what the grammar asks for. -/
def unexpected (last : Token) (expected : Expected) (tokens : List Token) : ParseError :=
  let found := tokens.headD last
  ⟨.unexpectedToken expected found, found.position⟩

def take (last : Token) (kind : TokenKind) (expected : Expected) (tokens : List Token) :
    Except ParseError (Token × List Token) :=
  match tokens with
  | token :: rest =>
    if token.kind == kind then .ok (token, rest) else .error (unexpected last expected tokens)
  | [] => .error (unexpected last expected tokens)

def takeIf (kind : TokenKind) (tokens : List Token) : Bool × List Token :=
  match tokens with
  | token :: rest => if token.kind == kind then (true, rest) else (false, tokens)
  | [] => (false, tokens)

def docs (tokens : List Token) : List Token := tokens.takeWhile (·.kind == .doc)

def afterDocs (tokens : List Token) : List Token := tokens.dropWhile (·.kind == .doc)

/-- The lines of doc comments as one text. -/
def joinDocs (docs : List Token) : Option String :=
  if docs.isEmpty then none else some (String.intercalate "\n" (docs.map (·.text)))

/-- A name of a built-in type stands for it, any other for a struct. -/
def typeOfName (name : String) : TypeExpr :=
  match PrimitiveType.ofName? name with
  | some p => .primitive p
  | none => .named name

def typeExpr (last : Token) : List Token → Except ParseError (TypeExpr × List Token)
  | [] => .error (unexpected last .type [])
  | token :: rest =>
    if token.kind == .openBracket then
      match rest with
      | [] => .error (unexpected last .closeBracket [])
      | closing :: rest =>
        if closing.kind == .closeBracket then do
          let (element, rest) ← typeExpr last rest
          return (.array element, rest)
        else .error (unexpected last .closeBracket (closing :: rest))
    else if token.kind == .ident then .ok (typeOfName token.text, rest)
    else .error (unexpected last .type (token :: rest))

/-- A field behind its doc comments. -/
def fieldDecl (last : Token) (docs tokens : List Token) :
    Except ParseError (FieldDecl × List Token) := do
  let (name, tokens) ← take last .ident .fieldName tokens
  let (_, tokens) ← take last .colon .colon tokens
  let (optional, tokens) := takeIf .question tokens
  let (type, tokens) ← typeExpr last tokens
  return (⟨name.text, name.position, joinDocs docs, type, optional⟩, tokens)

theorem take_length {last : Token} {kind : TokenKind} {expected : Expected}
    {tokens rest : List Token} {token : Token}
    (h : take last kind expected tokens = .ok (token, rest)) : rest.length < tokens.length := by
  unfold take at h
  split at h
  · split at h
    · cases h
      exact Nat.lt_succ_self _
    · exact nomatch h
  · exact nomatch h

theorem takeIf_length (kind : TokenKind) (tokens : List Token) :
    (takeIf kind tokens).2.length ≤ tokens.length := by
  unfold takeIf
  split
  · split
    · exact Nat.le_succ _
    · exact Nat.le_refl _
  · exact Nat.le_refl _

theorem afterDocs_length (tokens : List Token) : (afterDocs tokens).length ≤ tokens.length :=
  (List.dropWhile_sublist _).length_le

theorem typeExpr_length {last : Token} {tokens rest : List Token} {type : TypeExpr}
    (h : typeExpr last tokens = .ok (type, rest)) : rest.length < tokens.length := by
  fun_induction typeExpr last tokens generalizing type rest with
  | case1 => exact nomatch h
  | case2 => exact nomatch h
  | case3 token open? closing tail closed ih =>
    cases hrec : typeExpr last tail with
    | error e => simp [hrec, bind, Except.bind] at h
    | ok found =>
      obtain ⟨element, left⟩ := found
      simp only [hrec, bind, Except.bind, pure, Except.pure, Except.ok.injEq, Prod.mk.injEq] at h
      have := ih hrec
      obtain ⟨-, rfl⟩ := h
      simp only [List.length_cons]
      omega
  | case4 => exact nomatch h
  | case5 =>
    cases h
    exact Nat.lt_succ_self _
  | case6 => exact nomatch h

theorem fieldDecl_length {last : Token} {docs tokens rest : List Token} {field : FieldDecl}
    (h : fieldDecl last docs tokens = .ok (field, rest)) : rest.length < tokens.length := by
  simp only [fieldDecl, bind, Except.bind, pure, Except.pure] at h
  split at h
  · exact nomatch h
  next name hname =>
    split at h
    · exact nomatch h
    next colon hcolon =>
      split at h
      · exact nomatch h
      next type htype =>
        have h1 := take_length hname
        have h2 := take_length hcolon
        have h3 := takeIf_length .question colon.2
        have h4 := typeExpr_length htype
        cases h
        omega

/-- The fields of a struct, up to and with its closing brace. -/
def fieldDecls (last : Token) (tokens : List Token) :
    Except ParseError (List FieldDecl × List Token) :=
  if ((afterDocs tokens).headD last).kind == .closeBrace then
    match docs tokens with
    | doc :: _ => .error ⟨.docWithoutField, doc.position⟩
    | [] => .ok ([], (afterDocs tokens).drop 1)
  else
    match _h : fieldDecl last (docs tokens) (afterDocs tokens) with
    | .error e => .error e
    | .ok (field, rest) =>
      match rest with
      | token :: more =>
        if token.kind == .comma then do
          let (fields, rest) ← fieldDecls last more
          return (field :: fields, rest)
        else do
          let (_, rest) ← take last .closeBrace .commaOrBrace rest
          return ([field], rest)
      | [] => .error (unexpected last .commaOrBrace [])
termination_by tokens.length
decreasing_by
  have h1 := fieldDecl_length _h
  have h2 := afterDocs_length tokens
  simp only [List.length_cons] at h1
  omega

def structDecl (last : Token) (docs tokens : List Token) :
    Except ParseError (StructDecl × List Token) := do
  let (_, tokens) ← take last .struct .structKeyword tokens
  let (name, tokens) ← take last .ident .structName tokens
  let (_, tokens) ← take last .openBrace .openBrace tokens
  let (fields, tokens) ← fieldDecls last tokens
  return (⟨name.text, name.position, joinDocs docs, fields⟩, tokens)

theorem fieldDecls_length {last : Token} {tokens rest : List Token} {fields : List FieldDecl}
    (h : fieldDecls last tokens = .ok (fields, rest)) : rest.length ≤ tokens.length := by
  fun_induction fieldDecls last tokens generalizing fields rest with
  | case1 => exact nomatch h
  | case2 tokens hbrace hdocs =>
    cases h
    have := afterDocs_length tokens
    simp only [List.length_drop]
    omega
  | case3 => exact nomatch h
  | case4 tokens hbrace field token more hfield hcomma _ ih =>
    cases hrec : fieldDecls last more with
    | error e => simp [hrec, bind, Except.bind] at h
    | ok found =>
      obtain ⟨others, final⟩ := found
      simp only [hrec, bind, Except.bind, pure, Except.pure, Except.ok.injEq, Prod.mk.injEq] at h
      have h1 := ih hrec
      have h2 := fieldDecl_length hfield
      have h3 := afterDocs_length tokens
      obtain ⟨-, rfl⟩ := h
      simp only [List.length_cons] at h2
      omega
  | case5 tokens hbrace field token more hfield hcomma =>
    have h2 := fieldDecl_length hfield
    have h3 := afterDocs_length tokens
    simp only [bind, Except.bind, pure, Except.pure] at h
    split at h
    · exact nomatch h
    next found hbrace =>
      have h1 := take_length hbrace
      cases h
      omega
  | case6 => exact nomatch h

theorem structDecl_length {last : Token} {docs tokens rest : List Token} {struct : StructDecl}
    (h : structDecl last docs tokens = .ok (struct, rest)) : rest.length < tokens.length := by
  simp only [structDecl, bind, Except.bind, pure, Except.pure] at h
  split at h
  · exact nomatch h
  next keyword hkeyword =>
    split at h
    · exact nomatch h
    next name hname =>
      split at h
      · exact nomatch h
      next brace hbrace =>
        split at h
        · exact nomatch h
        next fields hfields =>
          have h1 := take_length hkeyword
          have h2 := take_length hname
          have h3 := take_length hbrace
          have h4 := fieldDecls_length hfields
          cases h
          omega

def structDecls (last : Token) (tokens : List Token) : Except ParseError (List StructDecl) :=
  if ((afterDocs tokens).headD last).kind == .eof then
    match docs tokens with
    | doc :: _ => .error ⟨.docWithoutStruct, doc.position⟩
    | [] => .ok []
  else
    match _h : structDecl last (docs tokens) (afterDocs tokens) with
    | .error e => .error e
    | .ok (struct, rest) => do
      let structs ← structDecls last rest
      return struct :: structs
termination_by tokens.length
decreasing_by
  have h1 := structDecl_length _h
  have h2 := afterDocs_length tokens
  omega

/-- The document that tokens spell. Without any token it is empty. -/
def ofTokens (tokens : List Token) : Except ParseError Document :=
  match tokens.getLast? with
  | some last => do return ⟨← structDecls last tokens⟩
  | none => .ok ⟨[]⟩

def ofText (text : String) : Except ParseError Document := do
  ofTokens (← Token.scan text)

end SchemaWire.Document
