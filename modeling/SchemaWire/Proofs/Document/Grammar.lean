import SchemaWire.Document.Token
import SchemaWire.Schema.Basic

/-!
The grammar of schema documents. A syntax tree is a derivation:

    schema := decl*
    decl   := doc* "struct" ident "{" [field ("," field)* [","]] "}"
    field  := doc* ident ":" ["?"] type
    type   := ident | "[" "]" type

A tree spells a sequence of tokens and declares a document. No two trees spell the same.
-/
namespace SchemaWire

abbrev Terminal (kind : TokenKind) : Type := { token : Token // token.kind = kind }

namespace Grammar

/-- An identifier stands for the built-in type of that name, any other for a struct. -/
inductive TypeTree where
  | primitive (word : Terminal .ident) (p : PrimitiveType) (spelled : p.name = word.val.text)
  | named (word : Terminal .ident) (other : ∀ p : PrimitiveType, p.name ≠ word.val.text)
  | array (opening : Terminal .openBracket) (closing : Terminal .closeBracket)
      (element : TypeTree)

structure FieldTree where
  docs : List (Terminal .doc)
  name : Terminal .ident
  colon : Terminal .colon
  question : Option (Terminal .question)
  type : TypeTree

/-- One field or more, between commas, and perhaps a comma behind the last. -/
@[ext] structure FieldList where
  first : FieldTree
  more : List (Terminal .comma × FieldTree)
  trailing : Option (Terminal .comma)

structure StructTree where
  docs : List (Terminal .doc)
  keyword : Terminal .struct
  name : Terminal .ident
  opening : Terminal .openBrace
  fields : Option FieldList
  closing : Terminal .closeBrace

abbrev SchemaTree := List StructTree

/-! The tokens that a tree spells, and what they declare. -/

namespace TypeTree

def tokens : TypeTree → List Token
  | .primitive word _ _ => [word.val]
  | .named word _ => [word.val]
  | .array opening closing element => opening.val :: closing.val :: element.tokens

def expr : TypeTree → TypeExpr
  | .primitive _ p _ => .primitive p
  | .named word _ => .named word.val.text
  | .array _ _ element => .array element.expr

end TypeTree

/-- The lines of doc comments as one text, if there are any. -/
def docText : List (Terminal .doc) → Option String
  | [] => none
  | docs => some (String.intercalate "\n" (docs.map (·.val.text)))

namespace FieldTree

def core (f : FieldTree) : List Token :=
  f.name.val :: f.colon.val :: (f.question.toList.unattach ++ f.type.tokens)

def tokens (f : FieldTree) : List Token := f.docs.unattach ++ f.core

def decl (f : FieldTree) : FieldDecl where
  name := f.name.val.text
  position := f.name.val.position
  doc := docText f.docs
  type := f.type.expr
  optional := f.question.isSome

end FieldTree

namespace FieldList

/-- The tokens behind the first field. -/
def tail (more : List (Terminal .comma × FieldTree)) (trailing : Option (Terminal .comma)) :
    List Token :=
  more.flatMap (fun (comma, field) => comma.val :: field.tokens) ++ trailing.toList.unattach

def tokens (l : FieldList) : List Token := l.first.tokens ++ tail l.more l.trailing

def decls (l : FieldList) : List FieldDecl := l.first.decl :: l.more.map (·.2.decl)

end FieldList

/-- What stands between the braces of a struct. -/
def bodyTokens : Option FieldList → List Token
  | none => []
  | some l => l.tokens

def bodyDecls : Option FieldList → List FieldDecl
  | none => []
  | some l => l.decls

namespace StructTree

def core (s : StructTree) : List Token :=
  s.keyword.val :: s.name.val :: s.opening.val :: (bodyTokens s.fields ++ [s.closing.val])

def tokens (s : StructTree) : List Token := s.docs.unattach ++ s.core

def decl (s : StructTree) : StructDecl where
  name := s.name.val.text
  position := s.name.val.position
  doc := docText s.docs
  fields := bodyDecls s.fields

end StructTree

namespace SchemaTree

def tokens (tree : SchemaTree) : List Token := tree.flatMap (·.tokens)

def document (tree : SchemaTree) : Document := ⟨tree.map (·.decl)⟩

end SchemaTree

/-! The tokens of a tree determine it. -/

section Unique

variable {r r' : List Token}

/-- A run of one kind ends at the first token of another. -/
theorem unattach_append_inj {kind : TokenKind} {ts ts' : List (Terminal kind)} {t t' : Token}
    (h : ts.unattach ++ t :: r = ts'.unattach ++ t' :: r') (other : t.kind ≠ kind)
    (other' : t'.kind ≠ kind) : ts = ts' ∧ t = t' ∧ r = r' := by
  induction ts generalizing ts' with
  | nil =>
      cases ts' with
      | nil => simpa using h
      | cons x xs =>
          obtain ⟨rfl, -⟩ := List.cons.inj h
          exact absurd x.property other
  | cons x xs ih =>
      cases ts' with
      | nil =>
          obtain ⟨rfl, -⟩ := List.cons.inj h
          exact absurd x.property other'
      | cons y ys =>
          obtain ⟨head, tail⟩ := List.cons.inj h
          obtain ⟨rfl, rest⟩ := ih tail
          exact ⟨by rw [Subtype.ext head], rest⟩

theorem val_ne {kind kind' : TokenKind} (differ : kind ≠ kind') (t : Terminal kind)
    (t' : Terminal kind') : t.val ≠ t'.val := by
  intro same
  apply differ
  rw [← t.property, same, t'.property]

theorem TypeTree.tokens_append_inj {t t' : TypeTree} (h : t.tokens ++ r = t'.tokens ++ r') :
    t = t' ∧ r = r' := by
  induction t generalizing t' with
  | primitive word p spelled =>
      cases t' with
      | primitive word' p' spelled' =>
          obtain ⟨first, rest⟩ := List.cons.inj h
          cases Subtype.ext first
          cases PrimitiveType.name_inj (spelled.trans spelled'.symm)
          exact ⟨rfl, rest⟩
      | named word' other =>
          obtain ⟨first, -⟩ := List.cons.inj h
          exact absurd (first ▸ spelled) (other p)
      | array opening closing element =>
          exact absurd (List.cons.inj h).1 (val_ne (by decide) word opening)
  | named word other =>
      cases t' with
      | primitive word' p spelled =>
          obtain ⟨first, -⟩ := List.cons.inj h
          exact absurd (first ▸ spelled) (other p)
      | named word' other' =>
          obtain ⟨first, rest⟩ := List.cons.inj h
          cases Subtype.ext first
          exact ⟨rfl, rest⟩
      | array opening closing element =>
          exact absurd (List.cons.inj h).1 (val_ne (by decide) word opening)
  | array opening closing element ih =>
      cases t' with
      | primitive word p spelled =>
          exact absurd (List.cons.inj h).1 (val_ne (by decide) opening word)
      | named word other =>
          exact absurd (List.cons.inj h).1 (val_ne (by decide) opening word)
      | array opening' closing' element' =>
          obtain ⟨first, inside⟩ := List.cons.inj h
          obtain ⟨second, elements⟩ := List.cons.inj inside
          obtain ⟨rfl, rest⟩ := ih elements
          cases Subtype.ext first
          cases Subtype.ext second
          exact ⟨rfl, rest⟩

theorem TypeTree.exists_cons (t : TypeTree) :
    ∃ x more, t.tokens = x :: more ∧ x.kind ≠ .question := by
  cases t with
  | primitive word p spelled => exact ⟨word.val, [], rfl, by simp [word.property]⟩
  | named word other => exact ⟨word.val, [], rfl, by simp [word.property]⟩
  | array opening closing element => exact ⟨opening.val, _, rfl, by simp [opening.property]⟩

theorem toList_inj {α : Type} {o o' : Option α} (h : o.toList = o'.toList) : o = o' := by
  simpa using congrArg List.head? h

theorem FieldTree.tokens_append_inj {f f' : FieldTree} (h : f.tokens ++ r = f'.tokens ++ r') :
    f = f' ∧ r = r' := by
  obtain ⟨docs, name, colon, question, type⟩ := f
  obtain ⟨docs', name', colon', question', type'⟩ := f'
  simp only [tokens, core, List.append_assoc, List.cons_append] at h
  obtain ⟨rfl, named, behindName⟩ := unattach_append_inj h (by simp [name.property])
    (by simp [name'.property])
  obtain ⟨marked, behindColon⟩ := List.cons.inj behindName
  obtain ⟨x, more, front, other⟩ := type.exists_cons
  obtain ⟨x', more', front', other'⟩ := type'.exists_cons
  rw [front, front'] at behindColon
  obtain ⟨flags, first, later⟩ := unattach_append_inj behindColon other other'
  have types : type.tokens ++ r = type'.tokens ++ r' := by
    rw [front, front', first]
    exact congrArg _ later
  obtain ⟨rfl, rest⟩ := TypeTree.tokens_append_inj types
  cases Subtype.ext named
  cases Subtype.ext marked
  cases toList_inj flags
  exact ⟨rfl, rest⟩

theorem FieldTree.exists_cons (f : FieldTree) :
    ∃ x more, f.tokens = x :: more ∧ x.kind ≠ .closeBrace := by
  obtain ⟨docs, name, colon, question, type⟩ := f
  cases docs with
  | nil => exact ⟨name.val, _, rfl, by simp [name.property]⟩
  | cons d ds => exact ⟨d.val, _, rfl, by simp [d.property]⟩

/-- A closing brace stands where no field does. -/
theorem FieldTree.tokens_ne_closing (f : FieldTree) (closing : Terminal .closeBrace) :
    f.tokens ++ r ≠ closing.val :: r' := by
  obtain ⟨x, more, front, other⟩ := f.exists_cons
  intro h
  rw [front] at h
  obtain ⟨rfl, -⟩ := List.cons.inj h
  exact other closing.property

theorem FieldList.tail_append_inj {more more' : List (Terminal .comma × FieldTree)}
    {trailing trailing' : Option (Terminal .comma)} {closing closing' : Terminal .closeBrace}
    (h : tail more trailing ++ closing.val :: r = tail more' trailing' ++ closing'.val :: r') :
    more = more' ∧ trailing = trailing' ∧ closing = closing' ∧ r = r' := by
  induction more generalizing more' with
  | nil =>
      cases more' with
      | nil =>
          obtain ⟨commas, closed, rest⟩ := unattach_append_inj h (by simp [closing.property])
            (by simp [closing'.property])
          exact ⟨rfl, toList_inj commas, Subtype.ext closed, rest⟩
      | cons entry more' =>
          -- A comma that no field follows is the last.
          simp only [tail, List.flatMap_cons, List.cons_append, List.append_assoc] at h
          cases trailing with
          | none => exact absurd (List.cons.inj h).1 (val_ne (by decide) closing entry.1)
          | some comma =>
              exact absurd (List.cons.inj h).2.symm (entry.2.tokens_ne_closing closing)
  | cons entry more ih =>
      simp only [tail, List.flatMap_cons, List.cons_append, List.append_assoc] at h
      cases more' with
      | nil =>
          cases trailing' with
          | none => exact absurd (List.cons.inj h).1 (val_ne (by decide) entry.1 closing')
          | some comma => exact absurd (List.cons.inj h).2 (entry.2.tokens_ne_closing closing')
      | cons entry' more' =>
          simp only [List.flatMap_cons, List.cons_append, List.append_assoc] at h
          obtain ⟨comma, rest⟩ := List.cons.inj h
          obtain ⟨field, rest⟩ := FieldTree.tokens_append_inj rest
          have same : entry = entry' := Prod.ext (Subtype.ext comma) field
          obtain ⟨rfl, others⟩ := ih (by simpa only [tail, List.append_assoc] using rest)
          exact ⟨by rw [same], others⟩

theorem bodyTokens_append_inj {body body' : Option FieldList}
    {closing closing' : Terminal .closeBrace}
    (h : bodyTokens body ++ closing.val :: r = bodyTokens body' ++ closing'.val :: r') :
    body = body' ∧ closing = closing' ∧ r = r' := by
  cases body with
  | none =>
      cases body' with
      | none =>
          obtain ⟨closed, rest⟩ := List.cons.inj h
          exact ⟨rfl, Subtype.ext closed, rest⟩
      | some l =>
          simp only [bodyTokens, FieldList.tokens, List.append_assoc] at h
          exact absurd h.symm (l.first.tokens_ne_closing closing)
  | some l =>
      simp only [bodyTokens, FieldList.tokens, List.append_assoc] at h
      cases body' with
      | none => exact absurd h (l.first.tokens_ne_closing closing')
      | some l' =>
          simp only [List.append_assoc] at h
          obtain ⟨first, tails⟩ := FieldTree.tokens_append_inj h
          obtain ⟨more, trailing, closed, rest⟩ := FieldList.tail_append_inj tails
          exact ⟨congrArg some (FieldList.ext first more trailing), closed, rest⟩

theorem StructTree.tokens_append_inj {s s' : StructTree} (h : s.tokens ++ r = s'.tokens ++ r') :
    s = s' ∧ r = r' := by
  obtain ⟨docs, keyword, name, opening, body, closing⟩ := s
  obtain ⟨docs', keyword', name', opening', body', closing'⟩ := s'
  simp only [tokens, core, List.append_assoc, List.cons_append, List.nil_append] at h
  obtain ⟨rfl, announced, behindKeyword⟩ := unattach_append_inj h (by simp [keyword.property])
    (by simp [keyword'.property])
  obtain ⟨named, behindName⟩ := List.cons.inj behindKeyword
  obtain ⟨opened, inside⟩ := List.cons.inj behindName
  obtain ⟨rfl, rfl, rest⟩ := bodyTokens_append_inj inside
  cases Subtype.ext announced
  cases Subtype.ext named
  cases Subtype.ext opened
  exact ⟨rfl, rest⟩

theorem StructTree.tokens_ne_nil (s : StructTree) : s.tokens ≠ [] := by
  simp [tokens, core]

theorem SchemaTree.tokens_inj {tree tree' : SchemaTree} (h : tree.tokens = tree'.tokens) :
    tree = tree' := by
  induction tree generalizing tree' with
  | nil =>
      cases tree' with
      | nil => rfl
      | cons s' tree' => exact absurd (List.append_eq_nil_iff.mp h.symm).1 s'.tokens_ne_nil
  | cons s tree ih =>
      cases tree' with
      | nil => exact absurd (List.append_eq_nil_iff.mp h).1 s.tokens_ne_nil
      | cons s' tree' =>
          obtain ⟨rfl, rest⟩ := StructTree.tokens_append_inj h
          rw [ih rest]

/-- The last token of a tree closes a struct. -/
theorem SchemaTree.tokens_ne_concat (tree : SchemaTree) (tokens : List Token) (eof : Terminal .eof) :
    tokens ++ [eof.val] ≠ tree.tokens := by
  intro h
  rcases List.eq_nil_or_concat tree with rfl | ⟨front, s, rfl⟩
  · exact List.append_ne_nil_of_right_ne_nil _ (List.cons_ne_nil _ _) h
  · have shape : SchemaTree.tokens (front ++ [s]) = (SchemaTree.tokens front ++ s.docs.unattach ++
        s.keyword.val :: s.name.val :: s.opening.val :: bodyTokens s.fields) ++ [s.closing.val] := by
      simp [SchemaTree.tokens, StructTree.tokens, StructTree.core]
    rw [List.concat_eq_append, shape] at h
    have final := (List.append_inj' h rfl).2
    exact val_ne (by decide) eof s.closing (List.cons.inj final).1

end Unique

end Grammar
end SchemaWire
