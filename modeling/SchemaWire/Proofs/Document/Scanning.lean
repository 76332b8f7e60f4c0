import SchemaWire.Document.Token
import SchemaWire.Proofs.Document.Validity

/-!
Cutting texts into tokens. `Lexes cs words` says what the tokens of the characters `cs` are, apart
from their places. Each law says what one more lexeme in front of a text adds to its tokens.
-/
namespace SchemaWire

/-! Characters of identifiers belong to words, and to nothing else. -/

theorem class_of_ident : ∀ n : Fin 128, isIdentChar (Char.ofNat n) = true →
    Text.isWordChar (Char.ofNat n) = true ∧ Token.markKind? (Char.ofNat n) = none ∧
      Text.isBlank (Char.ofNat n) = false ∧ Char.ofNat n ≠ '/' := by
  decide +kernel

theorem NameChar.class {c : Char} (h : NameChar c) :
    Text.isWordChar c = true ∧ Token.markKind? c = none ∧ Text.isBlank c = false ∧ c ≠ '/' := by
  obtain ⟨n, rfl, ident⟩ := h.exists_index
  exact class_of_ident n ident

theorem class_of_mark {c : Char} {kind : TokenKind} (mark : Token.markKind? c = some kind) :
    Text.isWordChar c = false ∧ c ≠ '/' := by
  have marks : c = '\x7b' ∨ c = '\x7d' ∨ c = '[' ∨ c = ']' ∨ c = ':' ∨ c = ',' ∨ c = '?' := by
    simp only [Token.markKind?, beq_iff_eq] at mark
    grind
  rcases marks with rfl | rfl | rfl | rfl | rfl | rfl | rfl <;> decide

theorem Text.Ranges.exists_of_contains {ranges : Text.Ranges} {n : Nat}
    (h : ranges.contains n = true) : ∃ r ∈ ranges, r.1 ≤ n ∧ n ≤ r.2 := by
  induction ranges with
  | nil => cases h
  | cons r rest ih =>
      obtain ⟨first, last⟩ := r
      by_cases below : n < first
      · simp [Text.Ranges.contains, below] at h
      · by_cases inside : n ≤ last
        · exact ⟨_, List.mem_cons_self .., Nat.le_of_not_lt below, inside⟩
        · simp only [Text.Ranges.contains, below, inside, if_false] at h
          obtain ⟨r, member, bounds⟩ := ih h
          exact ⟨r, List.mem_cons_of_mem _ member, bounds⟩

theorem class_of_blank_at : ∀ r ∈ Text.blankRanges, ∀ k < r.2 + 1 - r.1,
    Text.isWordChar (Char.ofNat (r.1 + k)) = false ∧ Token.markKind? (Char.ofNat (r.1 + k)) = none ∧
      Char.ofNat (r.1 + k) ≠ '/' := by
  decide +kernel

theorem class_of_blank {c : Char} (blank : Text.isBlank c = true) :
    Text.isWordChar c = false ∧ Token.markKind? c = none ∧ c ≠ '/' := by
  obtain ⟨r, member, lower, upper⟩ := Text.Ranges.exists_of_contains blank
  have found := class_of_blank_at r member (c.toNat - r.1) (by omega)
  rwa [Nat.add_sub_cancel' lower, Char.ofNat_toNat] at found

namespace Token

/-- What a token says, apart from its place. -/
abbrev Word : Type := TokenKind × String

def unplaced (t : Token) : Word := (t.kind, t.text)

section Lexemes

variable {c : Char} {cs rest : List Char}

theorem lexeme?_cons (other : c ≠ '/') : lexeme? (c :: rest) =
    if Text.isWordChar c then
      some (c :: rest.takeWhile Text.isWordChar, rest.dropWhile Text.isWordChar)
    else if (markKind? c).isSome then some ([c], rest)
    else if Text.isBlank c then
      some (c :: rest.takeWhile Text.isBlank, rest.dropWhile Text.isBlank)
    else none := by
  unfold lexeme?
  split
  · contradiction
  · next same => exact absurd (List.cons.inj same).1 other
  · next same =>
      obtain ⟨rfl, rfl⟩ := List.cons.inj same
      rfl

theorem lexeme?_word (first : Text.isWordChar c = true) (other : c ≠ '/')
    (all : ∀ d ∈ cs, Text.isWordChar d = true) {next : Char} (stop : Text.isWordChar next = false) :
    lexeme? (c :: (cs ++ next :: rest)) = some (c :: cs, next :: rest) := by
  rw [lexeme?_cons other, if_pos first, List.takeWhile_append_of_pos all,
    List.dropWhile_append_of_pos all, List.takeWhile_cons_of_neg (by simp [stop]),
    List.dropWhile_cons_of_neg (by simp [stop]), List.append_nil]

theorem lexeme?_comment (inside : '\n' ∉ cs) :
    lexeme? ('/' :: '/' :: (cs ++ '\n' :: rest)) = some ('/' :: '/' :: cs, '\n' :: rest) := by
  have all : ∀ d ∈ cs, (d != '\n') = true := by
    intro d member
    rw [bne_iff_ne]
    rintro rfl
    exact inside member
  simp [lexeme?, List.takeWhile_append_of_pos all, List.dropWhile_append_of_pos all]

theorem ofLexeme?_cons (other : c ≠ '/') (p : Position) : ofLexeme? p (c :: rest) =
    match markKind? c with
    | some kind => some ⟨kind, String.ofList (c :: rest), p⟩
    | none =>
      if Text.isBlank c then none
      else if String.ofList (c :: rest) == "struct" then
        some ⟨.struct, String.ofList (c :: rest), p⟩
      else some ⟨.ident, String.ofList (c :: rest), p⟩ := by
  unfold ofLexeme?
  split
  · next same => exact absurd (List.cons.inj same).1 other
  · next same => exact absurd (List.cons.inj same).1 other
  · next same =>
      obtain ⟨rfl, rfl⟩ := List.cons.inj same
      rfl
  · contradiction

theorem docText_cons (clean : cs.getLast? ≠ some '\r') :
    docText (' ' :: cs) = String.ofList cs := by
  have last : (' ' :: cs).reverse.head? ≠ some '\r' := by
    rw [List.head?_reverse, List.getLast?_cons]
    cases found : cs.getLast? with
    | none => decide
    | some d => rwa [found] at clean
  have kept : (' ' :: cs).reverse.dropWhile (· == '\r') = (' ' :: cs).reverse := by
    generalize (' ' :: cs).reverse = reversed at last
    cases reversed with
    | nil => rfl
    | cons d ds => exact List.dropWhile_cons_of_neg (by simpa using last)
  simp only [docText, kept, List.reverse_reverse]

end Lexemes

section Scanning

variable {p : Position} {cs lexeme rest : List Char} {words : List Word}

theorem scanFrom_of_lexeme (cut : lexeme? cs = some (lexeme, rest)) :
    scanFrom p cs =
      (scanFrom (p.after lexeme) rest).map ((ofLexeme? p lexeme).toList ++ ·) := by
  rw [scanFrom]
  split
  · next found =>
      rw [cut] at found
      cases found
      cases scanFrom (p.after lexeme) rest with
      | error e => rfl
      | ok tokens => cases ofLexeme? p lexeme <;> rfl
  · next missing =>
      rw [cut] at missing
      cases missing

theorem scanFrom_blanks {c : Char} (blank : Text.isBlank c = true) :
    scanFrom p (c :: rest) =
      scanFrom ((p.step c).after (rest.takeWhile Text.isBlank)) (rest.dropWhile Text.isBlank) := by
  obtain ⟨notWord, notMark, notSlash⟩ := class_of_blank blank
  have cut : lexeme? (c :: rest) =
      some (c :: rest.takeWhile Text.isBlank, rest.dropWhile Text.isBlank) := by
    simp [lexeme?_cons notSlash, notWord, notMark, blank]
  have dropped : ofLexeme? p (c :: rest.takeWhile Text.isBlank) = none := by
    simp [ofLexeme?_cons notSlash, notMark, blank]
  rw [scanFrom_of_lexeme cut, dropped]
  change Except.map ([] ++ ·) (scanFrom ((p.step c).after _) _) = _
  cases scanFrom ((p.step c).after (rest.takeWhile Text.isBlank)) (rest.dropWhile Text.isBlank) <;>
    rfl

/-- A blank goes with the blanks behind it, and is passed over either way. -/
theorem scanFrom_blank {c : Char} (blank : Text.isBlank c = true) :
    scanFrom p (c :: rest) = scanFrom (p.step c) rest := by
  rw [scanFrom_blanks blank]
  cases rest with
  | nil => rfl
  | cons d rest =>
      by_cases again : Text.isBlank d = true
      · rw [scanFrom_blanks again, List.takeWhile_cons_of_pos again,
          List.dropWhile_cons_of_pos again]
        rfl
      · rw [List.takeWhile_cons_of_neg again, List.dropWhile_cons_of_neg again]
        rfl

/-- Wherever the characters start, they are cut into tokens of these kinds and texts. -/
def Lexes (cs : List Char) (words : List Word) : Prop :=
  ∀ p, ∃ tokens, scanFrom p cs = .ok tokens ∧ tokens.map unplaced = words

theorem lexes_nil : Lexes [] [(.eof, "")] := by
  intro p
  refine ⟨[⟨.eof, "", p⟩], ?_, rfl⟩
  rw [scanFrom]
  rfl

theorem Lexes.piece (later : Lexes rest words) (lexeme : List Char) (word : List Word)
    (cut : lexeme? (lexeme ++ rest) = some (lexeme, rest))
    (kept : ∀ p, (ofLexeme? p lexeme).toList.map unplaced = word) :
    Lexes (lexeme ++ rest) (word ++ words) := by
  intro p
  obtain ⟨tokens, scanned, rfl⟩ := later (p.after lexeme)
  refine ⟨(ofLexeme? p lexeme).toList ++ tokens, ?_, ?_⟩
  · rw [scanFrom_of_lexeme cut, scanned]
    rfl
  · rw [List.map_append, kept]

theorem Lexes.blank (later : Lexes rest words) {c : Char} (blank : Text.isBlank c = true) :
    Lexes (c :: rest) words := by
  intro p
  rw [scanFrom_blank blank]
  exact later _

theorem Lexes.mark (later : Lexes rest words) {c : Char} {kind : TokenKind}
    (mark : markKind? c = some kind) : Lexes (c :: rest) ((kind, String.singleton c) :: words) := by
  obtain ⟨notWord, notSlash⟩ := class_of_mark mark
  apply later.piece [c] [(kind, String.singleton c)]
  · simp [lexeme?_cons notSlash, notWord, mark]
  · intro p
    simp [ofLexeme?_cons notSlash, mark, unplaced]

/-- A name before a character that no name holds. -/
theorem Lexes.name {next : Char} (later : Lexes (next :: rest) words)
    (stop : Text.isWordChar next = false) {name : String} (identifier : Identifier name) :
    Lexes (name.toList ++ next :: rest)
      ((if name = "struct" then .struct else .ident, name) :: words) := by
  obtain ⟨c, cs, shape, start, others⟩ := identifier
  obtain ⟨word, notMark, notBlank, notSlash⟩ := NameChar.class (.inl start)
  apply later.piece name.toList [(if name = "struct" then .struct else .ident, name)]
  · rw [shape]
    exact lexeme?_word word notSlash (fun d member => (others d member).class.1) stop
  · intro p
    have text : String.ofList (c :: cs) = name := by rw [← shape, String.ofList_toList]
    simp only [shape, ofLexeme?_cons notSlash, notMark, notBlank, text]
    by_cases keyword : name = "struct"
    · simp [keyword, unplaced]
    · simp [keyword, unplaced]

/-- A line of a doc comment, and the end of the line. -/
theorem Lexes.doc (later : Lexes rest words) {line : List Char} (inside : '\n' ∉ line)
    (clean : line.getLast? ≠ some '\r') :
    Lexes ('/' :: '/' :: '/' :: ' ' :: line ++ '\n' :: rest)
      ((.doc, String.ofList line) :: words) := by
  have ended : Lexes ('\n' :: rest) words := later.blank (by decide)
  apply ended.piece ('/' :: '/' :: '/' :: ' ' :: line) [(.doc, String.ofList line)]
  · have inside' : '\n' ∉ '/' :: ' ' :: line := by simp [inside]
    exact lexeme?_comment inside'
  · intro p
    simp [ofLexeme?, docText_cons clean, unplaced]

end Scanning
end Token
end SchemaWire
