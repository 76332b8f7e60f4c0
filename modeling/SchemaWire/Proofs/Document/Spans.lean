import Mathlib.Data.List.DropRight
import Mathlib.Data.List.Forall2
import SchemaWire.Proofs.Document.Scanning

/-!
Where tokens stand. Every token has a span of the text, and knows the place where it starts. What is
left between the spans are blanks and ordinary comments. Scanning fails at the first character that
belongs to nothing. All of this is said by indices into the characters of the text.
-/
namespace SchemaWire.Token

/-- The place behind the first `n` characters. The line ends among them count its line, those since
the last line end its column. -/
def place (cs : List Char) (n : Nat) : Position where
  line := 1 + (cs.take n).count '\n'
  column := 1 + ((cs.take n).rtakeWhile (· != '\n')).length

/-- There are characters from `n` up to `m`, all of this class. -/
def Within (p : Char → Bool) (cs : List Char) (n m : Nat) : Prop :=
  ∀ i, n ≤ i → i < m → ∃ c, cs[i]? = some c ∧ p c = true

/-- Two slashes at `k` make a comment of the rest of their line, as far as the character at `i`. -/
structure Comments (cs : List Char) (k i : Nat) : Prop where
  first : cs[k]? = some '/'
  second : cs[k + 1]? = some '/'
  le : k ≤ i
  line : Within (· != '\n') cs k (i + 1)

/-- A comment starts at `k`, and not inside another. -/
structure Opens (cs : List Char) (k : Nat) : Prop where
  slashes : Comments cs k k
  outside : ∀ j < k, ¬ Comments cs j k

/-- The character at `i` is blank, or part of a comment that documents nothing. -/
def Skipped (cs : List Char) (i : Nat) : Prop :=
  (∃ c, cs[i]? = some c ∧ Text.isBlank c = true) ∨
    ∃ k, Opens cs k ∧ cs[k + 2]? ≠ some '/' ∧ Comments cs k i

/-- The characters that are tokens by themselves, with the kinds of these. -/
inductive Mark : Char → TokenKind → Prop where
  | openBrace : Mark '\x7b' .openBrace
  | closeBrace : Mark '\x7d' .closeBrace
  | openBracket : Mark '[' .openBracket
  | closeBracket : Mark ']' .closeBracket
  | colon : Mark ':' .colon
  | comma : Mark ',' .comma
  | question : Mark '?' .question

/-- The character at `i` is in no comment and of no class. -/
structure Stray (cs : List Char) (i : Nat) (c : Char) : Prop where
  located : cs[i]? = some c
  outside : ∀ k, ¬ Comments cs k i
  word : Text.isWordChar c = false
  mark : ∀ kind, ¬ Mark c kind
  blank : Text.isBlank c = false

structure Span where
  start : Nat
  stop : Nat
  nonempty : start < stop

def Span.slice (s : Span) (cs : List Char) : List Char := (cs.drop s.start).take (s.stop - s.start)

/-- What the characters of a span have to be for a token. -/
inductive Covers (cs : List Char) : Span → Token → Prop where
  | doc {s : Span} {body : List Char} (opens : Opens cs s.start)
      (line : Within (· != '\n') cs s.start s.stop) (ends : ∀ c, cs[s.stop]? = some c → c = '\n')
      (reads : s.slice cs = '/' :: '/' :: '/' :: body) :
      Covers cs s ⟨.doc, docText body, place cs s.start⟩
  | mark {s : Span} {c : Char} {kind : TokenKind} (outside : ∀ k, ¬ Comments cs k s.start)
      (single : s.stop = s.start + 1) (located : cs[s.start]? = some c)
      (mark : Mark c kind) :
      Covers cs s ⟨kind, String.ofList (s.slice cs), place cs s.start⟩
  | word {s : Span} (outside : ∀ k, ¬ Comments cs k s.start)
      (all : Within Text.isWordChar cs s.start s.stop)
      (maximal : ∀ n m, n ≤ s.start → s.stop ≤ m → Within Text.isWordChar cs n m →
        n = s.start ∧ m = s.stop) :
      Covers cs s ⟨if String.ofList (s.slice cs) = "struct" then .struct else .ident,
        String.ofList (s.slice cs), place cs s.start⟩

/-- The spans of the tokens, in order, leave nothing out from `n` on but what is skipped. -/
structure Tiles (cs : List Char) (n : Nat) (spans : List Span) (tokens : List Token) : Prop where
  covers : List.Forall₂ (Covers cs) spans tokens
  ordered : spans.Pairwise fun s t => s.stop ≤ t.start
  behind : ∀ s ∈ spans, n ≤ s.start
  between : ∀ i, n ≤ i → i < cs.length →
    (∃ s ∈ spans, s.start ≤ i ∧ i < s.stop) ∨ Skipped cs i
  regular : ∀ i c, n ≤ i → ¬ Stray cs i c

theorem Within.mono {p : Char → Bool} {cs : List Char} {n n' m m' : Nat} (h : Within p cs n m)
    (lower : n ≤ n') (upper : m' ≤ m) : Within p cs n' m' :=
  fun i above below => h i (Nat.le_trans lower above) (Nat.lt_of_lt_of_le below upper)

theorem Comments.shorten {cs : List Char} {k n m : Nat} (h : Comments cs k m) (le : k ≤ n)
    (shorter : n ≤ m) : Comments cs k n :=
  ⟨h.first, h.second, le, h.line.mono (Nat.le_refl k) (Nat.succ_le_succ shorter)⟩

theorem after_append (p : Position) (cs ds : List Char) :
    p.after (cs ++ ds) = (p.after cs).after ds := List.foldl_append

/-- Counting along is counting at the end. -/
theorem after_eq (cs : List Char) : Position.after ⟨1, 1⟩ cs = place cs cs.length := by
  rw [place, List.take_length]
  induction cs using List.reverseRecOn with
  | nil => rfl
  | append_singleton cs c ih =>
      rw [after_append, ih, List.count_append, List.rtakeWhile_concat]
      by_cases newline : c = '\n'
      · subst newline
        rfl
      · simp [Position.after, Position.step, newline, Nat.add_assoc]

theorem markKind?_eq_some_iff {c : Char} {kind : TokenKind} :
    markKind? c = some kind ↔ Mark c kind := by
  constructor
  · intro found
    simp only [markKind?, beq_iff_eq] at found
    split_ifs at found with h h h h h h h <;> cases found <;> subst h <;> constructor
  · intro mark
    cases mark <;> rfl

theorem markKind?_eq_none_iff {c : Char} : markKind? c = none ↔ ∀ kind, ¬ Mark c kind := by
  simp only [← markKind?_eq_some_iff, Option.eq_none_iff_forall_ne_some, ne_eq]

theorem class_of_word {c : Char} (word : Text.isWordChar c = true) :
    markKind? c = none ∧ Text.isBlank c = false ∧ c ≠ '/' := by
  refine ⟨?_, ?_, ?_⟩
  · cases found : markKind? c with
    | none => rfl
    | some kind => rw [(class_of_mark found).1] at word; cases word
  · cases found : Text.isBlank c with
    | false => rfl
    | true => rw [(class_of_blank found).1] at word; cases word
  · rintro rfl
    revert word
    decide

/-! What a lexeme is made of, and what may follow it. -/

inductive Lexeme : List Char → List Char → Prop where
  | comment {body rest : List Char} (line : ∀ c ∈ body, (c != '\n') = true)
      (ends : ∀ c, rest.head? = some c → c = '\n') : Lexeme ('/' :: '/' :: body) rest
  | word {c : Char} {cs rest : List Char} (all : ∀ d ∈ c :: cs, Text.isWordChar d = true)
      (ends : ∀ d, rest.head? = some d → Text.isWordChar d = false) : Lexeme (c :: cs) rest
  | mark {c : Char} {kind : TokenKind} {rest : List Char} (mark : markKind? c = some kind) :
      Lexeme [c] rest
  | blanks {c : Char} {cs rest : List Char} (all : ∀ d ∈ c :: cs, Text.isBlank d = true) :
      Lexeme (c :: cs) rest

theorem head?_dropWhile {p : Char → Bool} {cs : List Char} {c : Char}
    (h : (cs.dropWhile p).head? = some c) : p c = false := by
  have stop := List.head?_dropWhile_not p cs
  rwa [h] at stop

theorem forall_mem_cons_takeWhile {p : Char → Bool} {c : Char} (first : p c = true)
    (cs : List Char) : ∀ d ∈ c :: cs.takeWhile p, p d = true :=
  List.forall_mem_cons.mpr ⟨first, fun _ => List.mem_takeWhile_imp⟩

theorem lexeme_of_cut {cs lexeme rest : List Char} (h : lexeme? cs = some (lexeme, rest)) :
    cs = lexeme ++ rest ∧ Lexeme lexeme rest := by
  unfold lexeme? at h
  split at h
  · cases h
  · cases h
    refine ⟨by simp, .comment (fun _ => List.mem_takeWhile_imp) ?_⟩
    intro c found
    simpa using head?_dropWhile found
  · split at h
    · next word =>
        cases h
        exact ⟨by simp, .word (forall_mem_cons_takeWhile word _) fun _ => head?_dropWhile⟩
    · split at h
      · next mark =>
          cases h
          obtain ⟨kind, found⟩ := Option.isSome_iff_exists.mp mark
          exact ⟨rfl, .mark found⟩
      · split at h
        · next blank =>
            cases h
            exact ⟨by simp, .blanks (forall_mem_cons_takeWhile blank _)⟩
        · cases h

theorem class_of_lexeme?_eq_none {c : Char} {rest : List Char} (h : lexeme? (c :: rest) = none) :
    (Text.isWordChar c = false ∧ markKind? c = none ∧ Text.isBlank c = false) ∧
      ¬ (c = '/' ∧ rest.head? = some '/') := by
  by_cases slash : c = '/'
  · subst slash
    refine ⟨by decide, ?_⟩
    rintro ⟨-, next⟩
    obtain ⟨later, rfl⟩ := List.head?_eq_some_iff.mp next
    rw [lexeme?] at h
    cases h
  · rw [lexeme?_cons slash] at h
    refine ⟨?_, fun same => slash same.1⟩
    split_ifs at h with word mark blank
    exact ⟨by simpa using word, by simpa using mark, by simpa using blank⟩

theorem Lexeme.length_pos {lexeme rest : List Char} (h : Lexeme lexeme rest) :
    0 < lexeme.length := by
  cases h <;> exact Nat.succ_pos _

/-- A comment ends with its line, and nothing else holds a slash. -/
theorem Lexeme.closes {lexeme rest : List Char} (h : Lexeme lexeme rest) :
    (∀ c, rest.head? = some c → c = '\n') ∨ ∀ c ∈ lexeme, (c != '/') = true := by
  cases h with
  | comment line ends => exact .inl ends
  | word all ends => exact .inr fun c member => bne_iff_ne.mpr (class_of_word (all c member)).2.2
  | mark mark => exact .inr (by simpa using (class_of_mark mark).2)
  | blanks all => exact .inr fun c member => bne_iff_ne.mpr (class_of_blank (all c member)).2.2

/-- A word is not followed by one more of its characters, and nothing else ends in one. -/
theorem Lexeme.parts {lexeme rest : List Char} (h : Lexeme lexeme rest) :
    (∀ c, rest.head? = some c → Text.isWordChar c = false) ∨
      ∀ c ∈ lexeme, (!Text.isWordChar c) = true := by
  cases h with
  | comment line ends =>
      refine .inl fun c found => ?_
      rw [ends c found]
      decide
  | word all ends => exact .inl ends
  | mark mark => exact .inr (by simpa using (class_of_mark mark).1)
  | blanks all =>
      refine .inr fun c member => ?_
      rw [(class_of_blank (all c member)).1]
      rfl

/-- Nothing of what was read before goes on at `n`, neither a comment nor a word. -/
structure Clear (cs : List Char) (n : Nat) : Prop where
  comments : ∀ k < n, ¬ Comments cs k n
  words : ∀ k, k + 1 = n → ¬ Within Text.isWordChar cs k (n + 1)

theorem Clear.zero (cs : List Char) : Clear cs 0 where
  comments k before := absurd before (Nat.not_lt_zero k)
  words k last := absurd last (Nat.succ_ne_zero k)

section Cut

variable {cs lexeme rest : List Char} {n : Nat} (cut : cs.drop n = lexeme ++ rest)
include cut

theorem getElem?_of_cut (j : Nat) : cs[n + j]? = (lexeme ++ rest)[j]? := by
  rw [← cut, List.getElem?_drop]

theorem getElem?_behind : cs[n + lexeme.length]? = rest.head? := by
  rw [getElem?_of_cut cut, List.getElem?_append_right (Nat.le_refl _), Nat.sub_self,
    List.head?_eq_getElem?]

theorem within_of_cut {p : Char → Bool} (all : ∀ c ∈ lexeme, p c = true) :
    Within p cs n (n + lexeme.length) := by
  intro i lower upper
  obtain ⟨j, rfl⟩ := Nat.exists_eq_add_of_le lower
  have inside : j < lexeme.length := Nat.lt_of_add_lt_add_left upper
  refine ⟨lexeme[j], ?_, all _ (List.getElem_mem inside)⟩
  rw [getElem?_of_cut cut, List.getElem?_append_left inside, List.getElem?_eq_getElem inside]

theorem place_behind : place cs (n + lexeme.length) = (place cs n).after lexeme := by
  have start (i : Nat) : place cs i = Position.after ⟨1, 1⟩ (cs.take i) := by
    rw [after_eq, place, place, List.take_length]
  rw [start, start, List.take_add, cut, List.take_left, after_append]

theorem slice_of_cut (nonempty : n < n + lexeme.length) :
    Span.slice ⟨n, n + lexeme.length, nonempty⟩ cs = lexeme := by
  rw [Span.slice, Nat.add_sub_cancel_left, cut, List.take_left]

/-- Behind a lexeme nothing goes on. -/
theorem Clear.step (clear : Clear cs n) (h : Lexeme lexeme rest) :
    Clear cs (n + lexeme.length) := by
  have next := getElem?_behind cut
  constructor
  · intro k before comment
    rcases Nat.lt_or_ge k n with earlier | later
    · -- It would have reached the start of the lexeme.
      exact clear.comments k earlier (comment.shorten (Nat.le_of_lt earlier) (Nat.le_add_right ..))
    · rcases h.closes with ends | other
      · obtain ⟨c, located, inLine⟩ := comment.line _ comment.le (Nat.lt_succ_self _)
        rw [ends c (next.symm.trans located)] at inLine
        cases inLine
      · obtain ⟨c, located, notSlash⟩ := within_of_cut cut other k later before
        rw [Option.some.inj (located.symm.trans comment.first)] at notSlash
        cases notSlash
  · intro k last both
    have long := h.length_pos
    rcases h.parts with ends | other
    · obtain ⟨c, located, word⟩ := both _ (by omega) (Nat.lt_succ_self _)
      rw [ends c (next.symm.trans located)] at word
      cases word
    · obtain ⟨c, located, notWord⟩ := within_of_cut cut other k (by omega) (by omega)
      obtain ⟨d, located', word⟩ := both k (Nat.le_refl k) (by omega)
      obtain rfl := Option.some.inj (located.symm.trans located')
      simp [word] at notWord

theorem comments_of_cut {body : List Char} (shape : lexeme = '/' :: '/' :: body)
    (line : ∀ c ∈ body, (c != '\n') = true) {i : Nat} (lower : n ≤ i)
    (upper : i < n + lexeme.length) : Comments cs n i := by
  subst shape
  have all : ∀ c ∈ '/' :: '/' :: body, (c != '\n') = true := by simpa using line
  exact ⟨getElem?_of_cut cut 0, getElem?_of_cut cut 1, lower,
    (within_of_cut cut all).mono (Nat.le_refl n) upper⟩

end Cut

theorem Clear.outside {cs : List Char} {n : Nat} (clear : Clear cs n)
    (alone : ¬ (cs[n]? = some '/' ∧ cs[n + 1]? = some '/')) (k : Nat) : ¬ Comments cs k n := by
  intro comment
  rcases Nat.lt_or_eq_of_le comment.le with earlier | rfl
  · exact clear.comments k earlier comment
  · exact alone ⟨comment.first, comment.second⟩

theorem Clear.outside_of_ne {cs : List Char} {n : Nat} {c : Char} (clear : Clear cs n)
    (located : cs[n]? = some c) (other : c ≠ '/') (k : Nat) : ¬ Comments cs k n :=
  clear.outside (fun slashes => other (Option.some.inj (located.symm.trans slashes.1))) k

theorem Clear.maximal {cs : List Char} {n m : Nat} (clear : Clear cs n) (long : n < m)
    (ends : ∀ c, cs[m]? = some c → Text.isWordChar c = false) (n' m' : Nat) (lower : n' ≤ n)
    (upper : m ≤ m') (all : Within Text.isWordChar cs n' m') : n' = n ∧ m' = m := by
  have left : ¬ n' < n := by
    intro earlier
    exact clear.words (n - 1) (by omega) (all.mono (by omega) (by omega))
  have right : ¬ m < m' := by
    intro longer
    obtain ⟨c, located, word⟩ := all m (by omega) longer
    rw [ends c located] at word
    cases word
  exact ⟨by omega, by omega⟩

theorem ofLexeme?_comment {body : List Char} (plain : body.head? ≠ some '/') (p : Position) :
    ofLexeme? p ('/' :: '/' :: body) = none := by
  unfold ofLexeme?
  split
  · next same =>
      cases same
      exact absurd rfl plain
  · rfl
  · next other same =>
      obtain ⟨rfl, rfl⟩ := List.cons.inj same
      exact absurd rfl (other body rfl)
  · contradiction

theorem ofLexeme?_word {c : Char} {cs : List Char} (word : Text.isWordChar c = true)
    (p : Position) :
    ofLexeme? p (c :: cs) =
      some ⟨if String.ofList (c :: cs) = "struct" then .struct else .ident, String.ofList (c :: cs),
        p⟩ := by
  obtain ⟨notMark, notBlank, notSlash⟩ := class_of_word word
  rw [ofLexeme?_cons notSlash, notMark]
  generalize String.ofList (c :: cs) = text
  by_cases keyword : text = "struct"
  · simp [notBlank, keyword]
  · simp [notBlank, keyword]

theorem blanks_skipped {cs rest tail : List Char} {n : Nat} {c : Char}
    (cut : cs.drop n = c :: tail ++ rest) (all : ∀ d ∈ c :: tail, Text.isBlank d = true) :
    ofLexeme? (place cs n) (c :: tail) = none ∧
      ∀ i, n ≤ i → i < n + (c :: tail).length → Skipped cs i := by
  have blank := all c (List.mem_cons_self ..)
  obtain ⟨-, notMark, notSlash⟩ := class_of_blank blank
  refine ⟨?_, fun i lower upper => .inl (within_of_cut cut all i lower upper)⟩
  rw [ofLexeme?_cons notSlash, notMark]
  simp [blank]

section Step

variable {cs rest : List Char} {n : Nat} (clear : Clear cs n)
include clear

theorem opens_of_cut {body : List Char} (cut : cs.drop n = '/' :: '/' :: body ++ rest)
    (line : ∀ c ∈ body, (c != '\n') = true) : Opens cs n :=
  ⟨comments_of_cut cut rfl line (Nat.le_refl n) (Nat.lt_add_of_pos_right (Nat.succ_pos _)),
    clear.comments⟩

theorem comment_skipped {body : List Char} (cut : cs.drop n = '/' :: '/' :: body ++ rest)
    (plain : body.head? ≠ some '/') (line : ∀ c ∈ body, (c != '\n') = true)
    (ends : ∀ c, rest.head? = some c → c = '\n') :
    ofLexeme? (place cs n) ('/' :: '/' :: body) = none ∧
      ∀ i, n ≤ i → i < n + ('/' :: '/' :: body).length → Skipped cs i := by
  have third : cs[n + 2]? ≠ some '/' := by
    rw [getElem?_of_cut cut 2]
    cases body with
    | nil =>
        -- The line ends right behind the two slashes.
        intro slash
        have newline := ends '/' (List.head?_eq_getElem?.trans slash)
        revert newline
        decide
    | cons c tail => exact plain
  refine ⟨ofLexeme?_comment plain _, ?_⟩
  intro i lower upper
  exact .inr ⟨n, opens_of_cut clear cut line, third, comments_of_cut cut rfl line lower upper⟩

theorem doc_covers {body : List Char} (cut : cs.drop n = '/' :: '/' :: '/' :: body ++ rest)
    (line : ∀ c ∈ '/' :: body, (c != '\n') = true) (ends : ∀ c, rest.head? = some c → c = '\n')
    (nonempty : n < n + ('/' :: '/' :: '/' :: body).length) :
    ∃ token, ofLexeme? (place cs n) ('/' :: '/' :: '/' :: body) = some token ∧
      Covers cs ⟨n, n + ('/' :: '/' :: '/' :: body).length, nonempty⟩ token := by
  have all : ∀ c ∈ '/' :: '/' :: '/' :: body, (c != '\n') = true := by simpa using line
  refine ⟨_, rfl, .doc (opens_of_cut clear cut line) (within_of_cut cut all) ?_
    (slice_of_cut cut nonempty)⟩
  intro c located
  exact ends c ((getElem?_behind cut).symm.trans located)

theorem word_covers {c : Char} {tail : List Char} (cut : cs.drop n = c :: tail ++ rest)
    (all : ∀ d ∈ c :: tail, Text.isWordChar d = true)
    (ends : ∀ d, rest.head? = some d → Text.isWordChar d = false)
    (nonempty : n < n + (c :: tail).length) :
    ∃ token, ofLexeme? (place cs n) (c :: tail) = some token ∧
      Covers cs ⟨n, n + (c :: tail).length, nonempty⟩ token := by
  have first := all c (List.mem_cons_self ..)
  have outside := clear.outside_of_ne (getElem?_of_cut cut 0) (class_of_word first).2.2
  have maximal := clear.maximal nonempty (getElem?_behind cut ▸ ends)
  have token : Covers cs ⟨n, n + (c :: tail).length, nonempty⟩ _ :=
    .word outside (within_of_cut cut all) maximal
  rw [slice_of_cut cut] at token
  exact ⟨_, ofLexeme?_word first _, token⟩

theorem mark_covers {c : Char} {kind : TokenKind} (cut : cs.drop n = [c] ++ rest)
    (mark : markKind? c = some kind) (nonempty : n < n + [c].length) :
    ∃ token, ofLexeme? (place cs n) [c] = some token ∧
      Covers cs ⟨n, n + [c].length, nonempty⟩ token := by
  have notSlash := (class_of_mark mark).2
  have located : cs[n]? = some c := getElem?_of_cut cut 0
  have token : Covers cs ⟨n, n + [c].length, nonempty⟩ _ :=
    .mark (clear.outside_of_ne located notSlash) rfl located (markKind?_eq_some_iff.mp mark)
  rw [slice_of_cut cut] at token
  refine ⟨_, ?_, token⟩
  rw [ofLexeme?_cons notSlash, mark]

/-- A lexeme is the span of its token, or has no token and is skipped. -/
theorem covers_or_skipped {lexeme : List Char} (cut : cs.drop n = lexeme ++ rest)
    (h : Lexeme lexeme rest) (nonempty : n < n + lexeme.length) :
    (∃ token, ofLexeme? (place cs n) lexeme = some token ∧
      Covers cs ⟨n, n + lexeme.length, nonempty⟩ token) ∨
      ofLexeme? (place cs n) lexeme = none ∧
        ∀ i, n ≤ i → i < n + lexeme.length → Skipped cs i := by
  cases h with
  | @comment body _ line ends =>
      by_cases documents : body.head? = some '/'
      · obtain ⟨body, rfl⟩ := List.head?_eq_some_iff.mp documents
        exact .inl (doc_covers clear cut line ends nonempty)
      · exact .inr (comment_skipped clear cut documents line ends)
  | word all ends => exact .inl (word_covers clear cut all ends nonempty)
  | mark mark => exact .inl (mark_covers clear cut mark nonempty)
  | blanks all => exact .inr (blanks_skipped cut all)

end Step

theorem not_stray {cs lexeme rest : List Char} {n i : Nat} (cut : cs.drop n = lexeme ++ rest)
    (h : Lexeme lexeme rest) (lower : n ≤ i) (upper : i < n + lexeme.length) (c : Char) :
    ¬ Stray cs i c := by
  intro stray
  have found {p : Char → Bool} (all : ∀ d ∈ lexeme, p d = true) : p c = true := by
    obtain ⟨d, located, holds⟩ := within_of_cut cut all i lower upper
    rwa [Option.some.inj (located.symm.trans stray.located)] at holds
  cases h with
  | comment line ends => exact stray.outside n (comments_of_cut cut rfl line lower upper)
  | word all ends => exact Bool.false_ne_true (stray.word.symm.trans (found all))
  | mark mark =>
      have marked := found (p := fun d => (markKind? d).isSome) (by simp [mark])
      rw [markKind?_eq_none_iff.mpr stray.mark] at marked
      cases marked
  | blanks all => exact Bool.false_ne_true (stray.blank.symm.trans (found all))

section Tiles

variable {cs : List Char} {n m : Nat} {spans : List Span} {tokens : List Token}

theorem Tiles.nil (done : cs.length ≤ n) : Tiles cs n [] [] := by
  refine ⟨.nil, .nil, List.forall_mem_nil _, ?_, ?_⟩
  · intro i lower upper
    omega
  · intro i c lower stray
    have bound := (List.getElem?_eq_some_iff.mp stray.located).1
    omega

theorem Tiles.cons {s : Span} {token : Token} (covers : Covers cs s token)
    (regular : ∀ i c, s.start ≤ i → i < s.stop → ¬ Stray cs i c)
    (later : Tiles cs s.stop spans tokens) : Tiles cs s.start (s :: spans) (token :: tokens) := by
  have ordered := List.pairwise_cons.mpr ⟨later.behind, later.ordered⟩
  refine ⟨.cons covers later.covers, ordered, ?_, ?_, ?_⟩
  · refine List.forall_mem_cons.mpr ⟨Nat.le_refl _, fun t member => ?_⟩
    exact Nat.le_trans (Nat.le_of_lt s.nonempty) (later.behind t member)
  · intro i lower upper
    rcases Nat.lt_or_ge i s.stop with inside | behind
    · exact .inl ⟨s, List.mem_cons_self .., lower, inside⟩
    · refine (later.between i behind upper).imp_left ?_
      rintro ⟨t, member, bounds⟩
      exact ⟨t, List.mem_cons_of_mem s member, bounds⟩
  · intro i c lower
    rcases Nat.lt_or_ge i s.stop with inside | behind
    · exact regular i c lower inside
    · exact later.regular i c behind

theorem Tiles.skip (le : n ≤ m) (skipped : ∀ i, n ≤ i → i < m → Skipped cs i)
    (regular : ∀ i c, n ≤ i → i < m → ¬ Stray cs i c) (later : Tiles cs m spans tokens) :
    Tiles cs n spans tokens := by
  refine ⟨later.covers, later.ordered, ?_, ?_, ?_⟩
  · intro s member
    exact Nat.le_trans le (later.behind s member)
  · intro i lower upper
    rcases Nat.lt_or_ge i m with inside | behind
    · exact .inr (skipped i lower inside)
    · exact later.between i behind upper
  · intro i c lower
    rcases Nat.lt_or_ge i m with inside | behind
    · exact regular i c lower inside
    · exact later.regular i c behind

end Tiles

/-- What comes of the text from `n` on: tokens that tile it and the mark of its end, or the first
stray character. -/
def Describes (cs : List Char) (n : Nat) : Except ParseError (List Token) → Prop
  | .ok tokens => ∃ spans words,
      tokens = words ++ [⟨.eof, "", place cs cs.length⟩] ∧ Tiles cs n spans words
  | .error e => ∃ i c, n ≤ i ∧ Stray cs i c ∧ (∀ j d, n ≤ j → j < i → ¬ Stray cs j d) ∧
      e = ⟨.unexpectedCharacter c, place cs i⟩

theorem Describes.step {cs lexeme rest : List Char} {n : Nat} (clear : Clear cs n)
    (cut : cs.drop n = lexeme ++ rest) (h : Lexeme lexeme rest)
    {result : Except ParseError (List Token)} (later : Describes cs (n + lexeme.length) result) :
    Describes cs n (result.map ((ofLexeme? (place cs n) lexeme).toList ++ ·)) := by
  have regular (i : Nat) (c : Char) (lower : n ≤ i) (upper : i < n + lexeme.length) :
      ¬ Stray cs i c := not_stray cut h lower upper c
  cases result with
  | ok tokens =>
      obtain ⟨spans, words, rfl, tiles⟩ := later
      have nonempty : n < n + lexeme.length := Nat.lt_add_of_pos_right h.length_pos
      rcases covers_or_skipped clear cut h nonempty with ⟨token, made, covers⟩ | ⟨none, skipped⟩
      · rw [made]
        exact ⟨_, token :: words, rfl, tiles.cons covers regular⟩
      · rw [none]
        exact ⟨spans, words, rfl, tiles.skip (Nat.le_of_lt nonempty) skipped regular⟩
  | error e =>
      obtain ⟨i, c, behind, stray, first, rfl⟩ := later
      refine ⟨i, c, Nat.le_trans (Nat.le_add_right ..) behind, stray, ?_, rfl⟩
      intro j d lower upper
      rcases Nat.lt_or_ge j (n + lexeme.length) with inside | later
      · exact regular j d lower inside
      · exact first j d later upper

theorem scanFrom_of_missing {p : Position} {c : Char} {rest : List Char}
    (missing : lexeme? (c :: rest) = none) :
    scanFrom p (c :: rest) = .error ⟨.unexpectedCharacter c, p⟩ := by
  rw [scanFrom]
  split
  · next found =>
      rw [missing] at found
      cases found
  · rfl

theorem describes_scanFrom {cs : List Char} {p : Position} {left : List Char} {n : Nat}
    (here : cs.drop n = left) (placed : p = place cs n) (clear : Clear cs n) :
    Describes cs n (scanFrom p left) := by
  -- Along the lexemes; each leaves the text clear for the next.
  induction p, left using scanFrom.induct generalizing n with
  | case1 p left lexeme rest found ih =>
      obtain ⟨rfl, h⟩ := lexeme_of_cut found
      subst placed
      rw [scanFrom_of_lexeme found]
      have behind : cs.drop (n + lexeme.length) = rest := by
        rw [← List.drop_drop, here, List.drop_left]
      exact .step clear here h (ih behind (place_behind here).symm (clear.step here h))
  | case2 p =>
      have done : cs.length ≤ n := List.drop_eq_nil_iff.mp here
      have ended : place cs n = place cs cs.length := by
        rw [place, place, List.take_of_length_le done, List.take_length]
      rw [scanFrom]
      exact ⟨[], [], by rw [placed, ended]; rfl, .nil done⟩
  | case3 p c tail missing =>
      obtain ⟨⟨word, mark, blank⟩, alone⟩ := class_of_lexeme?_eq_none missing
      have cut : cs.drop n = [c] ++ tail := here
      have located : cs[n]? = some c := getElem?_of_cut cut 0
      have next : cs[n + 1]? = tail.head? := getElem?_behind cut
      have outside := clear.outside fun slashes =>
        alone ⟨Option.some.inj (located.symm.trans slashes.1), next.symm.trans slashes.2⟩
      rw [scanFrom_of_missing missing, placed]
      refine ⟨n, c, Nat.le_refl n, ⟨located, outside, word, ?_, blank⟩, ?_, rfl⟩
      · exact markKind?_eq_none_iff.mp mark
      · intro j d lower upper
        omega

/-- Every token but the last stands at a span of the text, and the last at its end; whatever is in
no span is blank or in an ordinary comment, and no character is stray. If scanning fails, it reports
the first stray character and its place. -/
theorem scan_spans (text : String) :
    (∀ tokens, scan text = .ok tokens → ∃ spans words,
      tokens = words ++ [⟨.eof, "", place text.toList text.toList.length⟩] ∧
        Tiles text.toList 0 spans words) ∧
      ∀ e, scan text = .error e → ∃ i c,
        Stray text.toList i c ∧ (∀ j d, j < i → ¬ Stray text.toList j d) ∧
          e = ⟨.unexpectedCharacter c, place text.toList i⟩ := by
  have described : Describes text.toList 0 (scan text) := describes_scanFrom rfl rfl (.zero _)
  constructor
  · intro tokens scanned
    rw [scanned] at described
    exact described
  · intro e failed
    rw [failed] at described
    obtain ⟨i, c, -, stray, first, same⟩ := described
    exact ⟨i, c, stray, fun j d => first j d (Nat.zero_le j), same⟩

end SchemaWire.Token
