import Mathlib.Logic.Function.Iterate
import SchemaWire.Proofs.Document.Reader

/-!
Reading by an index into the tokens. Nothing keeps the index from passing the last token, which is
then found again and again. Only a doc comment can be taken more than once, so that reading halts
behind the last token at the latest, unless this is a doc comment.
-/
namespace SchemaWire.Document

/-- The token at an index; past the end it is the last one. -/
def tokenAt (tokens : List Token) (nonempty : tokens ≠ []) (index : Nat) : Token :=
  tokens.get ⟨min index (tokens.length - 1), by
    have := List.length_pos_iff.mpr nonempty
    omega⟩

theorem tokenAt_of_le {tokens : List Token} {nonempty : tokens ≠ []} {index : Nat}
    (past : tokens.length ≤ index + 1) :
    tokenAt tokens nonempty index = tokens.getLast nonempty := by
  have same : min index (tokens.length - 1) = tokens.length - 1 := by omega
  simp only [tokenAt, List.get_eq_getElem, List.getLast_eq_getElem, same]

theorem tokenAt_eq (tokens : List Token) (nonempty : tokens ≠ []) (index : Nat) :
    tokenAt tokens nonempty index = (tokens.drop index).headD (tokens.getLast nonempty) := by
  rw [List.headD_eq_head?_getD, List.head?_drop]
  by_cases inside : index < tokens.length
  · have same : min index (tokens.length - 1) = index := by omega
    simp only [tokenAt, List.get_eq_getElem, same, List.getElem?_eq_getElem inside,
      Option.getD_some]
  · have past := Nat.le_of_not_lt inside
    rw [tokenAt_of_le (Nat.le_succ_of_le past), List.getElem?_eq_none past, Option.getD_none]

/-- How many tokens were taken, and either the reader or what came of it. -/
inductive Run where
  | reading (index : Nat) (r : Reader)
  | halted (index : Nat) (outcome : Except ParseError Document)

namespace Run

def index : Run → Nat
  | .reading index _ => index
  | .halted index _ => index

section Tokens

variable (tokens : List Token) (nonempty : tokens ≠ [])

/-- Reads the token at the index. What has halted stays as it is. -/
def advance : Run → Run
  | .reading index r =>
    match r.step (tokenAt tokens nonempty index) with
    | .next r => .reading (index + 1) r
    | .stop outcome => .halted index outcome
  | .halted index outcome => .halted index outcome

def after (n : Nat) : Run := (advance tokens nonempty)^[n] (.reading 0 .start)

/-- The index is inside the tokens or just behind them, and the outcome is settled. -/
def Settled (outcome : Except ParseError Document) : Run → Prop
  | .reading index r =>
    index ≤ tokens.length ∧
      r.outcome? (tokens.getLast nonempty) (tokens.drop index) = some outcome
  | .halted index found => index ≤ tokens.length ∧ found = outcome

end Tokens

variable {tokens : List Token} {nonempty : tokens ≠ []}

theorem Settled.advance {outcome : Except ParseError Document} {run : Run}
    (settled : run.Settled tokens nonempty outcome) :
    (run.advance tokens nonempty).Settled tokens nonempty outcome := by
  cases run with
  | halted index found => exact settled
  | reading index r =>
      obtain ⟨bound, read⟩ := settled
      rw [Run.advance, tokenAt_eq]
      rcases Reader.outcome?_cases read with stop | ⟨t, rest, r', left, next, later⟩
      · rw [stop]
        exact ⟨bound, rfl⟩
      · have inside : index < tokens.length := by
          have := congrArg List.length left
          simp only [List.length_drop, List.length_cons] at this
          omega
        rw [left, List.headD_cons, next]
        refine ⟨inside, ?_⟩
        rw [← List.tail_drop, left]
        exact later

theorem after_succ (n : Nat) :
    after tokens nonempty (n + 1) = (after tokens nonempty n).advance tokens nonempty :=
  Function.iterate_succ_apply' ..

theorem settled_after (real : (tokens.getLast nonempty).kind ≠ .doc) (n : Nat) :
    (after tokens nonempty n).Settled tokens nonempty (ofTokens tokens) := by
  induction n with
  | zero => exact ⟨Nat.zero_le _, Reader.outcome?_start nonempty real⟩
  | succ n ih =>
      rw [after_succ]
      exact ih.advance

/-- As long as nothing has halted, every token read was taken. -/
theorem exists_of_after_succ {n index : Nat} {r : Reader}
    (h : after tokens nonempty (n + 1) = .reading index r) :
    ∃ before r', after tokens nonempty n = .reading before r' ∧ index = before + 1 ∧
      r'.step (tokenAt tokens nonempty before) = .next r := by
  rw [after_succ] at h
  cases earlier : after tokens nonempty n with
  | halted before outcome =>
      rw [earlier] at h
      cases h
  | reading before r' =>
      rw [earlier, advance] at h
      split at h
      · next here =>
          cases h
          exact ⟨before, r', rfl, rfl, here⟩
      · cases h

theorem index_of_reading {n index : Nat} {r : Reader}
    (h : after tokens nonempty n = .reading index r) : index = n := by
  induction n generalizing index r with
  | zero =>
      cases h
      rfl
  | succ n ih =>
      obtain ⟨before, r', earlier, rfl, -⟩ := exists_of_after_succ h
      rw [ih earlier]

end Run

namespace Reader

/-- A document ends at an end of the input. -/
theorem eof_of_step {r : Reader} {token : Token} {d : Document}
    (h : r.step token = .stop (.ok d)) : token.kind = .eof := by
  unfold step at h
  split at h <;> cases h
  assumption

theorem eof_of_outcome? {last : Token} {r : Reader} {tokens : List Token} {d : Document}
    (h : r.outcome? last tokens = some (.ok d)) : ∃ t ∈ last :: tokens, t.kind = .eof := by
  induction tokens generalizing r with
  | nil =>
      rcases outcome?_cases h with stop | ⟨t, rest, r', left, -, -⟩
      · exact ⟨last, List.mem_cons_self .., eof_of_step stop⟩
      · cases left
  | cons t rest ih =>
      rcases outcome?_cases h with stop | ⟨_, _, r', left, -, later⟩
      · exact ⟨t, by simp, eof_of_step stop⟩
      · cases left
        obtain ⟨found, member, ends⟩ := ih later
        exact ⟨found, List.cons_subset_cons last (List.subset_cons_self t rest) member, ends⟩

/-- A doc comment that was taken is taken again. -/
theorem exists_step_of_doc {r r' : Reader} {token : Token} (h : r.step token = .next r')
    (doc : token.kind = .doc) : ∃ r'', r'.step token = .next r'' := by
  obtain ⟨structs, stage⟩ := r
  obtain ⟨kind, text, position⟩ := token
  obtain rfl : kind = .doc := doc
  cases stage with
  | declaration docs => cases h; exact ⟨_, rfl⟩
  | field s docs => cases h; exact ⟨_, rfl⟩
  | structName => cases h
  | openBrace => cases h
  | colon => cases h
  | mark => cases h
  | type => cases h
  | closeBracket => cases h
  | separator => cases h

end Reader

/-- Reading halts if the last token is no doc comment: by the time each token and the last one once
more were read, it has the outcome that the recursive functions give. Up to then and from then on
the index does not pass the end. No document comes of tokens without an end of the input. -/
theorem reading_halts (tokens : List Token) (nonempty : tokens ≠ [])
    (real : (tokens.getLast nonempty).kind ≠ .doc) :
    (∃ index, Run.after tokens nonempty (tokens.length + 1) = .halted index (ofTokens tokens)) ∧
      (∀ n, (Run.after tokens nonempty n).index ≤ tokens.length) ∧
      ((∀ t ∈ tokens, t.kind ≠ .eof) → ∃ e, ofTokens tokens = .error e) := by
  have settled := Run.settled_after real
  have bounded (n : Nat) : (Run.after tokens nonempty n).index ≤ tokens.length := by
    have here := settled n
    cases run : Run.after tokens nonempty n with
    | reading index r =>
        rw [run] at here
        exact here.1
    | halted index outcome =>
        rw [run] at here
        exact here.1
  refine ⟨?_, bounded, ?_⟩
  · have here := settled (tokens.length + 1)
    cases run : Run.after tokens nonempty (tokens.length + 1) with
    | reading index r =>
        have past := bounded (tokens.length + 1)
        rw [run, Run.index, Run.index_of_reading run] at past
        omega
    | halted index outcome =>
        rw [run] at here
        exact ⟨index, by rw [here.2]⟩
  · intro inner
    cases result : ofTokens tokens with
    | error e => exact ⟨e, rfl⟩
    | ok d =>
        have read := Reader.outcome?_start nonempty real
        rw [result] at read
        obtain ⟨t, member, ends⟩ := Reader.eof_of_outcome? read
        rcases List.mem_cons.mp member with rfl | member
        · exact absurd ends (inner _ (List.getLast_mem nonempty))
        · exact absurd ends (inner t member)

/-- `struct A { x: u8 }` and no end. -/
def endless : List Token := [
  ⟨.struct, "struct", ⟨1, 1⟩⟩, ⟨.ident, "A", ⟨1, 8⟩⟩, ⟨.openBrace, "\x7b", ⟨1, 10⟩⟩,
  ⟨.ident, "x", ⟨1, 12⟩⟩, ⟨.colon, ":", ⟨1, 13⟩⟩, ⟨.ident, "u8", ⟨1, 15⟩⟩,
  ⟨.closeBrace, "\x7d", ⟨1, 18⟩⟩]

/-- The closing brace is found again where a struct may come, and refused there. -/
theorem reading_halts_endless :
    ∃ nonempty : endless ≠ [], (endless.getLast nonempty).kind ≠ .doc ∧
      (∀ t ∈ endless, t.kind ≠ .eof) ∧ (∀ n, (Run.after endless nonempty n).index ≤ 7) ∧
      ofTokens endless = .error ⟨.unexpectedToken .structKeyword
        ⟨.closeBrace, "\x7d", ⟨1, 18⟩⟩, ⟨1, 18⟩⟩ := by
  have nonempty : endless ≠ [] := by decide
  have real : (endless.getLast nonempty).kind ≠ .doc := by
    intro same
    cases same
  obtain ⟨⟨index, halted⟩, bounded, -⟩ := reading_halts endless nonempty real
  refine ⟨nonempty, real, by decide, bounded, ?_⟩
  have run : Run.after endless nonempty 8 = .halted 7 (.error ⟨.unexpectedToken .structKeyword
      ⟨.closeBrace, "\x7d", ⟨1, 18⟩⟩, ⟨1, 18⟩⟩) := rfl
  exact (Run.halted.inj (halted.symm.trans run)).2

/-- If every token is taken and the last is a doc comment, reading goes on for ever. -/
theorem reading_runs_on {tokens : List Token} {nonempty : tokens ≠ []}
    (doc : (tokens.getLast nonempty).kind = .doc) {r : Reader}
    (taken : Run.after tokens nonempty tokens.length = .reading tokens.length r) (n : Nat) :
    ∃ r', Run.after tokens nonempty (tokens.length + n) = .reading (tokens.length + n) r' := by
  have some := List.length_pos_iff.mpr nonempty
  induction n with
  | zero => exact ⟨r, taken⟩
  | succ n ih =>
      obtain ⟨r', here⟩ := ih
      obtain ⟨k, next⟩ : ∃ k, tokens.length + n = k + 1 := ⟨tokens.length + n - 1, by omega⟩
      rw [next] at here
      obtain ⟨before, _, -, same, step⟩ := Run.exists_of_after_succ here
      rw [tokenAt_of_le (by omega)] at step
      obtain ⟨r'', again⟩ := Reader.exists_step_of_doc step doc
      refine ⟨r'', ?_⟩
      rw [← Nat.add_assoc, next, Run.after_succ, here, Run.advance, tokenAt_of_le (by omega), again]

end SchemaWire.Document
