import SchemaWire.Codegen.Names
import SchemaWire.Proofs.Document.Validity
import SchemaWire.Proofs.Text.Lines

/-! Generated names hold nothing but characters of identifiers, as the names they come from. -/
namespace SchemaWire

def Worded (s : String) : Prop := ∀ c ∈ s.toList, NameChar c

theorem Identifier.worded {name : String} (h : Identifier name) : Worded name := by
  obtain ⟨first, rest, shape, start, others⟩ := h
  rw [Worded, shape, List.forall_mem_cons]
  exact ⟨.inl start, others⟩

theorem Worded.not_mem {s : String} (h : Worded s) {c : Char} (other : isIdentChar c = false) :
    c ∉ s.toList := by
  intro member
  rw [isIdentChar_iff.mpr (h c member)] at other
  cases other

theorem Worded.oneLine {s : String} (h : Worded s) : Text.OneLine s := h.not_mem (by decide)

theorem nameChar_underscore : NameChar '_' := .inl (.inr (.inr rfl))

theorem worded_append {a b : String} (front : Worded a) (back : Worded b) : Worded (a ++ b) := by
  rw [Worded, String.toList_append, List.forall_mem_append]
  exact ⟨front, back⟩

namespace Text

theorem caseForms_of_ident : ∀ n : Fin 128, isIdentChar (Char.ofNat n) = true →
    (lowerChar (Char.ofNat n)).all isIdentChar = true ∧
      (upperChar (Char.ofNat n)).all isIdentChar = true ∧ Char.ofNat n ≠ 'Σ' := by
  decide +kernel

theorem nameChar_caseForms {c : Char} (h : NameChar c) :
    (∀ d ∈ lowerChar c, NameChar d) ∧ (∀ d ∈ upperChar c, NameChar d) ∧ c ≠ 'Σ' := by
  obtain ⟨n, rfl, ident⟩ := h.exists_index
  simpa only [List.all_eq_true, isIdentChar_iff] using caseForms_of_ident n ident

theorem nameChar_lowerAfter {before cs : List Char} (h : ∀ c ∈ cs, NameChar c) :
    ∀ d ∈ lowerAfter before cs, NameChar d := by
  induction cs generalizing before with
  | nil => exact List.forall_mem_nil _
  | cons c rest ih =>
      obtain ⟨here, others⟩ := List.forall_mem_cons.mp h
      obtain ⟨lower, -, notSigma⟩ := nameChar_caseForms here
      simp only [lowerAfter, beq_iff_eq, if_neg notSigma, List.forall_mem_append]
      exact ⟨lower, ih others⟩

theorem worded_capitalize {lowerRest : Bool} {word : String} (h : Worded word) :
    Worded (capitalize lowerRest word) := by
  unfold capitalize
  split
  · simp [Worded]
  · next c rest shape =>
      rw [Worded, shape, List.forall_mem_cons] at h
      apply worded_append
      · simpa [Worded] using (nameChar_caseForms h.1).2.1
      · cases lowerRest with
        | false => simpa [Worded] using h.2
        | true => simpa [Worded, lower] using nameChar_lowerAfter h.2

theorem mem_of_mem_splitWords {cs word : List Char} {c : Char} (member : word ∈ splitWords cs)
    (inside : c ∈ word) : c ∈ cs := by
  induction cs generalizing word with
  | nil =>
      obtain rfl := List.mem_singleton.mp member
      exact inside
  | cons d rest ih =>
      rw [splitWords] at member
      split at member
      · rcases List.mem_cons.mp member with rfl | later
        · cases inside
        · exact List.mem_cons_of_mem d (ih later inside)
      · split at member
        · next first others shape =>
            rcases List.mem_cons.mp member with rfl | later
            · rcases List.mem_cons.mp inside with rfl | inside
              · exact List.mem_cons_self ..
              · exact List.mem_cons_of_mem d (ih (by simp [shape]) inside)
            · exact List.mem_cons_of_mem d (ih (by simp [shape, later]) inside)
        · obtain rfl := List.mem_singleton.mp member
          exact List.mem_cons.mpr (.inl (List.mem_singleton.mp inside))

theorem worded_pascalCase {name : String} (h : Worded name) : Worded (pascalCase name) := by
  unfold pascalCase
  split
  · rw [Worded, String.toList_join]
    intro c member
    simp only [List.mem_flatMap, List.mem_map, List.mem_filter] at member
    obtain ⟨_, ⟨word, ⟨found, -⟩, rfl⟩, inside⟩ := member
    refine worded_capitalize ?_ c inside
    rw [Worded, String.toList_ofList]
    exact fun d stands => h d (mem_of_mem_splitWords found stands)
  · exact worded_capitalize h

theorem nameChar_snakeAfter {before : Option Char} {cs : List Char} (h : ∀ c ∈ cs, NameChar c) :
    ∀ d ∈ snakeAfter before cs, NameChar d := by
  induction cs generalizing before with
  | nil => exact List.forall_mem_nil _
  | cons c rest ih =>
      obtain ⟨here, others⟩ := List.forall_mem_cons.mp h
      have lower := (nameChar_caseForms here).1
      rw [snakeAfter, List.forall_mem_append]
      refine ⟨?_, ih others⟩
      split
      · split
        · exact List.forall_mem_cons.mpr ⟨nameChar_underscore, lower⟩
        · exact lower
      · exact List.forall_mem_singleton.mpr here

theorem worded_snakeCase {name : String} (h : Worded name) : Worded (snakeCase name) := by
  rw [Worded, snakeCase, String.toList_ofList]
  exact nameChar_snakeAfter h

end Text

namespace Codegen

theorem worded_escapeKeyword {name : String} (h : Worded name) : Worded (escapeKeyword name) := by
  unfold escapeKeyword
  split
  · apply worded_append h
    exact List.forall_mem_singleton.mpr nameChar_underscore
  · exact h

theorem worded_typeName {name : String} (h : Identifier name) : Worded (typeName name) :=
  worded_escapeKeyword (Text.worded_pascalCase h.worded)

theorem worded_suffix (form : Form) : Worded form.suffix := by
  cases form with
  | owned => exact List.forall_mem_nil _
  | borrowed => exact (nameProblem?_eq_none_iff.mp (by decide)).worded
  | stored => exact (nameProblem?_eq_none_iff.mp (by decide)).worded

theorem worded_formName {name : String} (h : Identifier name) (form : Form) :
    Worded (formName name form) :=
  worded_append (worded_typeName h) (worded_suffix form)

theorem worded_fieldName {f : FieldDecl} (h : Identifier f.name) : Worded (fieldName f) :=
  worded_escapeKeyword (Text.worded_snakeCase h.worded)

end Codegen
end SchemaWire
