import SchemaWire.Proofs.Codegen.Names
import SchemaWire.Proofs.Codegen.TypeIds
import SchemaWire.Proofs.Document.Resolution

/-!
Which generated names can be used as they are. A field keeps its first character up to case, so its
name stays an identifier, and separating words makes no keyword of it. A type loses the underscores
at its start, and what comes behind them may be a digit or nothing at all.
-/
namespace SchemaWire

def SnakeChar (c : Char) : Prop := ('a' ≤ c ∧ c ≤ 'z') ∨ ('0' ≤ c ∧ c ≤ '9') ∨ c = '_'

instance (c : Char) : Decidable (SnakeChar c) :=
  inferInstanceAs (Decidable (('a' ≤ c ∧ c ≤ 'z') ∨ ('0' ≤ c ∧ c ≤ '9') ∨ c = '_'))

/-- An identifier in lowercase. -/
def SnakeIdentifier (name : String) : Prop :=
  ∃ first rest, name.toList = first :: rest ∧ ¬('0' ≤ first ∧ first ≤ '9') ∧
    ∀ c ∈ first :: rest, SnakeChar c

theorem SnakeChar.nameChar {c : Char} (h : SnakeChar c) : NameChar c := by
  rcases h with letter | digit | underscore
  · exact .inl (.inr (.inl letter))
  · exact .inr digit
  · exact .inl (.inr (.inr underscore))

/-- The first character that is no underscore is a letter. -/
def LetterFirst (name : String) : Prop :=
  ∃ first, name.toList.find? (· != '_') = some first ∧
    (('A' ≤ first ∧ first ≤ 'Z') ∨ ('a' ≤ first ∧ first ≤ 'z'))

def letters (name : String) : List Char := name.toList.filter (· != '_')

namespace Text

/-- The case of characters of identifiers, looked up once for all lemmas below. -/
theorem caseTable : ∀ n : Fin 128, isIdentChar (Char.ofNat n) = true →
    SnakeChar (Char.ofNat n).toLower ∧
      (SnakeChar (Char.ofNat n) → isUppercase (Char.ofNat n) = false) ∧
      (isUppercase (Char.ofNat n) = false → (Char.ofNat n).toLower = Char.ofNat n) ∧
      ((Char.ofNat n).toLower = '_' → Char.ofNat n = '_') ∧
      (isIdentStart (Char.ofNat n) = true →
        ¬('0' ≤ (Char.ofNat n).toLower ∧ (Char.ofNat n).toLower ≤ '9')) ∧
      (Char.ofNat n ≠ '_' → (isIdentStart (Char.ofNat n).toUpper = true ↔
        ('A' ≤ Char.ofNat n ∧ Char.ofNat n ≤ 'Z') ∨
          ('a' ≤ Char.ofNat n ∧ Char.ofNat n ≤ 'z'))) := by
  decide +kernel

section Lower

variable {c : Char} (h : NameChar c)
include h

theorem lowerChar_eq : lowerChar c = [c.toLower] := if_pos h.toNat_lt

theorem snakeChar_toLower : SnakeChar c.toLower := by
  obtain ⟨n, rfl, ident⟩ := h.exists_index
  exact (caseTable n ident).1

theorem toLower_of_not_uppercase (small : isUppercase c = false) : c.toLower = c := by
  obtain ⟨n, rfl, ident⟩ := h.exists_index
  exact (caseTable n ident).2.2.1 small

theorem eq_underscore_of_toLower (same : c.toLower = '_') : c = '_' := by
  obtain ⟨n, rfl, ident⟩ := h.exists_index
  exact (caseTable n ident).2.2.2.1 same

end Lower

theorem toLower_ne_digit {c : Char} (h : NameStart c) :
    ¬('0' ≤ c.toLower ∧ c.toLower ≤ '9') := by
  obtain ⟨n, rfl, ident⟩ := NameChar.exists_index (.inl h)
  exact (caseTable n ident).2.2.2.2.1 (isIdentStart_iff.mpr h)

theorem not_uppercase {c : Char} (h : SnakeChar c) : isUppercase c = false := by
  obtain ⟨n, rfl, ident⟩ := h.nameChar.exists_index
  exact (caseTable n ident).2.1 h

theorem toList_lower {name : String} (h : Worded name) :
    (lower name).toList = name.toList.map Char.toLower := by
  rw [lower, String.toList_ofList, lowerAfter_eq_map fun c member => (h c member).toNat_lt]

/-- A character is lowercased, and perhaps an underscore is put before it. -/
theorem snakeAfter_cons {before : Option Char} {c : Char} {rest : List Char} (h : NameChar c) :
    snakeAfter before (c :: rest) =
      (if isUppercase c && startsWord before rest then ['_'] else []) ++
        c.toLower :: snakeAfter (some c) rest := by
  rw [snakeAfter]
  cases capital : isUppercase c with
  | false => simp [toLower_of_not_uppercase h capital]
  | true => cases startsWord before rest <;> simp [lowerChar_eq h]

section Snake

variable {cs : List Char} (h : ∀ c ∈ cs, NameChar c)
include h

theorem snakeChar_snakeAfter {before : Option Char} : ∀ d ∈ snakeAfter before cs, SnakeChar d := by
  induction cs generalizing before with
  | nil => exact List.forall_mem_nil _
  | cons c rest ih =>
      obtain ⟨here, others⟩ := List.forall_mem_cons.mp h
      rw [snakeAfter_cons here, List.forall_mem_append, List.forall_mem_cons]
      refine ⟨?_, snakeChar_toLower here, ih others⟩
      split
      · exact List.forall_mem_singleton.mpr (.inr (.inr rfl))
      · exact List.forall_mem_nil _

theorem filter_snakeAfter {before : Option Char} :
    (snakeAfter before cs).filter (· != '_') = (cs.map Char.toLower).filter (· != '_') := by
  induction cs generalizing before with
  | nil => rfl
  | cons c rest ih =>
      obtain ⟨here, others⟩ := List.forall_mem_cons.mp h
      have none : (if isUppercase c && startsWord before rest then ['_'] else []).filter
          (· != '_') = [] := by
        split <;> rfl
      rw [snakeAfter_cons here, List.filter_append, none, List.nil_append, List.map_cons,
        List.filter_cons, List.filter_cons, ih others]

/-- Where no words are separated, nothing but the case changes. -/
theorem snakeAfter_of_not_mem {before : Option Char} (plain : '_' ∉ snakeAfter before cs) :
    snakeAfter before cs = cs.map Char.toLower := by
  induction cs generalizing before with
  | nil => rfl
  | cons c rest ih =>
      obtain ⟨here, others⟩ := List.forall_mem_cons.mp h
      rw [snakeAfter_cons here, List.mem_append, List.mem_cons, not_or, not_or] at plain
      obtain ⟨single, -, later⟩ := plain
      rw [snakeAfter_cons here, ih others later]
      split
      · next parted => simp [parted] at single
      · rfl

end Snake

theorem snakeAfter_of_not_uppercase {before : Option Char} {cs : List Char}
    (small : ∀ c ∈ cs, isUppercase c = false) : snakeAfter before cs = cs := by
  induction cs generalizing before with
  | nil => rfl
  | cons c rest ih =>
      obtain ⟨here, others⟩ := List.forall_mem_cons.mp small
      simp [snakeAfter, here, ih others]

theorem toList_snakeCase {name : String} {first : Char} {rest : List Char}
    (shape : name.toList = first :: rest) (start : NameChar first) :
    (snakeCase name).toList = first.toLower :: snakeAfter (some first) rest := by
  rw [snakeCase, String.toList_ofList, shape, snakeAfter_cons start, startsWord, Bool.and_false]
  rfl

theorem snakeChar_snakeCase {name : String} (h : Worded name) :
    ∀ c ∈ (snakeCase name).toList, SnakeChar c := by
  rw [snakeCase, String.toList_ofList]
  exact snakeChar_snakeAfter h

theorem snakeIdentifier_snakeCase {name : String} (h : Identifier name) :
    SnakeIdentifier (snakeCase name) := by
  have small := snakeChar_snakeCase h.worded
  obtain ⟨first, rest, shape, start, -⟩ := h
  have front := toList_snakeCase shape (.inl start)
  rw [front] at small
  exact ⟨first.toLower, snakeAfter (some first) rest, front, toLower_ne_digit start, small⟩

theorem snakeCase_snakeCase {name : String} (h : Worded name) :
    snakeCase (snakeCase name) = snakeCase name := by
  have small := fun c member => not_uppercase (snakeChar_snakeCase h c member)
  rw [snakeCase, snakeAfter_of_not_uppercase small, String.ofList_toList]

theorem letters_snakeCase {name : String} (h : Worded name) :
    letters (snakeCase name) = letters (lower name) := by
  rw [letters, letters, snakeCase, String.toList_ofList, filter_snakeAfter h, toList_lower h]

theorem snakeCase_eq_lower {name : String} (h : Worded name)
    (plain : '_' ∉ (snakeCase name).toList) : snakeCase name = lower name := by
  rw [snakeCase, String.toList_ofList] at plain
  rw [snakeCase, snakeAfter_of_not_mem h plain, ← toList_lower h, String.ofList_toList]

theorem eq_underscore_of_snakeCase {name : String} (h : Identifier name)
    (same : snakeCase name = "_") : name = "_" := by
  have others := h.worded
  obtain ⟨first, rest, shape, start, -⟩ := h
  have front := toList_snakeCase shape (.inl start)
  rw [same] at front
  obtain ⟨head, tail⟩ := List.cons.inj front
  rw [Worded, shape, List.forall_mem_cons] at others
  cases rest with
  | nil =>
      rw [eq_underscore_of_toLower others.1 head.symm] at shape
      exact String.toList_injective shape
  | cons c more =>
      rw [snakeAfter_cons (List.forall_mem_cons.mp others.2).1] at tail
      simp at tail

theorem nameStart_toUpper {c : Char} (h : NameChar c) (other : c ≠ '_') :
    NameStart c.toUpper ↔ ('A' ≤ c ∧ c ≤ 'Z') ∨ ('a' ≤ c ∧ c ≤ 'z') := by
  obtain ⟨n, rfl, ident⟩ := h.exists_index
  rw [← isIdentStart_iff]
  exact (caseTable n ident).2.2.2.2.2 other

/-- The words of a name start where its first underscores end. -/
theorem words_cases (cs : List Char) :
    (splitWords cs).filter (!·.isEmpty) = [] ∧ cs.find? (· != '_') = none ∨
      ∃ c word words, (splitWords cs).filter (!·.isEmpty) = (c :: word) :: words ∧
        cs.find? (· != '_') = some c := by
  induction cs with
  | nil => exact .inl ⟨rfl, rfl⟩
  | cons c rest ih =>
      by_cases underscore : c = '_'
      · simpa [splitWords, underscore] using ih
      · have found : (c :: rest).find? (· != '_') = some c := by simp [underscore]
        cases later : splitWords rest with
        | nil => exact .inr ⟨c, [], [], by simp [splitWords, underscore, later], found⟩
        | cons word words =>
            refine .inr ⟨c, word, words.filter (!·.isEmpty), ?_, found⟩
            simp [splitWords, underscore, later]

theorem head?_capitalize {lowerRest : Bool} {c : Char} {rest : List Char} (h : NameChar c) :
    (capitalize lowerRest (String.ofList (c :: rest))).toList.head? = some c.toUpper := by
  simp [capitalize, upperChar, h.toNat_lt]

theorem head?_pascalCase {name : String} (h : Worded name) :
    (pascalCase name).toList.head? = (name.toList.find? (· != '_')).map Char.toUpper := by
  unfold pascalCase
  split
  · rcases words_cases name.toList with ⟨empty, found⟩ | ⟨c, word, words, shape, found⟩
    · simp [empty, found]
    · have front := h c (List.mem_of_find?_eq_some found)
      simp only [shape, found, String.toList_join, List.map_cons, List.flatMap_cons,
        List.head?_append, head?_capitalize front, Option.some_or, Option.map_some]
  · next plain =>
      cases shape : name.toList with
      | nil => simp [capitalize, shape]
      | cons c rest =>
          rw [Worded, shape, List.forall_mem_cons] at h
          have other : c ≠ '_' := by
            rintro rfl
            simp [shape] at plain
          have spelled : name = String.ofList (c :: rest) := by rw [← shape, String.ofList_toList]
          rw [spelled, head?_capitalize h.1]
          simp [other]

end Text

namespace Codegen

/-- No word of `Reserved.rust` has an underscore in it. The keywords are among these words but for
`Self`, and none has one of the letters that the suffixes of forms start with. -/
theorem wordTable :
    (Reserved.rust.words.all fun w => !w.toList.contains '_') = true ∧
      (keywords.all fun w => Reserved.rust.words.contains w || w == "Self") = true ∧
      (keywords.all fun w => !w.toList.isEmpty && !w.toList.contains '_' &&
        !w.toList.contains 'R' && !w.toList.contains 'I') = true := by
  decide +kernel

theorem keyword_plain {w : String} (member : w ∈ keywords) :
    w.toList ≠ [] ∧ '_' ∉ w.toList ∧ 'R' ∉ w.toList ∧ 'I' ∉ w.toList := by
  simpa [and_assoc] using List.all_eq_true.mp wordTable.2.2 w member

theorem head?_escapeKeyword (name : String) :
    (escapeKeyword name).toList.head? = name.toList.head? := by
  unfold escapeKeyword
  split
  · next keyword =>
      have nonempty := (keyword_plain (List.contains_iff_mem.mp keyword)).1
      rw [String.toList_append, List.head?_append_of_ne_nil _ nonempty]
  · rfl

theorem identifier_iff_head? {name : String} (h : Worded name) :
    Identifier name ↔ ∃ first, name.toList.head? = some first ∧ NameStart first := by
  constructor
  · rintro ⟨first, rest, shape, start, -⟩
    exact ⟨first, by rw [shape, List.head?_cons], start⟩
  · rintro ⟨first, found, start⟩
    obtain ⟨rest, shape⟩ := List.head?_eq_some_iff.mp found
    rw [Worded, shape, List.forall_mem_cons] at h
    exact ⟨first, rest, shape, start, h.2⟩

/-- A type is named by an identifier if a letter is left at its start. -/
theorem identifier_typeName_iff {name : String} (h : Identifier name) :
    Identifier (typeName name) ↔ LetterFirst name := by
  rw [identifier_iff_head? (worded_typeName h), typeName, head?_escapeKeyword,
    Text.head?_pascalCase h.worded, LetterFirst]
  cases found : name.toList.find? (· != '_') with
  | none => simp
  | some first =>
      have other : first ≠ '_' := by simpa using List.find?_some found
      have front := h.worded first (List.mem_of_find?_eq_some found)
      simp [Text.nameStart_toUpper front other]

theorem escapeKeyword_not_keyword (name : String) : escapeKeyword name ∉ keywords := by
  unfold escapeKeyword
  split
  · intro member
    exact (keyword_plain member).2.1 (by simp)
  · next free => exact mt List.contains_iff_mem.mpr free

theorem formName_not_keyword (name : String) (form : Form) : formName name form ∉ keywords := by
  cases form with
  | owned =>
      rw [formName, Form.suffix, String.append_empty]
      exact escapeKeyword_not_keyword _
  | borrowed =>
      intro member
      exact (keyword_plain member).2.2.1 (by simp [formName, Form.suffix])
  | stored =>
      intro member
      exact (keyword_plain member).2.2.2 (by simp [formName, Form.suffix])

theorem identifier_formNames_iff {name : String} :
    (∀ form, Identifier (formName name form)) ↔ Identifier (typeName name) := by
  constructor
  · intro each
    have plain := each .owned
    rwa [formName, Form.suffix, String.append_empty] at plain
  · rintro ⟨first, rest, shape, start, others⟩ form
    refine ⟨first, rest ++ form.suffix.toList, ?_, start, ?_⟩
    · rw [formName, String.toList_append, shape, List.cons_append]
    · exact List.forall_mem_append.mpr ⟨others, worded_suffix form⟩

/-- No form of a struct is named by a keyword. All three are named by identifiers exactly if the
struct's own name has a letter behind the underscores at its start. -/
theorem formNames_usable_iff {d : Document} {file : SourceFile} (h : generate d = .ok file)
    {s : StructDecl} (member : s ∈ d.structs) :
    (∀ form, formName s.name form ∉ keywords) ∧
      ((∀ form, Identifier (formName s.name form)) ↔ LetterFirst s.name) := by
  obtain ⟨valid, -, -⟩ := generate_eq_ok.mp h
  obtain ⟨-, -, naming, -⟩ := Document.passes_of_valid valid
  have ident := ((Document.namingViolations_eq_nil_iff.mp naming).1 s member).1
  refine ⟨formName_not_keyword s.name, ?_⟩
  rw [identifier_formNames_iff, identifier_typeName_iff ident]

/-- One struct, of one field. -/
def lone (name field : String) : Document where
  structs := [{
    name := name
    position := ⟨1, 8⟩
    doc := none
    fields := [⟨field, ⟨2, 3⟩, none, .primitive (.scalar (.word .u8)), false⟩] }]

theorem lone_violations {name field : String} (naming : (lone name field).namingViolations = []) :
    (lone name field).violations = [] := by
  have references : (lone name field).referenceViolations = [] := by
    simp [Document.referenceViolations, Document.fieldReferenceViolations, lone, TypeExpr.named?]
  have acyclic : (lone name field).cycleViolations = [] := by
    apply Document.cycleViolations_eq_nil_of_measure fun _ => 0
    simp [lone, TypeExpr.named?]
  rw [Document.violations, references, naming, acyclic]
  rfl

theorem generate_lone {name field : String} (naming : (lone name field).namingViolations = [])
    (differ : ((lone name field).structs.flatMap formNames).Nodup)
    (apart : ∀ n ∈ (lone name field).structs.flatMap formNames, n ∉ takenNames) :
    generate (lone name field) = .ok (fileWith assemble {} (lone name field)) := by
  have few : (lone name field).structs.length ≤ 65535 := Nat.le_add_left 1 65534
  refine generate_eq_ok.mpr ⟨lone_violations naming, check_eq_ok.mpr ⟨few, ?_⟩, rfl⟩
  refine exists_foldlM_giveStruct.mpr ⟨differ, ?_, ?_⟩
  · simpa only [mem_initiallyGiven] using apart
  · simp [lone]

theorem formNames_usable_iff_self :
    generate (lone "_self" "x") = .ok (fileWith assemble {} (lone "_self" "x")) ∧
      LetterFirst "_self" ∧ formName "_self" .stored = "Self_In" ∧
      ∀ form, Identifier (formName "_self" form) ∧ formName "_self" form ∉ keywords := by
  have naming : (lone "_self" "x").namingViolations = [] :=
    Document.namingViolations_eq_nil_iff_byCode.mpr (by decide +kernel)
  have generated := generate_lone naming (by decide +kernel) (by decide +kernel)
  have first : LetterFirst "_self" := ⟨'s', by decide, by decide⟩
  obtain ⟨unescaped, usable⟩ := formNames_usable_iff generated (List.mem_singleton_self _)
  exact ⟨generated, first, by decide +kernel, fun form => ⟨usable.mpr first form, unescaped form⟩⟩

/-- Code is generated for a struct named `_1`, and its types are `1`, `1Ref` and `1In`. -/
theorem generate_leading_digit :
    generate (lone "_1" "x") = .ok (fileWith assemble {} (lone "_1" "x")) ∧
      formNames ((lone "_1" "x").structs.head (List.cons_ne_nil _ _)) = ["1", "1Ref", "1In"] ∧
      ∀ form, ¬ Identifier (formName "_1" form) := by
  have naming : (lone "_1" "x").namingViolations = [] :=
    Document.namingViolations_eq_nil_iff_byCode.mpr (by decide +kernel)
  refine ⟨generate_lone naming (by decide +kernel) (by decide +kernel), by decide +kernel, ?_⟩
  intro form ident
  rw [← nameProblem?_eq_none_iff] at ident
  cases form with
  | owned => exact absurd ident (by decide +kernel)
  | borrowed => exact absurd ident (by decide +kernel)
  | stored => exact absurd ident (by decide +kernel)

section Field

variable {name : String} (ident : Identifier name)
  (free : ∀ e ∈ Reserved.ecosystems, ¬ e.Reserves name)
include ident free

theorem snakeCase_not_reserved : Text.snakeCase name ∉ Reserved.rust.words := by
  intro member
  have plain := List.all_eq_true.mp wordTable.1 _ member
  have same := Text.snakeCase_eq_lower ident.worded (by simpa using plain)
  rw [same] at member
  exact free Reserved.rust (by simp [Reserved.ecosystems]) member

theorem snakeCase_not_keyword : Text.snakeCase name ∉ keywords := by
  intro member
  have known := List.all_eq_true.mp wordTable.2.1 _ member
  rw [Bool.or_eq_true, List.contains_iff_mem, beq_iff_eq] at known
  rcases known with reserved | capital
  · exact snakeCase_not_reserved ident free reserved
  · have small := Text.snakeChar_snakeCase ident.worded
    rw [capital] at small
    exact absurd (small 'S' (by decide)) (by decide)

theorem snakeCase_ne_underscore : Text.snakeCase name ≠ "_" := by
  intro same
  obtain rfl := Text.eq_underscore_of_snakeCase ident same
  have reserved : Text.lower "_" ∈ Reserved.swift.words :=
    List.mem_map_of_mem (by simp [Reserved.swift])
  exact free Reserved.swift (by simp [Reserved.ecosystems]) reserved

end Field

/-- The name of a field is an identifier in lowercase that needs no escape, and that differs from
the field's own in case and underscores only. -/
theorem fieldName_usable {d : Document} (valid : d.violations = []) {s : StructDecl}
    (member : s ∈ d.structs) {f : FieldDecl} (field : f ∈ s.fields) :
    SnakeIdentifier (Text.snakeCase f.name) ∧ Text.snakeCase f.name ≠ "_" ∧
      Text.snakeCase f.name ∉ keywords ∧ Text.snakeCase f.name ∉ Reserved.rust.words ∧
      fieldName f = Text.snakeCase f.name ∧
      Text.snakeCase (Text.snakeCase f.name) = Text.snakeCase f.name ∧
      letters (Text.snakeCase f.name) = letters (Text.lower f.name) := by
  obtain ⟨-, -, naming, -⟩ := Document.passes_of_valid valid
  obtain ⟨named, -⟩ := Document.namingViolations_eq_nil_iff.mp naming
  obtain ⟨ident, free⟩ := (named s member).2.2.1 f field
  have unescaped := snakeCase_not_keyword ident free
  refine ⟨Text.snakeIdentifier_snakeCase ident, snakeCase_ne_underscore ident free, unescaped,
    snakeCase_not_reserved ident free, ?_, Text.snakeCase_snakeCase ident.worded,
    Text.letters_snakeCase ident.worded⟩
  rw [fieldName, escapeKeyword, if_neg (mt List.contains_iff_mem.mp unescaped)]

theorem fieldName_usable_isTheType :
    (lone "A" "_IsTHEType").violations = [] ∧ Text.snakeCase "_IsTHEType" = "_is_the_type" ∧
      SnakeIdentifier "_is_the_type" ∧ "_is_the_type" ∉ keywords ∧
      "_is_the_type" ∉ Reserved.rust.words ∧ Text.snakeCase "_is_the_type" = "_is_the_type" ∧
      letters "_is_the_type" = letters (Text.lower "_IsTHEType") := by
  have naming : (lone "A" "_IsTHEType").namingViolations = [] :=
    Document.namingViolations_eq_nil_iff_byCode.mpr (by decide +kernel)
  have valid := lone_violations naming
  have spelled : Text.snakeCase "_IsTHEType" = "_is_the_type" := by decide +kernel
  have usable := fieldName_usable valid (List.mem_singleton_self _) (List.mem_singleton_self _)
  simp only [spelled] at usable
  obtain ⟨ident, -, unescaped, free, -, again, same⟩ := usable
  exact ⟨valid, spelled, ident, unescaped, free, again, same⟩

end Codegen
end SchemaWire
