import Mathlib.Data.List.Nodup
import SchemaWire.Document.Validity
import SchemaWire.Proofs.Document.Cycles
import SchemaWire.Proofs.Text.Lowercase

/-!
The rules of a document, stated without the passes that look for violations. The passes together
find nothing exactly where the rules are kept.
-/
namespace SchemaWire

def NameStart (c : Char) : Prop := ('A' ≤ c ∧ c ≤ 'Z') ∨ ('a' ≤ c ∧ c ≤ 'z') ∨ c = '_'

def NameChar (c : Char) : Prop := NameStart c ∨ ('0' ≤ c ∧ c ≤ '9')

def Identifier (name : String) : Prop :=
  ∃ first rest, name.toList = first :: rest ∧ NameStart first ∧ ∀ c ∈ rest, NameChar c

theorem isIdentStart_iff {c : Char} : isIdentStart c = true ↔ NameStart c := by
  have upper : c.isUpper = true ↔ 'A' ≤ c ∧ c ≤ 'Z' := decide_eq_true_iff
  have lower : c.isLower = true ↔ 'a' ≤ c ∧ c ≤ 'z' :=
    Bool.and_eq_true_iff.trans (and_congr decide_eq_true_iff decide_eq_true_iff)
  have letter : c.isAlpha = true ↔ c.isUpper = true ∨ c.isLower = true := Bool.or_eq_true_iff
  rw [isIdentStart, NameStart, Bool.or_eq_true, letter, upper, lower, beq_iff_eq, or_assoc]

theorem isIdentChar_iff {c : Char} : isIdentChar c = true ↔ NameChar c := by
  have digit : c.isDigit = true ↔ '0' ≤ c ∧ c ≤ '9' :=
    Bool.and_eq_true_iff.trans (and_congr decide_eq_true_iff decide_eq_true_iff)
  have either : c.isAlphanum = true ↔ c.isAlpha = true ∨ c.isDigit = true := Bool.or_eq_true_iff
  rw [NameChar, ← isIdentStart_iff, isIdentChar, isIdentStart, Bool.or_eq_true, Bool.or_eq_true,
    either, digit, or_right_comm]

theorem NameChar.toNat_lt {c : Char} (h : NameChar c) : c.toNat < 128 := by
  have upper {d : Char} (le : c ≤ d) (small : d.toNat < 128) : c.toNat < 128 :=
    Nat.lt_of_le_of_lt (Char.le_def.mp le) small
  rcases h with (⟨-, le⟩ | ⟨-, le⟩ | rfl) | ⟨-, le⟩
  · exact upper le (by decide)
  · exact upper le (by decide)
  · decide
  · exact upper le (by decide)

/-- A table of the ASCII characters shows something of all characters of identifiers. -/
theorem NameChar.exists_index {c : Char} (h : NameChar c) :
    ∃ n : Fin 128, Char.ofNat n = c ∧ isIdentChar (Char.ofNat n) = true := by
  refine ⟨⟨c.toNat, h.toNat_lt⟩, Char.ofNat_toNat c, ?_⟩
  rw [Char.ofNat_toNat]
  exact isIdentChar_iff.mpr h

theorem nameProblem?_eq_none_iff {name : String} : nameProblem? name = none ↔ Identifier name := by
  unfold nameProblem? Identifier
  cases name.toList with
  | nil => simp only [reduceCtorEq, false_and, exists_false]
  | cons c rest =>
      have opened : (∃ first tail, c :: rest = first :: tail ∧ NameStart first ∧
          ∀ x ∈ tail, NameChar x) ↔ NameStart c ∧ ∀ x ∈ rest, NameChar x := by
        simp only [List.cons.injEq, and_assoc, exists_and_left, exists_eq_left']
      rw [opened, ← isIdentStart_iff]
      by_cases start : isIdentStart c = true
      · simp [start, ← isIdentChar_iff]
      · simp [start]

/-- Words are compared in lowercase. -/
def Ecosystem.Reserves (e : Ecosystem) (word : String) : Prop := Text.lower word ∈ e.words

instance (word : String) : DecidablePred (Ecosystem.Reserves · word) :=
  fun e => inferInstanceAs (Decidable (Text.lower word ∈ e.words))

def reservers (list : List Ecosystem) (word : String) : List String :=
  (list.filter (Ecosystem.Reserves · word)).map (·.name)

theorem reservers_eq_nil_iff {list : List Ecosystem} {word : String} :
    reservers list word = [] ↔ ∀ e ∈ list, ¬ e.Reserves word := by
  simp only [reservers, List.map_eq_nil_iff, List.filter_eq_nil_iff, decide_eq_true_iff]

/-- The same, with ASCII words compared by their codes. -/
def reserversByCode (list : List Ecosystem) (word : String) : List String :=
  if Text.isAscii word then
    (list.filter fun e => (e.spellings.map Text.lowerCodes).contains (Text.lowerCodes word)).map
      (·.name)
  else reservers list word

theorem reservers_eq_byCode {list : List Ecosystem}
    (spelled : ∀ e ∈ list, ∀ w ∈ e.spellings, Text.isAscii w = true) (word : String) :
    reservers list word = reserversByCode list word := by
  unfold reserversByCode
  split
  · next ascii =>
      rw [reservers]
      refine congrArg _ (List.filter_congr fun e member => ?_)
      rw [Bool.eq_iff_iff, decide_eq_true_iff, List.contains_iff_mem, Ecosystem.Reserves,
        Ecosystem.words, List.mem_map, List.mem_map]
      refine exists_congr fun w => and_congr_right fun spelling => ?_
      exact Text.lower_eq_lower_iff (spelled e member w spelling) ascii
  · rfl

namespace PrimitiveType

theorem mem_all (p : PrimitiveType) : p ∈ all := by
  rcases p with (w | _) | _
  · cases w <;> decide
  · decide
  · decide

theorem identifier_name (p : PrimitiveType) : Identifier p.name := by
  have each : ∀ p ∈ all, nameProblem? p.name = none := by decide +kernel
  exact nameProblem?_eq_none_iff.mp (each p p.mem_all)

theorem lower_name (p : PrimitiveType) : Text.lower p.name = p.name := by
  have each : ∀ p ∈ all, Text.lower p.name = p.name := by decide +kernel
  exact each p p.mem_all

end PrimitiveType

namespace Reserved

theorem getD_addOwner (owner : String) (owners : Owners) (word key : String) :
    (addOwner owner owners word).getD key [] =
      if key = word ∧ owner ∉ owners.getD key [] then owners.getD key [] ++ [owner]
      else owners.getD key [] := by
  unfold addOwner
  by_cases same : key = word
  · subst same
    by_cases known : owner ∈ owners.getD key []
    · simp [known]
    · simp [known]
  · by_cases known : owner ∈ owners.getD word []
    · simp [known, same]
    · simp [known, same, Std.HashMap.getD_insert, Ne.symm same]

theorem getD_enter (owners : Owners) (e : Ecosystem) (key : String) :
    (enter owners e).getD key [] =
      if key ∈ e.words ∧ e.name ∉ owners.getD key [] then owners.getD key [] ++ [e.name]
      else owners.getD key [] := by
  rw [enter]
  induction e.words generalizing owners with
  | nil => simp
  | cons word rest ih =>
      rw [List.foldl_cons, ih, getD_addOwner]
      by_cases same : key = word
      · subst same
        by_cases known : e.name ∈ owners.getD key []
        · simp [known]
        · simp [known]
      · simp [same]

/-- An ecosystem that is entered for the first time becomes the last owner of its words. -/
theorem getD_foldl_enter {list : List Ecosystem} (distinct : (list.map (·.name)).Nodup)
    {owners : Owners} {key : String} (fresh : ∀ e ∈ list, e.name ∉ owners.getD key []) :
    (list.foldl enter owners).getD key [] =
      owners.getD key [] ++ (list.filter (key ∈ ·.words)).map (·.name) := by
  induction list generalizing owners with
  | nil => simp
  | cons e rest ih =>
      obtain ⟨first, others⟩ := List.nodup_cons.mp distinct
      obtain ⟨here, later⟩ := List.forall_mem_cons.mp fresh
      rw [List.foldl_cons, ih others, getD_enter]
      · by_cases owned : key ∈ e.words
        · simp [owned, here]
        · simp [owned]
      · intro d member
        have other : d.name ≠ e.name := by
          intro same
          exact first (List.mem_map.mpr ⟨d, member, same⟩)
        rw [getD_enter]
        split
        · simp [later d member, other]
        · exact later d member

theorem forField_eq_reservers (word : String) : forField word = reservers ecosystems word := by
  have distinct : (ecosystems.map (·.name)).Nodup := by
    change ["Go", "Rust", "C", "C++", "Swift"].Nodup
    decide
  unfold forField owners
  rw [getD_foldl_enter distinct (by simp), Std.HashMap.getD_empty, List.nil_append, reservers]
  rfl

theorem forStruct_eq_reservers (word : String) :
    forStruct word = reservers (ecosystems ++ [builtIn, imported]) word := by
  have distinct : ([builtIn, imported].map (·.name)).Nodup := by
    change ["schema", "runtime"].Nodup
    decide
  unfold forStruct structOwners
  rw [forField_eq_reservers, getD_foldl_enter distinct (by simp), Std.HashMap.getD_empty,
    List.nil_append, reservers, reservers, List.filter_append, List.map_append]
  rfl

theorem spellings_ascii :
    ((ecosystems ++ [builtIn, imported]).all fun e => e.spellings.all Text.isAscii) = true := by
  decide +kernel

theorem forField_eq_byCode (word : String) : forField word = reserversByCode ecosystems word := by
  rw [forField_eq_reservers]
  refine reservers_eq_byCode (fun e member => ?_) word
  exact List.all_eq_true.mp (List.all_eq_true.mp spellings_ascii e (List.mem_append_left _ member))

theorem forStruct_eq_byCode (word : String) :
    forStruct word = reserversByCode (ecosystems ++ [builtIn, imported]) word := by
  rw [forStruct_eq_reservers]
  refine reservers_eq_byCode (fun e member => ?_) word
  exact List.all_eq_true.mp (List.all_eq_true.mp spellings_ascii e member)

theorem builtIn_reserves_iff {word : String} :
    builtIn.Reserves word ↔ ∃ p : PrimitiveType, p.name = Text.lower word := by
  simp [builtIn, Ecosystem.Reserves, Ecosystem.words, PrimitiveType.lower_name,
    PrimitiveType.mem_all]

theorem forStruct_eq_nil_iff {name : String} :
    forStruct name = [] ↔ (∀ e ∈ ecosystems, ¬ e.Reserves name) ∧
      (∀ p : PrimitiveType, p.name ≠ Text.lower name) ∧ ¬ imported.Reserves name := by
  rw [forStruct_eq_reservers, reservers_eq_nil_iff, List.forall_mem_append]
  simp [builtIn_reserves_iff]

end Reserved

/-- The struct names a type holds, through any arrays. -/
inductive TypeExpr.Names : TypeExpr → String → Prop where
  | named (name : String) : Names (.named name) name
  | array {element : TypeExpr} {name : String} (inner : Names element name) :
      Names (.array element) name

theorem TypeExpr.names_iff {type : TypeExpr} {name : String} :
    type.Names name ↔ type.named? = some name := by
  constructor
  · intro names
    induction names with
    | named name => rfl
    | array _ ih => exact ih
  · intro found
    induction type with
    | primitive p => cases found
    | named other =>
        obtain rfl := Option.some.inj found
        exact .named other
    | array element ih => exact .array (ih found)

namespace Document

/-- Some declaration of the first name has a field whose type holds the second. -/
def RefersTo (d : Document) (name next : String) : Prop :=
  ∃ s ∈ d.structs, s.name = name ∧ ∃ f ∈ s.fields, f.type.Names next

structure WellFormed (d : Document) : Prop where
  structs_nonempty : d.structs ≠ []
  fields_nonempty : ∀ s ∈ d.structs, s.fields ≠ []
  declared : ∀ s ∈ d.structs, ∀ f ∈ s.fields, ∀ name, f.type.Names name →
    ∃ t ∈ d.structs, t.name = name
  optional_named : ∀ s ∈ d.structs, ∀ f ∈ s.fields, f.optional = true →
    ∃ name, f.type = .named name
  struct_identifier : ∀ s ∈ d.structs, Identifier s.name
  field_identifier : ∀ s ∈ d.structs, ∀ f ∈ s.fields, Identifier f.name
  struct_unreserved : ∀ s ∈ d.structs, (∀ e ∈ Reserved.ecosystems, ¬ e.Reserves s.name) ∧
    (∀ p : PrimitiveType, p.name ≠ Text.lower s.name) ∧ ¬ Reserved.imported.Reserves s.name
  field_unreserved : ∀ s ∈ d.structs, ∀ f ∈ s.fields, ∀ e ∈ Reserved.ecosystems,
    ¬ e.Reserves f.name
  struct_names_nodup : (d.structs.map (·.name)).Nodup
  field_names_nodup : ∀ s ∈ d.structs, (s.fields.map (·.name)).Nodup
  acyclic : ∀ name, ¬ Relation.TransGen d.RefersTo name name

theorem structureViolations_eq_nil_iff {d : Document} :
    d.structureViolations = [] ↔ d.structs ≠ [] ∧ ∀ s ∈ d.structs, s.fields ≠ [] := by
  unfold structureViolations
  by_cases empty : d.structs = []
  · simp [empty]
  · simp [empty]

theorem fieldReferenceViolations_eq_nil_iff {d : Document} {struct : String} {f : FieldDecl} :
    fieldReferenceViolations (.ofList d.names) struct f = [] ↔
      (∀ name, f.type.Names name → ∃ t ∈ d.structs, t.name = name) ∧
        (f.optional = true → ∃ name, f.type = .named name) := by
  rw [fieldReferenceViolations, List.append_eq_nil_iff]
  apply and_congr
  · simp only [TypeExpr.names_iff]
    cases f.type.named? with
    | none => simp
    | some name => simp [names]
  · cases f.optional with
    | false => simp
    | true => cases f.type <;> simp

theorem referenceViolations_eq_nil_iff {d : Document} :
    d.referenceViolations = [] ↔ ∀ s ∈ d.structs, ∀ f ∈ s.fields,
      (∀ name, f.type.Names name → ∃ t ∈ d.structs, t.name = name) ∧
        (f.optional = true → ∃ name, f.type = .named name) := by
  simp only [referenceViolations, List.flatMap_eq_nil_iff, fieldReferenceViolations_eq_nil_iff]

theorem fieldNameViolations_eq_nil_iff {struct : String} {f : FieldDecl} {repeated : Bool} :
    fieldNameViolations struct f repeated = [] ↔
      (Identifier f.name ∧ ∀ e ∈ Reserved.ecosystems, ¬ e.Reserves f.name) ∧
        repeated = false := by
  rw [← nameProblem?_eq_none_iff, ← reservers_eq_nil_iff, ← Reserved.forField_eq_reservers,
    fieldNameViolations]
  cases Reserved.forField f.name with
  | nil => simp
  | cons owner owners => simp

theorem structNameViolations_eq_nil_iff {s : StructDecl} {repeated : Bool} :
    structNameViolations s repeated = [] ↔
      (Identifier s.name ∧ Reserved.forStruct s.name = [] ∧
        (∀ f ∈ s.fields, Identifier f.name ∧ ∀ e ∈ Reserved.ecosystems, ¬ e.Reserves f.name) ∧
          (s.fields.map (·.name)).Nodup) ∧ repeated = false := by
  rw [← forall_zip_repeats, structNameViolations, List.append_eq_nil_iff,
    List.flatMap_eq_nil_iff, ← nameProblem?_eq_none_iff]
  simp only [fieldNameViolations_eq_nil_iff]
  cases Reserved.forStruct s.name with
  | nil => simp [and_assoc, and_comm]
  | cons owner owners => simp

theorem namingViolations_eq_nil_iff {d : Document} :
    d.namingViolations = [] ↔ (∀ s ∈ d.structs, Identifier s.name ∧
      Reserved.forStruct s.name = [] ∧
        (∀ f ∈ s.fields, Identifier f.name ∧ ∀ e ∈ Reserved.ecosystems, ¬ e.Reserves f.name) ∧
          (s.fields.map (·.name)).Nodup) ∧ (d.structs.map (·.name)).Nodup := by
  rw [← forall_zip_repeats, namingViolations, List.flatMap_eq_nil_iff]
  simp only [structNameViolations_eq_nil_iff]
  rfl

/-- The rules for names in a form that computes fast. -/
theorem namingViolations_eq_nil_iff_byCode {d : Document} :
    d.namingViolations = [] ↔ (∀ s ∈ d.structs, nameProblem? s.name = none ∧
      reserversByCode (Reserved.ecosystems ++ [Reserved.builtIn, Reserved.imported]) s.name = [] ∧
        (∀ f ∈ s.fields, nameProblem? f.name = none ∧
          reserversByCode Reserved.ecosystems f.name = []) ∧
            (s.fields.map (·.name)).Nodup) ∧ (d.structs.map (·.name)).Nodup := by
  simp only [namingViolations_eq_nil_iff, ← reservers_eq_nil_iff, ← nameProblem?_eq_none_iff,
    ← Reserved.forField_eq_reservers, Reserved.forField_eq_byCode, Reserved.forStruct_eq_byCode]

/-- The graph follows first declarations to declared names only. With every name declared, and
declared once, that leaves no reference out. -/
theorem edge_iff {d : Document} (nodup : (d.structs.map (·.name)).Nodup)
    (declared : ∀ s ∈ d.structs, ∀ f ∈ s.fields, ∀ name, f.type.Names name →
      ∃ t ∈ d.structs, t.name = name) (node next : String) :
    d.graph.Edge node next ↔ d.RefersTo node next := by
  rw [Graph.Edge, Graph.mem_successors]
  constructor
  · rintro ⟨s, found, -, f, field, named⟩
    exact ⟨s, List.mem_of_find?_eq_some found, name_of_get? found, f, field,
      TypeExpr.names_iff.mpr named⟩
  · rintro ⟨s, member, rfl, f, field, named⟩
    have bound : s.name ∈ d.names := List.mem_map_of_mem member
    obtain ⟨t, found⟩ := Option.isSome_iff_exists.mp (get?_isSome.mpr bound)
    obtain rfl : t = s := List.inj_on_of_nodup_map nodup (List.mem_of_find?_eq_some found) member
      (name_of_get? found)
    exact ⟨t, found, List.mem_map.mpr (declared t member f field next named), f, field,
      TypeExpr.names_iff.mp named⟩

/-- Nothing is wrong with a document exactly if it keeps the rules. -/
theorem violations_eq_nil_iff (d : Document) : d.violations = [] ↔ d.WellFormed := by
  rw [violations, List.append_eq_nil_iff, List.append_eq_nil_iff, List.append_eq_nil_iff,
    structureViolations_eq_nil_iff, referenceViolations_eq_nil_iff, namingViolations_eq_nil_iff,
    cycleViolations_eq_nil_iff]
  simp only [Reserved.forStruct_eq_nil_iff]
  constructor
  · rintro ⟨⟨⟨⟨some, nonempty⟩, references⟩, naming, nodup⟩, acyclic⟩
    have declared := fun s member f field => (references s member f field).1
    have edges : d.graph.Edge = d.RefersTo :=
      funext₂ fun node next => propext (edge_iff nodup declared node next)
    exact {
      structs_nonempty := some
      fields_nonempty := nonempty
      declared := declared
      optional_named := fun s member f field => (references s member f field).2
      struct_identifier := fun s member => (naming s member).1
      field_identifier := fun s member f field => ((naming s member).2.2.1 f field).1
      struct_unreserved := fun s member => (naming s member).2.1
      field_unreserved := fun s member f field => ((naming s member).2.2.1 f field).2
      struct_names_nodup := nodup
      field_names_nodup := fun s member => (naming s member).2.2.2
      acyclic := edges ▸ acyclic }
  · intro rules
    have edges : d.graph.Edge = d.RefersTo :=
      funext₂ fun node next =>
        propext (edge_iff rules.struct_names_nodup rules.declared node next)
    refine ⟨⟨⟨⟨rules.structs_nonempty, rules.fields_nonempty⟩, fun s member f field => ?_⟩,
      fun s member => ?_, rules.struct_names_nodup⟩, edges ▸ rules.acyclic⟩
    · exact ⟨rules.declared s member f field, rules.optional_named s member f field⟩
    · refine ⟨rules.struct_identifier s member, rules.struct_unreserved s member, fun f field => ?_,
        rules.field_names_nodup s member⟩
      exact ⟨rules.field_identifier s member f field, rules.field_unreserved s member f field⟩

end Document
end SchemaWire
