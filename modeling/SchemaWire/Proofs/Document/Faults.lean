import Mathlib.Data.List.Infix
import SchemaWire.Proofs.Document.Validity

/-!
Every fault is reported once. A fault is a declaration that breaks a rule, with the violation that
says so. The violations of a document with one code are the faults with that code: one for each
declaration that has such a fault, in the order of the declarations, whatever other faults there are.
-/
namespace SchemaWire

/-- The second list holds, in order, one partner of each member of the first that has any. -/
inductive OnePer {α β : Type} (R : α → β → Prop) : List α → List β → Prop where
  | nil : OnePer R [] []
  | some {x : α} {y : β} {xs : List α} {ys : List β} (partner : R x y) (rest : OnePer R xs ys) :
      OnePer R (x :: xs) (y :: ys)
  | none {x : α} {xs : List α} {ys : List β} (alone : ∀ y, ¬ R x y) (rest : OnePer R xs ys) :
      OnePer R (x :: xs) ys

theorem OnePer.append {α β : Type} {R : α → β → Prop} {xs xs' : List α} {ys ys' : List β}
    (first : OnePer R xs ys) (second : OnePer R xs' ys') : OnePer R (xs ++ xs') (ys ++ ys') := by
  induction first with
  | nil => exact second
  | some partner _ ih => exact .some partner ih
  | none alone _ ih => exact .none alone ih

theorem onePer_flatMap {α β : Type} {R : α → β → Prop} {xs : List α} {f : α → List β}
    (each : ∀ x ∈ xs, OnePer R [x] (f x)) : OnePer R xs (xs.flatMap f) := by
  induction xs with
  | nil => exact .nil
  | cons x xs ih =>
      obtain ⟨here, others⟩ := List.forall_mem_cons.mp each
      exact here.append (ih others)

theorem OnePer.exists_of_mem {α β : Type} {R : α → β → Prop} {xs : List α} {ys : List β}
    (h : OnePer R xs ys) {y : β} (member : y ∈ ys) : ∃ x ∈ xs, R x y := by
  induction h with
  | nil => cases member
  | some partner _ ih =>
      obtain rfl | member := List.mem_cons.mp member
      · exact ⟨_, List.mem_cons_self .., partner⟩
      · obtain ⟨x, found, related⟩ := ih member
        exact ⟨x, List.mem_cons_of_mem _ found, related⟩
  | none _ _ ih =>
      obtain ⟨x, found, related⟩ := ih member
      exact ⟨x, List.mem_cons_of_mem _ found, related⟩

/-- A declared struct or field, behind those of its kind that are declared before it. -/
inductive Declaration where
  | struct (earlier : List StructDecl) (s : StructDecl)
  | field (s : StructDecl) (earlier : List FieldDecl) (f : FieldDecl)

namespace Declaration

def name : Declaration → String
  | .struct _ s => s.name
  | .field _ _ f => f.name

def label : Declaration → String
  | .struct _ s => "struct name " ++ Text.quote s.name
  | .field s _ f => Violation.structLabel s.name ++ " field name " ++ Text.quote f.name

end Declaration

/-- The declarations of a document in order, the fields behind their struct. -/
def Document.declarations (d : Document) : List Declaration :=
  (d.structs.inits.zip d.structs).flatMap fun p =>
    .struct p.1 p.2 :: (p.2.fields.inits.zip p.2.fields).map fun q => .field p.2 q.1 q.2

/-- What is said of a name that is no identifier: that it is empty, or which character is the first
that no identifier has there. -/
inductive Reason (name : String) : String → Prop where
  | empty (nothing : name = "") : Reason name "cannot be empty"
  | badStart {c : Char} {after : List Char} (shape : name.toList = c :: after)
      (bad : ¬ Identifier (String.ofList [c])) :
      Reason name ("must start with an ASCII letter or underscore, found " ++
        Text.quote (String.singleton c))
  | badCharacter {before : List Char} {c : Char} {after : List Char}
      (shape : name.toList = before ++ c :: after) (good : Identifier (String.ofList before))
      (bad : ¬ Identifier (String.ofList (before ++ [c]))) :
      Reason name ("contains invalid character " ++ Text.quote (String.singleton c) ++
        " (only ASCII letters, digits and underscores are allowed)")

/-- The rules, and how a declaration that breaks one is reported. -/
inductive Fault (d : Document) : Declaration → Violation → Prop where
  | emptyStruct {earlier : List StructDecl} {s : StructDecl} (empty : s.fields = []) :
      Fault d (.struct earlier s) (.emptyStruct s.name)
  | unknownType {s : StructDecl} {earlier : List FieldDecl} {f : FieldDecl} {name : String}
      (names : f.type.Names name) (unknown : name ∉ d.names) :
      Fault d (.field s earlier f) (.unknownType s.name f.name name)
  | invalidOptional {s : StructDecl} {earlier : List FieldDecl} {f : FieldDecl}
      (optional : f.optional = true) (other : ∀ name, f.type ≠ .named name) :
      Fault d (.field s earlier f) (.invalidOptional s.name f.name f.type)
  | invalidStructName {earlier : List StructDecl} {s : StructDecl} {problem : NameProblem}
      (bad : ¬ Identifier s.name) (reason : Reason s.name problem.message) :
      Fault d (.struct earlier s) (.invalidStructName s.name problem)
  | invalidFieldName {s : StructDecl} {earlier : List FieldDecl} {f : FieldDecl}
      {problem : NameProblem} (bad : ¬ Identifier f.name)
      (reason : Reason f.name problem.message) :
      Fault d (.field s earlier f) (.invalidFieldName s.name f.name problem)
  | reservedStructName {earlier : List StructDecl} {s : StructDecl}
      (reserved : ∃ e ∈ Reserved.ecosystems ++ [Reserved.builtIn, Reserved.imported],
        e.Reserves s.name) :
      Fault d (.struct earlier s) (.reservedStructName s.name
        (reservers (Reserved.ecosystems ++ [Reserved.builtIn, Reserved.imported]) s.name))
  | reservedFieldName {s : StructDecl} {earlier : List FieldDecl} {f : FieldDecl}
      (reserved : ∃ e ∈ Reserved.ecosystems, e.Reserves f.name) :
      Fault d (.field s earlier f) (.reservedFieldName s.name f.name
        (reservers Reserved.ecosystems f.name))
  | duplicateStruct {earlier : List StructDecl} {s : StructDecl}
      (again : s.name ∈ earlier.map (·.name)) :
      Fault d (.struct earlier s) (.duplicateStruct s.name)
  | duplicateField {s : StructDecl} {earlier : List FieldDecl} {f : FieldDecl}
      (again : f.name ∈ earlier.map (·.name)) :
      Fault d (.field s earlier f) (.duplicateField s.name f.name)

theorem Fault.code_ne {d : Document} {x : Declaration} {v : Violation} (h : Fault d x v) :
    v.code ≠ "EMPTY_SCHEMA" := by
  cases h <;> simp [Violation.code]

/-- The number of the pass that finds violations of that kind: structure, references, names and
cycles. -/
def Violation.pass : Violation → Nat
  | .emptySchema | .emptyStruct _ => 0
  | .unknownType .. | .invalidOptional .. => 1
  | .invalidStructName .. | .invalidFieldName .. | .reservedStructName .. | .reservedFieldName ..
  | .duplicateStruct _ | .duplicateField .. => 2
  | .circularReference _ => 3

theorem Violation.pass_eq_of_code_eq {v w : Violation} (same : v.code = w.code) :
    v.pass = w.pass := by
  cases v <;> cases w <;> first | rfl | (revert same; simp [code])

/-! Names that are no identifiers. -/

theorem identifier_ofList_cons {c : Char} {cs : List Char} :
    Identifier (String.ofList (c :: cs)) ↔ NameStart c ∧ ∀ x ∈ cs, NameChar x := by
  simp [Identifier]

theorem reason_of_nameProblem {name : String} {problem : NameProblem}
    (h : nameProblem? name = some problem) : Reason name problem.message := by
  unfold nameProblem? at h
  cases shape : name.toList with
  | nil =>
      rw [shape] at h
      cases h
      exact .empty (String.toList_eq_nil_iff.mp shape)
  | cons c rest =>
      rw [shape] at h
      dsimp only at h
      split at h
      · next bad =>
          cases h
          refine .badStart shape fun ident => ?_
          have good := isIdentStart_iff.mpr (identifier_ofList_cons.mp ident).1
          simp [good] at bad
      · next good =>
          obtain ⟨other, found, rfl⟩ := Option.map_eq_some_iff.mp h
          obtain ⟨bad, before, after, rfl, inside⟩ := List.find?_eq_some_iff_append.mp found
          have start : NameStart c := isIdentStart_iff.mp (by simpa using good)
          have front : ∀ x ∈ before, NameChar x := fun x member =>
            isIdentChar_iff.mp (by simpa using inside x member)
          have split : name.toList = (c :: before) ++ other :: after := shape
          refine .badCharacter split (identifier_ofList_cons.mpr ⟨start, front⟩) ?_
          rw [List.cons_append, identifier_ofList_cons]
          rintro ⟨-, all⟩
          have good := isIdentChar_iff.mpr (all other (by simp))
          simp [good] at bad

/-! What is said of each declaration. -/

namespace Declaration

def structural : Declaration → List Violation
  | .struct _ s => if s.fields.isEmpty then [.emptyStruct s.name] else []
  | .field .. => []

def referential (d : Document) : Declaration → List Violation
  | .struct .. => []
  | .field s _ f => Document.fieldReferenceViolations (.ofList d.names) s.name f

/-- A struct without its fields has nothing but its own name. -/
def nominal : Declaration → List Violation
  | .struct earlier s =>
    Document.structNameViolations { s with fields := [] } (s.name ∈ earlier.map (·.name))
  | .field s earlier f => Document.fieldNameViolations s.name f (f.name ∈ earlier.map (·.name))

def reported (d : Document) (x : Declaration) : List Violation :=
  x.structural ++ x.referential d ++ x.nominal

end Declaration

namespace Document

theorem flatMap_declarations {β : Type} (d : Document) (f : Declaration → List β) :
    d.declarations.flatMap f = (d.structs.inits.zip d.structs).flatMap fun p =>
      f (.struct p.1 p.2) ++ (p.2.fields.inits.zip p.2.fields).flatMap fun q =>
        f (.field p.2 q.1 q.2) := by
  simp only [declarations, List.flatMap_assoc, List.flatMap_cons, List.flatMap_map]

theorem flatMap_inits_zip {α β : Type} (xs : List α) (f : α → List β) :
    (xs.inits.zip xs).flatMap (fun p => f p.2) = xs.flatMap f := by
  have members : (xs.inits.zip xs).map Prod.snd = xs := List.map_snd_zip (by simp)
  conv_rhs => rw [← members, List.flatMap_map]

/-- What does not look at earlier declarations goes over structs and fields alone. -/
theorem flatMap_declarations_of {β : Type} (d : Document) {f : Declaration → List β}
    (own : StructDecl → List β) (each : StructDecl → FieldDecl → List β)
    (structs : ∀ earlier s, f (.struct earlier s) = own s)
    (fields : ∀ s earlier g, f (.field s earlier g) = each s g) :
    d.declarations.flatMap f = d.structs.flatMap fun s => own s ++ s.fields.flatMap (each s) := by
  have inner (s : StructDecl) := flatMap_inits_zip s.fields (each s)
  simp only [flatMap_declarations, structs, fields, inner]
  exact flatMap_inits_zip d.structs fun s => own s ++ s.fields.flatMap (each s)

theorem structureViolations_eq {d : Document} (inhabited : d.structs ≠ []) :
    d.structureViolations = d.declarations.flatMap Declaration.structural := by
  rw [structureViolations, if_neg (by simpa using inhabited),
    d.flatMap_declarations_of (fun s => if s.fields.isEmpty then [.emptyStruct s.name] else [])
      (fun _ _ => []) (fun _ _ => rfl) (fun _ _ _ => rfl)]
  induction d.structs with
  | nil => rfl
  | cons s rest ih =>
      rw [List.flatMap_cons, ← ih]
      cases empty : s.fields.isEmpty with
      | true => simp [empty]
      | false => simp [empty]

theorem referenceViolations_eq (d : Document) :
    d.referenceViolations = d.declarations.flatMap (Declaration.referential d) :=
  (d.flatMap_declarations_of (fun _ => [])
    (fun s => fieldReferenceViolations (.ofList d.names) s.name) (fun _ _ => rfl)
    (fun _ _ _ => rfl)).symm

/-- A name is marked as repeated if it is among the earlier ones. -/
theorem zip_repeats {α : Type} (key : α → String) (xs : List α) :
    xs.zip (repeats (xs.map key)) =
      (xs.inits.zip xs).map fun p => (p.2, decide (key p.2 ∈ p.1.map key)) := by
  have behind (seen : List String) : xs.zip (repeatsAfter seen (xs.map key)) =
      (xs.inits.zip xs).map fun p => (p.2, decide (key p.2 ∈ seen ∨ key p.2 ∈ p.1.map key)) := by
    induction xs generalizing seen with
    | nil => rfl
    | cons x xs ih =>
        rw [List.map_cons, repeatsAfter, List.zip_cons_cons, ih, List.inits_cons, List.zip_cons_cons,
          List.zip_map_left, List.map_cons, List.map_map]
        congr 1
        · simp
        · apply List.map_congr_left
          intro p _
          have same : (key p.2 ∈ key x :: seen ∨ key p.2 ∈ p.1.map key) ↔
              key p.2 ∈ seen ∨ key p.2 ∈ (x :: p.1).map key := by
            rw [List.mem_cons, List.map_cons, List.mem_cons, or_assoc, or_left_comm]
          exact congrArg (Prod.mk p.2) (decide_eq_decide.mpr same)
  rw [repeats_eq, behind]
  simp only [List.not_mem_nil, false_or]

theorem structNameViolations_eq (s : StructDecl) (repeated : Bool) :
    structNameViolations s repeated = structNameViolations { s with fields := [] } repeated ++
      (s.fields.inits.zip s.fields).flatMap fun q =>
        fieldNameViolations s.name q.2 (q.2.name ∈ q.1.map (·.name)) := by
  simp only [structNameViolations, zip_repeats, List.flatMap_map, List.zip_nil_left,
    List.flatMap_nil, List.append_nil]

theorem namingViolations_eq (d : Document) :
    d.namingViolations = d.declarations.flatMap Declaration.nominal := by
  rw [flatMap_declarations, namingViolations, names, zip_repeats, List.flatMap_map]
  apply List.flatMap_congr
  intro p _
  exact structNameViolations_eq p.2 _

end Document

/-! A declaration is reported for its faults, and for each once. -/

theorem reserved_iff {list : List Ecosystem} {word : String} :
    reservers list word ≠ [] ↔ ∃ e ∈ list, e.Reserves word := by
  rw [ne_eq, reservers_eq_nil_iff]
  push Not
  rfl

namespace Document

theorem codes_fieldReferenceViolations (known : Std.HashSet String) (struct : String)
    (f : FieldDecl) : ((fieldReferenceViolations known struct f).map Violation.code).Sublist
      (["UNKNOWN_TYPE"] ++ ["INVALID_OPTIONAL"]) := by
  rw [fieldReferenceViolations, List.map_append]
  apply List.Sublist.append
  · cases f.type.named? with
    | none => exact List.nil_sublist _
    | some name =>
        dsimp only
        split
        · exact List.nil_sublist _
        · exact List.Sublist.refl _
  · cases f.optional with
    | false => exact List.nil_sublist _
    | true =>
        cases f.type with
        | named name => exact List.nil_sublist _
        | primitive p => exact List.Sublist.refl _
        | array element => exact List.Sublist.refl _

/-- What is said of a name, given how that is said, who reserves it and whether it was there. -/
def nameReports (invalid : NameProblem → Violation) (reserved : List String → Violation)
    (duplicate : Violation) (name : String) (owners : List String) (repeated : Bool) :
    List Violation :=
  ((nameProblem? name).map invalid).toList ++ (if owners.isEmpty then [] else [reserved owners]) ++
    (if repeated then [duplicate] else [])

theorem fieldNameViolations_eq (struct : String) (f : FieldDecl) (repeated : Bool) :
    fieldNameViolations struct f repeated = nameReports (.invalidFieldName struct f.name)
      (.reservedFieldName struct f.name) (.duplicateField struct f.name) f.name
      (reservers Reserved.ecosystems f.name) repeated := by
  rw [← Reserved.forField_eq_reservers, fieldNameViolations, nameReports]
  cases Reserved.forField f.name <;> rfl

theorem ownNameViolations_eq (s : StructDecl) (repeated : Bool) :
    structNameViolations { s with fields := [] } repeated =
      nameReports (.invalidStructName s.name) (.reservedStructName s.name) (.duplicateStruct s.name)
        s.name (reservers (Reserved.ecosystems ++ [Reserved.builtIn, Reserved.imported]) s.name)
        repeated := by
  rw [← Reserved.forStruct_eq_reservers, structNameViolations, nameReports, List.zip_nil_left,
    List.flatMap_nil, List.append_nil]
  cases Reserved.forStruct s.name <;> rfl

section Names

variable {invalid : NameProblem → Violation} {reserved : List String → Violation}
  {duplicate : Violation} {name : String} {owners : List String} {repeated : Bool}

theorem mem_nameReports {v : Violation} :
    v ∈ nameReports invalid reserved duplicate name owners repeated ↔
      (∃ problem, nameProblem? name = some problem ∧ v = invalid problem) ∨
      owners ≠ [] ∧ v = reserved owners ∨ repeated = true ∧ v = duplicate := by
  rw [nameReports, List.mem_append, List.mem_append, or_assoc]
  apply or_congr
  · simp only [Option.mem_toList, Option.map_eq_some_iff, @eq_comm _ v]
  · simp

theorem codes_nameReports
    (names : ∀ problem, (invalid problem).code = "INVALID_IDENTIFIER")
    (words : ∀ owners, (reserved owners).code = "RESERVED_KEYWORD") :
    ((nameReports invalid reserved duplicate name owners repeated).map Violation.code).Sublist
      (["INVALID_IDENTIFIER"] ++ ["RESERVED_KEYWORD"] ++ [duplicate.code]) := by
  rw [nameReports, List.map_append, List.map_append]
  refine .append (.append ?_ ?_) ?_
  · cases nameProblem? name with
    | none => exact List.nil_sublist _
    | some problem => simp [names]
  · split
    · exact List.nil_sublist _
    · simp [words]
  · split
    · exact List.Sublist.refl _
    · exact List.nil_sublist _

end Names

end Document

namespace Declaration

variable {d : Document} {x : Declaration} {v : Violation}

theorem mem_structural {earlier : List StructDecl} {s : StructDecl} :
    v ∈ (Declaration.struct earlier s).structural ↔ s.fields = [] ∧ v = .emptyStruct s.name := by
  simp [structural]

theorem mem_referential {s : StructDecl} {earlier : List FieldDecl} {f : FieldDecl} :
    v ∈ (Declaration.field s earlier f).referential d ↔
      (∃ name, f.type.Names name ∧ name ∉ d.names ∧ v = .unknownType s.name f.name name) ∨
      f.optional = true ∧ (∀ name, f.type ≠ .named name) ∧
        v = .invalidOptional s.name f.name f.type := by
  rw [referential, Document.fieldReferenceViolations, List.mem_append]
  apply or_congr
  · simp only [TypeExpr.names_iff]
    cases f.type.named? with
    | none => simp
    | some name =>
        by_cases known : name ∈ d.names
        · simp [known]
        · simp [known]
  · cases f.optional with
    | false => simp
    | true => cases f.type <;> simp

theorem mem_nominal_struct {earlier : List StructDecl} {s : StructDecl} :
    v ∈ (Declaration.struct earlier s).nominal ↔
      (∃ problem, nameProblem? s.name = some problem ∧ v = .invalidStructName s.name problem) ∨
      (∃ e ∈ Reserved.ecosystems ++ [Reserved.builtIn, Reserved.imported], e.Reserves s.name) ∧
        v = .reservedStructName s.name
          (reservers (Reserved.ecosystems ++ [Reserved.builtIn, Reserved.imported]) s.name) ∨
      s.name ∈ earlier.map (·.name) ∧ v = .duplicateStruct s.name := by
  rw [nominal, Document.ownNameViolations_eq, Document.mem_nameReports, reserved_iff,
    decide_eq_true_iff]

theorem mem_nominal_field {s : StructDecl} {earlier : List FieldDecl} {f : FieldDecl} :
    v ∈ (Declaration.field s earlier f).nominal ↔
      (∃ problem, nameProblem? f.name = some problem ∧ v = .invalidFieldName s.name f.name problem) ∨
      (∃ e ∈ Reserved.ecosystems, e.Reserves f.name) ∧
        v = .reservedFieldName s.name f.name (reservers Reserved.ecosystems f.name) ∨
      f.name ∈ earlier.map (·.name) ∧ v = .duplicateField s.name f.name := by
  rw [nominal, Document.fieldNameViolations_eq, Document.mem_nameReports, reserved_iff,
    decide_eq_true_iff]

theorem mem_reported :
    v ∈ x.reported d ↔ v ∈ x.structural ∨ v ∈ x.referential d ∨ v ∈ x.nominal := by
  rw [reported, List.mem_append, List.mem_append, or_assoc]

theorem fault_of_mem_reported (member : v ∈ x.reported d) : Fault d x v := by
  have bad {name : String} {problem : NameProblem} (found : nameProblem? name = some problem) :
      ¬ Identifier name := by
    rw [← nameProblem?_eq_none_iff, found]
    exact Option.some_ne_none problem
  rw [mem_reported] at member
  cases x with
  | struct earlier s =>
      obtain structural | none | named := member
      · obtain ⟨empty, rfl⟩ := mem_structural.mp structural
        exact .emptyStruct empty
      · cases none
      · obtain ⟨problem, found, rfl⟩ | ⟨reserved, rfl⟩ | ⟨again, rfl⟩ := mem_nominal_struct.mp named
        · exact .invalidStructName (bad found) (reason_of_nameProblem found)
        · exact .reservedStructName reserved
        · exact .duplicateStruct again
  | field s earlier f =>
      obtain none | referred | named := member
      · cases none
      · obtain ⟨name, names, unknown, rfl⟩ | ⟨optional, other, rfl⟩ := mem_referential.mp referred
        · exact .unknownType names unknown
        · exact .invalidOptional optional other
      · obtain ⟨problem, found, rfl⟩ | ⟨reserved, rfl⟩ | ⟨again, rfl⟩ := mem_nominal_field.mp named
        · exact .invalidFieldName (bad found) (reason_of_nameProblem found)
        · exact .reservedFieldName reserved
        · exact .duplicateField again

/-- A name that is no identifier is reported with the reason. -/
theorem exists_invalid (bad : ¬ Identifier x.name) :
    ∃ v ∈ x.nominal, v.code = "INVALID_IDENTIFIER" ∧
      ∃ reason, Reason x.name reason ∧ v.message = x.label ++ " is invalid: " ++ reason := by
  rw [← nameProblem?_eq_none_iff] at bad
  obtain ⟨problem, found⟩ := Option.ne_none_iff_exists'.mp bad
  have reason := reason_of_nameProblem found
  cases x with
  | struct earlier s =>
      exact ⟨_, mem_nominal_struct.mpr (.inl ⟨problem, found, rfl⟩), rfl, _, reason, rfl⟩
  | field s earlier f =>
      exact ⟨_, mem_nominal_field.mpr (.inl ⟨problem, found, rfl⟩), rfl, _, reason, rfl⟩

/-- A declaration with a fault is reported under its code. -/
theorem exists_mem_reported (fault : Fault d x v) : ∃ w ∈ x.reported d, w.code = v.code := by
  cases fault with
  | emptyStruct empty =>
      exact ⟨_, mem_reported.mpr (.inl (mem_structural.mpr ⟨empty, rfl⟩)), rfl⟩
  | unknownType names unknown =>
      refine ⟨_, mem_reported.mpr (.inr (.inl ?_)), rfl⟩
      exact mem_referential.mpr (.inl ⟨_, names, unknown, rfl⟩)
  | invalidOptional optional other =>
      refine ⟨_, mem_reported.mpr (.inr (.inl ?_)), rfl⟩
      exact mem_referential.mpr (.inr ⟨optional, other, rfl⟩)
  | @invalidStructName earlier s _ bad _ =>
      obtain ⟨w, member, code, -⟩ := exists_invalid (x := .struct earlier s) bad
      exact ⟨w, mem_reported.mpr (.inr (.inr member)), code⟩
  | @invalidFieldName s earlier f _ bad _ =>
      obtain ⟨w, member, code, -⟩ := exists_invalid (x := .field s earlier f) bad
      exact ⟨w, mem_reported.mpr (.inr (.inr member)), code⟩
  | reservedStructName reserved =>
      refine ⟨_, mem_reported.mpr (.inr (.inr ?_)), rfl⟩
      exact mem_nominal_struct.mpr (.inr (.inl ⟨reserved, rfl⟩))
  | reservedFieldName reserved =>
      refine ⟨_, mem_reported.mpr (.inr (.inr ?_)), rfl⟩
      exact mem_nominal_field.mpr (.inr (.inl ⟨reserved, rfl⟩))
  | duplicateStruct again =>
      refine ⟨_, mem_reported.mpr (.inr (.inr ?_)), rfl⟩
      exact mem_nominal_struct.mpr (.inr (.inr ⟨again, rfl⟩))
  | duplicateField again =>
      refine ⟨_, mem_reported.mpr (.inr (.inr ?_)), rfl⟩
      exact mem_nominal_field.mpr (.inr (.inr ⟨again, rfl⟩))

theorem nodup_codes (d : Document) (x : Declaration) :
    ((x.reported d).map Violation.code).Nodup := by
  rw [reported, List.map_append, List.map_append]
  cases x with
  | struct earlier s =>
      have structural : ((Declaration.struct earlier s).structural.map Violation.code).Sublist
          ["EMPTY_STRUCT"] := by
        rw [Declaration.structural]
        split
        · exact List.Sublist.refl _
        · exact List.nil_sublist _
      have nominal : ((Declaration.struct earlier s).nominal.map Violation.code).Sublist
          (["INVALID_IDENTIFIER"] ++ ["RESERVED_KEYWORD"] ++ ["DUPLICATE_STRUCT"]) := by
        rw [Declaration.nominal, Document.ownNameViolations_eq]
        exact Document.codes_nameReports (fun _ => rfl) (fun _ => rfl)
      exact ((structural.append (List.Sublist.refl [])).append nominal).nodup (by decide)
  | field s earlier f =>
      have referential := Document.codes_fieldReferenceViolations (.ofList d.names) s.name f
      have nominal : ((Declaration.field s earlier f).nominal.map Violation.code).Sublist
          (["INVALID_IDENTIFIER"] ++ ["RESERVED_KEYWORD"] ++ ["DUPLICATE_FIELD"]) := by
        rw [Declaration.nominal, Document.fieldNameViolations_eq]
        exact Document.codes_nameReports (fun _ => rfl) (fun _ => rfl)
      exact (((List.Sublist.refl []).append referential).append nominal).nodup (by decide)

theorem onePer_reported (d : Document) (x : Declaration) (code : String) :
    OnePer (fun x v => Fault d x v ∧ v.code = code) [x]
      ((x.reported d).filter (·.code = code)) := by
  have members {v : Violation} (member : v ∈ (x.reported d).filter (·.code = code)) :
      Fault d x v ∧ v.code = code := by
    obtain ⟨member, same⟩ := List.mem_filter.mp member
    exact ⟨fault_of_mem_reported member, of_decide_eq_true same⟩
  have nodup : (((x.reported d).filter (·.code = code)).map Violation.code).Nodup :=
    (List.filter_sublist.map Violation.code).nodup (nodup_codes d x)
  cases shape : (x.reported d).filter (·.code = code) with
  | nil =>
      refine .none ?_ .nil
      rintro v ⟨fault, rfl⟩
      obtain ⟨w, member, same⟩ := exists_mem_reported fault
      exact List.filter_eq_nil_iff.mp shape w member (decide_eq_true same)
  | cons v rest =>
      rw [shape] at members nodup
      cases rest with
      | nil => exact .some (members (List.mem_singleton_self v)) .nil
      | cons w rest =>
          have first := (members (List.mem_cons_self ..)).2
          have second := (members (List.mem_cons_of_mem v (List.mem_cons_self ..))).2
          simp [first, second] at nodup

/-! Passes. -/

theorem pass_of_structural (member : v ∈ x.structural) : v.pass = 0 := by
  cases x with
  | struct earlier s =>
      obtain ⟨-, rfl⟩ := mem_structural.mp member
      rfl
  | field s earlier f => cases member

theorem pass_of_referential (member : v ∈ x.referential d) : v.pass = 1 := by
  cases x with
  | struct earlier s => cases member
  | field s earlier f =>
      obtain ⟨name, -, -, rfl⟩ | ⟨-, -, rfl⟩ := mem_referential.mp member <;> rfl

theorem pass_of_nominal (member : v ∈ x.nominal) : v.pass = 2 := by
  cases x with
  | struct earlier s =>
      obtain ⟨problem, -, rfl⟩ | ⟨-, rfl⟩ | ⟨-, rfl⟩ := mem_nominal_struct.mp member <;> rfl
  | field s earlier f =>
      obtain ⟨problem, -, rfl⟩ | ⟨-, rfl⟩ | ⟨-, rfl⟩ := mem_nominal_field.mp member <;> rfl

end Declaration

namespace Document

/-- The violations that stand for a declaration's faults are found in the first three passes. -/
theorem violations_eq {d : Document} (inhabited : d.structs ≠ []) :
    d.violations = d.declarations.flatMap Declaration.structural ++
      d.declarations.flatMap (Declaration.referential d) ++
      d.declarations.flatMap Declaration.nominal ++ d.cycleViolations := by
  rw [violations, structureViolations_eq inhabited, referenceViolations_eq, namingViolations_eq]

theorem code_of_cycleViolations {d : Document} {v : Violation} (member : v ∈ d.cycleViolations) :
    v.code = "CIRCULAR_REFERENCE" ∧ v.pass = 3 := by
  obtain ⟨path, -, rfl⟩ := List.mem_map.mp member
  exact ⟨rfl, rfl⟩

/-- A code is used in one pass only, so it makes no difference whether the passes go over the
declarations one behind the other or together. -/
theorem filter_flatMap_append {f g : Declaration → List Violation} {k : Nat}
    (before : ∀ x, ∀ v ∈ f x, v.pass < k) (here : ∀ x, ∀ v ∈ g x, v.pass = k)
    (xs : List Declaration) (code : String) :
    (xs.flatMap f).filter (·.code = code) ++ (xs.flatMap g).filter (·.code = code) =
      (xs.flatMap fun x => f x ++ g x).filter (·.code = code) := by
  simp only [List.filter_flatMap, List.filter_append]
  by_cases none : ∀ x, (g x).filter (·.code = code) = []
  · simp [none]
  · obtain ⟨x, some⟩ := not_forall.mp none
    obtain ⟨w, member⟩ := List.exists_mem_of_ne_nil _ some
    obtain ⟨member, found⟩ := List.mem_filter.mp member
    have others : ∀ y, (f y).filter (·.code = code) = [] := by
      intro y
      rw [List.filter_eq_nil_iff]
      intro v earlier same
      have pass : v.pass = w.pass := Violation.pass_eq_of_code_eq
        ((of_decide_eq_true same).trans (of_decide_eq_true found).symm)
      have least := before y v earlier
      have most := here x w member
      omega
    simp [others]

theorem pass_lt_two {d : Document} {x : Declaration} :
    ∀ v ∈ x.structural ++ x.referential d, v.pass < 2 := by
  intro v member
  obtain structural | referential := List.mem_append.mp member
  · simp [Declaration.pass_of_structural structural]
  · simp [Declaration.pass_of_referential referential]

theorem filter_violations {d : Document} (inhabited : d.structs ≠ []) {code : String}
    (plain : code ≠ "CIRCULAR_REFERENCE") :
    d.violations.filter (·.code = code) =
      d.declarations.flatMap fun x => (x.reported d).filter (·.code = code) := by
  have cycles : d.cycleViolations.filter (·.code = code) = [] := by
    rw [List.filter_eq_nil_iff]
    intro v member same
    exact plain ((of_decide_eq_true same).symm.trans (code_of_cycleViolations member).1)
  rw [violations_eq inhabited, List.filter_append, List.filter_append, List.filter_append, cycles,
    List.append_nil, ← List.filter_flatMap]
  rw [filter_flatMap_append (k := 1) (fun x v member => by simp [x.pass_of_structural member])
    fun x v member => x.pass_of_referential member]
  rw [filter_flatMap_append (k := 2) (fun x => pass_lt_two) fun x v member => x.pass_of_nominal member]
  rfl

theorem pairwise_append_pass {vs ws : List Violation} {k : Nat}
    (sorted : vs.Pairwise fun v w => v.pass ≤ w.pass) (before : ∀ v ∈ vs, v.pass < k)
    (here : ∀ w ∈ ws, w.pass = k) : (vs ++ ws).Pairwise fun v w => v.pass ≤ w.pass := by
  refine List.pairwise_append.mpr ⟨sorted, ?_, fun v member w later => ?_⟩
  · exact List.pairwise_of_forall_mem_list fun v first w second =>
      Nat.le_of_eq ((here v first).trans (here w second).symm)
  · rw [here w later]
    exact Nat.le_of_lt (before v member)

theorem pairwise_pass {d : Document} (inhabited : d.structs ≠ []) :
    d.violations.Pairwise fun v w => v.pass ≤ w.pass := by
  have structural : ∀ v ∈ d.declarations.flatMap Declaration.structural, v.pass = 0 :=
    List.forall_mem_flatMap.mpr fun x _ v member => x.pass_of_structural member
  have referential : ∀ v ∈ d.declarations.flatMap (Declaration.referential d), v.pass = 1 :=
    List.forall_mem_flatMap.mpr fun x _ v member => x.pass_of_referential member
  have nominal : ∀ v ∈ d.declarations.flatMap Declaration.nominal, v.pass = 2 :=
    List.forall_mem_flatMap.mpr fun x _ v member => x.pass_of_nominal member
  rw [violations_eq inhabited]
  have first := pairwise_append_pass .nil (List.forall_mem_nil _) structural
  have second := pairwise_append_pass first (k := 1) (by grind) referential
  have third := pairwise_append_pass second (k := 2) (by grind) nominal
  exact pairwise_append_pass third (k := 3) (by grind) fun v member =>
    (code_of_cycleViolations member).2

/-- In a document with a struct, the violations with each code stand for the faults with that code,
one for each declaration that has such a fault, in order. -/
theorem violations_exact {d : Document} (inhabited : d.structs ≠ []) :
    (∀ code, code ≠ "CIRCULAR_REFERENCE" →
      OnePer (fun x v => Fault d x v ∧ v.code = code) d.declarations
        (d.violations.filter (·.code = code))) ∧
    (∀ x ∈ d.declarations, ¬ Identifier x.name →
      ∃ v ∈ d.violations, v.code = "INVALID_IDENTIFIER" ∧ Fault d x v ∧
        ∃ reason, Reason x.name reason ∧ v.message = x.label ++ " is invalid: " ++ reason) ∧
    (∀ v ∈ d.violations, v.code ≠ "EMPTY_SCHEMA") ∧
    d.violations.Pairwise fun v w => v.pass ≤ w.pass := by
  have each (code : String) (plain : code ≠ "CIRCULAR_REFERENCE") :
      OnePer (fun x v => Fault d x v ∧ v.code = code) d.declarations
        (d.violations.filter (·.code = code)) := by
    rw [filter_violations inhabited plain]
    exact onePer_flatMap fun x _ => x.onePer_reported d code
  refine ⟨each, ?_, ?_, pairwise_pass inhabited⟩
  · intro x member bad
    obtain ⟨v, named, code, explained⟩ := x.exists_invalid bad
    have reported : v ∈ d.violations := by
      rw [violations_eq inhabited]
      exact List.mem_append_left _ (List.mem_append_right _ (List.mem_flatMap.mpr ⟨x, member, named⟩))
    have fault : Fault d x v :=
      Declaration.fault_of_mem_reported (Declaration.mem_reported.mpr (.inr (.inr named)))
    exact ⟨v, reported, code, fault, explained⟩
  · intro v member code
    have listed : v ∈ d.violations.filter (·.code = "EMPTY_SCHEMA") :=
      List.mem_filter.mpr ⟨member, decide_eq_true code⟩
    obtain ⟨x, -, fault, code⟩ := (each _ (by decide)).exists_of_mem listed
    exact fault.code_ne code

/-- Two structs of one name that is no identifier, and fields with faults of every kind. -/
def crowded : Document where
  structs := [
    { name := "1a", position := ⟨1, 8⟩, doc := none, fields := [] },
    { name := "1a"
      position := ⟨2, 8⟩
      doc := none
      fields := [
        ⟨"x", ⟨3, 3⟩, none, .array (.named "Nope"), true⟩,
        ⟨"x", ⟨4, 3⟩, none, .primitive .text, false⟩,
        ⟨"a b", ⟨5, 3⟩, none, .primitive .text, false⟩,
        ⟨"type", ⟨6, 3⟩, none, .primitive .text, false⟩] }]

theorem crowded_violations :
    crowded.violations = [
      .emptyStruct "1a",
      .unknownType "1a" "x" "Nope",
      .invalidOptional "1a" "x" (.array (.named "Nope")),
      .invalidStructName "1a" (.badStart '1'),
      .invalidStructName "1a" (.badStart '1'),
      .duplicateStruct "1a",
      .duplicateField "1a" "x",
      .invalidFieldName "1a" "a b" (.badCharacter ' '),
      .reservedFieldName "1a" "type" ["Go", "Rust", "Swift"]] := by
  have structural : crowded.structureViolations = [.emptyStruct "1a"] := by decide
  have references : crowded.referenceViolations = [.unknownType "1a" "x" "Nope",
      .invalidOptional "1a" "x" (.array (.named "Nope"))] := by
    simp [referenceViolations, fieldReferenceViolations, names, crowded, TypeExpr.named?]
  have naming : crowded.namingViolations = [.invalidStructName "1a" (.badStart '1'),
      .invalidStructName "1a" (.badStart '1'), .duplicateStruct "1a", .duplicateField "1a" "x",
      .invalidFieldName "1a" "a b" (.badCharacter ' '),
      .reservedFieldName "1a" "type" ["Go", "Rust", "Swift"]] := by
    simp only [namingViolations, structNameViolations, fieldNameViolations, repeats_eq,
      Reserved.forStruct_eq_byCode, Reserved.forField_eq_byCode]
    decide +kernel
  have acyclic : crowded.cycleViolations = [] := by
    apply cycleViolations_eq_nil_of_measure fun name => if name = "1a" then 1 else 0
    simp [crowded, TypeExpr.named?]
  rw [violations, structural, references, naming, acyclic]
  rfl

theorem violations_exact_crowded :
    crowded.structs ≠ [] ∧
      OnePer (fun x v => Fault crowded x v ∧ v.code = "INVALID_IDENTIFIER") crowded.declarations
        [.invalidStructName "1a" (.badStart '1'), .invalidStructName "1a" (.badStart '1'),
          .invalidFieldName "1a" "a b" (.badCharacter ' ')] ∧
      OnePer (fun x v => Fault crowded x v ∧ v.code = "DUPLICATE_FIELD") crowded.declarations
        [.duplicateField "1a" "x"] ∧
      (Violation.invalidFieldName "1a" "a b" (.badCharacter ' ')).message =
        "struct \"1a\" field name \"a b\" is invalid: contains invalid character \" \" " ++
          "(only ASCII letters, digits and underscores are allowed)" ∧
      crowded.violations.Pairwise fun v w => v.pass ≤ w.pass := by
  have inhabited : crowded.structs ≠ [] := List.cons_ne_nil _ _
  obtain ⟨each, -, -, ordered⟩ := violations_exact inhabited
  have names := each "INVALID_IDENTIFIER" (by decide)
  have repeated := each "DUPLICATE_FIELD" (by decide)
  rw [crowded_violations] at names repeated
  exact ⟨inhabited, names, repeated, by decide +kernel, ordered⟩

end Document
end SchemaWire
