import Mathlib.Logic.Relation
import SchemaWire.Proofs.Codegen.Docs

/-!
Which borrowed forms take a lifetime. Rounds over the structs collect those with a field that
borrows, until a round adds none. Whatever the order of declarations, that ends, and collects the
structs from which references lead to a field that borrows by itself. These are the structs whose
borrowed form is declared with a lifetime, and those with a field whose printed type names it.
-/
namespace SchemaWire

/-- Values of the type lie in the input, whatever structs it names: texts, fixed-width arrays, and
arrays of such. -/
inductive TypeExpr.Borrows : TypeExpr → Prop where
  | text : Borrows (.primitive .text)
  | packed (t : ScalarType) : Borrows (.array (.primitive (.scalar t)))
  | array {element : TypeExpr} (inner : Borrows element) : Borrows (.array element)

/-- References lead from the struct, over any number of others, to one with a field that borrows by
itself. -/
def Document.LeadsToBorrowed (d : Document) (name : String) : Prop :=
  ∃ t ∈ d.structs, Relation.ReflTransGen d.RefersTo name t.name ∧ ∃ f ∈ t.fields, f.type.Borrows

namespace Codegen

theorem fixed?_eq_some {type : TypeExpr} {t : ScalarType} (found : fixed? type = some t) :
    type = .primitive (.scalar t) := by
  unfold fixed? at found
  split at found
  · cases found
    rfl
  · cases found

theorem borrows_iff {borrowing : List String} {type : TypeExpr} :
    borrows borrowing type = true ↔ type.Borrows ∨ ∃ name ∈ borrowing, type.Names name := by
  induction type with
  | primitive p =>
      cases p with
      | scalar t =>
          refine ⟨fun h => Bool.noConfusion h, ?_⟩
          rintro (direct | ⟨name, -, names⟩)
          · cases direct
          · cases names
      | text => exact ⟨fun _ => .inl .text, fun _ => rfl⟩
  | named name =>
      rw [borrows, List.contains_iff_mem]
      refine ⟨fun member => .inr ⟨name, member, .named name⟩, ?_⟩
      rintro (direct | ⟨_, member, names⟩)
      · cases direct
      · cases names
        exact member
  | array element ih =>
      rw [borrows, Bool.or_eq_true, ih]
      constructor
      · rintro (packed | direct | ⟨name, member, names⟩)
        · obtain ⟨t, found⟩ := Option.isSome_iff_exists.mp packed
          exact .inl (fixed?_eq_some found ▸ .packed t)
        · exact .inl (.array direct)
        · exact .inr ⟨name, member, .array names⟩
      · rintro (direct | ⟨name, member, names⟩)
        · cases direct with
          | packed t => exact .inl rfl
          | array inner => exact .inr (.inl inner)
        · cases names with
          | array inner => exact .inr (.inr ⟨name, member, inner⟩)

/-! Rounds. -/

section Rounds

variable {structs : List StructDecl} {names final : List String}

/-- A round keeps what holds on when the name of a struct with a field that borrows is added. -/
theorem borrowRound_keeps {P : List String → Prop} (start : P names)
    (add : ∀ names, P names → ∀ s ∈ structs, s.name ∉ names →
      (∃ f ∈ s.fields, borrows names f.type = true) → P (s.name :: names)) :
    P (borrowRound structs names) := by
  refine List.foldlRecOn structs _ start fun names kept s member => ?_
  split
  · exact kept
  · next fresh =>
      split
      · next some =>
          refine add names kept s member ?_ (List.any_eq_true.mp some)
          exact fun known => fresh (List.contains_iff_mem.mpr known)
      · exact kept

theorem suffix_borrowRound : names <:+ borrowRound structs names :=
  borrowRound_keeps List.suffix_rfl fun _ behind s _ _ _ => behind.trans (List.suffix_cons s.name _)

theorem nodup_borrowRound (nodup : names.Nodup) : (borrowRound structs names).Nodup :=
  borrowRound_keeps nodup fun _ nodup _ _ fresh _ => List.nodup_cons.mpr ⟨fresh, nodup⟩

theorem borrowRound_subset (declared : names ⊆ structs.map StructDecl.name) :
    borrowRound structs names ⊆ structs.map StructDecl.name :=
  borrowRound_keeps (P := fun names => names ⊆ structs.map StructDecl.name) declared
    fun _ declared _ member _ _ => List.cons_subset.mpr ⟨List.mem_map_of_mem member, declared⟩

theorem borrowRound_length_le (nodup : names.Nodup) (declared : names ⊆ structs.map StructDecl.name) :
    (borrowRound structs names).length ≤ structs.length := by
  have within := (nodup_borrowRound nodup).subperm (borrowRound_subset declared)
  simpa using within.length_le

/-- A round that adds nothing has found every struct with a field that borrows. -/
theorem mem_of_borrowRound_eq (same : borrowRound structs names = names) {s : StructDecl}
    (member : s ∈ structs) {f : FieldDecl} (field : f ∈ s.fields)
    (borrowed : borrows names f.type = true) : s.name ∈ names := by
  induction structs with
  | nil => cases member
  | cons t rest ih =>
      have split : borrowRound rest (borrowRound [t] names) = names := same
      have later : borrowRound [t] names <:+ borrowRound rest (borrowRound [t] names) :=
        suffix_borrowRound
      -- A round only adds names, so none of its steps has added any.
      rw [split] at later
      have first : borrowRound [t] names = names :=
        later.eq_of_length_le suffix_borrowRound.length_le
      rw [first] at split
      obtain rfl | member := List.mem_cons.mp member
      · by_contra fresh
        have found : s.fields.any (fun f => borrows names f.type) = true :=
          List.any_eq_true.mpr ⟨f, field, borrowed⟩
        have added : borrowRound [s] names = s.name :: names := by
          rw [borrowRound, List.foldl_cons, List.foldl_nil,
            if_neg (mt List.contains_iff_mem.mp fresh), if_pos found]
        exact List.cons_ne_self s.name names (added.symm.trans first)
      · exact ih split member

/-- Rounds that go on until one adds nothing lead from the first names to the second. No number of
rounds is set. -/
inductive Settles (structs : List StructDecl) : List String → List String → Prop where
  | stable {names : List String} (same : (borrowRound structs names).length = names.length) :
      Settles structs names names
  | again {names final : List String} (more : (borrowRound structs names).length ≠ names.length)
      (rest : Settles structs (borrowRound structs names) final) : Settles structs names final

theorem settles_borrowUntilStable {rounds : Nat} (nodup : names.Nodup)
    (declared : names ⊆ structs.map StructDecl.name) (enough : structs.length ≤ rounds + names.length) :
    Settles structs names (borrowUntilStable structs rounds names) := by
  induction rounds generalizing names with
  | zero =>
      have least : names.length ≤ (borrowRound structs names).length :=
        suffix_borrowRound.length_le
      have most := borrowRound_length_le nodup declared
      exact .stable (by omega)
  | succ rounds ih =>
      rw [borrowUntilStable]
      split
      · next same => exact .stable (beq_iff_eq.mp same)
      · next more =>
          have more := mt beq_iff_eq.mpr more
          have least : names.length ≤ (borrowRound structs names).length :=
            suffix_borrowRound.length_le
          refine .again more (ih (nodup_borrowRound nodup) (borrowRound_subset declared) ?_)
          omega

theorem Settles.borrowRound_eq (h : Settles structs names final) :
    borrowRound structs final = final := by
  induction h with
  | stable same => exact (suffix_borrowRound.eq_of_length same.symm).symm
  | again _ _ ih => exact ih

theorem Settles.keeps {P : List String → Prop} (h : Settles structs names final) (start : P names)
    (add : ∀ names, P names → ∀ s ∈ structs, s.name ∉ names →
      (∃ f ∈ s.fields, borrows names f.type = true) → P (s.name :: names)) : P final := by
  induction h with
  | stable _ => exact start
  | again _ _ ih => exact ih (borrowRound_keeps start add)

end Rounds

theorem settles_borrowingStructs (d : Document) : Settles d.structs [] (borrowingStructs d) :=
  settles_borrowUntilStable List.nodup_nil (List.nil_subset _) (Nat.le_add_right ..)

theorem mem_borrowingStructs_of_field {d : Document} {s : StructDecl} (member : s ∈ d.structs)
    {f : FieldDecl} (field : f ∈ s.fields)
    (borrowed : borrows (borrowingStructs d) f.type = true) : s.name ∈ borrowingStructs d :=
  mem_of_borrowRound_eq (settles_borrowingStructs d).borrowRound_eq member field borrowed

theorem leadsToBorrowed_of_mem {d : Document} :
    ∀ name ∈ borrowingStructs d, d.LeadsToBorrowed name := by
  refine (settles_borrowingStructs d).keeps
    (P := fun names => ∀ name ∈ names, d.LeadsToBorrowed name) (List.forall_mem_nil _) ?_
  intro names reached s member _ borrowed
  obtain ⟨f, field, borrowed⟩ := borrowed
  refine List.forall_mem_cons.mpr ⟨?_, reached⟩
  obtain direct | ⟨next, known, occurs⟩ := borrows_iff.mp borrowed
  · exact ⟨s, member, .refl, f, field, direct⟩
  · obtain ⟨t, there, path, last⟩ := reached next known
    exact ⟨t, there, path.head ⟨s, member, rfl, f, field, occurs⟩, last⟩

theorem mem_borrowingStructs_iff {d : Document} {name : String} :
    name ∈ borrowingStructs d ↔ d.LeadsToBorrowed name := by
  refine ⟨leadsToBorrowed_of_mem name, ?_⟩
  rintro ⟨t, there, path, f, field, direct⟩
  -- Back along the path, every struct has a field that borrows.
  induction path using Relation.ReflTransGen.head_induction_on with
  | refl => exact mem_borrowingStructs_of_field there field (borrows_iff.mpr (.inl direct))
  | head edge _ known =>
      obtain ⟨s, member, rfl, g, field, occurs⟩ := edge
      exact mem_borrowingStructs_of_field member field (borrows_iff.mpr (.inr ⟨_, known, occurs⟩))

/-- Where no two structs share a name, those with a field that borrows are those collected. -/
theorem exists_borrows_iff {d : Document} (nodup : (d.structs.map (·.name)).Nodup) {s : StructDecl}
    (member : s ∈ d.structs) :
    (∃ f ∈ s.fields, borrows (borrowingStructs d) f.type = true) ↔
      s.name ∈ borrowingStructs d := by
  constructor
  · rintro ⟨f, field, borrowed⟩
    exact mem_borrowingStructs_of_field member field borrowed
  · intro known
    obtain ⟨t, there, path, f, field, direct⟩ := leadsToBorrowed_of_mem s.name known
    obtain same | ⟨next, edge, rest⟩ := path.cases_head
    · obtain rfl := List.inj_on_of_nodup_map nodup member there same
      exact ⟨f, field, borrows_iff.mpr (.inl direct)⟩
    · obtain ⟨s', member', same, g, field', occurs⟩ := edge
      obtain rfl := List.inj_on_of_nodup_map nodup member' member same
      have reached := mem_borrowingStructs_iff.mpr ⟨t, there, rest, f, field, direct⟩
      exact ⟨g, field', borrows_iff.mpr (.inr ⟨next, reached, occurs⟩)⟩

/-! Printed types. -/

def NamesLifetime (text : String) : Prop := "'a".toList <:+: text.toList

theorem NamesLifetime.append_left {text : String} (h : NamesLifetime text) (front : String) :
    NamesLifetime (front ++ text) := by
  rw [NamesLifetime, String.toList_append]
  exact List.IsInfix.trans h (List.suffix_append ..).isInfix

theorem NamesLifetime.append_right {text : String} (h : NamesLifetime text) (rest : String) :
    NamesLifetime (text ++ rest) := by
  rw [NamesLifetime, String.toList_append]
  exact List.IsInfix.trans h (List.prefix_append ..).isInfix

theorem namesLifetime_fixed {text : String} (h : Fixed (['\'', 'a'] <:+: ·) text) :
    NamesLifetime text := h

/-- No apostrophe stands in the text, so no lifetime does. -/
def Unquoted (text : String) : Prop := '\'' ∉ text.toList

theorem Unquoted.not_namesLifetime {text : String} (h : Unquoted text) : ¬ NamesLifetime text :=
  fun found => h (found.subset (List.mem_cons_self ..))

@[simp] theorem unquoted_append {a b : String} : Unquoted (a ++ b) ↔ Unquoted a ∧ Unquoted b := by
  simp [Unquoted]

@[simp] theorem unquoted_fixed {text : String} (fixed : Fixed ('\'' ∉ ·) text) : Unquoted text :=
  fixed

theorem unquoted_of_worded {text : String} (h : Worded text) : Unquoted text :=
  h.not_mem (by decide)

@[simp] theorem unquoted_scalar (t : ScalarType) : Unquoted t.name :=
  unquoted_of_worded (PrimitiveType.scalar t).identifier_name.worded

theorem namesLifetime_formType {borrowing : List String} {type : TypeExpr}
    (h : borrows borrowing type = true) : NamesLifetime (formType borrowing .borrowed type) := by
  induction type with
  | primitive p =>
      cases p with
      | scalar t => cases h
      | text => exact namesLifetime_fixed (fixed_ofList (by decide))
  | named name =>
      rw [borrows] at h
      rw [formType, h, Bool.and_true, beq_self_eq_true, if_pos rfl]
      exact .append_left (namesLifetime_fixed (fixed_ofList (by decide))) _
  | array element ih =>
      rw [borrows, Bool.or_eq_true] at h
      unfold formType
      cases found : fixed? element with
      | some t =>
          have front : NamesLifetime "ArrayView<'a, " :=
            namesLifetime_fixed (fixed_ofList (by decide))
          exact (front.append_right t.name).append_right ">"
      | none =>
          have inner := ih (h.resolve_left (by simp [found]))
          exact (inner.append_left "Vec<").append_right ">"

theorem unquoted_formType {borrowing : List String} {type : TypeExpr} (spelled : SpelledType type)
    (h : borrows borrowing type = false) : Unquoted (formType borrowing .borrowed type) := by
  induction type with
  | primitive p =>
      cases p with
      | scalar t => exact unquoted_scalar t
      | text => cases h
  | named name =>
      rw [borrows] at h
      rw [formType, h, Bool.and_false, if_neg Bool.false_ne_true]
      exact unquoted_of_worded (worded_formName (spelled name (.named name)) .borrowed)
  | array element ih =>
      rw [borrows, Bool.or_eq_false_iff] at h
      have inner := ih (fun name names => spelled name (.array names)) h.2
      unfold formType
      cases found : fixed? element with
      | some t => simp [found] at h
      | none =>
          simp (disch := (with_reducible apply fixed_ofList; decide)) only [unquoted_append,
            unquoted_fixed, inner, and_self]

theorem namesLifetime_fieldType_iff {borrowing : List String} {f : FieldDecl}
    (spelled : SpelledField f) :
    NamesLifetime (fieldType borrowing .borrowed f) ↔ borrows borrowing f.type = true := by
  unfold fieldType
  cases borrowed : borrows borrowing f.type with
  | true =>
      have inner := namesLifetime_formType borrowed
      simp only [iff_true]
      split
      · exact (inner.append_left "Option<").append_right ">"
      · exact inner
  | false =>
      have inner := unquoted_formType spelled.type borrowed
      simp only [Bool.false_eq_true, iff_false]
      apply Unquoted.not_namesLifetime
      split
      · simp (disch := (with_reducible apply fixed_ofList; decide)) only [unquoted_append,
          unquoted_fixed, inner, and_self]
      · exact inner

/-! Declarations. -/

/-- Among the type definitions of a struct, its borrowed form is declared with the given text behind
its name. -/
def DeclaresBorrowed (borrowing : List String) (s : StructDecl) (parameters : String) : Prop :=
  opening ("pub struct " ++ typeName s.name ++ "Ref" ++ parameters) ∈ types borrowing s

theorem Commented.head?_ne {line : String} (h : Commented line) : line.toList.head? ≠ some 'p' := by
  rw [Commented] at h
  cases shape : line.toList with
  | nil => exact (Option.some_ne_none 'p').symm
  | cons c rest =>
      rintro ⟨⟩
      rw [shape] at h
      simp at h

theorem head?_append_ne {front : String} (h : Fixed (·.head?.any (· != 'p') = true) front)
    (rest : String) : (front ++ rest).toList.head? ≠ some 'p' := by
  rw [Fixed] at h
  rw [String.toList_append, List.head?_append]
  cases shape : front.toList.head? with
  | none => simp [shape] at h
  | some c =>
      rintro ⟨⟩
      simp [shape] at h

theorem head?_fieldLines {borrowing : List String} {form : Form} {documented : Bool}
    {f : FieldDecl} :
    ∀ line ∈ fieldLines borrowing form documented f, line.toList.head? ≠ some 'p' := by
  unfold fieldLines
  rw [List.forall_mem_append, List.forall_mem_singleton]
  constructor
  · split
    · exact fun line member => (commented_docLines (by simp) f.doc line member).head?_ne
    · exact List.forall_mem_nil _
  · simp only [String.append_assoc]
    exact head?_append_ne (fixed_ofList (by decide)) _

/-- No other line of the definitions declares the borrowed form: they start otherwise, or go on
otherwise behind the name of the type. -/
theorem declaresBorrowed_iff {borrowing : List String} {s : StructDecl} {parameters : String} :
    DeclaresBorrowed borrowing s parameters ↔ parameters = lifetime borrowing s := by
  let line := opening ("pub struct " ++ typeName s.name ++ "Ref" ++ parameters)
  have start : line.toList.head? = some 'p' := by simp [line, opening]
  have doc : line ∉ docLines "" s.doc := fun member =>
    (commented_docLines (by simp) s.doc line member).head?_ne start
  have fields (form : Form) (documented : Bool) :
      line ∉ s.fields.flatMap (fieldLines borrowing form documented) := by
    intro member
    obtain ⟨f, -, member⟩ := List.mem_flatMap.mp member
    exact head?_fieldLines line member start
  have fixed {other : String} (differs : Fixed (·.head? ≠ some 'p') other) : line ≠ other :=
    fun same => differs (same ▸ start)
  have note {front : String} (differs : Fixed (·.head?.any (· != 'p') = true) front)
      (rest : String) : line ≠ front ++ rest :=
    fun same => head?_append_ne differs rest (same ▸ start)
  have owned : line ≠ opening ("pub struct " ++ typeName s.name) := by
    simp [line, opening, String.append_assoc, ← String.toList_inj]
  have stored : line ≠ opening ("pub struct " ++ typeName s.name ++ "In") := by
    simp [line, opening, String.append_assoc, ← String.toList_inj]
  have borrowed : line = opening ("pub struct " ++ typeName s.name ++ "Ref" ++
      lifetime borrowing s) ↔ parameters = lifetime borrowing s := by
    simp [line, opening, String.append_assoc]
  change line ∈ types borrowing s ↔ parameters = lifetime borrowing s
  unfold types
  simp only [List.mem_append, List.mem_cons, List.not_mem_nil, doc, fields, owned, stored, borrowed,
    false_or, or_false]
  simp (disch := (with_reducible apply fixed_ofList; decide)) only [String.append_assoc, fixed,
    note, false_or, or_false]

theorem lifetime_eq_iff {borrowing : List String} {s : StructDecl} :
    "<'a>" = lifetime borrowing s ↔ s.name ∈ borrowing := by
  rw [lifetime, ← List.contains_iff_mem]
  split
  · next known => exact iff_of_true rfl known
  · next unknown => exact iff_of_false (by decide) unknown

/-- In a valid document, the rounds end with exactly the structs from which references lead to a
field that borrows by itself. They are the structs with a field whose borrowed type names the
lifetime, and the structs whose borrowed form is declared with it. -/
theorem borrowingStructs_exact {d : Document} (valid : d.violations = []) :
    Settles d.structs [] (borrowingStructs d) ∧
    (∀ name, name ∈ borrowingStructs d ↔ d.LeadsToBorrowed name) ∧
    ∀ s ∈ d.structs,
      ((∃ f ∈ s.fields, NamesLifetime (fieldType (borrowingStructs d) .borrowed f)) ↔
        s.name ∈ borrowingStructs d) ∧
      (DeclaresBorrowed (borrowingStructs d) s "<'a>" ↔ s.name ∈ borrowingStructs d) := by
  obtain ⟨-, -, naming, -⟩ := Document.passes_of_valid valid
  have nodup := (Document.namingViolations_eq_nil_iff.mp naming).2
  refine ⟨settles_borrowingStructs d, fun name => mem_borrowingStructs_iff, fun s member => ?_⟩
  have spelled := (spelled_of_valid valid s member).fields
  have printed : (∃ f ∈ s.fields, NamesLifetime (fieldType (borrowingStructs d) .borrowed f)) ↔
      ∃ f ∈ s.fields, borrows (borrowingStructs d) f.type = true :=
    exists_congr fun f => and_congr_right fun field => namesLifetime_fieldType_iff (spelled f field)
  exact ⟨printed.trans (exists_borrows_iff nodup member),
    declaresBorrowed_iff.trans lifetime_eq_iff⟩

/-- Every struct but the last stands in front of what its references lead to. -/
def trips : Document where
  structs := [
    { name := "Trip"
      position := ⟨1, 8⟩
      doc := none
      fields := [
        ⟨"legs", ⟨2, 3⟩, none, .array (.array (.named "Leg")), false⟩,
        ⟨"fare", ⟨3, 3⟩, none, .named "Fare", true⟩] },
    { name := "Leg"
      position := ⟨5, 8⟩
      doc := none
      fields := [⟨"origin", ⟨6, 3⟩, none, .named "Stop", true⟩] },
    { name := "Stop"
      position := ⟨8, 8⟩
      doc := none
      fields := [⟨"code", ⟨9, 3⟩, none, .array (.primitive (.scalar (.word .u8))), false⟩] },
    { name := "Fare"
      position := ⟨11, 8⟩
      doc := none
      fields := [⟨"cents", ⟨12, 3⟩, none, .primitive (.scalar (.word .u32)), false⟩] }]

theorem trips_violations : trips.violations = [] := by
  have structural : trips.structureViolations = [] := by decide
  have references : trips.referenceViolations = [] := by
    simp [Document.referenceViolations, Document.fieldReferenceViolations, Document.names, trips,
      TypeExpr.named?]
  have naming : trips.namingViolations = [] :=
    Document.namingViolations_eq_nil_iff_byCode.mpr (by decide +kernel)
  have acyclic : trips.cycleViolations = [] := by
    apply Document.cycleViolations_eq_nil_of_measure fun name =>
      if name = "Trip" then 2 else if name = "Leg" then 1 else 0
    simp [trips, TypeExpr.named?]
  rw [Document.violations, structural, references, naming, acyclic]
  rfl

theorem borrowingStructs_exact_trips :
    trips.violations = [] ∧ borrowingStructs trips = ["Trip", "Leg", "Stop"] ∧
      Settles trips.structs [] ["Trip", "Leg", "Stop"] ∧
      trips.LeadsToBorrowed "Trip" ∧ ¬ trips.LeadsToBorrowed "Fare" ∧
      ∀ s ∈ trips.structs,
        ((∃ f ∈ s.fields, NamesLifetime (fieldType ["Trip", "Leg", "Stop"] .borrowed f)) ↔
          s.name ≠ "Fare") ∧
        (DeclaresBorrowed ["Trip", "Leg", "Stop"] s "<'a>" ↔ s.name ≠ "Fare") := by
  have collected : borrowingStructs trips = ["Trip", "Leg", "Stop"] := by decide +kernel
  have named : ∀ s ∈ trips.structs, s.name ∈ ["Trip", "Leg", "Stop"] ↔ s.name ≠ "Fare" := by
    decide
  obtain ⟨settled, reached, each⟩ := borrowingStructs_exact trips_violations
  rw [collected] at settled reached each
  refine ⟨trips_violations, collected, settled, (reached "Trip").mp (by decide),
    mt (reached "Fare").mpr (by decide), fun s member => ?_⟩
  rw [← named s member]
  exact each s member

end Codegen
end SchemaWire
