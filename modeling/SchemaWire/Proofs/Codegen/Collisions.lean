import Mathlib.Data.List.Nodup
import SchemaWire.Codegen.Collisions
import SchemaWire.Proofs.Binds

/-!
Giving out names. A list of names can be given out exactly when they differ from each other and from
those given before; the check gives out the three names of every struct in this way.
-/
namespace SchemaWire.Codegen

theorem give_eq_ok {fault : String → GenerateError} {name owner : String} {given given' : Given} :
    give fault name owner given = .ok given' ↔ name ∉ given ∧ given.insert name owner = given' := by
  unfold give
  by_cases member : name ∈ given
  · simp [member]
  · simp [member]

section Each

variable {α : Type} {fault : α → String → GenerateError} {name owner : α → String} {xs : List α}
  {given : Given}

theorem exists_foldlM_give :
    (∃ given', xs.foldlM (fun given x => give (fault x) (name x) (owner x) given) given =
      .ok given') ↔ (xs.map name).Nodup ∧ ∀ n ∈ xs.map name, n ∉ given := by
  induction xs generalizing given with
  | nil => simp [pure, Except.pure]
  | cons x xs ih =>
      have first : (∃ given', (x :: xs).foldlM (fun given x =>
            give (fault x) (name x) (owner x) given) given = .ok given') ↔
          name x ∉ given ∧ ∃ given', xs.foldlM (fun given x =>
            give (fault x) (name x) (owner x) given) (given.insert (name x) (owner x)) =
              .ok given' := by
        simp only [List.foldlM_cons, except_bind_eq_ok, give_eq_ok]
        constructor
        · rintro ⟨given', _, ⟨absent, rfl⟩, later⟩
          exact ⟨absent, given', later⟩
        · rintro ⟨absent, given', later⟩
          exact ⟨given', _, ⟨absent, rfl⟩, later⟩
      rw [first, ih]
      simp only [List.map_cons, List.nodup_cons, List.forall_mem_cons, Std.HashMap.mem_insert,
        beq_iff_eq, not_or]
      grind

theorem mem_of_foldlM_give {given' : Given}
    (h : xs.foldlM (fun given x => give (fault x) (name x) (owner x) given) given = .ok given')
    {n : String} : n ∈ given' ↔ n ∈ given ∨ n ∈ xs.map name := by
  induction xs generalizing given with
  | nil =>
      cases h
      simp
  | cons x xs ih =>
      rw [List.foldlM_cons] at h
      obtain ⟨_, step, later⟩ := except_bind_eq_ok.mp h
      obtain ⟨-, rfl⟩ := give_eq_ok.mp step
      rw [ih later, Std.HashMap.mem_insert, beq_iff_eq, List.map_cons, List.mem_cons, or_assoc,
        or_left_comm, eq_comm]

end Each

def formNames (s : StructDecl) : List String :=
  [Form.owned, .borrowed, .stored].map (formName s.name)

theorem formNames_eq (s : StructDecl) :
    formNames s = [typeName s.name, typeName s.name ++ "Ref", typeName s.name ++ "In"] := by
  have plain : formName s.name .owned = typeName s.name := String.append_empty
  exact congrArg (· :: [typeName s.name ++ "Ref", typeName s.name ++ "In"]) plain

theorem typeName_mem_formNames (s : StructDecl) : typeName s.name ∈ formNames s := by
  rw [formNames_eq]
  exact List.mem_cons_self ..

/-- What the check does with one struct. -/
def giveStruct (given : Given) (s : StructDecl) : Except GenerateError Given := do
  let given ← giveTypes s given
  let _ ← giveFields s
  return given

theorem giveStruct_eq_ok {s : StructDecl} {given given' : Given} :
    giveStruct given s = .ok given' ↔
      giveTypes s given = .ok given' ∧ (s.fields.map fieldName).Nodup := by
  have fields : (∃ names, giveFields s = .ok names) ↔ (s.fields.map fieldName).Nodup := by
    unfold giveFields
    rw [exists_foldlM_give]
    simp
  rw [← fields]
  constructor
  · intro h
    obtain ⟨types, typed, h⟩ := except_bind_eq_ok.mp h
    obtain ⟨names, named, h⟩ := except_bind_eq_ok.mp h
    cases h
    exact ⟨typed, names, named⟩
  · rintro ⟨typed, names, named⟩
    exact except_bind_eq_ok.mpr ⟨given', typed, except_bind_eq_ok.mpr ⟨names, named, rfl⟩⟩

theorem exists_foldlM_giveStruct {structs : List StructDecl} {given : Given} :
    (∃ given', structs.foldlM giveStruct given = .ok given') ↔
      (structs.flatMap formNames).Nodup ∧ (∀ n ∈ structs.flatMap formNames, n ∉ given) ∧
        ∀ s ∈ structs, (s.fields.map fieldName).Nodup := by
  induction structs generalizing given with
  | nil => simp [pure, Except.pure]
  | cons s structs ih =>
      have types : (∃ given', giveTypes s given = .ok given') ↔
          (formNames s).Nodup ∧ ∀ n ∈ formNames s, n ∉ given := exists_foldlM_give
      have first : (∃ given', (s :: structs).foldlM giveStruct given = .ok given') ↔
          (s.fields.map fieldName).Nodup ∧ ∃ next, giveTypes s given = .ok next ∧
            ∃ given', structs.foldlM giveStruct next = .ok given' := by
        simp only [List.foldlM_cons, except_bind_eq_ok, giveStruct_eq_ok]
        grind
      rw [first, List.flatMap_cons, List.nodup_append, List.forall_mem_append, List.forall_mem_cons]
      constructor
      · rintro ⟨fields, next, typed, rest⟩
        obtain ⟨nodup, absent⟩ := types.mp ⟨next, typed⟩
        obtain ⟨others, apart, later⟩ := ih.mp rest
        have known {n : String} : n ∈ next ↔ n ∈ given ∨ n ∈ formNames s := mem_of_foldlM_give typed
        refine ⟨⟨nodup, others, ?_⟩, ⟨absent, ?_⟩, fields, later⟩
        · rintro n here m there rfl
          exact apart n there (known.mpr (.inr here))
        · exact fun n there earlier => apart n there (known.mpr (.inl earlier))
      · rintro ⟨⟨nodup, others, differ⟩, ⟨absent, apart⟩, fields, later⟩
        obtain ⟨next, typed⟩ := types.mpr ⟨nodup, absent⟩
        have known {n : String} : n ∈ next ↔ n ∈ given ∨ n ∈ formNames s := mem_of_foldlM_give typed
        refine ⟨fields, next, typed, ih.mpr ⟨others, ?_, later⟩⟩
        intro n there earlier
        obtain earlier | here := known.mp earlier
        · exact apart n there earlier
        · exact differ n here n there rfl

theorem mem_initiallyGiven {name : String} : name ∈ initiallyGiven ↔ name ∈ takenNames := by
  have each (names : List String) (given : Given) :
      name ∈ names.foldl (fun given name => given.insert name "the generated runtime") given ↔
        name ∈ given ∨ name ∈ names := by
    induction names generalizing given with
    | nil => simp
    | cons first names ih =>
        rw [List.foldl_cons, ih, Std.HashMap.mem_insert, beq_iff_eq, List.mem_cons, or_assoc,
          or_left_comm, eq_comm]
  rw [initiallyGiven, each]
  simp

theorem check_eq_ok {d : Document} :
    check d = .ok () ↔ d.structs.length ≤ 65535 ∧
      ∃ given, d.structs.foldlM giveStruct initiallyGiven = .ok given := by
  unfold check
  by_cases many : 65535 < d.structs.length
  · rw [if_pos many]
    constructor
    · intro h
      cases h
    · rintro ⟨few, -⟩
      exact absurd few (Nat.not_le_of_lt many)
  · rw [if_neg many]
    constructor
    · intro h
      obtain ⟨given, named, -⟩ := except_bind_eq_ok.mp h
      exact ⟨Nat.le_of_not_lt many, given, named⟩
    · rintro ⟨-, given, named⟩
      exact except_bind_eq_ok.mpr ⟨given, named, rfl⟩

/-- A document passes exactly if there are type ids for all its structs, the names of all their
forms differ from each other and from those that every file takes, and within each struct the names
of the fields differ from each other. -/
theorem check_eq_ok_iff (d : Document) :
    check d = .ok () ↔
      d.structs.length ≤ 65535 ∧
      (d.structs.flatMap fun s =>
        [typeName s.name, typeName s.name ++ "Ref", typeName s.name ++ "In"]).Nodup ∧
      (∀ s ∈ d.structs, typeName s.name ∉ takenNames ∧ typeName s.name ++ "Ref" ∉ takenNames ∧
        typeName s.name ++ "In" ∉ takenNames) ∧
      ∀ s ∈ d.structs, (s.fields.map fieldName).Nodup := by
  have taken : (∀ n ∈ d.structs.flatMap formNames, n ∉ initiallyGiven) ↔
      ∀ s ∈ d.structs, typeName s.name ∉ takenNames ∧ typeName s.name ++ "Ref" ∉ takenNames ∧
        typeName s.name ++ "In" ∉ takenNames := by
    simp only [List.forall_mem_flatMap, formNames_eq, mem_initiallyGiven, List.forall_mem_cons,
      List.not_mem_nil, false_imp_iff, implies_true, and_true]
  rw [check_eq_ok, exists_foldlM_giveStruct, taken]
  simp only [← formNames_eq]

/-- Structs whose names were given out have different types. -/
theorem typeNames_nodup {structs : List StructDecl} (h : (structs.flatMap formNames).Nodup) :
    (structs.map fun s => typeName s.name).Nodup := by
  obtain ⟨-, apart⟩ := List.nodup_flatMap.mp h
  rw [List.Nodup, List.pairwise_map]
  refine apart.imp ?_
  intro s t disjoint same
  exact disjoint (typeName_mem_formNames s) (same ▸ typeName_mem_formNames t)

end SchemaWire.Codegen
