import SchemaWire.Proofs.Codegen.Collisions
import SchemaWire.Proofs.Codegen.Lines
import SchemaWire.Proofs.Document.Resolution
import SchemaWire.Proofs.Document.RoundTrip
import SchemaWire.Proofs.Value.Framing

/-!
Type ids. The lines of a generated file that declare type ids, its lines that decode by type id and
the resolved schema number the structs alike.
-/
namespace SchemaWire

theorem Schema.indexOfTypeId?_eq_some_iff {schema : Schema} {id : UInt16} {i : Nat} :
    schema.indexOfTypeId? id = some i ↔ id.toNat = i + 1 ∧ i < schema.defs.length := by
  unfold indexOfTypeId?
  grind

namespace Codegen

open Text (OneLine)

def implLine (name : String) : String := "impl Message for " ++ name ++ " \x7b"

namespace SourceFile

def lines (file : SourceFile) : List String :=
  (file.contents.toList.splitOn '\n').map String.ofList

/-- A line opens the messages of the type, and the next line tells its id. -/
def Declares (file : SourceFile) (name : String) (id : Nat) : Prop :=
  [implLine name, idLine id] <:+: file.lines

/-- A line decodes frames with this id as messages of the type. -/
def Dispatches (file : SourceFile) (id : Nat) (name : String) : Prop := armLine id name ∈ file.lines

end SourceFile

/-! The lines that give type ids tell what they give. -/

theorem repr_inj {m n : Nat} (h : m.repr.toList = n.repr.toList) : m = n := by
  rw [Nat.toList_repr, Nat.toList_repr] at h
  rw [← Nat.ofDigitChars_ten_toDigits (n := m), h, Nat.ofDigitChars_ten_toDigits]

theorem idLine_inj {m n : Nat} (h : idLine m = idLine n) : m = n := by
  unfold idLine at h
  rw [String.append_left_inj, String.append_right_inj] at h
  exact repr_inj (congrArg String.toList h)

/-- A number in front of a space is told apart from what follows. -/
theorem repr_append_inj {m n : Nat} {a b : String}
    (h : m.repr ++ (" " ++ a) = n.repr ++ (" " ++ b)) : m = n ∧ a = b := by
  have front (k : Nat) (c : String) :
      (k.repr ++ (" " ++ c)).toList.takeWhile Char.isDigit = k.repr.toList := by
    have all : ∀ d ∈ k.repr.toList, d.isDigit = true := by
      rw [Nat.toList_repr]
      exact fun d => Nat.isDigit_of_mem_toDigits (by decide) (by decide)
    rw [String.toList_append, List.takeWhile_append_of_pos all]
    simp
  obtain rfl : m = n := repr_inj (by rw [← front m a, h, front])
  exact ⟨rfl, (String.append_right_inj _).mp ((String.append_right_inj _).mp h)⟩

theorem doubled_inj {a b : String} (h : a ++ ("(" ++ a) = b ++ ("(" ++ b)) : a = b := by
  have lists := congrArg String.toList h
  simp only [String.toList_append] at lists
  have lengths := congrArg List.length lists
  simp only [List.length_append] at lengths
  exact String.toList_inj.mp (List.append_inj lists (by omega)).1

theorem armLine_inj {m n : Nat} {a b : String} (h : armLine m a = armLine n b) : m = n ∧ a = b := by
  have spaced : " => Ok(AnyMessage::" = " " ++ "=> Ok(AnyMessage::" := rfl
  unfold armLine at h
  rw [String.append_left_inj, spaced] at h
  simp only [String.append_assoc, String.append_right_inj, Nat.toString_eq_repr] at h
  obtain ⟨same, rest⟩ := repr_append_inj h
  exact ⟨same, doubled_inj ((String.append_right_inj _).mp rest)⟩

theorem armLine_ne_idLine (id id' : Nat) (name : String) : armLine id name ≠ idLine id' := by
  intro same
  obtain ⟨digit, -, rest, front⟩ := prefix_armLine id name
  obtain ⟨rest', front'⟩ := prefix_idLine id'
  rw [same, ← front'] at front
  simp [armFront, idFront] at front

theorem silent_empty : Silent "" := silent_fixed (fixed_ofList (by decide))

theorem implLine_inj {a b : String} : implLine a = implLine b ↔ a = b := by
  unfold implLine
  rw [String.append_left_inj, String.append_right_inj]

/-! The lines of a file. -/

@[simp] theorem oneLine_idLine (id : Nat) : OneLine (idLine id) := by
  unfold idLine
  simp (disch := (with_reducible apply fixed_ofList; decide))

theorem oneLine_armLine {name : String} (h : OneLine name) (id : Nat) :
    OneLine (armLine id name) := by
  unfold armLine
  simp (disch := (with_reducible apply fixed_ofList; decide)) [h]

theorem silent_implLine {name : String} (h : OneLine name) : Silent (implLine name) := by
  unfold implLine
  simp (disch := (with_reducible apply fixed_ofList; decide)) [String.append_assoc, h]

theorem oneLine_quote {name : String} (h : Identifier name) : OneLine (Text.quote name) := by
  have table : ∀ n : Fin 128, isIdentChar (Char.ofNat n) = true →
      '\n' ∉ Text.jsonEscape (Char.ofNat n) := by decide +kernel
  have each : ∀ c ∈ name.toList, '\n' ∉ Text.jsonEscape c := by
    intro c member
    obtain ⟨n, rfl, ident⟩ := (h.worded c member).exists_index
    exact table n ident
  apply Text.oneLine_ofList
  simpa using each

def structLines (borrowing : List String) (placed : StructDecl × Nat) : Lines :=
  assemble placed.1 (Schema.typeIdAt placed.2) (partsOf borrowing placed.1)

/-- The parts of a struct give no type id; the line behind the one that opens its messages does. -/
theorem structLines_eq {s : StructDecl} (h : SpelledStruct s) (borrowing : List String) (i : Nat) :
    ∃ before after, structLines borrowing (s, i) =
      before ++ implLine (typeName s.name) :: idLine (Schema.typeIdAt i).toNat :: after ∧
      (∀ line ∈ before, Silent line) ∧ ∀ line ∈ after, Silent line := by
  refine ⟨types borrowing s, ["    const NAME: &'static str = " ++ Text.quote s.name ++ ";", ""] ++
    (sizeCalculator s ++ [""] ++ encoder s ++ [""] ++ decoder s ++ ["\x7d", ""] ++
      borrowedDecoder borrowing s ++ arenaDecoder borrowing s), ?_, silent_types borrowing h, ?_⟩
  · unfold structLines assemble partsOf opening implLine idLine
    simp only [List.append_assoc, List.cons_append, List.nil_append]
  · simp only [List.forall_mem_append]
    refine ⟨?_, ⟨⟨⟨⟨⟨⟨⟨silent_sizeCalculator h, ?_⟩, silent_encoder h⟩, ?_⟩, silent_decoder h⟩, ?_⟩,
      silent_borrowedDecoder borrowing h⟩, silent_arenaDecoder borrowing h⟩⟩ <;>
      simp (disch := (with_reducible apply fixed_ofList; decide))
        [String.append_assoc, oneLine_quote h.name]

theorem framing_eq {d : Document} (h : ∀ s ∈ d.structs, SpelledStruct s) :
    ∃ before after, framing d =
      before ++ d.structs.zipIdx.map (fun (s, i) => armLine (i + 1) (typeName s.name)) ++ after ∧
      (∀ line ∈ before, Silent line) ∧ ∀ line ∈ after, Silent line := by
  have arms : (d.structs.map fun s => typeName s.name).mapIdx dispatchLine =
      d.structs.zipIdx.map fun (s, i) => armLine (i + 1) (typeName s.name) := by
    rw [List.mapIdx_eq_zipIdx_map, List.zipIdx_map, List.map_map]
    rfl
  have names : ∀ s ∈ d.structs,
      Silent ("    " ++ (typeName s.name ++ ("(" ++ (typeName s.name ++ "),")))) ∧
        OneLine (typeName s.name) :=
    fun s member => ⟨silent_variant (worded_typeName (h s member).name),
      oneLine_typeName (h s member).name⟩
  unfold framing
  dsimp only
  rw [arms]
  refine ⟨_, ["        other => Err(WireError::UnknownTypeId(other)),", "    \x7d", "\x7d"], rfl,
    ?_, ?_⟩
  · unfold opening
    simpa (disch := (with_reducible apply fixed_ofList; decide))
      [String.append_assoc, or_imp, forall_and] using names
  · simp (disch := (with_reducible apply fixed_ofList; decide))

/-! Two lines in a row are found where the second is. -/

section Pairs

variable {a b : String} {front back : List String}

theorem pair_infix_concat {x : String} :
    [a, b] <:+: front ++ [x] ↔ (b = x ∧ [a] <:+ front) ∨ [a, b] <:+: front := by
  have ends : [a, b] <:+ front ++ [x] ↔ b = x ∧ [a] <:+ front := by
    rw [List.suffix_concat_iff]
    constructor
    · rintro (empty | ⟨before, same, suffix⟩)
      · cases empty
      · obtain ⟨rfl, last⟩ := List.append_inj' (show [a] ++ [b] = before ++ [x] from same) rfl
        exact ⟨List.head_eq_of_cons_eq last, suffix⟩
    · rintro ⟨rfl, suffix⟩
      exact .inr ⟨[a], rfl, suffix⟩
  rw [List.infix_concat_iff, ends]

theorem pair_infix_append (absent : b ∉ back) :
    [a, b] <:+: front ++ back ↔ [a, b] <:+: front := by
  induction back generalizing front with
  | nil => rw [List.append_nil]
  | cons x back ih =>
      rw [List.mem_cons, not_or] at absent
      rw [List.append_cons, ih absent.2, pair_infix_concat]
      simp [absent.1]

/-- Between lines of which none is the second, a pair is found only at the pair of lines there. -/
theorem pair_infix_block {before after : List String} {a' b' : String} (absentBefore : b ∉ before)
    (absentAfter : b ∉ after) (other : b ≠ a') :
    [a, b] <:+: front ++ (before ++ a' :: b' :: after) ↔ [a, b] <:+: front ∨ (a = a' ∧ b = b') := by
  have shape : front ++ (before ++ a' :: b' :: after) =
      front ++ before ++ [a'] ++ [b'] ++ after := by simp
  rw [shape, pair_infix_append absentAfter, pair_infix_concat,
    List.singleton_suffix_append_singleton_iff, pair_infix_concat, pair_infix_append absentBefore]
  simp [other, and_comm, or_comm]

end Pairs

theorem not_mem_of_silent {lines : List String} (h : ∀ line ∈ lines, Silent line) (id : Nat) :
    idLine id ∉ lines := fun member => (h _ member).not_id id rfl

/-- The pairs of lines that open the messages of a type and tell its id. -/
theorem pair_infix_structs (borrowing : List String) {placed : List (StructDecl × Nat)}
    (h : ∀ p ∈ placed, SpelledStruct p.1) {front : List String} {a : String} {id : Nat} :
    [a, idLine id] <:+: front ++ placed.flatMap (structLines borrowing) ↔
      [a, idLine id] <:+: front ∨
        ∃ p ∈ placed, a = implLine (typeName p.1.name) ∧ id = (Schema.typeIdAt p.2).toNat := by
  -- Each struct joins the lines in front, where it adds the one pair of its own.
  induction placed generalizing front with
  | nil => simp
  | cons p placed ih =>
      obtain ⟨s, i⟩ := p
      obtain ⟨here, others⟩ := List.forall_mem_cons.mp h
      obtain ⟨before, after, shape, silentBefore, silentAfter⟩ := structLines_eq here borrowing i
      have opens := silent_implLine (oneLine_typeName here.name)
      have told : idLine id = idLine (Schema.typeIdAt i).toNat ↔ id = (Schema.typeIdAt i).toNat :=
        ⟨idLine_inj, congrArg idLine⟩
      rw [List.flatMap_cons, ← List.append_assoc, ih others, shape,
        pair_infix_block (not_mem_of_silent silentBefore id) (not_mem_of_silent silentAfter id)
          (opens.not_id id).symm, told]
      simp [or_assoc]

def fileLines (d : Document) : Lines :=
  header "brine_sdp::wire" d ++
    d.structs.zipIdx.flatMap (structLines (borrowingStructs d)) ++ framing d

theorem contents_fileWith (d : Document) :
    (fileWith assemble {} d).contents = Text.unlines (fileLines d) := by
  unfold fileWith fileLines structLines
  dsimp only
  simp only [Text.unlines_append, List.flatMap_def, Text.unlines_flatten, List.map_map,
    List.mapIdx_eq_zipIdx_map, Function.comp_def]

theorem silent_runtimeHeader (d : Document) :
    ∀ line ∈ header "brine_sdp::wire" d, Silent line :=
  silent_header (oneLine_fixed (fixed_ofList (by decide))) d

section File

variable {d : Document} (spelled : ∀ s ∈ d.structs, SpelledStruct s)
include spelled

theorem spelled_placed : ∀ p ∈ d.structs.zipIdx, SpelledStruct p.1 :=
  fun _ member => spelled _ (List.fst_mem_of_mem_zipIdx member)

theorem mem_structs {line : String}
    (member : line ∈ d.structs.zipIdx.flatMap (structLines (borrowingStructs d))) :
    Silent line ∨ ∃ id, line = idLine id := by
  obtain ⟨⟨s, i⟩, placed, member⟩ := List.mem_flatMap.mp member
  have here := spelled_placed spelled _ placed
  obtain ⟨before, after, shape, silentBefore, silentAfter⟩ :=
    structLines_eq here (borrowingStructs d) i
  rw [shape, List.mem_append, List.mem_cons, List.mem_cons] at member
  obtain member | rfl | rfl | member := member
  · exact .inl (silentBefore line member)
  · exact .inl (silent_implLine (oneLine_typeName here.name))
  · exact .inr ⟨_, rfl⟩
  · exact .inl (silentAfter line member)

theorem mem_framing {line : String} (member : line ∈ framing d) :
    Silent line ∨ ∃ p ∈ d.structs.zipIdx, line = armLine (p.2 + 1) (typeName p.1.name) := by
  obtain ⟨before, after, shape, silentBefore, silentAfter⟩ := framing_eq spelled
  rw [shape, List.mem_append, List.mem_append, List.mem_map] at member
  obtain (member | ⟨p, placed, rfl⟩) | member := member
  · exact .inl (silentBefore line member)
  · exact .inr ⟨p, placed, rfl⟩
  · exact .inl (silentAfter line member)

theorem mem_fileLines {line : String} (member : line ∈ fileLines d) :
    Silent line ∨ (∃ id, line = idLine id) ∨
      ∃ p ∈ d.structs.zipIdx, line = armLine (p.2 + 1) (typeName p.1.name) := by
  rw [fileLines, List.mem_append, List.mem_append] at member
  obtain (member | member) | member := member
  · exact .inl (silent_runtimeHeader d line member)
  · exact (mem_structs spelled member).imp_right .inl
  · exact (mem_framing spelled member).imp_right .inr

theorem lines_fileWith : (fileWith assemble {} d).lines = fileLines d ++ [""] := by
  have each : ∀ line ∈ fileLines d, OneLine line := by
    intro line member
    obtain silent | ⟨id, rfl⟩ | ⟨p, placed, rfl⟩ := mem_fileLines spelled member
    · exact silent.oneLine
    · exact oneLine_idLine id
    · exact oneLine_armLine (oneLine_typeName (spelled_placed spelled p placed).name) _
  rw [SourceFile.lines, contents_fileWith, Text.splitOn_unlines each]
  simp

theorem declares_iff {name : String} {id : Nat} :
    (fileWith assemble {} d).Declares name id ↔
      ∃ p ∈ d.structs.zipIdx, name = typeName p.1.name ∧ id = (Schema.typeIdAt p.2).toNat := by
  have start : ¬ [implLine name, idLine id] <:+: header "brine_sdp::wire" d :=
    fun found => not_mem_of_silent (silent_runtimeHeader d) id (found.subset (by simp))
  have rest : idLine id ∉ framing d ++ [""] := by
    intro member
    obtain member | last := List.mem_append.mp member
    · obtain silent | ⟨p, -, same⟩ := mem_framing spelled member
      · exact silent.not_id id rfl
      · exact armLine_ne_idLine _ _ _ same.symm
    · exact silent_empty.not_id id (List.mem_singleton.mp last).symm
  rw [SourceFile.Declares, lines_fileWith spelled, fileLines, List.append_assoc _ (framing d),
    pair_infix_append rest, pair_infix_structs _ (spelled_placed spelled)]
  simp only [start, false_or, implLine_inj]

theorem dispatches_iff {name : String} {id : Nat} :
    (fileWith assemble {} d).Dispatches id name ↔
      ∃ p ∈ d.structs.zipIdx, name = typeName p.1.name ∧ id = p.2 + 1 := by
  rw [SourceFile.Dispatches, lines_fileWith spelled]
  constructor
  · intro member
    obtain member | last := List.mem_append.mp member
    · obtain silent | ⟨id', same⟩ | ⟨p, placed, same⟩ := mem_fileLines spelled member
      · exact absurd rfl (silent.not_arm id name)
      · exact absurd same (armLine_ne_idLine id id' name)
      · obtain ⟨number, type⟩ := armLine_inj same
        exact ⟨p, placed, type, number⟩
    · exact absurd (List.mem_singleton.mp last).symm (silent_empty.not_arm id name)
  · rintro ⟨p, placed, rfl, rfl⟩
    obtain ⟨before, after, shape, -, -⟩ := framing_eq spelled
    have arm : armLine (p.2 + 1) (typeName p.1.name) ∈ framing d := by
      rw [shape]
      exact List.mem_append_left _ (List.mem_append_right _ (List.mem_map.mpr ⟨p, placed, rfl⟩))
    exact List.mem_append_left _ (List.mem_append_right _ arm)

end File

theorem spelled_of_valid {d : Document} (valid : d.violations = []) :
    ∀ s ∈ d.structs, SpelledStruct s := by
  obtain ⟨-, references, naming, -⟩ := Document.passes_of_valid valid
  have declared := Document.referenceViolations_eq_nil_iff.mp references
  have named := (Document.namingViolations_eq_nil_iff.mp naming).1
  intro s member
  refine ⟨(named s member).1, fun f field => ⟨((named s member).2.2.1 f field).1, ?_⟩⟩
  intro name occurs
  obtain ⟨t, there, rfl⟩ := (declared s member f field).1 name occurs
  exact (named t there).1

theorem generate_eq_ok {d : Document} {file : SourceFile} :
    generate d = .ok file ↔
      d.violations = [] ∧ check d = .ok () ∧ file = fileWith assemble {} d := by
  unfold generate Document.verify Codegen.file
  cases d.violations with
  | nil =>
    cases check d with
    | error => simp [bind, Except.bind, Except.mapError]
    | ok => simp [bind, Except.bind, Except.mapError, pure, Except.pure, eq_comm]
  | cons => simp [bind, Except.bind]

/-- A type stands for one position only. -/
theorem exists_placed_iff {d : Document} (nodup : (d.structs.map fun s => typeName s.name).Nodup)
    {i : Nat} {s : StructDecl} (located : d.structs[i]? = some s) (P : Nat → Prop) :
    (∃ p ∈ d.structs.zipIdx, typeName s.name = typeName p.1.name ∧ P p.2) ↔ P i := by
  constructor
  · rintro ⟨⟨t, j⟩, placed, same, holds⟩
    have there := List.mk_mem_zipIdx_iff_getElem?.mp placed
    have bound : i < (d.structs.map fun s => typeName s.name).length := by
      rw [List.length_map]
      exact (List.getElem?_eq_some_iff.mp located).1
    obtain rfl : i = j := by
      refine (List.getElem?_inj bound nodup).mp ?_
      simp only [List.getElem?_map, located, there, Option.map_some, same]
    exact holds
  · intro holds
    exact ⟨(s, i), List.mk_mem_zipIdx_iff_getElem?.mpr located, rfl, holds⟩

theorem typeIdOf?_of_resolved {d : Document} {schema : Schema} (wf : schema.WellFormed)
    (resolved : List.Forall₂ d.ResolvedStruct d.structs schema.defs) {i : Nat} {s : StructDecl}
    (located : d.structs[i]? = some s) :
    schema.typeIdOf? s.name = some (Schema.typeIdAt i) := by
  have bound : i < schema.defs.length :=
    resolved.length_eq ▸ (List.getElem?_eq_some_iff.mp located).1
  have there := List.getElem?_eq_getElem bound
  obtain ⟨s', located', struct⟩ := Document.resolved_at resolved there
  obtain rfl := Option.some.inj (located.symm.trans located')
  rw [← struct.name, Schema.typeIdOf?, wf.indexOf?_name there, Option.map_some]

/-- The generated file and the schema give the struct at each position the same id, one more than
the position, and no other id leads to a struct. -/
theorem type_ids_agree {d : Document} {file : SourceFile} (h : generate d = .ok file) :
    ∃ schema, d.toSchema = .ok schema ∧
      (∀ i s, d.structs[i]? = some s →
        (∀ id, file.Declares (typeName s.name) id ↔ id = i + 1) ∧
        (∀ id, file.Dispatches id (typeName s.name) ↔ id = i + 1) ∧
        ∃ id : UInt16, id.toNat = i + 1 ∧ schema.typeIdOf? s.name = some id ∧
          schema.indexOfTypeId? id = some i) ∧
      ∀ id : UInt16, (∀ i < d.structs.length, id.toNat ≠ i + 1) →
        schema.indexOfTypeId? id = none := by
  obtain ⟨valid, checked, rfl⟩ := generate_eq_ok.mp h
  obtain ⟨few, named⟩ := check_eq_ok.mp checked
  have nodup := typeNames_nodup (exists_foldlM_giveStruct.mp named).1
  have spelled := spelled_of_valid valid
  obtain ⟨schema, lowered, resolved⟩ := Document.exists_toSchema valid
  have wf := Document.wellFormed_of_resolved resolved valid
  have sizes := resolved.length_eq
  refine ⟨schema, lowered, ?_, ?_⟩
  · intro i s located
    have bound : i < d.structs.length := (List.getElem?_eq_some_iff.mp located).1
    -- The check leaves no more structs than there are ids, so none is cut.
    have number : (Schema.typeIdAt i).toNat = i + 1 := by
      rw [Schema.typeIdAt_toNat]
      omega
    refine ⟨fun id => ?_, fun id => ?_, Schema.typeIdAt i, number, ?_, ?_⟩
    · rw [declares_iff spelled,
        exists_placed_iff nodup located fun j => id = (Schema.typeIdAt j).toNat, number]
    · rw [dispatches_iff spelled, exists_placed_iff nodup located fun j => id = j + 1]
    · exact typeIdOf?_of_resolved wf resolved located
    · exact Schema.indexOfTypeId?_eq_some_iff.mpr ⟨number, sizes ▸ bound⟩
  · intro id other
    rw [Option.eq_none_iff_forall_ne_some]
    intro i found
    obtain ⟨number, bound⟩ := Schema.indexOfTypeId?_eq_some_iff.mp found
    exact other i (sizes ▸ bound) number

theorem check_routes : check Document.routes = .ok () := by
  refine check_eq_ok.mpr ⟨by decide, exists_foldlM_giveStruct.mpr ⟨?_, ?_, ?_⟩⟩
  · decide +kernel
  · simp only [mem_initiallyGiven]
    decide +kernel
  · decide +kernel

theorem type_ids_agree_routes :
    generate Document.routes = .ok (fileWith assemble {} Document.routes) ∧
      ∃ schema, Document.routes.toSchema = .ok schema ∧
        (∀ id, (fileWith assemble {} Document.routes).Declares "Point" id ↔ id = 2) ∧
        (∀ id, (fileWith assemble {} Document.routes).Dispatches id "Point" ↔ id = 2) ∧
        schema.typeIdOf? "Point" = some 2 ∧ schema.indexOfTypeId? 2 = some 1 ∧
        schema.indexOfTypeId? 0 = none ∧ schema.indexOfTypeId? 3 = none := by
  have generated := generate_eq_ok.mpr ⟨Document.routes_violations, check_routes, rfl⟩
  obtain ⟨schema, lowered, each, others⟩ := type_ids_agree generated
  obtain ⟨declared, dispatched, id, number, known, back⟩ := each 1 _ rfl
  obtain rfl : id = 2 := UInt16.toNat.inj number
  have type : typeName "Point" = "Point" := by decide +kernel
  refine ⟨generated, schema, lowered, ?_, ?_, known, back, others 0 (by decide),
    others 3 (by decide)⟩
  · exact type ▸ declared
  · exact type ▸ dispatched

end Codegen
end SchemaWire
