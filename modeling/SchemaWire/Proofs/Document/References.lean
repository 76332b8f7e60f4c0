import SchemaWire.Document.Cycles

/-!
Repeated names, first declarations and the graph of references. The sets and tables kept on the
way are read as lists here: an edge leads from the first declaration of a name to every declared
name that its fields come down to.
-/
namespace SchemaWire

/-- For each name in turn, whether it is among those seen or stood in the list before. -/
def repeatsAfter (seen : List String) : List String → List Bool
  | [] => []
  | name :: rest => seen.contains name :: repeatsAfter (name :: seen) rest

theorem foldl_repeats (names : List String) (set : Std.HashSet String) (seen : List String)
    (flags : Array Bool) (same : ∀ name, set.contains name = seen.contains name) :
    (names.foldl (fun (seen, flags) name =>
      let repeated := seen.contains name
      (seen.insert name, flags.push repeated)) (set, flags)).2.toList =
      flags.toList ++ repeatsAfter seen names := by
  induction names generalizing set seen flags with
  | nil => simp only [List.foldl_nil, repeatsAfter, List.append_nil]
  | cons name rest ih =>
      have extended : ∀ other,
          (set.insert name).contains other = (name :: seen).contains other := by
        intro other
        rw [Std.HashSet.contains_insert, same, List.contains_cons, Bool.beq_comm]
      rw [List.foldl_cons, ih _ (name :: seen) _ extended]
      simp only [repeatsAfter, same, Array.toList_push, List.append_assoc, List.singleton_append]

theorem repeats_eq (names : List String) : repeats names = repeatsAfter [] names := by
  have none : ∀ name,
      (∅ : Std.HashSet String).contains name = ([] : List String).contains name := by
    intro name
    rw [Std.HashSet.contains_empty, List.contains_nil]
  exact foldl_repeats names ∅ [] #[] none

section Keyed

variable {α : Type} (key : α → String)

theorem forall_zip_repeatsAfter (seen : List String) (xs : List α) (P : α → Prop) :
    (∀ entry ∈ xs.zip (repeatsAfter seen (xs.map key)), P entry.1 ∧ entry.2 = false) ↔
      (∀ x ∈ xs, P x ∧ key x ∉ seen) ∧ (xs.map key).Nodup := by
  induction xs generalizing seen with
  | nil => simp only [List.zip_nil_left, List.not_mem_nil, List.map_nil, List.nodup_nil,
      false_implies, implies_true, and_self]
  | cons x rest ih =>
      rw [List.map_cons, repeatsAfter, List.zip_cons_cons, List.forall_mem_cons, ih,
        List.forall_mem_cons, List.nodup_cons, List.mem_map, Bool.eq_false_iff, ne_eq,
        List.contains_iff_mem]
      simp only [List.mem_cons, not_or]
      constructor
      · rintro ⟨first, later, nodup⟩
        refine ⟨⟨first, fun y member => ?_⟩, ?_, nodup⟩
        · exact ⟨(later y member).1, (later y member).2.2⟩
        · rintro ⟨y, member, same⟩
          exact (later y member).2.1 same
      · rintro ⟨⟨first, later⟩, fresh, nodup⟩
        refine ⟨first, fun y member => ?_, nodup⟩
        exact ⟨(later y member).1, fun same => fresh ⟨y, member, same⟩, (later y member).2⟩

/-- No name repeats where no flag is raised. -/
theorem forall_zip_repeats (xs : List α) (P : α → Prop) :
    (∀ entry ∈ xs.zip (repeats (xs.map key)), P entry.1 ∧ entry.2 = false) ↔
      (∀ x ∈ xs, P x) ∧ (xs.map key).Nodup := by
  rw [repeats_eq, forall_zip_repeatsAfter]
  simp only [List.not_mem_nil, not_false_eq_true, and_true]

/-- What is left without the repetitions is what a search by key finds. -/
theorem mem_filter_repeatsAfter (seen : List String) (xs : List α) (x : α) :
    x ∈ ((xs.zip (repeatsAfter seen (xs.map key))).filter (!·.2)).map (·.1) ↔
      key x ∉ seen ∧ xs.find? (key · == key x) = some x := by
  induction xs generalizing seen with
  | nil => simp only [List.zip_nil_left, List.filter_nil, List.map_nil, List.not_mem_nil,
      List.find?_nil, reduceCtorEq, and_false]
  | cons y rest ih =>
      rw [List.map_cons, repeatsAfter, List.zip_cons_cons]
      by_cases same : key y = key x
      · rw [List.find?_cons_of_pos (p := (key · == key x)) (beq_iff_eq.mpr same)]
        by_cases old : key y ∈ seen
        · simp [old, ih, ← same]
        · simp [old, ih, ← same, eq_comm]
      · rw [List.find?_cons_of_neg (p := (key · == key x)) (mt beq_iff_eq.mp same)]
        have apart : y ≠ x := fun equal => same (congrArg key equal)
        by_cases old : key y ∈ seen
        · simp [old, ih, Ne.symm same]
        · simp [old, ih, Ne.symm same, Ne.symm apart]

theorem nodup_map_filter_repeatsAfter (seen : List String) (xs : List α) :
    ((((xs.zip (repeatsAfter seen (xs.map key))).filter (!·.2)).map (·.1)).map key).Nodup := by
  induction xs generalizing seen with
  | nil => exact .nil
  | cons x rest ih =>
      rw [List.map_cons, repeatsAfter, List.zip_cons_cons]
      by_cases old : key x ∈ seen
      · rw [List.filter_cons_of_neg (by simp [old])]
        exact ih _
      · rw [List.filter_cons_of_pos (by simp [old]), List.map_cons, List.map_cons, List.nodup_cons]
        refine ⟨fun again => ?_, ih _⟩
        obtain ⟨y, kept, same⟩ := List.mem_map.mp again
        exact ((mem_filter_repeatsAfter key _ rest y).mp kept).1 (same ▸ .head _)

end Keyed

theorem nodup_distinct (names : List String) : (distinct names).Nodup := by
  have nodup := nodup_map_filter_repeatsAfter id [] names
  rw [List.map_id, List.map_id] at nodup
  rw [distinct, repeats_eq]
  exact nodup

theorem mem_distinct {name : String} {names : List String} :
    name ∈ distinct names ↔ name ∈ names := by
  have found := mem_filter_repeatsAfter id [] names name
  rw [List.map_id] at found
  rw [distinct, repeats_eq, found]
  constructor
  · rintro ⟨-, first⟩
    exact List.mem_of_find?_eq_some first
  · intro member
    refine ⟨List.not_mem_nil, ?_⟩
    obtain ⟨other, first⟩ : ∃ other, names.find? (id · == id name) = some other :=
      Option.isSome_iff_exists.mp (List.find?_isSome.mpr ⟨name, member, beq_self_eq_true _⟩)
    have same := List.find?_some first
    rw [first, show other = name from beq_iff_eq.mp same]

namespace Document

theorem mem_firstDecls {d : Document} {s : StructDecl} :
    s ∈ d.firstDecls ↔ d.get? s.name = some s := by
  rw [firstDecls, repeats_eq, names, mem_filter_repeatsAfter]
  simp only [List.not_mem_nil, not_false_eq_true, true_and]
  rfl

theorem get?_isSome {d : Document} {name : String} : (d.get? name).isSome ↔ name ∈ d.names := by
  rw [get?, List.find?_isSome, names, List.mem_map]
  simp only [beq_iff_eq]

theorem name_of_get? {d : Document} {name : String} {s : StructDecl} (h : d.get? name = some s) :
    s.name = name := by
  have same := List.find?_some h
  exact beq_iff_eq.mp same

theorem mem_references {d : Document} {s : StructDecl} {next : String} :
    next ∈ references (.ofList d.names) s ↔
      next ∈ d.names ∧ ∃ f ∈ s.fields, f.type.named? = some next := by
  simp only [references, mem_distinct, List.mem_filterMap, Option.filter_eq_some_iff,
    Std.HashSet.contains_ofList, List.contains_iff_mem]
  constructor
  · rintro ⟨f, member, named, known⟩
    exact ⟨known, f, member, named⟩
  · rintro ⟨known, f, member, named⟩
    exact ⟨f, member, named, known⟩

namespace Graph

/-- A table filled from declarations of different names holds what each of them put there. -/
theorem getD_foldl {decls : List StructDecl} {targets : StructDecl → List String}
    {edges : Std.HashMap String (List String)} {s : StructDecl}
    (unique : ∀ t ∈ decls, t.name = s.name → t = s)
    (held : s ∈ decls ∨ edges.getD s.name [] = targets s) :
    (decls.foldl (fun edges s => edges.insert s.name (targets s)) edges).getD s.name [] =
      targets s := by
  induction decls generalizing edges with
  | nil =>
      rcases held with member | held
      · exact absurd member List.not_mem_nil
      · exact held
  | cons t rest ih =>
      rw [List.foldl_cons]
      refine ih (fun other member => unique other (.tail _ member)) ?_
      rw [Std.HashMap.getD_insert]
      by_cases here : t.name == s.name
      · rw [if_pos here, unique t (.head _) (beq_iff_eq.mp here)]
        exact .inr rfl
      · rw [if_neg here]
        refine held.imp_left fun member => ?_
        obtain rfl | member := List.mem_cons.mp member
        · exact absurd (beq_self_eq_true s.name) here
        · exact member

theorem getD_foldl_of_ne {decls : List StructDecl} {targets : StructDecl → List String}
    {edges : Std.HashMap String (List String)} {node : String}
    (other : ∀ s ∈ decls, s.name ≠ node) :
    (decls.foldl (fun edges s => edges.insert s.name (targets s)) edges).getD node [] =
      edges.getD node [] := by
  induction decls generalizing edges with
  | nil => rfl
  | cons s rest ih =>
      have apart : ¬ (s.name == node) = true := fun same => other s (.head _) (beq_iff_eq.mp same)
      rw [List.foldl_cons, ih fun t member => other t (.tail _ member),
        Std.HashMap.getD_insert, if_neg apart]

theorem mem_nodes {d : Document} {node : String} : node ∈ d.graph.nodes ↔ node ∈ d.names := by
  rw [graph, List.mem_map, ← get?_isSome, Option.isSome_iff_exists]
  constructor
  · rintro ⟨s, first, rfl⟩
    exact ⟨s, mem_firstDecls.mp first⟩
  · rintro ⟨s, found⟩
    obtain rfl := name_of_get? found
    exact ⟨s, mem_firstDecls.mpr found, rfl⟩

theorem nodup_nodes (d : Document) : d.graph.nodes.Nodup := by
  rw [graph, firstDecls, repeats_eq, names]
  exact nodup_map_filter_repeatsAfter _ [] d.structs

theorem successors_eq (d : Document) (node : String) :
    d.graph.successors node = (d.get? node).elim [] (references (.ofList d.names)) := by
  cases found : d.get? node with
  | none =>
      have other : ∀ s ∈ d.firstDecls, s.name ≠ node := by
        rintro s first rfl
        rw [mem_firstDecls.mp first] at found
        cases found
      rw [successors, graph, getD_foldl_of_ne other, Std.HashMap.getD_empty, Option.elim_none]
  | some s =>
      obtain rfl := name_of_get? found
      have unique : ∀ t ∈ d.firstDecls, t.name = s.name → t = s := by
        intro t first same
        have again := mem_firstDecls.mp first
        rw [same, found] at again
        exact (Option.some.inj again).symm
      rw [successors, graph, getD_foldl unique (.inl (mem_firstDecls.mpr found)), Option.elim_some]

theorem nodup_successors (d : Document) (node : String) : (d.graph.successors node).Nodup := by
  rw [successors_eq]
  cases d.get? node with
  | none => exact .nil
  | some s => exact nodup_distinct _

/-- An edge leads from a first declaration to a declared name that one of its fields reaches. -/
theorem mem_successors {d : Document} {node next : String} :
    next ∈ d.graph.successors node ↔
      ∃ s, d.get? node = some s ∧ next ∈ d.names ∧ ∃ f ∈ s.fields, f.type.named? = some next := by
  rw [successors_eq]
  cases d.get? node with
  | none => simp only [Option.elim_none, List.not_mem_nil, reduceCtorEq, false_and, exists_false]
  | some s => simp only [Option.elim_some, mem_references, Option.some.injEq, exists_eq_left']

theorem mem_nodes_of_mem_successors {d : Document} {node next : String}
    (edge : next ∈ d.graph.successors node) : next ∈ d.graph.nodes := by
  obtain ⟨_, _, declared, _⟩ := mem_successors.mp edge
  exact mem_nodes.mpr declared

end Graph
end Document
end SchemaWire
