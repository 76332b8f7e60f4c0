import Mathlib.Data.List.Nodup
import SchemaWire.Proofs.Document.Walk

/-!
What the walk over a document's references reports. One invariant says where the walk stands: the
nodes it entered are on the path or were left, a node that was left leads only to nodes left
before it unless the edge closed a cycle, and every cycle met is one. So a graph is reported on
exactly if it has a cycle.
-/
namespace SchemaWire.Document
namespace Graph

def Edge (g : Graph) (node next : String) : Prop := next ∈ g.successors node

/-- A way along edges that ends where it starts, and meets no node twice before. -/
structure Circuit (g : Graph) (cycle : List String) : Prop where
  chain : cycle.IsChain g.Edge
  returns : ∃ start inner, cycle = start :: (inner ++ [start]) ∧ (start :: inner).Nodup

theorem transGen_of_isChain {R : String → String → Prop} {inner : List String}
    {start last : String} (chain : (start :: (inner ++ [last])).IsChain R) :
    Relation.TransGen R start last := by
  induction inner generalizing start with
  | nil => exact .single (List.isChain_pair.mp chain)
  | cons next rest ih =>
      rw [List.cons_append, List.isChain_cons_cons] at chain
      exact .head chain.1 (ih chain.2)

theorem Circuit.transGen {g : Graph} {cycle : List String} (circuit : g.Circuit cycle) :
    ∃ node, Relation.TransGen g.Edge node node := by
  obtain ⟨chain, start, inner, rfl, -⟩ := circuit
  exact ⟨start, transGen_of_isChain chain⟩

theorem closing_eq {path : List String} {next : String} (member : next ∈ path) :
    ∃ back outer, back ++ [next] ++ outer = path ∧
      closing path next = (back ++ [next]).reverse ++ [next] := by
  obtain ⟨back, outer, rfl, before⟩ := List.eq_append_cons_of_mem member
  refine ⟨back, outer, List.append_cons .. |>.symm, ?_⟩
  have taken : (back ++ next :: outer).takeWhile (· != next) = back := by
    rw [List.takeWhile_append_of_pos, List.takeWhile_cons_of_neg, List.append_nil]
    · simp only [bne_self_eq_false, Bool.false_eq_true, not_false_eq_true]
    · intro other inside
      exact bne_iff_ne.mpr fun same => before (same ▸ inside)
  rw [closing, taken, List.reverse_append, List.reverse_singleton, List.append_assoc,
    List.singleton_append]

/-- A cycle ends with the edge that closes it. -/
theorem suffix_closing {path : List String} {node next : String} (member : next ∈ node :: path) :
    [node, next] <:+ closing (node :: path) next := by
  obtain ⟨back, outer, whole, closed⟩ := closing_eq member
  obtain empty | ⟨rest, starts, -⟩ := List.prefix_cons_iff.mp ⟨outer, whole⟩
  · exact absurd empty (List.append_ne_nil_of_right_ne_nil _ (List.cons_ne_nil _ _))
  · rw [starts, List.reverse_cons, List.append_assoc, List.singleton_append] at closed
    exact closed ▸ List.suffix_append _ _

/-- A path that the walk may stand on, the latest node first. -/
structure Trail (g : Graph) (path : List String) : Prop where
  chain : path.IsChain fun later earlier => g.Edge earlier later
  nodup : path.Nodup

/-- Some cycle met so far was closed by that edge. -/
def Walk.Closed (walk : Walk) (node next : String) : Prop :=
  ∃ cycle ∈ walk.cycles, [node, next] <:+ cycle

/-- Nodes in the order the walk left them, latest first: an edge leads to a node left before,
unless it is cut. -/
inductive Left (g : Graph) (cut : String → String → Prop) : List String → Prop where
  | nil : Left g cut []
  | cons {node : String} {done : List String}
      (edges : ∀ next, g.Edge node next → cut node next ∨ next ∈ done)
      (earlier : Left g cut done) : Left g cut (node :: done)

/-- Where a walk stands: it entered the nodes on the path and those it left again. -/
structure Stands (g : Graph) (path done : List String) (walk : Walk) : Prop where
  visited : ∀ name, walk.visited.contains name ↔ name ∈ path ∨ name ∈ done
  left : g.Left walk.Closed done
  circuits : ∀ cycle ∈ walk.cycles, g.Circuit cycle

/-- From one place to another on the same path, all that was left or met is kept. -/
structure Goes (g : Graph) (path : List String) (walk walk' : Walk) (done done' : List String) :
    Prop where
  stands : g.Stands path done' walk'
  kept : walk.cycles ⊆ walk'.cycles
  grown : done ⊆ done'

/-- An edge from the end of the path is done with once it closed a cycle or its target was left. -/
def Settled (path done : List String) (walk : Walk) (next : String) : Prop :=
  (∃ last ∈ path.head?, walk.Closed last next) ∨ next ∈ done

variable {g : Graph} {path nexts done done' done'' : List String} {walk walk' walk'' : Walk}
  {node next : String} {cut cut' : String → String → Prop}

theorem Trail.cons (trail : g.Trail path) (off : node ∉ path)
    (edge : ∀ last ∈ path.head?, g.Edge last node) : g.Trail (node :: path) where
  chain := trail.chain.cons edge
  nodup := List.nodup_cons.mpr ⟨off, trail.nodup⟩

theorem Trail.circuit_closing (trail : g.Trail (node :: path)) (edge : g.Edge node next)
    (member : next ∈ node :: path) : g.Circuit (closing (node :: path) next) := by
  obtain ⟨back, outer, whole, closed⟩ := closing_eq member
  have returns : closing (node :: path) next = next :: (back.reverse ++ [next]) := by
    rw [closed, List.reverse_append, List.reverse_singleton, List.append_assoc,
      List.singleton_append]
  constructor
  · obtain ⟨front, ends⟩ := suffix_closing member
    have ended : front ++ [node] ++ [next] = (back ++ [next]).reverse ++ [next] := by
      rw [← closed, ← ends, List.append_assoc, List.singleton_append]
    have forward := List.append_cancel_right ended
    have chain := trail.chain
    rw [← whole] at chain
    rw [← ends, List.isChain_append_cons_cons, forward]
    exact ⟨List.isChain_reverse.mpr chain.left_of_append, edge, .singleton _⟩
  · have nodup := trail.nodup
    rw [← whole] at nodup
    refine ⟨next, back.reverse, returns, ?_⟩
    rw [← List.singleton_append, ← List.reverse_singleton, ← List.reverse_append,
      List.nodup_reverse]
    exact nodup.of_append_left

theorem Left.mono (weaker : ∀ node next, cut node next → cut' node next) (left : g.Left cut done) :
    g.Left cut' done := by
  induction left with
  | nil => exact .nil
  | cons edges _ ih => exact .cons (fun next edge => (edges next edge).imp_left (weaker _ _)) ih

theorem Left.mem_of_edge (left : g.Left cut done) (member : node ∈ done)
    (edge : g.Edge node next) (uncut : ¬ cut node next) : next ∈ done := by
  induction left with
  | nil => exact absurd member List.not_mem_nil
  | cons edges _ ih =>
      obtain rfl | member := List.mem_cons.mp member
      · exact .tail _ ((edges next edge).resolve_left uncut)
      · exact .tail _ (ih member)

theorem Left.mem_of_reflTransGen (left : g.Left cut done) (member : node ∈ done)
    (steps : Relation.ReflTransGen (fun a b => g.Edge a b ∧ ¬ cut a b) node next) :
    next ∈ done := by
  induction steps with
  | refl => exact member
  | tail _ step inside => exact left.mem_of_edge inside step.1 step.2

/-- Among the nodes that were left, every cycle has an edge that is cut. -/
theorem Left.acyclic (left : g.Left cut done) (member : node ∈ done) :
    ¬ Relation.TransGen (fun a b => g.Edge a b ∧ ¬ cut a b) node node := by
  induction left with
  | nil => exact absurd member List.not_mem_nil
  | cons edges earlier ih =>
      obtain rfl | member := List.mem_cons.mp member
      · intro cycle
        -- The first step goes to a node left before, and no step leads out of those.
        obtain ⟨next, ⟨edge, uncut⟩, back⟩ := Relation.TransGen.head'_iff.mp cycle
        have first := (edges next edge).resolve_left uncut
        exact ih (earlier.mem_of_reflTransGen first back) cycle
      · exact ih member

theorem Walk.Closed.mono (kept : walk.cycles ⊆ walk'.cycles) (closed : walk.Closed node next) :
    walk'.Closed node next := by
  obtain ⟨cycle, member, ends⟩ := closed
  exact ⟨cycle, kept member, ends⟩

theorem Settled.mono (goes : g.Goes path walk walk' done done')
    (settled : Settled path done walk next) : Settled path done' walk' next := by
  refine settled.imp ?_ fun member => goes.grown member
  rintro ⟨last, ends, closed⟩
  exact ⟨last, ends, closed.mono goes.kept⟩

theorem Goes.refl (stands : g.Stands path done walk) : g.Goes path walk walk done done where
  stands := stands
  kept := List.Subset.refl _
  grown := List.Subset.refl _

theorem Goes.trans (first : g.Goes path walk walk' done done')
    (second : g.Goes path walk' walk'' done' done'') : g.Goes path walk walk'' done done'' where
  stands := second.stands
  kept := List.Subset.trans first.kept second.kept
  grown := List.Subset.trans first.grown second.grown

theorem Stands.report (stands : g.Stands path done walk) (trail : g.Trail path)
    (edge : ∀ last ∈ path.head?, g.Edge last next) (member : next ∈ path) :
    let walk' : Walk := { walk with cycles := closing path next :: walk.cycles }
    g.Goes path walk walk' done done ∧ Settled path done walk' next := by
  intro walk'
  obtain ⟨last, rest, rfl⟩ := List.exists_cons_of_ne_nil (List.ne_nil_of_mem member)
  have circuit := trail.circuit_closing (edge last rfl) member
  have kept : walk.cycles ⊆ walk'.cycles := List.subset_cons_self _ _
  refine ⟨⟨⟨stands.visited, stands.left.mono fun _ _ => .mono kept, ?_⟩, kept, List.Subset.refl _⟩,
    .inl ⟨last, rfl, _, .head _, suffix_closing member⟩⟩
  intro cycle among
  obtain rfl | among := List.mem_cons.mp among
  · exact circuit
  · exact stands.circuits cycle among

theorem Stands.enter (stands : g.Stands path done walk) :
    g.Stands (node :: path) done { walk with visited := walk.visited.insert node } where
  visited name := by
    rw [contains_insert, stands.visited, List.mem_cons, or_assoc]
  left := stands.left
  circuits := stands.circuits

theorem Stands.leave (stands : g.Stands (node :: path) done walk)
    (settled : ∀ next ∈ g.successors node, Settled (node :: path) done walk next) :
    g.Stands path (node :: done) walk where
  visited name := by
    rw [stands.visited, List.mem_cons, List.mem_cons, or_assoc, or_left_comm]
  left := by
    refine .cons (fun next edge => (settled next edge).imp_left ?_) stands.left
    rintro ⟨last, ends, closed⟩
    obtain rfl := Option.some.inj ends
    exact closed
  circuits := stands.circuits

/-- All edges that were followed are settled in the end, and the path is the same. -/
theorem Explores.goes (h : g.Explores path nexts walk walk') (trail : g.Trail path)
    (stands : g.Stands path done walk)
    (edges : ∀ next ∈ nexts, ∀ last ∈ path.head?, g.Edge last next) :
    ∃ done', g.Goes path walk walk' done done' ∧ ∀ next ∈ nexts, Settled path done' walk' next := by
  induction h generalizing done with
  | done => exact ⟨done, .refl stands, List.forall_mem_nil _⟩
  | report on _ ih =>
      obtain ⟨here, others⟩ := List.forall_mem_cons.mp edges
      obtain ⟨first, settled⟩ := stands.report trail here on
      obtain ⟨done', second, later⟩ := ih trail first.stands others
      exact ⟨done', first.trans second, List.forall_mem_cons.mpr ⟨settled.mono second, later⟩⟩
  | skip off entered _ ih =>
      have left := ((stands.visited _).mp entered).resolve_left off
      obtain ⟨done', goes, later⟩ := ih trail stands (List.forall_mem_cons.mp edges).2
      exact ⟨done', goes, List.forall_mem_cons.mpr ⟨.inr (goes.grown left), later⟩⟩
  | enter off _ _ _ ihWithin ihLater =>
      obtain ⟨here, others⟩ := List.forall_mem_cons.mp edges
      obtain ⟨inner, within, settled⟩ := ihWithin (trail.cons off here) stands.enter
        fun next edge last ends => Option.some.inj ends ▸ edge
      -- The node is left once all its edges are settled.
      obtain ⟨done', second, later⟩ := ihLater trail (within.stands.leave settled) others
      refine ⟨done', ⟨second.stands, List.Subset.trans within.kept second.kept, ?_⟩,
        List.forall_mem_cons.mpr ⟨.inr (second.grown (.head _)), later⟩⟩
      exact List.Subset.trans (List.subset_cons_of_subset _ within.grown) second.grown

/-- In the end the walk has left every node. -/
theorem Explores.stands (h : g.Explores [] nexts ⟨∅, []⟩ walk) :
    ∃ done, g.Stands [] done walk ∧ nexts ⊆ done := by
  have start : g.Stands [] [] ⟨∅, []⟩ := ⟨by simp, .nil, List.forall_mem_nil _⟩
  obtain ⟨done, goes, settled⟩ := h.goes ⟨.nil, .nil⟩ start (by simp)
  refine ⟨done, goes.stands, fun node known => (settled node known).resolve_left ?_⟩
  rintro ⟨last, ends, -⟩
  cases ends

section Closed

variable (targets : ∀ node next, g.Edge node next → next ∈ g.nodes)
include targets

theorem cycles_eq_nil_iff : g.cycles = [] ↔ ∀ node, ¬ Relation.TransGen g.Edge node node := by
  obtain ⟨walk, explored, reported⟩ := exists_explores targets
  obtain ⟨done, stands, all⟩ := explored.stands
  rw [reported, List.reverse_eq_nil_iff]
  constructor
  · intro nothing node cycle
    have known : node ∈ g.nodes := by
      obtain ⟨last, -, edge⟩ := Relation.TransGen.tail'_iff.mp cycle
      exact targets last node edge
    refine stands.left.acyclic (all known) (Relation.TransGen.mono ?_ node node cycle)
    refine fun a b edge => ⟨edge, ?_⟩
    rintro ⟨reported, member, -⟩
    rw [nothing] at member
    exact absurd member List.not_mem_nil
  · intro acyclic
    rw [List.eq_nil_iff_forall_not_mem]
    intro cycle member
    obtain ⟨node, returns⟩ := (stands.circuits cycle member).transGen
    exact acyclic node returns

end Closed
end Graph

theorem cycleViolations_eq_nil_iff {d : Document} :
    d.cycleViolations = [] ↔ ∀ name, ¬ Relation.TransGen d.graph.Edge name name := by
  rw [cycleViolations, List.map_eq_nil_iff,
    Graph.cycles_eq_nil_iff fun _ _ => Graph.mem_nodes_of_mem_successors]

theorem cycleViolations_eq_nil_of_measure {d : Document} (measure : String → Nat)
    (down : ∀ s ∈ d.structs, ∀ f ∈ s.fields, ∀ next, f.type.named? = some next →
      measure next < measure s.name) : d.cycleViolations = [] := by
  rw [cycleViolations_eq_nil_iff]
  have lower : ∀ node next, d.graph.Edge node next → measure next < measure node := by
    intro node next edge
    obtain ⟨s, found, -, f, field, named⟩ := Graph.mem_successors.mp edge
    obtain rfl := name_of_get? found
    exact down s (List.mem_of_find?_eq_some found) f field next named
  intro name cycle
  have trans : IsTrans String fun a b => measure b < measure a :=
    ⟨fun _ _ _ first second => Nat.lt_trans second first⟩
  exact Nat.lt_irrefl _ (Relation.transGen_minimal lower name name cycle)

end SchemaWire.Document
