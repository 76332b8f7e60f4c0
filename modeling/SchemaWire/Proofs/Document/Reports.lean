import SchemaWire.Proofs.Document.Validity

/-!
Which cycles of a document are reported. A cycle is told by the edge that closes it. Each node is
entered once and its edges are followed once, so no two reports have the same closing edge. What
closed a cycle is cut, and without the edges that are cut there is no cycle, so every cycle of the
document holds a closing edge.
-/
namespace SchemaWire.Document
namespace Graph

/-- The closing edge of one is not that of the other. -/
def Apart (cycle cycle' : List String) : Prop :=
  ∀ node next, [node, next] <:+ cycle → ¬ [node, next] <:+ cycle'

theorem pair_eq_of_suffix {cycle : List String} {node next node' next' : String}
    (ends : [node, next] <:+ cycle) (ends' : [node', next'] <:+ cycle) :
    node = node' ∧ next = next' := by
  have same := (List.suffix_of_suffix_length_le ends ends' (Nat.le_refl _)).eq_of_length rfl
  rw [List.cons.injEq, List.cons.injEq] at same
  exact ⟨same.1, same.2.1⟩

theorem apart_of_ne {cycle cycle' : List String} {node next node' next' : String}
    (ends : [node, next] <:+ cycle) (ends' : [node', next'] <:+ cycle')
    (ne : node = node' → next ≠ next') : Apart cycle cycle' := by
  intro last first closes closes'
  obtain ⟨rfl, rfl⟩ := pair_eq_of_suffix ends closes
  obtain ⟨rfl, rfl⟩ := pair_eq_of_suffix ends' closes'
  exact ne rfl rfl

/-- The cycles met while the edges to `nexts` were followed. Each was closed by an edge of a node
entered on the way, or by one of the edges at hand. -/
structure Adds (path nexts : List String) (walk walk' : Walk) (added : List (List String)) :
    Prop where
  cycles : walk'.cycles = added ++ walk.cycles
  apart : added.Pairwise Apart
  sources : ∀ cycle ∈ added, ∃ node next, [node, next] <:+ cycle ∧
    (¬ walk.visited.contains node ∧ walk'.visited.contains node ∨
      node ∈ path.head? ∧ next ∈ nexts)

variable {g : Graph} {path nexts rest : List String} {walk middle walk' : Walk} {next : String}
  {added later : List (List String)}

theorem adds_nothing : Adds path nexts walk walk [] where
  cycles := rfl
  apart := .nil
  sources := List.forall_mem_nil _

theorem adds_closing (on : next ∈ path) :
    Adds path [next] walk { walk with cycles := closing path next :: walk.cycles }
      [closing path next] := by
  obtain ⟨last, outer, rfl⟩ := List.exists_cons_of_ne_nil (List.ne_nil_of_mem on)
  refine ⟨rfl, List.pairwise_singleton _ _, ?_⟩
  rw [List.forall_mem_singleton]
  exact ⟨last, next, suffix_closing on, .inr ⟨rfl, .head _⟩⟩

/-- Seen from the path, all edges of a node that is entered are edges of a new node. -/
theorem Adds.enter (new : ¬ walk.visited.contains next)
    (within : g.Explores (next :: path) (g.successors next)
      { walk with visited := walk.visited.insert next } middle)
    (adds : Adds (next :: path) (g.successors next)
      { walk with visited := walk.visited.insert next } middle added) :
    Adds path [next] walk middle added := by
  refine ⟨adds.cycles, adds.apart, fun cycle among => ?_⟩
  obtain ⟨node, target, ends, ⟨unseen, seen⟩ | ⟨here, -⟩⟩ := adds.sources cycle among
  · exact ⟨node, target, ends, .inl ⟨fun old => unseen (contains_insert.mpr (.inr old)), seen⟩⟩
  · obtain rfl := Option.some.inj here
    have seen := within.contains_of_contains (contains_insert.mpr (.inl rfl))
    exact ⟨next, target, ends, .inl ⟨new, seen⟩⟩

/-- What is met behind one edge and what is met behind the others was closed by different edges. -/
theorem Adds.cons (first : Adds path [next] walk middle added)
    (second : Adds path rest middle walk' later) (after : g.Explores path rest middle walk')
    (kept : ∀ name, walk.visited.contains name → middle.visited.contains name)
    (entered : walk.Entered path) (fresh : next ∉ rest) :
    Adds path (next :: rest) walk walk' (later ++ added) := by
  refine ⟨?_, List.pairwise_append.mpr ⟨second.apart, first.apart, ?_⟩, ?_⟩
  · rw [second.cycles, first.cycles, List.append_assoc]
  · intro cycle among cycle' among'
    obtain ⟨node, target, ends, source⟩ := second.sources cycle among
    obtain ⟨node', target', ends', source'⟩ := first.sources cycle' among'
    refine apart_of_ne ends ends' ?_
    rintro rfl rfl
    -- Of nodes entered later no edge was followed before, and of those at hand each is followed once.
    obtain ⟨late, -⟩ | ⟨here, other⟩ := source
    · obtain ⟨-, seen⟩ | ⟨here, -⟩ := source'
      · exact late seen
      · exact late (kept node (entered node (List.mem_of_mem_head? here)))
    · obtain ⟨unseen, -⟩ | ⟨-, same⟩ := source'
      · exact unseen (entered node (List.mem_of_mem_head? here))
      · exact fresh (List.mem_singleton.mp same ▸ other)
  · intro cycle among
    obtain among | among := List.mem_append.mp among
    · obtain ⟨node, target, ends, source⟩ := second.sources cycle among
      refine ⟨node, target, ends, source.imp ?_ fun old => ⟨old.1, .tail _ old.2⟩⟩
      exact fun late => ⟨fun old => late.1 (kept node old), late.2⟩
    · obtain ⟨node, target, ends, source⟩ := first.sources cycle among
      refine ⟨node, target, ends, source.imp ?_ fun old => ⟨old.1, ?_⟩⟩
      · exact fun new => ⟨new.1, after.contains_of_contains new.2⟩
      · exact List.mem_cons.mpr (.inl (List.mem_singleton.mp old.2))

theorem Explores.adds (h : g.Explores path nexts walk walk')
    (single : ∀ node, (g.successors node).Nodup) (entered : walk.Entered path)
    (nodup : nexts.Nodup) : ∃ added, Adds path nexts walk walk' added := by
  induction h with
  | done => exact ⟨[], adds_nothing⟩
  | report on after ih =>
      obtain ⟨fresh, nodup⟩ := List.nodup_cons.mp nodup
      obtain ⟨later, second⟩ := ih entered nodup
      exact ⟨_, (adds_closing on).cons second after (fun _ old => old) entered fresh⟩
  | skip _ _ after ih =>
      obtain ⟨fresh, nodup⟩ := List.nodup_cons.mp nodup
      obtain ⟨later, second⟩ := ih entered nodup
      exact ⟨_, adds_nothing.cons second after (fun _ old => old) entered fresh⟩
  | enter _ new within after ihWithin ihLater =>
      obtain ⟨fresh, nodup⟩ := List.nodup_cons.mp nodup
      obtain ⟨added, first⟩ := ihWithin (entered.cons _) (single _)
      obtain ⟨later, second⟩ := ihLater (within.entered entered) nodup
      refine ⟨_, (first.enter new within).cons second after (fun name old => ?_) entered fresh⟩
      exact within.contains_of_contains (contains_insert.mpr (.inr old))

theorem Explores.pairwise_apart (h : g.Explores [] nexts ⟨∅, []⟩ walk)
    (single : ∀ node, (g.successors node).Nodup) (nodup : nexts.Nodup) :
    walk.cycles.Pairwise Apart := by
  obtain ⟨added, adds⟩ := h.adds single (List.forall_mem_nil _) nodup
  rw [adds.cycles, List.append_nil]
  exact adds.apart

/-- On a cycle among nodes that were left, some edge is cut. -/
theorem Left.exists_cut {cut : String → String → Prop} {done inner : List String} {first : String}
    (left : g.Left cut done) (member : first ∈ done)
    (chain : (first :: (inner ++ [first])).IsChain g.Edge) :
    ∃ node next, [node, next] <:+: first :: (inner ++ [first]) ∧ cut node next := by
  by_contra uncut
  have whole : (first :: (inner ++ [first])).IsChain fun a b => g.Edge a b ∧ ¬ cut a b := by
    rw [List.isChain_iff_forall_rel_of_append_cons_cons] at chain ⊢
    intro node next before behind split
    refine ⟨chain split, fun closed => uncut ⟨node, next, ⟨before, behind, ?_⟩, closed⟩⟩
    rw [split, List.append_assoc, List.cons_append, List.singleton_append]
  exact left.acyclic member (transGen_of_isChain whole)

end Graph

/-- The first declaration of the one name has a field whose type holds the other, which is declared
too. -/
def Leads (d : Document) (name next : String) : Prop :=
  ∃ s, d.get? name = some s ∧ next ∈ d.names ∧ ∃ f ∈ s.fields, f.type.Names next

theorem edge_eq_leads (d : Document) : d.graph.Edge = d.Leads := by
  funext name next
  simp only [Graph.Edge, Graph.mem_successors, Leads, TypeExpr.names_iff]

/-- Every report is a cycle of the document, no two are closed by the same edge, and every cycle
holds the closing edge of a report. The walk behind them is the one without a bound. -/
theorem cycleViolations_sound_complete (d : Document) :
    ∃ walk, d.graph.Explores [] d.graph.nodes ⟨∅, []⟩ walk ∧
      d.cycleViolations = walk.cycles.reverse.map .circularReference ∧
      (∀ path ∈ walk.cycles, path.IsChain d.Leads ∧
        ∃ first inner, path = first :: (inner ++ [first]) ∧ (first :: inner).Nodup) ∧
      walk.cycles.Pairwise Graph.Apart ∧
      (∀ first inner, (first :: (inner ++ [first])).IsChain d.Leads →
        ∃ path ∈ walk.cycles, ∃ last next,
          [last, next] <:+ path ∧ [last, next] <:+: first :: (inner ++ [first])) ∧
      (d.cycleViolations = [] ↔ ∀ name, ¬ Relation.TransGen d.Leads name name) := by
  have targets : ∀ node next, d.graph.Edge node next → next ∈ d.graph.nodes :=
    fun _ _ => Graph.mem_nodes_of_mem_successors
  obtain ⟨walk, explored, reported⟩ := Graph.exists_explores targets
  obtain ⟨done, stands, all⟩ := explored.stands
  refine ⟨walk, explored, ?_, fun path among => ?_,
    explored.pairwise_apart (Graph.nodup_successors d) (Graph.nodup_nodes d),
    fun first inner chain => ?_, ?_⟩
  · rw [cycleViolations, reported]
  · obtain ⟨chain, returns⟩ := stands.circuits path among
    exact ⟨edge_eq_leads d ▸ chain, returns⟩
  · rw [← edge_eq_leads] at chain
    obtain ⟨last, -, edge⟩ := Relation.TransGen.tail'_iff.mp (Graph.transGen_of_isChain chain)
    obtain ⟨node, next, inside, path, among, ends⟩ :=
      stands.left.exists_cut (all (targets last first edge)) chain
    exact ⟨path, among, node, next, ends, inside⟩
  · rw [cycleViolations_eq_nil_iff, edge_eq_leads]

/-- Two structs that hold each other, found from a third, with a name that nothing declares. -/
def peers : Document where
  structs := [
    ⟨"Root", ⟨1, 8⟩, none, [⟨"entry", ⟨1, 15⟩, none, .named "Left", false⟩]⟩,
    ⟨"Left", ⟨2, 8⟩, none, [⟨"right", ⟨2, 15⟩, none, .named "Right", true⟩]⟩,
    ⟨"Right", ⟨3, 8⟩, none, [⟨"lost", ⟨3, 16⟩, none, .named "Missing", false⟩,
      ⟨"back", ⟨3, 31⟩, none, .array (.named "Left"), false⟩]⟩]

theorem cycleViolations_sound_complete_peers :
    ["Left", "Right", "Left"].IsChain peers.Leads ∧
      ∃ path, .circularReference path ∈ peers.cycleViolations ∧
        (["Left", "Right"] <:+ path ∨ ["Right", "Left"] <:+ path) := by
  have there : peers.Leads "Left" "Right" :=
    ⟨_, rfl, by decide, _, .head _, .named _⟩
  have back : peers.Leads "Right" "Left" :=
    ⟨_, rfl, by decide, _, .tail _ (.head _), .array (.named _)⟩
  have chain : ["Left", "Right", "Left"].IsChain peers.Leads :=
    .cons_cons there (.cons_cons back (.singleton _))
  obtain ⟨walk, -, reported, -, -, complete, -⟩ := cycleViolations_sound_complete peers
  obtain ⟨path, among, last, next, ends, inside⟩ := complete "Left" ["Right"] chain
  refine ⟨chain, path, ?_, ?_⟩
  · rw [reported]
    exact List.mem_map_of_mem (List.mem_reverse.mpr among)
  · have pair : [last, next] = ["Left", "Right"] ∨ [last, next] = ["Right", "Left"] := by
      simpa [List.infix_cons_iff] using inside
    obtain same | same := pair
    · exact .inl (same ▸ ends)
    · exact .inr (same ▸ ends)

end SchemaWire.Document
