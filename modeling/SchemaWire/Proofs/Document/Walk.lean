import Mathlib.Data.List.Chain
import Mathlib.Logic.Relation
import SchemaWire.Proofs.Document.References

/-!
The walk over a graph of references, without the bound on its depth. What it does is a relation
between the state before and after, derived from the calls it makes. A path holds different nodes,
so a depth of the number of nodes is never used up, and the bounded walk makes the same calls.
-/
namespace SchemaWire.Document.Graph

/-- With `path` leading back from the node at hand, the edges to `nexts` are followed in turn. An
edge to a node on the path closes a cycle, an edge to any other node entered before is passed over,
and a new node is entered and its own edges are followed before the next. -/
inductive Explores (g : Graph) : (path nexts : List String) → (walk walk' : Walk) → Prop where
  | done {path : List String} {walk : Walk} : Explores g path [] walk walk
  | report {path rest : List String} {next : String} {walk walk' : Walk} (on : next ∈ path)
      (later : Explores g path rest { walk with cycles := closing path next :: walk.cycles } walk') :
      Explores g path (next :: rest) walk walk'
  | skip {path rest : List String} {next : String} {walk walk' : Walk} (off : next ∉ path)
      (entered : walk.visited.contains next) (later : Explores g path rest walk walk') :
      Explores g path (next :: rest) walk walk'
  | enter {path rest : List String} {next : String} {walk middle walk' : Walk} (off : next ∉ path)
      (new : ¬ walk.visited.contains next)
      (within : Explores g (next :: path) (g.successors next)
        { walk with visited := walk.visited.insert next } middle)
      (later : Explores g path rest middle walk') :
      Explores g path (next :: rest) walk walk'

/-- Following an edge, with `path` leading back from the node it starts at: one round of the
bounded walk. -/
def follow (g : Graph) (depth : Nat) (path : List String) (walk : Walk) (next : String) : Walk :=
  if path.contains next then { walk with cycles := closing path next :: walk.cycles }
  else if walk.visited.contains next then walk
  else g.visit depth path walk next

theorem visit_succ (g : Graph) (depth : Nat) (path : List String) (walk : Walk) (node : String) :
    g.visit (depth + 1) path walk node =
      (g.successors node).foldl (g.follow depth (node :: path))
        { walk with visited := walk.visited.insert node } := by
  rw [visit]
  rfl

theorem cycles_eq (g : Graph) :
    g.cycles = (g.nodes.foldl (g.follow g.nodes.length []) ⟨∅, []⟩).cycles.reverse := rfl

theorem contains_insert {visited : Std.HashSet String} {node name : String} :
    (visited.insert node).contains name ↔ name = node ∨ visited.contains name := by
  rw [Std.HashSet.contains_insert, Bool.or_eq_true, beq_iff_eq, eq_comm]

variable {g : Graph} {depth : Nat} {path nexts : List String} {walk walk' : Walk}
  {node name : String}

theorem Explores.contains_of_contains (h : g.Explores path nexts walk walk')
    (entered : walk.visited.contains name) : walk'.visited.contains name := by
  induction h with
  | done => exact entered
  | report _ _ ih => exact ih entered
  | skip _ _ _ ih => exact ih entered
  | enter _ _ _ _ ihWithin ihLater => exact ihLater (ihWithin (contains_insert.mpr (.inr entered)))

/-- The walk has been at every node of the path. -/
def Walk.Entered (walk : Walk) (path : List String) : Prop :=
  ∀ name ∈ path, walk.visited.contains name

theorem Walk.Entered.cons (entered : walk.Entered path) (node : String) :
    Walk.Entered { walk with visited := walk.visited.insert node } (node :: path) :=
  fun name member => contains_insert.mpr ((List.mem_cons.mp member).imp_right (entered name))

/-- Entering a node and following its edges, the walk stays on the path that led there. -/
theorem Explores.entered {middle : Walk}
    (within : g.Explores (node :: path) nexts
      { walk with visited := walk.visited.insert node } middle)
    (entered : walk.Entered path) : middle.Entered path :=
  fun name member => within.contains_of_contains (entered.cons node name (.tail _ member))

/-- A path of different nodes, and a depth that is left for all others. -/
structure Room (g : Graph) (depth : Nat) (path : List String) : Prop where
  nodup : path.Nodup
  inside : path ⊆ g.nodes
  deep : g.nodes.length ≤ depth + path.length

theorem room_nil (g : Graph) : g.Room g.nodes.length [] where
  nodup := .nil
  inside := List.nil_subset _
  deep := Nat.le_refl _

theorem Room.cons (room : g.Room (depth + 1) path) (known : node ∈ g.nodes) (off : node ∉ path) :
    g.Room depth (node :: path) where
  nodup := List.nodup_cons.mpr ⟨off, room.nodup⟩
  inside := List.cons_subset.mpr ⟨known, room.inside⟩
  deep := by
    have deep := room.deep
    rw [List.length_cons]
    omega

/-- A path with no depth left holds all nodes. -/
theorem Room.mem_of_zero (room : g.Room 0 path) (known : node ∈ g.nodes) : node ∈ path := by
  by_contra off
  have longer : (node :: path).length ≤ g.nodes.length :=
    List.Nodup.length_le_of_subset (List.nodup_cons.mpr ⟨off, room.nodup⟩)
      (List.cons_subset.mpr ⟨known, room.inside⟩)
  have deep := room.deep
  rw [List.length_cons] at longer
  omega

/-- Within this depth, a call of the walk for a new node follows all edges of the node. -/
def Enters (g : Graph) (depth : Nat) : Prop :=
  ∀ path walk node, g.Room depth path → walk.Entered path → node ∈ g.nodes →
    ¬ walk.visited.contains node →
    g.Explores (node :: path) (g.successors node)
      { walk with visited := walk.visited.insert node } (g.visit depth path walk node)

theorem Enters.foldl_follow (enters : g.Enters depth) (room : g.Room depth path)
    (entered : walk.Entered path) (known : nexts ⊆ g.nodes) :
    g.Explores path nexts walk (nexts.foldl (g.follow depth path) walk) := by
  induction nexts generalizing walk with
  | nil => exact .done
  | cons next rest ih =>
      obtain ⟨here, later⟩ := List.cons_subset.mp known
      rw [List.foldl_cons, follow]
      by_cases on : next ∈ path
      · rw [if_pos (List.contains_iff_mem.mpr on)]
        exact .report on (ih entered later)
      · rw [if_neg (mt List.contains_iff_mem.mp on)]
        by_cases old : walk.visited.contains next
        · rw [if_pos old]
          exact .skip on old (ih entered later)
        · rw [if_neg old]
          have within := enters path walk next room entered here old
          exact .enter on old within (ih (within.entered entered) later)

section Closed

variable (targets : ∀ node next, next ∈ g.successors node → next ∈ g.nodes)
include targets

theorem enters (depth : Nat) : g.Enters depth := by
  induction depth with
  | zero =>
      intro path walk node room entered known new
      exact absurd (entered node (room.mem_of_zero known)) new
  | succ depth ih =>
      intro path walk node room entered known new
      have off : node ∉ path := fun member => new (entered node member)
      rw [visit_succ]
      exact ih.foldl_follow (room.cons known off) (entered.cons node) (targets node)

/-- The walk from every node in turn ends, and meets the cycles that are reported. -/
theorem exists_explores :
    ∃ walk, g.Explores [] g.nodes ⟨∅, []⟩ walk ∧ g.cycles = walk.cycles.reverse :=
  ⟨_, (enters targets g.nodes.length).foldl_follow g.room_nil (List.forall_mem_nil _)
    (List.Subset.refl _), g.cycles_eq⟩

end Closed
end SchemaWire.Document.Graph
