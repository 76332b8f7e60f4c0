import Std.Data.HashMap
import Std.Data.HashSet
import SchemaWire.Document.Violation

/-!
Cycles of references. The nodes of a document's graph are its struct names, in the order of their
first declarations; an edge leads from a struct to every declared struct that its fields name,
through arrays and optional or not. A depth-first walk reports every edge that leads back to a
struct on the current path.
-/
namespace SchemaWire

/-- For each name in turn, whether it stood in the list before. -/
def repeats (names : List String) : List Bool :=
  (names.foldl (fun (seen, flags) name =>
    let repeated := seen.contains name
    (seen.insert name, flags.push repeated))
    ((∅ : Std.HashSet String), (#[] : Array Bool))).2.toList

def distinct (names : List String) : List String :=
  ((names.zip (repeats names)).filter (!·.2)).map (·.1)

namespace Document

def names (d : Document) : List String := d.structs.map (·.name)

/-- The first declaration of every name. -/
def firstDecls (d : Document) : List StructDecl :=
  ((d.structs.zip (repeats d.names)).filter (!·.2)).map (·.1)

structure Graph where
  nodes : List String
  edges : Std.HashMap String (List String)

/-- The struct names that a declaration's fields come down to, in order and without repetition. -/
def references (known : Std.HashSet String) (s : StructDecl) : List String :=
  distinct (s.fields.filterMap fun f => f.type.named?.filter known.contains)

def graph (d : Document) : Graph :=
  let known := Std.HashSet.ofList d.names
  let decls := d.firstDecls
  { nodes := decls.map (·.name)
    edges := decls.foldl (fun edges s => edges.insert s.name (references known s)) ∅ }

namespace Graph

def successors (g : Graph) (node : String) : List String := g.edges.getD node []

/-- What a walk has seen: the nodes it entered and the cycles it met, latest first. -/
structure Walk where
  visited : Std.HashSet String
  cycles : List (List String)

/-- The cycle that an edge to `next` closes, where `path` leads back from the node at hand. -/
def closing (path : List String) (next : String) : List String :=
  next :: ((path.takeWhile (· != next)).reverse ++ [next])

/-- Enters a node. `path` holds the nodes entered but not left, nearest first. No path is longer
than the number of nodes, which bounds the `depth` of the walk. -/
def visit (g : Graph) : (depth : Nat) → (path : List String) → Walk → String → Walk
  | 0, _, walk, _ => walk
  | depth + 1, path, walk, node =>
    let path := node :: path
    let walk := { walk with visited := walk.visited.insert node }
    (g.successors node).foldl (fun walk next =>
      if path.contains next then { walk with cycles := closing path next :: walk.cycles }
      else if walk.visited.contains next then walk
      else visit g depth path walk next) walk

def cycles (g : Graph) : List (List String) :=
  let depth := g.nodes.length
  let walk := g.nodes.foldl (fun walk node =>
    if walk.visited.contains node then walk else g.visit depth [] walk node)
    ⟨∅, []⟩
  walk.cycles.reverse

end Graph

/-- Every cycle of references. Optional fields count too: the wire format has no way to end a
recursive value. -/
def cycleViolations (d : Document) : List Violation :=
  d.graph.cycles.map .circularReference

end Document
end SchemaWire
