import Wiring.Graph.Basic

/-!
Paths in a dependency graph, stated without the search: a type leads to the targets of its node's
edges, and a cycle is a type that leads to itself in one step or more.
-/

namespace Wiring.Graph

/-- The node of the first type has an edge to the second. -/
def Leads (graph : Graph) (a b : TypeExpr) : Prop :=
  ∃ node, graph.node? a = some node ∧ ∃ edge ∈ node.edges, edge.target.same b

inductive Reaches (graph : Graph) (a : TypeExpr) : TypeExpr → Prop
  | step {b : TypeExpr} : graph.Leads a b → Reaches graph a b
  | tail {b c : TypeExpr} : Reaches graph a b → graph.Leads b c → Reaches graph a c

def HasCycle (graph : Graph) : Prop := ∃ type, graph.Reaches type type

theorem node?_congr (graph : Graph) {a b : TypeExpr} (h : a.same b) :
    graph.node? a = graph.node? b := by
  simp only [node?, fun node : Node => TypeExpr.same_congr node.type h]

theorem Leads.congr_left {graph : Graph} {a b c : TypeExpr} (h : a.same b) (hl : graph.Leads a c) :
    graph.Leads b c := by
  obtain ⟨node, hnode, hedge⟩ := hl
  exact ⟨node, by rw [← node?_congr graph h, hnode], hedge⟩

theorem Reaches.trans {graph : Graph} {a b c : TypeExpr} (hab : graph.Reaches a b)
    (hbc : graph.Reaches b c) : graph.Reaches a c := by
  induction hbc with
  | step h => exact hab.tail h
  | tail _ h ih => exact ih.tail h

end Wiring.Graph
