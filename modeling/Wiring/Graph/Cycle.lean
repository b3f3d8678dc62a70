import Wiring.Graph.Basic

/-!
The search for cycles. It goes depth first along the edges, in the order of the nodes; a type that
is met again on the path closes a cycle, and one from which the search came back is not entered
again.
-/

namespace Wiring

/-- A node on the path, and whether the edge into it was deferred. -/
structure PathStep where
  node : Node
  viaDeferred : Bool
  deriving DecidableEq

namespace PathStep

def isAt (type : TypeExpr) (step : PathStep) : Bool := step.node.type.same type

def link (via : Bool) (step : PathStep) : ChainLink where
  name := step.node.type.displayName
  lifetime := step.node.lifetime.text
  via := if via then some "deferred" else none

end PathStep

namespace Graph

/-- Reports a cycle given from its first node on, closed by an edge back to that node. How the first
node was entered is no part of the cycle. -/
def cycleFault (first : PathStep) (others : List PathStep) (closedByDeferred : Bool) : Fault :=
  if closedByDeferred || others.any (·.viaDeferred) then
    .lazyTransientCycle
      (first.link false :: others.map (fun step => step.link step.viaDeferred) ++
        [first.link closedByDeferred])
  else
    .circularDependency
      ((first :: others ++ [first]).map fun step => step.node.type.displayName)

/-- Follows `edge` from the end of `path`; `done` holds the types that lead to no cycle. No path is
longer than `room` allows, as the nodes on it are distinct. -/
def visit (graph : Graph) (room : Nat) (path : List PathStep) (done : List TypeExpr) (edge : Edge) :
    Except Fault (List TypeExpr) :=
  match path.dropWhile (!·.isAt edge.target) with
  | first :: others => .error (cycleFault first others edge.deferred)
  | [] =>
    if done.any edge.target.same then .ok done
    else
      match graph.node? edge.target, room with
      | none, _ => .ok (edge.target :: done)
      | some _, 0 => .ok done
      | some node, room + 1 =>
        match node.edges.foldlM (visit graph room (path ++ [⟨node, edge.deferred⟩])) done with
        | .error fault => .error fault
        | .ok done => .ok (edge.target :: done)

/-- Fails at the first cycle found. -/
def validate (graph : Graph) : Except Fault Unit :=
  match graph.foldlM (fun done node => visit graph graph.length [] done ⟨node.type, false⟩) [] with
  | .error fault => .error fault
  | .ok _ => .ok ()

end Graph

/-- Fails where services wait for one another in a circle. -/
def Container.validate (c : Container) : Except Fault Unit :=
  match c.danglingTarget? with
  | some id => .error (.unissuedId id)
  | none => c.graph.validate

end Wiring
