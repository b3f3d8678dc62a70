import Mathlib.Data.List.TakeWhile
import Wiring.Graph.Cycle
import Wiring.Graph.Path

/-!
The search without a bound. It ends because the nodes on a path are distinct, so that each step
leaves fewer nodes to enter; hence the bound of the search proper never cuts it short.
-/

namespace Wiring.Graph

/-- The nodes that a path may still enter. -/
def offPath (graph : Graph) (path : List PathStep) : List Node :=
  graph.filter fun node => !path.any (·.isAt node.type)

theorem node?_mem {graph : Graph} {type : TypeExpr} {node : Node}
    (h : graph.node? type = some node) : node ∈ graph := List.mem_of_find?_eq_some h

theorem node?_same {graph : Graph} {type : TypeExpr} {node : Node}
    (h : graph.node? type = some node) : node.type.same type := by
  simpa using List.find?_some h

theorem offPath_lt {graph : Graph} {path : List PathStep} {type : TypeExpr} {node : Node}
    {deferred : Bool} (hpath : path.dropWhile (!·.isAt type) = [])
    (hnode : graph.node? type = some node) :
    (graph.offPath (path ++ [⟨node, deferred⟩])).length < (graph.offPath path).length := by
  have hfilter : graph.offPath (path ++ [⟨node, deferred⟩]) =
      (graph.offPath path).filter fun other => !node.type.same other.type := by
    unfold offPath
    rw [List.filter_filter]
    congr 1
    funext other
    simp [PathStep.isAt, Bool.and_comm]
  rw [hfilter, List.length_filter_lt_length_iff_exists]
  refine ⟨node, List.mem_filter.2 ⟨node?_mem hnode, ?_⟩, by simp⟩
  rw [Bool.not_eq_true', List.any_eq_false]
  intro step hstep hat
  have hoff := List.dropWhile_eq_nil_iff.1 hpath step hstep
  have hsame := TypeExpr.same_trans hat (node?_same hnode)
  simp [PathStep.isAt, hsame] at hoff

/-- The search along `edge` with no bound on the length of the path. -/
def explore (graph : Graph) (path : List PathStep) (done : List TypeExpr) (edge : Edge) :
    Except Fault (List TypeExpr) :=
  match _hpath : path.dropWhile (!·.isAt edge.target) with
  | first :: others => .error (cycleFault first others edge.deferred)
  | [] =>
    if done.any edge.target.same then .ok done
    else
      match _hnode : graph.node? edge.target with
      | none => .ok (edge.target :: done)
      | some node =>
        match node.edges.foldlM (explore graph (path ++ [⟨node, edge.deferred⟩])) done with
        | .error fault => .error fault
        | .ok done => .ok (edge.target :: done)
termination_by (graph.offPath path).length
decreasing_by exact offPath_lt _hpath _hnode

/-- The search from every node with no bound. -/
def exploreAll (graph : Graph) : Except Fault Unit :=
  match graph.foldlM (fun done node => graph.explore [] done ⟨node.type, false⟩) [] with
  | .error fault => .error fault
  | .ok _ => .ok ()

/-- The bound leaves room for a node that is not on the path. -/
theorem visit_enter {graph : Graph} {room : Nat} {path : List PathStep} {done : List TypeExpr}
    {edge : Edge} {node : Node} (hpath : path.dropWhile (!·.isAt edge.target) = [])
    (hdone : ¬ done.any edge.target.same) (hnode : graph.node? edge.target = some node)
    (hroom : (graph.offPath path).length ≤ room)
    (ih : ∀ done next less, (graph.offPath (path ++ [⟨node, edge.deferred⟩])).length ≤ less →
      graph.visit less (path ++ [⟨node, edge.deferred⟩]) done next =
        graph.explore (path ++ [⟨node, edge.deferred⟩]) done next) :
    graph.visit room path done edge =
      match node.edges.foldlM (graph.explore (path ++ [⟨node, edge.deferred⟩])) done with
      | .error fault => .error fault
      | .ok done => .ok (edge.target :: done) := by
  have hlt : (graph.offPath (path ++ [⟨node, edge.deferred⟩])).length <
      (graph.offPath path).length := offPath_lt hpath hnode
  cases room with
  | zero => omega
  | succ less =>
    have hinner : graph.visit less (path ++ [⟨node, edge.deferred⟩]) =
        graph.explore (path ++ [⟨node, edge.deferred⟩]) :=
      funext₂ fun done next => ih done next less (by omega)
    unfold visit
    rw [hpath, hnode]
    dsimp only
    rw [if_neg hdone]
    exact hinner ▸ rfl

/-- The bound never cuts the search short: no path has more steps than nodes it could enter. -/
theorem visit_eq_explore (graph : Graph) {room : Nat} {path : List PathStep}
    (hroom : (graph.offPath path).length ≤ room) (done : List TypeExpr) (edge : Edge) :
    graph.visit room path done edge = graph.explore path done edge := by
  fun_induction explore graph path done edge generalizing room with
  | case1 path done edge first others hpath =>
    unfold visit
    rw [hpath]
  | case2 path done edge hpath hdone =>
    unfold visit
    rw [hpath]
    exact if_pos hdone
  | case3 path done edge hpath hdone hnode =>
    unfold visit
    rw [hpath, hnode]
    exact if_neg hdone
  | case4 path done edge hpath hdone node hnode fault hfold ih =>
    rw [visit_enter hpath hdone hnode hroom fun done next _ => ih done next, hfold]
  | case5 path done edge hpath hdone node hnode done' hfold ih =>
    rw [visit_enter hpath hdone hnode hroom fun done next _ => ih done next, hfold]

theorem validate_eq_exploreAll (graph : Graph) : graph.validate = graph.exploreAll := by
  have hsearch : (fun done (node : Node) => graph.visit graph.length [] done ⟨node.type, false⟩) =
      fun done node => graph.explore [] done ⟨node.type, false⟩ :=
    funext₂ fun done node => visit_eq_explore graph (List.length_filter_le _ _) done _
  unfold validate
  rw [hsearch]
  rfl

end Wiring.Graph
