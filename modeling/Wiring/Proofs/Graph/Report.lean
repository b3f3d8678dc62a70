import Mathlib.Data.List.Chain
import Wiring.Proofs.Graph.Dependency

/-!
What a failed search reports. The nodes on its path are of distinct types, and an edge leads from
each to the next one; so what the report is cut out of is a circle of the graph. The report names
the nodes of the circle in order, and speaks of deferred references exactly if an edge of the circle
is one: how the search came to the circle is no part of it, how it was closed is.
-/

namespace Wiring

/-- The node as a link of a chain, reached by an edge that was deferred or not. -/
def Node.link (deferred : Bool) (node : Node) : ChainLink where
  name := node.type.displayName
  lifetime := node.lifetime.text
  via := if deferred then some "deferred" else none

theorem Node.via_link_iff {deferred : Bool} {node : Node} :
    (node.link deferred).via = some "deferred" ↔ deferred := by
  cases deferred <;> simp [Node.link]

namespace Graph

/-- Nodes of distinct types with an edge of each: it leads to the next node, and from the last one
back to the first. -/
structure IsCircle (graph : Graph) (steps : List (Node × Edge)) : Prop where
  edges : ∀ step ∈ steps, step.1 ∈ graph ∧ step.2 ∈ step.1.edges
  distinct : steps.Pairwise fun a b => ¬ a.1.type.same b.1.type
  onward : steps.IsChain fun a b => a.2.target.same b.1.type
  closed : ∃ first ∈ steps.head?, ∃ last ∈ steps.getLast?, last.2.target.same first.1.type

/-- The nodes in order, and the first one again. -/
def ring (steps : List (Node × Edge)) : List Node :=
  steps.map (·.1) ++ (steps.map (·.1)).head?.toList

/-- The names around a circle; where an edge is deferred also the lifetimes, and for each node but
the first whether the edge into it is deferred. -/
def report (steps : List (Node × Edge)) : Fault :=
  if steps.any (·.2.deferred) then
    .lazyTransientCycle
      (List.zipWith Node.link (false :: steps.map (·.2.deferred)) (ring steps))
  else .circularDependency ((ring steps).map (·.type.displayName))

/-- A path as the search makes it, and the edge that it follows from the end of the path. -/
structure IsPath (graph : Graph) (path : List PathStep) (edge : Edge) : Prop where
  nodes : ∀ step ∈ path, step.node ∈ graph
  distinct : path.Pairwise fun a b => ¬ a.node.type.same b.node.type
  onward : path.IsChain fun a b => ∃ out ∈ a.node.edges,
    out.target.same b.node.type ∧ out.deferred = b.viaDeferred
  last : ∀ step ∈ path.getLast?, edge ∈ step.node.edges

variable {graph : Graph} {path others : List PathStep} {first : PathStep} {edge : Edge}

theorem isPath_nil (graph : Graph) (edge : Edge) : graph.IsPath [] edge where
  nodes _ h := absurd h List.not_mem_nil
  distinct := .nil
  onward := .nil
  last _ h := by cases h

/-- A node that is not on the path may be entered. -/
theorem IsPath.enter (h : graph.IsPath path edge) {node : Node} {next : Edge}
    (hpath : path.dropWhile (!·.isAt edge.target) = [])
    (hnode : graph.node? edge.target = some node) (hnext : next ∈ node.edges) :
    graph.IsPath (path ++ [⟨node, edge.deferred⟩]) next := by
  have hsame : edge.target.same node.type := by
    rw [TypeExpr.same_comm]
    exact node?_same hnode
  refine ⟨?_, ?_, ?_, ?_⟩
  · intro step hstep
    rcases List.mem_append.1 hstep with hold | hnew
    · exact h.nodes step hold
    · rw [List.mem_singleton.1 hnew]
      exact node?_mem hnode
  · refine List.pairwise_append.2 ⟨h.distinct, List.pairwise_singleton _ _, ?_⟩
    intro step hstep entered hentered hsame'
    rw [List.mem_singleton.1 hentered] at hsame'
    -- a node of the same type would have stopped the search
    have hoff := List.dropWhile_eq_nil_iff.1 hpath step hstep
    have hat := TypeExpr.same_trans hsame' (node?_same hnode)
    simp [PathStep.isAt, hat] at hoff
  · refine List.isChain_append.2 ⟨h.onward, List.isChain_singleton _, ?_⟩
    intro step hstep entered hentered
    obtain rfl := Option.some.inj hentered
    exact ⟨edge, h.last step hstep, hsame, rfl⟩
  · intro step hstep
    rw [List.getLast?_append_cons] at hstep
    obtain rfl := Option.some.inj hstep
    exact hnext

/-- What is left of a path when steps at its beginning are dropped. -/
theorem IsPath.of_suffix (h : graph.IsPath path edge) (hsuffix : first :: others <:+ path) :
    graph.IsPath (first :: others) edge where
  nodes step hstep := h.nodes step (hsuffix.subset hstep)
  distinct := h.distinct.sublist hsuffix.sublist
  onward := h.onward.suffix hsuffix
  last := by
    obtain ⟨dropped, rfl⟩ := hsuffix
    have hlast := h.last
    rwa [List.getLast?_append_cons] at hlast

/-- Beside each node on the path stands the edge that was followed out of it. -/
theorem IsPath.exists_steps (h : graph.IsPath (first :: others) edge) :
    ∃ steps : List (Node × Edge), steps.map (·.1) = (first :: others).map (·.node) ∧
      steps.map (·.2.deferred) = others.map (·.viaDeferred) ++ [edge.deferred] ∧
      (∀ step ∈ steps, step.2 ∈ step.1.edges) ∧
      (steps.IsChain fun a b => a.2.target.same b.1.type) ∧
      steps.getLast?.map (·.2) = some edge := by
  induction others generalizing first with
  | nil =>
    refine ⟨[(first.node, edge)], rfl, rfl, ?_, List.isChain_singleton _, rfl⟩
    intro step hstep
    rw [List.mem_singleton.1 hstep]
    exact h.last first rfl
  | cons second others ih =>
    obtain ⟨⟨out, hout, hleads, hdeferred⟩, -⟩ := List.isChain_cons_cons.1 h.onward
    obtain ⟨steps, hnodes, hflags, hedges, honward, hlast⟩ :=
      ih (h.of_suffix (List.suffix_cons first _))
    have hne : steps ≠ [] := by
      rintro rfl
      cases hlast
    refine ⟨(first.node, out) :: steps, ?_, ?_, ?_, ?_, ?_⟩
    · rw [List.map_cons, hnodes]
      rfl
    · rw [List.map_cons, hflags, List.map_cons, List.cons_append, hdeferred]
    · exact List.forall_mem_cons.2 ⟨hout, hedges⟩
    · refine List.isChain_cons.2 ⟨fun next hnext => ?_, honward⟩
      have hhead := congrArg List.head? hnodes
      rw [List.head?_map, hnext] at hhead
      have hnode : next.1 = second.node := Option.some.inj hhead
      rwa [hnode]
    · rw [List.getLast?_cons_of_ne_nil hne, hlast]

/-- The report of the search is that of the nodes from the one met again on, with the edges that
were followed out of them. -/
theorem cycleFault_eq_report {steps : List (Node × Edge)} {deferred : Bool}
    (hnodes : steps.map (·.1) = (first :: others).map (·.node))
    (hflags : steps.map (·.2.deferred) = others.map (·.viaDeferred) ++ [deferred]) :
    cycleFault first others deferred = report steps := by
  have hany : steps.any (·.2.deferred) = (deferred || others.any (·.viaDeferred)) := by
    have hmap : steps.any (·.2.deferred) = (steps.map (·.2.deferred)).any id := by simp
    rw [hmap, hflags]
    simp [Bool.or_comm]
  have hring : ring steps = (first :: others ++ [first]).map (·.node) := by
    simp [ring, hnodes]
  have hlinks : List.zipWith Node.link (false :: steps.map (·.2.deferred)) (ring steps) =
      first.link false :: others.map (fun step => step.link step.viaDeferred) ++
        [first.link deferred] := by
    have hothers : List.zipWith Node.link (others.map (·.viaDeferred)) (others.map (·.node)) =
        others.map fun step => step.link step.viaDeferred := by
      rw [List.zipWith_map, List.zipWith_self]
      rfl
    rw [hring, hflags, List.cons_append, List.map_cons, List.zipWith_cons_cons, List.map_append,
      List.zipWith_append (by simp), hothers]
    rfl
  unfold cycleFault report
  rw [hany, hlinks, hring, List.map_map]
  rfl

/-- A search that fails reports a circle of the graph. -/
theorem exploreAll_error_isCircle {fault : Fault} (h : graph.exploreAll = .error fault) :
    ∃ steps, graph.IsCircle steps ∧ fault = report steps := by
  obtain ⟨path, edge, first, others, hpath, hclosed, rfl⟩ :=
    exploreAll_error (P := graph.IsPath)
      (fun _ _ _ _ hpath hoff hnode hnext => hpath.enter hoff hnode hnext) (isPath_nil graph) h
  have hcut : graph.IsPath (first :: others) edge :=
    hpath.of_suffix (by rw [← hclosed]; exact List.dropWhile_suffix _)
  obtain ⟨steps, hnodes, hflags, hedges, honward, hlast⟩ := hcut.exists_steps
  refine ⟨steps, ⟨fun step hstep => ⟨?_, hedges step hstep⟩, ?_, honward, ?_⟩,
    cycleFault_eq_report hnodes hflags⟩
  · have hnode : step.1 ∈ (first :: others).map (·.node) := by
      rw [← hnodes]
      exact List.mem_map_of_mem hstep
    obtain ⟨visited, hvisited, hsame⟩ := List.mem_map.1 hnode
    rw [← hsame]
    exact hcut.nodes visited hvisited
  · have hdistinct : (steps.map (·.1)).Pairwise fun a b => ¬ a.type.same b.type := by
      rw [hnodes]
      exact List.pairwise_map.2 hcut.distinct
    exact List.pairwise_map.1 hdistinct
  · have hhead := congrArg List.head? hnodes
    rw [List.head?_map] at hhead
    obtain ⟨start, hstart, hnode⟩ := Option.map_eq_some_iff.1 hhead
    obtain ⟨last, hend, rfl⟩ := Option.map_eq_some_iff.1 hlast
    refine ⟨start, hstart, last, hend, ?_⟩
    rw [hnode, TypeExpr.same_comm]
    exact isAt_of_dropWhile hclosed

/-! A circle round by round. -/

variable {steps : List (Node × Edge)}

/-- The steps around a circle, each with the node that its edge leads to. -/
def rounds (steps : List (Node × Edge)) : List ((Node × Edge) × Node) :=
  steps.zip (ring steps).tail

/-- A relation between links that follow one another, read off the steps. -/
theorem isChain_links_iff {R : ChainLink → ChainLink → Prop} {P : Node → Bool → Node → Prop}
    (hR : ∀ a b d e, R (a.link d) (b.link e) ↔ P a e b) (entered : Bool) (last : Node) :
    (List.zipWith Node.link (entered :: steps.map (·.2.deferred))
        (steps.map (·.1) ++ [last])).IsChain R ↔
      ∀ round ∈ steps.zip (steps.map (·.1) ++ [last]).tail,
        P round.1.1 round.1.2.deferred round.2 := by
  induction steps generalizing entered with
  | nil => simp
  | cons step rest ih =>
    cases rest with
    | nil => simp [hR]
    | cons second rest =>
      have hrest := ih step.2.deferred
      simp only [List.map_cons, List.cons_append, List.zipWith_cons_cons, List.tail_cons] at hrest ⊢
      rw [List.isChain_cons_cons, hrest, hR]
      simp

theorem same_of_mem_zip {last : Node}
    (honward : steps.IsChain fun a b => a.2.target.same b.1.type)
    (hclosed : ∀ step ∈ steps.getLast?, step.2.target.same last.type) :
    ∀ round ∈ steps.zip (steps.map (·.1) ++ [last]).tail,
      round.1.2.target.same round.2.type := by
  induction steps with
  | nil => simp
  | cons step rest ih =>
    cases rest with
    | nil => simpa using hclosed
    | cons second rest =>
      obtain ⟨hfirst, honward⟩ := List.isChain_cons_cons.1 honward
      have hrest := ih honward hclosed
      simp only [List.map_cons, List.cons_append, List.tail_cons] at hrest ⊢
      rw [List.zip_cons_cons, List.forall_mem_cons]
      exact ⟨hfirst, hrest⟩

namespace IsCircle

variable (h : graph.IsCircle steps)
include h

/-- The nodes around a circle end with the one they begin with. -/
theorem exists_last : ∃ last ∈ graph, ring steps = steps.map (·.1) ++ [last] ∧
    ∀ step ∈ steps.getLast?, step.2.target.same last.type := by
  obtain ⟨first, hfirst, last, hlast, hsame⟩ := h.closed
  refine ⟨first.1, (h.edges first (List.mem_of_mem_head? hfirst)).1, ?_, fun step hstep => ?_⟩
  · rw [ring, List.head?_map, Option.mem_def.1 hfirst]
    rfl
  · obtain rfl := Option.some.inj (Option.mem_def.1 hlast ▸ hstep)
    exact hsame

/-- Every edge leads to the node of its round. -/
theorem same_of_mem_rounds {round : (Node × Edge) × Node} (hround : round ∈ rounds steps) :
    round.1.2.target.same round.2.type := by
  obtain ⟨last, -, hring, hclosed⟩ := h.exists_last
  rw [rounds, hring] at hround
  exact same_of_mem_zip h.onward hclosed round hround

theorem mem_graph_of_mem_rounds {round : (Node × Edge) × Node} (hround : round ∈ rounds steps) :
    round.2 ∈ graph := by
  obtain ⟨last, hlast, hring, -⟩ := h.exists_last
  have hmem := List.mem_of_mem_tail (List.of_mem_zip hround).2
  rw [hring] at hmem
  rcases List.mem_append.1 hmem with hnode | hfirst
  · obtain ⟨step, hstep, hnode⟩ := List.mem_map.1 hnode
    rw [← hnode]
    exact (h.edges step hstep).1
  · rwa [List.mem_singleton.1 hfirst]

theorem exists_round {step : Node × Edge} (hstep : step ∈ steps) :
    ∃ node, (step, node) ∈ rounds steps := by
  obtain ⟨last, -, hring, -⟩ := h.exists_last
  have hlength : (ring steps).tail.length = steps.length := by simp [hring]
  have hsteps : (rounds steps).map Prod.fst = steps :=
    List.map_fst_zip (Nat.le_of_eq hlength.symm)
  rw [← hsteps] at hstep
  obtain ⟨⟨_, node⟩, hround, rfl⟩ := List.mem_map.1 hstep
  exact ⟨node, hround⟩

/-- A relation between links that follow one another, read off the rounds. -/
theorem isChain_iff {R : ChainLink → ChainLink → Prop} {P : Node → Bool → Node → Prop}
    (hR : ∀ a b d e, R (a.link d) (b.link e) ↔ P a e b) :
    (List.zipWith Node.link (false :: steps.map (·.2.deferred)) (ring steps)).IsChain R ↔
      ∀ round ∈ rounds steps, P round.1.1 round.1.2.deferred round.2 := by
  obtain ⟨last, -, hring, -⟩ := h.exists_last
  rw [rounds, hring]
  exact isChain_links_iff hR false last

end IsCircle

end Graph

namespace Container

/-- Validation that fails, where no number is amiss, reports a circle of the dependency graph. -/
theorem validate_error_isCircle {c : Container} (hids : c.IdsIssued) {fault : Fault}
    (h : c.validate = .error fault) :
    ∃ steps, c.graph.IsCircle steps ∧ fault = Graph.report steps := by
  rw [validate_eq_exploreAll hids] at h
  exact Graph.exploreAll_error_isCircle h

namespace Printing

def desk : TypeExpr := ⟨.classType, "app::Desk", [], false⟩
def spooler : TypeExpr := ⟨.classType, "app::Spooler", [], false⟩
def printer : TypeExpr := ⟨.classType, "app::Printer", [], false⟩

def lazily (type : TypeExpr) : TypeExpr := ⟨.classType, "core::Lazy", [type], false⟩

/-- The printer needs the spooler twice, once at hand and once at its first use. -/
def catalog : Catalog := .ofDefinitions [
  .built desk [⟨"queue", lazily spooler, [], none⟩],
  .built spooler [⟨"device", printer, [], none⟩],
  .built printer [⟨"source", lazily spooler, [], none⟩, ⟨"owner", spooler, [], none⟩]]

def context : Context := { program := catalog.program }

def registered : Container := empty.addAll context [
  { type := desk, lifetime := .transient }, { type := spooler, lifetime := .transient },
  { type := printer, lifetime := .transient }]

def checked : Container :=
  (((registered.check context 0).1.check context 1).1.check context 2).1

end Printing

/-- The search comes to the spooler by a deferred reference of the desk, which is not reported, and
goes round by way of the printer's first parameter, which is. -/
theorem spooler_reported :
    Printing.checked.validate = .error (.lazyTransientCycle
        [⟨"Spooler", "Transient", none⟩, ⟨"Printer", "Transient", none⟩,
          ⟨"Spooler", "Transient", some "deferred"⟩]) ∧
      ∃ steps, Printing.checked.graph.IsCircle steps ∧ Graph.report steps = .lazyTransientCycle
        [⟨"Spooler", "Transient", none⟩, ⟨"Printer", "Transient", none⟩,
          ⟨"Spooler", "Transient", some "deferred"⟩] := by
  have hids : Printing.checked.IdsIssued := by decide +kernel
  have hfails : Printing.checked.validate = .error (.lazyTransientCycle
      [⟨"Spooler", "Transient", none⟩, ⟨"Printer", "Transient", none⟩,
        ⟨"Spooler", "Transient", some "deferred"⟩]) := by decide +kernel
  obtain ⟨steps, hcircle, hreport⟩ := validate_error_isCircle hids hfails
  exact ⟨hfails, steps, hcircle, hreport.symm⟩

end Container
end Wiring
