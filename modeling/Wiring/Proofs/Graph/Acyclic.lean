import Wiring.Proofs.Graph.Search

/-!
The search fails exactly on graphs with a cycle. If it comes back, the types it is done with stand
in an order in which each leads only to earlier ones, and no cycle fits into such an order. If it
fails, the path is a trail along edges, and the edge that failed leads back to a node on it.
-/

namespace Wiring

/-- A fold that fails has failed at some element. -/
theorem foldlM_error {α β : Type} {f : β → α → Except Fault β} {xs : List α} {a : β}
    {fault : Fault} (h : xs.foldlM f a = .error fault) : ∃ x ∈ xs, ∃ b, f b x = .error fault := by
  induction xs generalizing a with
  | nil => cases h
  | cons x xs ih =>
    rw [List.foldlM_cons] at h
    cases hx : f a x with
    | error _ =>
      rw [hx] at h
      cases h
      exact ⟨x, List.mem_cons_self, a, hx⟩
    | ok middle =>
      rw [hx] at h
      obtain ⟨y, hy, b, hb⟩ := ih h
      exact ⟨y, List.mem_cons_of_mem x hy, b, hb⟩

namespace Graph

variable {graph : Graph}

/-- Each type of the list leads only to types behind it. -/
def Finished (graph : Graph) : List TypeExpr → Prop
  | [] => True
  | type :: rest => (∀ other, graph.Leads type other → rest.any other.same) ∧ graph.Finished rest

theorem any_same_congr {types : List TypeExpr} {a b : TypeExpr} (h : a.same b) :
    types.any a.same = types.any b.same := by
  rw [show a.same = b.same from funext (TypeExpr.congr_same h)]

theorem Reaches.congr_left {a b c : TypeExpr} (h : a.same b) (hr : graph.Reaches a c) :
    graph.Reaches b c := by
  induction hr with
  | step hl => exact .step (hl.congr_left h)
  | tail _ hl ih => exact ih.tail hl

theorem Finished.leads {done : List TypeExpr} (h : graph.Finished done) {a b : TypeExpr}
    (ha : done.any a.same) (hl : graph.Leads a b) : done.any b.same := by
  induction done with
  | nil => cases ha
  | cons type rest ih =>
    rw [List.any_cons, Bool.or_eq_true] at ha ⊢
    right
    rcases ha with ha | ha
    · exact h.1 b (hl.congr_left ha)
    · exact ih h.2 ha

theorem Finished.not_reaches {done : List TypeExpr} (h : graph.Finished done) {a : TypeExpr}
    (ha : done.any a.same) : ¬ graph.Reaches a a := by
  induction done with
  | nil => cases ha
  | cons type rest ih =>
    rw [List.any_cons, Bool.or_eq_true] at ha
    rcases ha with ha | ha
    · intro hr
      have hbehind {b : TypeExpr} (hb : graph.Reaches a b) : rest.any b.same := by
        induction hb with
        | step hl => exact h.1 _ (hl.congr_left ha)
        | tail _ hl ihb => exact h.2.leads ihb hl
      exact ih h.2 (hbehind hr) hr
    · exact ih h.2 ha

/-- What a search that comes back makes of the finished types. -/
structure Adds (graph : Graph) (done done' : List TypeExpr) : Prop where
  suffix : done <:+ done'
  finished : graph.Finished done → graph.Finished done'

theorem Adds.refl (done : List TypeExpr) : graph.Adds done done := ⟨List.suffix_refl done, id⟩

theorem Adds.trans {a b c : List TypeExpr} (h₁ : graph.Adds a b) (h₂ : graph.Adds b c) :
    graph.Adds a c := ⟨h₁.suffix.trans h₂.suffix, h₂.finished ∘ h₁.finished⟩

theorem Adds.any {a b : List TypeExpr} (h : graph.Adds a b) {p : TypeExpr → Bool} (ha : a.any p) :
    b.any p := by
  obtain ⟨type, hmem, hp⟩ := List.any_eq_true.1 ha
  exact List.any_eq_true.2 ⟨type, h.suffix.subset hmem, hp⟩

/-- A fold of searches that comes back has finished the target of each. -/
theorem adds_of_foldlM {α : Type} (target : α → TypeExpr)
    {f : List TypeExpr → α → Except Fault (List TypeExpr)}
    (hstep : ∀ {a : List TypeExpr} {x : α} {b : List TypeExpr}, f a x = .ok b →
      graph.Adds a b ∧ b.any (target x).same)
    {xs : List α} {done done' : List TypeExpr} (h : xs.foldlM f done = .ok done') :
    graph.Adds done done' ∧ ∀ x ∈ xs, done'.any (target x).same := by
  induction xs generalizing done with
  | nil =>
    cases h
    exact ⟨Adds.refl _, fun x hx => absurd hx List.not_mem_nil⟩
  | cons x xs ih =>
    rw [List.foldlM_cons] at h
    cases hx : f done x with
    | error _ => rw [hx] at h; cases h
    | ok middle =>
      rw [hx] at h
      obtain ⟨hfirst, htarget⟩ := hstep hx
      obtain ⟨hrest, htargets⟩ := ih h
      refine ⟨hfirst.trans hrest, fun y hy => ?_⟩
      rcases List.mem_cons.1 hy with rfl | hy
      · exact hrest.any htarget
      · exact htargets y hy

theorem explore_ok {path : List PathStep} {done done' : List TypeExpr} {edge : Edge}
    (h : graph.explore path done edge = .ok done') :
    graph.Adds done done' ∧ done'.any edge.target.same := by
  fun_induction explore graph path done edge generalizing done' with
  | case1 => cases h
  | case2 path done edge hpath hdone =>
    cases h
    exact ⟨Adds.refl done, hdone⟩
  | case3 path done edge hpath hdone hnode =>
    cases h
    refine ⟨⟨List.suffix_cons _ _, fun hfinished => ⟨?_, hfinished⟩⟩, by simp⟩
    -- a leaf leads nowhere
    rintro other ⟨node, hother, -⟩
    rw [hnode] at hother
    cases hother
  | case4 => cases h
  | case5 path done edge hpath hdone node hnode middle hfold ih =>
    cases h
    obtain ⟨hadds, htargets⟩ := adds_of_foldlM Edge.target (ih _ _) hfold
    refine ⟨⟨hadds.suffix.trans (List.suffix_cons _ _),
      fun hfinished => ⟨?_, hadds.finished hfinished⟩⟩, by simp⟩
    rintro other ⟨node', hnode', next, hnext, hsame⟩
    obtain rfl := Option.some.inj (hnode.symm.trans hnode')
    rw [← any_same_congr hsame]
    exact htargets next hnext

/-- A path as the search makes it, with the edge it follows next. -/
inductive Trail (graph : Graph) : List PathStep → Edge → Prop
  | start (edge : Edge) : Trail graph [] edge
  | enter {path : List PathStep} {edge next : Edge} {node : Node} :
      Trail graph path edge → graph.node? edge.target = some node → next ∈ node.edges →
      Trail graph (path ++ [⟨node, edge.deferred⟩]) next

theorem Trail.reaches {path : List PathStep} {edge : Edge} (h : graph.Trail path edge) :
    ∀ step ∈ path, graph.Reaches step.node.type edge.target := by
  induction h with
  | start edge => exact fun step hstep => absurd hstep List.not_mem_nil
  | @enter path edge next node _ hnode hnext ih =>
    have hleads : graph.Leads edge.target next.target :=
      ⟨node, hnode, next, hnext, TypeExpr.same_refl _⟩
    intro step hstep
    rcases List.mem_append.1 hstep with hold | hnew
    · exact (ih step hold).tail hleads
    · cases List.mem_singleton.1 hnew
      have hsame : edge.target.same node.type := by
        rw [TypeExpr.same_comm]
        exact node?_same hnode
      exact .step (hleads.congr_left hsame)

/-- A search that fails has come back to a node on its path. What holds of the path before a node is
entered, and is kept by entering one that is not on it, holds of the path then. -/
theorem explore_error {P : List PathStep → Edge → Prop}
    (henter : ∀ path edge node next, P path edge → path.dropWhile (!·.isAt edge.target) = [] →
      graph.node? edge.target = some node → next ∈ node.edges →
      P (path ++ [⟨node, edge.deferred⟩]) next)
    {path : List PathStep} {done : List TypeExpr} {edge : Edge} {fault : Fault}
    (h : graph.explore path done edge = .error fault) (hP : P path edge) :
    ∃ path' edge' first others, P path' edge' ∧
      path'.dropWhile (!·.isAt edge'.target) = first :: others ∧
      fault = cycleFault first others edge'.deferred := by
  fun_induction explore graph path done edge with
  | case1 path done edge first others hpath =>
    cases h
    exact ⟨path, edge, first, others, hP, hpath, rfl⟩
  | case2 => cases h
  | case3 => cases h
  | case4 path done edge hpath hdone node hnode _ hfold ih =>
    cases h
    obtain ⟨next, hnext, done', hfault⟩ := foldlM_error hfold
    exact ih done' next hfault (henter path edge node next hP hpath hnode hnext)
  | case5 => cases h

theorem exploreAll_error {P : List PathStep → Edge → Prop}
    (henter : ∀ path edge node next, P path edge → path.dropWhile (!·.isAt edge.target) = [] →
      graph.node? edge.target = some node → next ∈ node.edges →
      P (path ++ [⟨node, edge.deferred⟩]) next)
    (hstart : ∀ edge, P [] edge) {fault : Fault} (h : graph.exploreAll = .error fault) :
    ∃ path edge first others, P path edge ∧
      path.dropWhile (!·.isAt edge.target) = first :: others ∧
      fault = cycleFault first others edge.deferred := by
  unfold exploreAll at h
  split at h
  · next hfold =>
    cases h
    obtain ⟨node, -, done, hfault⟩ := foldlM_error hfold
    exact explore_error henter hfault (hstart _)
  · cases h

theorem isAt_of_dropWhile {path others : List PathStep} {first : PathStep} {type : TypeExpr}
    (h : path.dropWhile (!·.isAt type) = first :: others) : first.isAt type := by
  have hhead := List.head_dropWhile_not (fun step : PathStep => !step.isAt type) (l := path)
    (by rw [h]; exact List.cons_ne_nil _ _)
  simpa [h] using hhead

theorem hasCycle_of_trail {path : List PathStep} {edge : Edge} {first : PathStep}
    {others : List PathStep} (htrail : graph.Trail path edge)
    (hclosed : path.dropWhile (!·.isAt edge.target) = first :: others) : graph.HasCycle := by
  have hmem : first ∈ path := by
    apply (List.dropWhile_suffix _).subset
    rw [hclosed]
    exact List.mem_cons_self
  exact ⟨edge.target, (htrail.reaches first hmem).congr_left (isAt_of_dropWhile hclosed)⟩

theorem Reaches.node?_isSome {a b : TypeExpr} (h : graph.Reaches a b) :
    ∃ node, graph.node? a = some node := by
  induction h with
  | step hl =>
    obtain ⟨node, hnode, -⟩ := hl
    exact ⟨node, hnode⟩
  | tail _ _ ih => exact ih

/-- The search comes back exactly if there is no cycle. -/
theorem exploreAll_ok_iff (graph : Graph) : graph.exploreAll = .ok () ↔ ¬ graph.HasCycle := by
  constructor
  · rintro h ⟨type, hreaches⟩
    unfold exploreAll at h
    split at h
    · cases h
    next done hfold =>
    obtain ⟨hadds, hall⟩ : graph.Adds [] done ∧ ∀ node ∈ graph, done.any node.type.same :=
      adds_of_foldlM Node.type explore_ok hfold
    obtain ⟨node, hnode⟩ := hreaches.node?_isSome
    have hdone := hall node (node?_mem hnode)
    rw [any_same_congr (node?_same hnode)] at hdone
    exact (hadds.finished trivial).not_reaches hdone hreaches
  · intro hacyclic
    cases h : graph.exploreAll with
    | ok _ => rfl
    | error fault =>
      obtain ⟨path, edge, first, others, htrail, hclosed, -⟩ := exploreAll_error (P := graph.Trail)
        (fun _ _ _ _ htrail _ hnode hnext => htrail.enter hnode hnext) .start h
      exact absurd (hasCycle_of_trail htrail hclosed) hacyclic

end Graph
end Wiring
