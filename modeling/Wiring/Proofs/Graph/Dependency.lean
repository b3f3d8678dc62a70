import Mathlib.Logic.Relation
import Wiring.Catalog.Basic
import Wiring.Proofs.Check.Index
import Wiring.Proofs.Graph.Acyclic

/-!
Which types wait for which, read off the resolutions of a container and not off its graph.
Validation succeeds exactly if no type waits for itself, at once or by way of others, and its search
is one that no bound cuts short.
-/

namespace Wiring.Container

/-- A request that selects the registration `id` is served by the registration `target`: itself, or
an element where `id` collects. -/
def Supplies (c : Container) (id target : RegistrationId) : Prop :=
  ∃ r, c.registration? id = some r ∧
    match r.collected with
    | some ids => target ∈ ids
    | none => target = id

/-- The parameter of the resolution cannot do without the service it selects, and has to have
`target` constructed first. A deferred one waits only if both ends are transient. -/
structure Demands (resolution : Resolution) (p : ParameterResolution) (target : Registration) :
    Prop where
  notNullable : p.nullable = false
  noDefault : p.parameter.default? = none
  notMemoized : p.deferred → resolution.lifetime = .transient ∧ target.lifetime = .transient

/-- A closed type waits for the types of what its resolution demands. -/
def Waits (c : Container) (a b : TypeExpr) : Prop :=
  ∃ resolution ∈ c.resolutions, resolution.type.isClosed ∧ resolution.type.same a ∧
    ∃ p ∈ resolution.parameters, ∃ id target r, p.outcome.selected? = some id ∧
      c.Supplies id target ∧ c.registration? target = some r ∧ Demands resolution p r ∧
      r.resolvedType.same b

/-- Every number in a resolution or a collection is that of a registration. -/
structure IdsIssued (c : Container) : Prop where
  selected : ∀ resolution ∈ c.resolutions, ∀ p ∈ resolution.parameters, ∀ id,
    p.outcome.selected? = some id → id < c.size
  collected : ∀ r ∈ c.registrations, ∀ ids, r.collected = some ids → ∀ id ∈ ids, id < c.size

instance (c : Container) : Decidable c.IdsIssued :=
  decidable_of_iff
    ((∀ resolution ∈ c.resolutions, ∀ p ∈ resolution.parameters,
        ∀ id ∈ p.outcome.selected?, id < c.size) ∧
      ∀ r ∈ c.registrations, ∀ ids ∈ r.collected, ∀ id ∈ ids, id < c.size)
    ⟨fun h => ⟨h.1, h.2⟩, fun h => ⟨h.selected, h.collected⟩⟩

variable {c : Container}

theorem supplies_self {id : RegistrationId}
    (h : (c.registration? id).map (·.collected) = some none) : c.Supplies id id := by
  obtain ⟨r, hr, hcollected⟩ := Option.map_eq_some_iff.1 h
  exact ⟨r, hr, by rw [hcollected]⟩

theorem isHard_iff {p : ParameterResolution} :
    p.isHard ↔ (∃ id, p.outcome.selected? = some id) ∧ p.nullable = false ∧
      p.parameter.default? = none := by
  simp [ParameterResolution.isHard, ParameterResolution.isOptional, Option.isSome_iff_exists]

/-- A parameter that is hard and not deferred makes a closed type wait for what it is supplied
with. -/
theorem waits_of_isHard {resolution : Resolution} (hmem : resolution ∈ c.resolutions)
    {a b : TypeExpr} (ha : resolution.type.same a) (hclosed : a.isClosed)
    {p : ParameterResolution} (hp : p ∈ resolution.parameters) (hhard : p.isHard)
    (hdeferred : p.deferred = false) {id target : RegistrationId} {r : Registration}
    (hselected : p.outcome.selected? = some id) (hsupplies : c.Supplies id target)
    (hr : c.registration? target = some r) (hb : r.resolvedType.same b) : c.Waits a b := by
  have hresolution : resolution.type.isClosed := by rwa [TypeExpr.isClosed_congr ha]
  obtain ⟨-, hnullable, hdefault⟩ := isHard_iff.1 hhard
  refine ⟨resolution, hmem, hresolution, ha, p, hp, id, target, r, hselected, hsupplies, hr, ?_, hb⟩
  exact ⟨hnullable, hdefault, fun h => by rw [hdeferred] at h; cases h⟩

theorem mem_targets_iff {p : ParameterResolution} {target : RegistrationId}
    (htarget : (c.registration? target).isSome) :
    target ∈ c.targets p ↔ ∃ id, p.outcome.selected? = some id ∧ c.Supplies id target := by
  unfold targets Supplies
  cases p.outcome.selected? with
  | none => simp
  | some id =>
    dsimp only
    cases hid : c.registration? id with
    | none =>
      constructor
      · intro hmem
        rw [List.mem_singleton.1 hmem, hid] at htarget
        cases htarget
      · rintro ⟨id', hid', r, hr, -⟩
        cases hid'
        rw [hid] at hr
        cases hr
    | some r =>
      simp only [Option.some.injEq, exists_eq_left', hid]
      cases r.collected with
      | none => exact List.mem_singleton
      | some ids => exact Iff.rfl

theorem edge?_eq_some_iff {resolution : Resolution} {p : ParameterResolution} {r : Registration}
    {edge : Edge} :
    edge? resolution p r = some edge ↔
      (p.deferred → resolution.lifetime = .transient ∧ r.lifetime = .transient) ∧
        edge = ⟨r.resolvedType, p.deferred⟩ := by
  unfold edge?
  cases p.deferred with
  | false => simp [@eq_comm _ _ edge]
  | true =>
    cases resolution.lifetime <;> cases r.lifetime <;>
      simp [Lifetime.isTransient, @eq_comm _ _ edge]

theorem mem_edges_nodeOf_iff {resolution : Resolution} {edge : Edge} :
    edge ∈ (c.nodeOf resolution).edges ↔
      ∃ p ∈ resolution.parameters, ∃ id target r, p.outcome.selected? = some id ∧
        c.Supplies id target ∧ c.registration? target = some r ∧ Demands resolution p r ∧
        edge = ⟨r.resolvedType, p.deferred⟩ := by
  unfold nodeOf hardTargets
  simp only [List.mem_filterMap, List.mem_flatMap, List.mem_map, List.mem_filter]
  constructor
  · rintro ⟨⟨p, r⟩, ⟨p', ⟨hp, hhard⟩, r', ⟨target, htarget, hr⟩, hpair⟩, hedge⟩
    cases hpair
    obtain ⟨hmemoized, rfl⟩ := edge?_eq_some_iff.1 hedge
    obtain ⟨-, hnullable, hdefault⟩ := isHard_iff.1 hhard
    obtain ⟨id, hid, hsupplies⟩ := (mem_targets_iff (by rw [hr]; rfl)).1 htarget
    exact ⟨p, hp, id, target, r, hid, hsupplies, hr, ⟨hnullable, hdefault, hmemoized⟩, rfl⟩
  · rintro ⟨p, hp, id, target, r, hid, hsupplies, hr, ⟨hnullable, hdefault, hmemoized⟩, rfl⟩
    have htarget := (mem_targets_iff (by rw [hr]; rfl)).2 ⟨id, hid, hsupplies⟩
    exact ⟨(p, r), ⟨p, ⟨hp, isHard_iff.2 ⟨⟨id, hid⟩, hnullable, hdefault⟩⟩, r,
      ⟨target, htarget, hr⟩, rfl⟩, edge?_eq_some_iff.2 ⟨hmemoized, rfl⟩⟩

theorem node?_graph (a : TypeExpr) :
    c.graph.node? a = (c.closedResolutions.find? (·.type.same a)).map c.nodeOf := by
  unfold graph Graph.node?
  rw [List.find?_map]
  rfl

theorem node?_graph_eq_some_iff (h : c.Indexed) {a : TypeExpr} {node : Node} :
    c.graph.node? a = some node ↔ ∃ resolution ∈ c.resolutions, resolution.type.isClosed ∧
      resolution.type.same a ∧ c.nodeOf resolution = node := by
  rw [node?_graph, Option.map_eq_some_iff]
  constructor
  · rintro ⟨resolution, hfound, hnode⟩
    obtain ⟨hmem, hclosed⟩ := List.mem_filter.1 (List.mem_of_find?_eq_some hfound)
    exact ⟨resolution, hmem, hclosed, by simpa using List.find?_some hfound, hnode⟩
  · rintro ⟨resolution, hmem, hclosed, hsame, hnode⟩
    refine ⟨resolution, ?_, hnode⟩
    have hlisted : resolution ∈ c.closedResolutions := List.mem_filter.2 ⟨hmem, hclosed⟩
    cases hfound : c.closedResolutions.find? (·.type.same a) with
    | none => exact absurd hsame (List.find?_eq_none.1 hfound resolution hlisted)
    | some other =>
      have hother := (List.mem_filter.1 (List.mem_of_find?_eq_some hfound)).1
      have hsame' : other.type.same resolution.type := by
        rw [TypeExpr.same_comm] at hsame
        exact TypeExpr.same_trans (by simpa using List.find?_some hfound) hsame
      rw [h.resolution_unique hother hmem hsame']

/-- The edges of the graph are the waits between types. -/
theorem leads_iff_waits (h : c.Indexed) {a b : TypeExpr} : c.graph.Leads a b ↔ c.Waits a b := by
  constructor
  · rintro ⟨node, hnode, edge, hedge, hsame⟩
    obtain ⟨resolution, hmem, hclosed, ha, rfl⟩ := (node?_graph_eq_some_iff h).1 hnode
    obtain ⟨p, hp, id, target, r, hid, hsupplies, hr, hdemands, rfl⟩ :=
      mem_edges_nodeOf_iff.1 hedge
    exact ⟨resolution, hmem, hclosed, ha, p, hp, id, target, r, hid, hsupplies, hr, hdemands, hsame⟩
  · rintro ⟨resolution, hmem, hclosed, ha, p, hp, id, target, r, hid, hsupplies, hr, hdemands, hb⟩
    exact ⟨c.nodeOf resolution,
      (node?_graph_eq_some_iff h).2 ⟨resolution, hmem, hclosed, ha, rfl⟩, _,
      mem_edges_nodeOf_iff.2 ⟨p, hp, id, target, r, hid, hsupplies, hr, hdemands, rfl⟩, hb⟩

theorem reaches_iff_transGen (h : c.Indexed) {a b : TypeExpr} :
    c.graph.Reaches a b ↔ Relation.TransGen c.Waits a b := by
  constructor
  · intro hr
    induction hr with
    | step hl => exact .single ((leads_iff_waits h).1 hl)
    | tail _ hl ih => exact ih.tail ((leads_iff_waits h).1 hl)
  · intro hw
    induction hw with
    | single hl => exact .step ((leads_iff_waits h).2 hl)
    | tail _ hl ih => exact ih.tail ((leads_iff_waits h).2 hl)

/-- What a parameter waits for is registered. -/
theorem IdsIssued.target_lt (h : c.IdsIssued) {resolution : Resolution}
    (hresolution : resolution ∈ c.resolutions) {p : ParameterResolution}
    (hp : p ∈ resolution.parameters) {target : RegistrationId} (htarget : target ∈ c.targets p) :
    target < c.size := by
  unfold targets at htarget
  split at htarget
  · cases htarget
  next id hid =>
  have hidlt := h.selected resolution hresolution p hp id hid
  split at htarget
  · rwa [List.mem_singleton.1 htarget]
  next r hr =>
  cases hcollected : r.collected with
  | none =>
    rw [hcollected] at htarget
    rwa [List.mem_singleton.1 htarget]
  | some ids =>
    rw [hcollected] at htarget
    exact h.collected r (List.mem_of_getElem? hr) ids hcollected target htarget

theorem danglingTarget?_eq_none (h : c.IdsIssued) : c.danglingTarget? = none := by
  unfold danglingTarget?
  dsimp only
  rw [List.find?_eq_none]
  intro target hmem
  simp only [List.mem_flatMap] at hmem
  obtain ⟨resolution, hresolution, p, hp, htarget⟩ := hmem
  have hlt := h.target_lt (List.mem_filter.1 hresolution).1 (List.mem_filter.1 hp).1 htarget
  obtain ⟨r, hr⟩ := registration?_isSome hlt
  simp [hr]

theorem validate_eq_exploreAll (h : c.IdsIssued) : c.validate = c.graph.exploreAll := by
  unfold validate
  rw [danglingTarget?_eq_none h]
  exact Graph.validate_eq_exploreAll c.graph

/-- The search comes back exactly if no type waits for itself. -/
theorem exploreAll_graph_ok_iff (h : c.Indexed) :
    c.graph.exploreAll = .ok () ↔ ∀ type, ¬ Relation.TransGen c.Waits type type := by
  rw [Graph.exploreAll_ok_iff, Graph.HasCycle, not_exists]
  exact forall_congr' fun type => not_congr (reaches_iff_transGen h)

/-- Validation that succeeds leaves no type that waits for itself. -/
theorem not_waits_of_validate (h : c.Indexed) (hvalid : c.validate = .ok ()) (type : TypeExpr) :
    ¬ Relation.TransGen c.Waits type type := by
  unfold validate at hvalid
  split at hvalid
  · cases hvalid
  · rw [Graph.validate_eq_exploreAll] at hvalid
    exact (exploreAll_graph_ok_iff h).1 hvalid type

/-- Each step of a cycle is on the way from its start and on the way back to it. -/
theorem transGen_on_cycle {α : Type} {r : α → α → Prop} {a b : α} (hab : Relation.TransGen r a b)
    (hba : Relation.ReflTransGen r b a) :
    Relation.TransGen
      (fun x y => r x y ∧ Relation.ReflTransGen r a x ∧ Relation.ReflTransGen r y a) a b := by
  induction hab with
  | single h => exact .single ⟨h, .refl, hba⟩
  | tail hfirst hlast ih =>
    exact (ih (.head hlast hba)).tail ⟨hlast, hfirst.to_reflTransGen, hba⟩

/-- Validation is the search without a bound, and succeeds exactly if no type waits for itself. -/
theorem validate_ok_iff {ctx : Context} (hc : Reachable ctx c) (hids : c.IdsIssued) :
    c.validate = c.graph.exploreAll ∧
      (c.validate = .ok () ↔ ∀ type, ¬ Relation.TransGen c.Waits type type) := by
  have hunbounded := validate_eq_exploreAll hids
  refine ⟨hunbounded, ?_⟩
  rw [hunbounded]
  exact exploreAll_graph_ok_iff hc.indexed

namespace Plugins

def plugin : TypeExpr := ⟨.classType, "app::Plugin", [], false⟩
def host : TypeExpr := ⟨.classType, "app::Host", [], false⟩

def catalog : Catalog := .ofDefinitions [
  .built host [⟨"plugins", Settings.enumerableOf {} plugin, [], none⟩],
  .built plugin [⟨"host", host, [], none⟩]]

def context : Context := { program := catalog.program }

def registered : Container :=
  (empty.add context { type := host, lifetime := .singleton }).add context
    { type := plugin, lifetime := .singleton }

def checked : Container := ((registered.check context 0).1.check context 1).1

theorem reachable : Reachable context checked :=
  (((Evolves.refl.add _).add _).check 0).check 1

end Plugins

/-- A plugin that needs the host waits for itself, as the host needs all plugins. -/
theorem plugins_wait :
    Plugins.checked.IdsIssued ∧ ∃ type, Relation.TransGen Plugins.checked.Waits type type := by
  have hids : Plugins.checked.IdsIssued := by decide +kernel
  obtain ⟨-, hacyclic⟩ := validate_ok_iff Plugins.reachable hids
  refine ⟨hids, ?_⟩
  by_contra hnone
  have hvalid := hacyclic.2 fun type htype => hnone ⟨type, htype⟩
  have hfails : Plugins.checked.validate.isOk = false := rfl
  rw [hvalid] at hfails
  cases hfails

end Wiring.Container
