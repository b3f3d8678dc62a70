import Wiring.Proofs.Assembly.Issued
import Wiring.Proofs.Assembly.SharedType
import Wiring.Proofs.Check.Lifetime
import Wiring.Proofs.Check.Nesting
import Wiring.Proofs.Graph.Report

/-!
Whom a cycle of deferred references blames. Such a reference is followed from a transient consumer
to a transient registration only. But the report labels a type with the lifetime that it is resolved
with, and where registrations share the type, that is the lifetime of the one checked latest. So the
consumer is always labelled transient; what it refers to is labelled so unless the check of a
registration of another lifetime has taken the place of its own.
-/

namespace Wiring

/-- The fault speaks of a cycle. -/
def Fault.isCycle : Fault → Bool
  | circularDependency _ | lazyTransientCycle _ => true
  | notNamedType _ | ambiguousConstructor .. | invalidFactory .. | specializationDepthExceeded ..
  | memberNotFound .. | ambiguousMember .. | invalidImport _ | unresolvedDependencies ..
  | invalidSettings | unissuedId _ => false

/-- A link that a deferred reference leads to is labelled transient, and so is the one before. -/
def BlamesTransient (links : List ChainLink) : Prop :=
  links.IsChain fun before link => link.via = some "deferred" →
    before.lifetime = Lifetime.transient.text ∧ link.lifetime = Lifetime.transient.text

instance (links : List ChainLink) : Decidable (BlamesTransient links) :=
  inferInstanceAs (Decidable (links.IsChain _))

theorem Lifetime.text_eq_transient_iff {lifetime : Lifetime} :
    lifetime.text = Lifetime.transient.text ↔ lifetime = .transient := by
  cases lifetime <;> decide

namespace Container

variable {ctx : Context} {c : Container}

/-- The edge out of the node is there for a deferred reference that the registration serves. -/
def Defers (c : Container) (step : Node × Edge) (target : RegistrationId) : Prop :=
  ∃ resolution ∈ c.resolutions, c.nodeOf resolution = step.1 ∧ ∃ p ∈ resolution.parameters,
    ∃ id r, p.outcome.selected? = some id ∧ c.Supplies id target ∧
      c.registration? target = some r ∧ Demands resolution p r ∧ p.deferred ∧
      step.2 = ⟨r.resolvedType, true⟩

theorem mem_graph_iff {node : Node} :
    node ∈ c.graph ↔ ∃ resolution ∈ c.resolutions, resolution.type.isClosed ∧
      c.nodeOf resolution = node := by
  simp only [graph, closedResolutions, List.mem_map, List.mem_filter, and_assoc]

/-- A deferred edge is there for some registration. -/
theorem exists_defers {step : Node × Edge} (hnode : step.1 ∈ c.graph)
    (hedge : step.2 ∈ step.1.edges) (hdeferred : step.2.deferred) :
    ∃ target, c.Defers step target := by
  obtain ⟨resolution, hmem, -, hnode⟩ := mem_graph_iff.1 hnode
  rw [← hnode] at hedge
  obtain ⟨p, hp, id, target, r, hselected, hsupplies, hr, hdemands, hedge⟩ :=
    mem_edges_nodeOf_iff.1 hedge
  have hp' : p.deferred := by rwa [hedge] at hdeferred
  rw [hp'] at hedge
  exact ⟨target, resolution, hmem, hnode, p, hp, id, r, hselected, hsupplies, hr, hdemands, hp',
    hedge⟩

/-- Both ends of a deferred edge are transient: its node, and the registration it is there for. -/
theorem Defers.transient {step : Node × Edge} {target : RegistrationId}
    (h : c.Defers step target) :
    step.1.lifetime = .transient ∧ ∃ r, c.registration? target = some r ∧
      r.lifetime = .transient ∧ step.2 = ⟨r.resolvedType, true⟩ := by
  obtain ⟨resolution, -, hnode, p, -, id, r, -, -, hr, hdemands, hdeferred, hedge⟩ := h
  obtain ⟨hconsumer, htarget⟩ := hdemands.notMemoized hdeferred
  rw [← hnode]
  exact ⟨hconsumer, r, hr, htarget, hedge⟩

/-- The node of a transient registration's type is transient unless the later check of another
registration, that is not, stands in the place of its own. -/
theorem lifetime_eq_transient_iff (hc : Reachable ctx c) {node : Node} (hnode : node ∈ c.graph)
    {target : RegistrationId} {r : Registration} (hr : c.registration? target = some r)
    (htransient : r.lifetime = .transient) (hsame : r.resolvedType.same node.type) :
    node.lifetime = .transient ↔
      ∀ k, c.Replaced target k → c.lifetimeOf? k = some .transient := by
  obtain ⟨resolution, hmem, -, rfl⟩ := mem_graph_iff.1 hnode
  have hstored : c.resolution? resolution.type = some resolution :=
    hc.indexed.resolution?_eq_some_iff.2 ⟨hmem, TypeExpr.same_refl _⟩
  have hlabel := hc.keepsLifetimes resolution.type
  rw [hstored, Option.map_some] at hlabel
  obtain ⟨⟨k, ps⟩, hlatest, hlifetime⟩ := Option.bind_eq_some_iff.1 hlabel.symm
  have hlatest' : c.latestCheck? r.resolvedType = some (k, ps) :=
    (latestCheck?_congr hsame).trans hlatest
  -- whoever replaced the registration is the one whose check was the latest
  have honly {k' : RegistrationId} (h : c.Replaced target k') : k' = k := by
    obtain ⟨-, r', ps', hr', hlatest''⟩ := h
    obtain rfl := Option.some.inj (hr.symm.trans hr')
    rw [hlatest'] at hlatest''
    cases hlatest''
    rfl
  change resolution.lifetime = .transient ↔ _
  by_cases hk : k = target
  · subst hk
    have hown : c.lifetimeOf? k = some r.lifetime := by rw [lifetimeOf?, hr, Option.map_some]
    refine ⟨fun _ k' h => absurd (honly h) h.1, fun _ => ?_⟩
    exact (Option.some.inj (hlifetime.symm.trans hown)).trans htransient
  · constructor
    · intro hlabelled k' h
      rw [honly h, ← hlabelled]
      exact hlifetime
    · intro hall
      exact Option.some.inj (hlifetime.symm.trans (hall k ⟨hk, r, ps, hr, hlatest'⟩))

theorem FailsAt.not_isCycle {m : Container} {id : RegistrationId} {fault : Fault}
    (h : c.FailsAt ctx id m fault) : fault.isCycle = false := by
  cases h with
  | unissued _ => rfl
  | notNamed _ _ => rfl
  | unconstructed _ _ hconstruction =>
    obtain ⟨count, rfl⟩ | ⟨name, rfl⟩ := selectConstruction_error hconstruction
    · rfl
    · rfl
  | unopened _ _ _ _ _ _ _ _ => rfl
  | stopped _ _ => rfl
  | unresolved _ _ _ _ _ => rfl

/-- Checks speak of no cycles. -/
theorem not_isCycle_of_checkEach {b : Container} {ids : List RegistrationId} {fault : Fault}
    (h : checkEach ctx c ids = (b, .error fault)) : fault.isCycle = false := by
  induction ids generalizing c with
  | nil => cases h
  | cons id rest ih =>
    unfold checkEach at h
    split at h
    · split at h
      · next hs =>
        cases h
        obtain ⟨_, _, _, _, -, hfails, -⟩ := check_error_iff.1 hs
        exact hfails.not_isCycle
      · exact ih h
    · exact ih h

end Container

namespace Gathering

theorem not_isCycle_of_uniqueMember {program : Program} {owner : TypeExpr} {name : String}
    {fault : Fault} (h : uniqueMember program owner name = .error fault) :
    fault.isCycle = false := by
  unfold uniqueMember at h
  split at h <;> cases h
  · rfl
  · rfl

theorem not_isCycle_of_declare {program : Program}
    {enter : Gathering → TypeExpr → Except Fault Gathering}
    (henter : ∀ {g : Gathering} {module : TypeExpr} {fault : Fault},
      enter g module = .error fault → fault.isCycle = false)
    {owner : TypeExpr} {declaration : Declaration} {g : Gathering} {fault : Fault}
    (h : declare program enter owner g declaration = .error fault) : fault.isCycle = false := by
  rcases declare_cases program enter owner g declaration with
    ⟨_, -, hpush⟩ | ⟨name, _, hmember, hrefused⟩ | ⟨_, hrefused⟩ | ⟨_, _, -, henters⟩ | hsame
  · cases hpush.symm.trans h
  · obtain rfl := Except.error.inj (hrefused.symm.trans h)
    exact not_isCycle_of_uniqueMember hmember
  · obtain rfl := Except.error.inj (hrefused.symm.trans h)
    rfl
  · exact henter (henters.symm.trans h)
  · cases hsame.symm.trans h

theorem not_isCycle_of_expand {program : Program} {budget : Nat} {owner : TypeExpr}
    {g : Gathering} {fault : Fault} (h : expand program budget g owner = .error fault) :
    fault.isCycle = false := by
  induction budget generalizing g owner fault with
  | zero =>
    obtain ⟨_, -, _, hdeclare⟩ := foldlM_error h
    exact not_isCycle_of_declare (fun hmodule => by cases hmodule; rfl) hdeclare
  | succ budget ih =>
    obtain ⟨_, -, _, hdeclare⟩ := foldlM_error h
    exact not_isCycle_of_declare ih hdeclare

end Gathering

open Container

/-- A run that fails with a cycle has passed all its checks. -/
theorem assemble_cycle {ctx : Context} {provider : TypeExpr} {fault : Fault}
    (hcycle : fault.isCycle) (h : (assemble ctx provider).result = .error fault) :
    ∃ services, ctx.program.declaredServices provider = .ok services ∧
      (declared ctx services).checkAll ctx = ((assemble ctx provider).container, .ok ()) ∧
      (assemble ctx provider).container.validate = .error fault := by
  unfold assemble at h ⊢
  split at h
  · next hdeclared =>
    cases h
    unfold Program.declaredServices at hdeclared
    cases hexpand : Gathering.expand ctx.program ctx.program.importDepth ⟨[provider], []⟩
        provider with
    | error _ =>
      rw [hexpand] at hdeclared
      cases hdeclared
      rw [Gathering.not_isCycle_of_expand hexpand] at hcycle
      cases hcycle
    | ok _ => rw [hexpand] at hdeclared; cases hdeclared
  next services hservices =>
  split at h
  · next hchecks =>
    cases h
    rw [not_isCycle_of_checkEach hchecks] at hcycle
    cases hcycle
  next c hc =>
  rw [hservices]
  dsimp only
  exact ⟨services, rfl, hc, h⟩

/-- A run that fails with a cycle of deferred references reports a circle of its graph. Each such
reference is that of a transient consumer, labelled as such, to a transient registration; and the
type it leads to is labelled as such, too, exactly if the resolution of that type is not left by the
later check of a registration of another lifetime. -/
theorem assemble_blame_iff (ctx : Context) (provider : TypeExpr) {links : List ChainLink}
    (h : (assemble ctx provider).result = .error (.lazyTransientCycle links)) :
    ∃ steps, (assemble ctx provider).container.graph.IsCircle steps ∧
      Graph.report steps = .lazyTransientCycle links ∧
      (∀ step ∈ steps, step.2.deferred → step.1.lifetime = .transient ∧
        ∃ target, (assemble ctx provider).container.Defers step target) ∧
      (links.IsChain fun before link => link.via = some "deferred" →
        before.lifetime = Lifetime.transient.text) ∧
      (BlamesTransient links ↔ ∀ step ∈ steps, ∀ target k,
        (assemble ctx provider).container.Defers step target →
        (assemble ctx provider).container.Replaced target k →
        (assemble ctx provider).container.lifetimeOf? k = some .transient) := by
  obtain ⟨services, hservices, hchecked, hfails⟩ := assemble_cycle rfl h
  generalize (assemble ctx provider).container = c at hchecked hfails ⊢
  have hreachable := reachable_of_checkAll hchecked
  rw [validate_eq_exploreAll (idsIssued_of_checkAll hservices hchecked)] at hfails
  obtain ⟨steps, hcircle, hreport⟩ := Graph.exploreAll_error_isCircle hfails
  have hdefers {step : Node × Edge} (hstep : step ∈ steps) (hdeferred : step.2.deferred) :
      step.1.lifetime = .transient ∧ ∃ target, c.Defers step target := by
    obtain ⟨target, htarget⟩ :=
      exists_defers (hcircle.edges step hstep).1 (hcircle.edges step hstep).2 hdeferred
    exact ⟨htarget.transient.1, target, htarget⟩
  have hlinks : links =
      List.zipWith Node.link (false :: steps.map (·.2.deferred)) (Graph.ring steps) := by
    unfold Graph.report at hreport
    split at hreport
    · exact Fault.lazyTransientCycle.inj hreport
    · cases hreport
  -- the node that a deferred edge leads to is labelled as its registration is, if that was not
  -- replaced
  have hlabel {round : (Node × Edge) × Node} (hround : round ∈ Graph.rounds steps)
      {target : RegistrationId} (htarget : c.Defers round.1 target) :
      round.2.lifetime = .transient ↔
        ∀ k, c.Replaced target k → c.lifetimeOf? k = some .transient := by
    obtain ⟨-, r, hr, htransient, hedge⟩ := htarget.transient
    refine lifetime_eq_transient_iff hreachable (hcircle.mem_graph_of_mem_rounds hround) hr
      htransient ?_
    have hsame := hcircle.same_of_mem_rounds hround
    rwa [hedge] at hsame
  refine ⟨steps, hcircle, hreport.symm, fun step hstep => hdefers hstep, ?_, ?_⟩
  · rw [hlinks, hcircle.isChain_iff (P := fun a e _ => e → a.lifetime = .transient)]
    · intro round hround hdeferred
      exact (hdefers (List.of_mem_zip hround).1 hdeferred).1
    · intro a b d e
      rw [Node.via_link_iff]
      exact imp_congr_right fun _ => Lifetime.text_eq_transient_iff
  · rw [BlamesTransient, hlinks, hcircle.isChain_iff
      (P := fun a e b => e → a.lifetime = .transient ∧ b.lifetime = .transient)]
    · constructor
      · intro hblames step hstep target k htarget hreplaced
        obtain ⟨node, hround⟩ := hcircle.exists_round hstep
        obtain ⟨-, r, -, -, hedge⟩ := htarget.transient
        have hdeferred : step.2.deferred := by rw [hedge]
        exact (hlabel hround htarget).1 (hblames _ hround hdeferred).2 k hreplaced
      · intro hall round hround hdeferred
        have hstep := (List.of_mem_zip hround).1
        obtain ⟨hconsumer, target, htarget⟩ := hdefers hstep hdeferred
        exact ⟨hconsumer, (hlabel hround htarget).2 fun k => hall round.1 hstep target k htarget⟩
    · intro a b d e
      rw [Node.via_link_iff]
      exact imp_congr_right fun _ =>
        and_congr Lifetime.text_eq_transient_iff Lifetime.text_eq_transient_iff

namespace Servers

def client : TypeExpr := ⟨.classType, "app::Client", [], false⟩
def server : TypeExpr := ⟨.classType, "app::Server", [], false⟩
def provider : TypeExpr := ⟨.classType, "app::Provider", [], false⟩

def lazily (type : TypeExpr) : TypeExpr := ⟨.classType, "core::Lazy", [type], false⟩

/-- A client calls a new server at its first use, which needs a new client. Another registration of
the server is shared, under a key that nobody asks for. -/
def catalog : Catalog := .ofDefinitions [
  .built client [⟨"server", lazily server, [], none⟩],
  .built server [⟨"client", client, [], none⟩],
  .declaring provider [] [
    .dependency .transient client none none,
    .dependency .transient server none none,
    .dependency .singleton server none (some "shared")]]

def context : Context := { program := catalog.program }

def links : List ChainLink := [⟨"Client", "Transient", none⟩,
  ⟨"Server", "Singleton", some "deferred"⟩, ⟨"Client", "Transient", none⟩]

end Servers

/-- On the way round the check of the shared server has replaced that of the one the client waits
for. -/
theorem server_replaced :
    (assemble Servers.context Servers.provider).result =
        .error (.lazyTransientCycle Servers.links) ∧
      ∃ step target k, (assemble Servers.context Servers.provider).container.Defers step target ∧
        (assemble Servers.context Servers.provider).container.Replaced target k ∧
        (assemble Servers.context Servers.provider).container.lifetimeOf? k ≠ some .transient := by
  have hfails : (assemble Servers.context Servers.provider).result =
      .error (.lazyTransientCycle Servers.links) := by decide +kernel
  obtain ⟨steps, -, -, -, -, hiff⟩ := assemble_blame_iff Servers.context Servers.provider hfails
  refine ⟨hfails, ?_⟩
  by_contra hnone
  have hblames : BlamesTransient Servers.links := by
    refine hiff.2 fun step _ target k htarget hreplaced => ?_
    by_contra hother
    exact hnone ⟨step, target, k, htarget, hreplaced, hother⟩
  exact absurd hblames (by decide +kernel)

/-- The report blames a singleton for a reference that is followed between transient services. -/
theorem server_mislabelled :
    (assemble Servers.context Servers.provider).result =
        .error (.lazyTransientCycle Servers.links) ∧
      ¬ BlamesTransient Servers.links := by
  constructor
  · decide +kernel
  · decide +kernel

end Wiring
