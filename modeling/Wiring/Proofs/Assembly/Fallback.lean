import Wiring.Catalog.Basic
import Wiring.Proofs.Assembly.Run
import Wiring.Proofs.Check.Fallback

/-!
Runs under two fallbacks. What the running program can supply never changes what the engine itself
selects: a run that succeeds under one fallback succeeds under every more generous one, and the two
containers differ in nothing but the answers of the fallbacks. The graph is built from selected
services alone, so validation comes to the same.
-/

namespace Wiring

namespace Container

variable {a b : Container}

theorem hardParameters_withoutFallback (resolution : Resolution) :
    resolution.withoutFallback.parameters.filter (·.isHard) =
      (resolution.parameters.filter (·.isHard)).map (·.withoutFallback) := by
  change (resolution.parameters.map (·.withoutFallback)).filter (·.isHard) = _
  simp only [List.filter_map, Function.comp_def, ParameterResolution.isHard_withoutFallback]

theorem targets_withoutFallback (c : Container) (p : ParameterResolution) :
    c.targets p.withoutFallback = c.targets p := by
  unfold targets
  rw [p.selected?_withoutFallback]

theorem nodeOf_withoutFallback (c : Container) (resolution : Resolution) :
    c.nodeOf resolution.withoutFallback = c.nodeOf resolution := by
  have hedge (p : ParameterResolution) (target : Registration) :
      edge? resolution.withoutFallback p.withoutFallback target = edge? resolution p target := rfl
  unfold nodeOf hardTargets
  simp only [hardParameters_withoutFallback, List.flatMap_map, targets_withoutFallback,
    List.filterMap_flatMap, List.filterMap_map, Function.comp_def, hedge]
  rfl

namespace Agrees

theorem closedResolutions (h : a.Agrees b) :
    a.closedResolutions.map (·.withoutFallback) = b.closedResolutions.map (·.withoutFallback) := by
  have hclosed (c : Container) : c.closedResolutions.map (·.withoutFallback) =
      (c.resolutions.map (·.withoutFallback)).filter (·.type.isClosed) := by
    rw [List.filter_map]
    rfl
  rw [hclosed, hclosed, h.resolutions]

theorem targets (h : a.Agrees b) (p : ParameterResolution) : a.targets p = b.targets p := by
  unfold Container.targets
  simp only [h.registration?]

theorem nodeOf (h : a.Agrees b) (resolution : Resolution) :
    a.nodeOf resolution = b.nodeOf resolution := by
  unfold Container.nodeOf hardTargets
  simp only [h.targets, h.registration?]

/-- The graph is the same, node by node. -/
theorem graph (h : a.Agrees b) : a.graph = b.graph := by
  have hnodes (c : Container) :
      c.graph = (c.closedResolutions.map (·.withoutFallback)).map c.nodeOf := by
    simp only [List.map_map, Function.comp_def, nodeOf_withoutFallback]
    rfl
  rw [hnodes, hnodes, h.closedResolutions, funext h.nodeOf]

theorem danglingTarget? (h : a.Agrees b) : a.danglingTarget? = b.danglingTarget? := by
  have hneeded (c : Container) : c.danglingTarget? =
      ((c.closedResolutions.map (·.withoutFallback)).flatMap fun resolution =>
        (resolution.parameters.filter (·.isHard)).flatMap c.targets).find? fun id =>
          (c.registration? id).isNone := by
    simp only [List.flatMap_map, hardParameters_withoutFallback, targets_withoutFallback]
    rfl
  rw [hneeded, hneeded, h.closedResolutions, funext h.targets, funext h.registration?]

theorem validate (h : a.Agrees b) : a.validate = b.validate := by
  unfold Container.validate
  rw [h.danglingTarget?, h.graph]

end Agrees
end Container

open Container

/-- A run that succeeds under a fallback succeeds under every more generous one, and selects the
same. -/
theorem assemble_withFallback (ctx : Context) (provider : TypeExpr) (F G : Option Fallback)
    (hFG : ∀ key type, Fallback.supplies F key type → Fallback.supplies G key type)
    (h : (assemble (ctx.withFallback F) provider).result = .ok ()) :
    (assemble (ctx.withFallback G) provider).result = .ok () ∧
      (assemble (ctx.withFallback F) provider).container.Agrees
        (assemble (ctx.withFallback G) provider).container := by
  obtain ⟨services, hservices, hchecked, hvalid⟩ := assemble_ok h
  have hdeclared : (declared (ctx.withFallback F) services).Agrees
      (declared (ctx.withFallback G) services) := (Agrees.refl .empty).addAll ctx F G services
  obtain ⟨c, _, hchecked', hagrees, -⟩ :=
    checkEach_matches hFG hdeclared _ _ () hchecked
  have hassemble : assemble (ctx.withFallback G) provider =
      ⟨c, c.warnings ++ c.lifetimeWarnings, c.validate⟩ := by
    have hservices' : (ctx.withFallback G).program.declaredServices provider = .ok services :=
      hservices
    rw [hdeclared.size_eq] at hchecked'
    unfold assemble checkAll
    rw [hservices']
    dsimp only
    rw [← declared, hchecked']
  rw [hassemble]
  exact ⟨by rw [← hagrees.validate, hvalid], hagrees⟩

namespace Hosted

def user : TypeExpr := ⟨.classType, "shop::User", [], false⟩
def options : TypeExpr := ⟨.classType, "host::Options", [], false⟩
def tracer : TypeExpr := ⟨.classType, "cloud::Tracer", [], true⟩
def checkout : TypeExpr := ⟨.classType, "shop::Checkout", [], false⟩
def provider : TypeExpr := ⟨.classType, "shop::Provider", [], false⟩
def entity : TypeExpr := ⟨.parameter, "T", [], false⟩

def repository (stored : TypeExpr) : TypeExpr := ⟨.classType, "shop::Repository", [stored], false⟩

/-- Nobody declares the options, which all need, nor the tracer, which the checkout can do
without. -/
def catalog : Catalog := .ofDefinitions [
  .built (repository entity) [⟨"options", options, [], none⟩],
  .built checkout [⟨"users", repository user, [], none⟩, ⟨"tracer", tracer, [], none⟩],
  .declaring provider [] [
    .dependency .scoped checkout none none,
    .dependency .singleton (repository entity) none none]]

def context : Context := { program := catalog.program }

def host : Fallback := .byName ["host::"]
def cloud : Fallback := .byName ["host::", "cloud::"]

theorem supplies_cloud (key : Option String) (type : TypeExpr)
    (h : Fallback.supplies (some host) key type) : Fallback.supplies (some cloud) key type := by
  simp only [Fallback.supplies, host, cloud, Fallback.byName, Option.any_some, List.any_cons,
    List.any_nil, Bool.or_false, Bool.or_eq_true] at h ⊢
  exact Or.inl h

/-- Where the parameters of the checkout come from. -/
def outcomes (fallback : Fallback) : Option (List Outcome) :=
  ((assemble (context.withFallback (some fallback)) provider).container.resolution? checkout).map
    fun resolution => resolution.parameters.map (·.outcome)

end Hosted

/-- The host supplies the options of the specialized repository. With the cloud the checkout gets
its tracer as well, and nothing else changes. -/
theorem hosted_agrees :
    Hosted.outcomes Hosted.host = some [.selected 2, .undeclared] ∧
      Hosted.outcomes Hosted.cloud = some [.selected 2, .fallback] ∧
      (assemble (Hosted.context.withFallback (some Hosted.cloud)) Hosted.provider).result = .ok () ∧
      (assemble (Hosted.context.withFallback (some Hosted.host)) Hosted.provider).container.Agrees
        (assemble (Hosted.context.withFallback (some Hosted.cloud)) Hosted.provider).container :=
  ⟨by decide +kernel, by decide +kernel,
    assemble_withFallback Hosted.context Hosted.provider (some Hosted.host) (some Hosted.cloud)
      Hosted.supplies_cloud (by decide +kernel)⟩

end Wiring
