import Mathlib.Data.List.Basic
import Wiring.Catalog.Basic
import Wiring.Proofs.Check.Depth

/-!
The limit on nested specializations only guards. It never changes what a check or a run comes to,
except that it may stop it: where a limit stops nothing, every higher limit gives the same
container, the same warnings and the same result.
-/

namespace Wiring

namespace Container

theorem checkAll_persists {ctx : Context} {limit : Nat}
    (hlimit : ctx.settings.maxSpecializationDepth ≤ limit) (c : Container) :
    Persists (c.checkAll ctx) (c.checkAll (ctx.withLimit limit)) :=
  checkEach_persists hlimit c _

theorem addAll_withLimit {ctx : Context} {limit : Nat} (c : Container) (services : List Service) :
    c.addAll (ctx.withLimit limit) services = c.addAll ctx services := rfl

end Container

open Container

/-- What a run comes to under a limit that does not stop it, it comes to under every higher one. -/
theorem assemble_persists {ctx : Context} {limit : Nat}
    (hlimit : ctx.settings.maxSpecializationDepth ≤ limit) {provider : TypeExpr}
    (hdone : ¬ StoppedByLimit (assemble ctx provider).result) :
    assemble (ctx.withLimit limit) provider = assemble ctx provider := by
  have hdeclared : (ctx.withLimit limit).program.declaredServices provider =
      ctx.program.declaredServices provider := rfl
  unfold assemble at hdone ⊢
  rw [hdeclared]
  split
  · rfl
  next services hservices =>
  rw [hservices] at hdone
  dsimp only at hdone
  have hchecked := checkAll_persists hlimit (Container.empty.addAll ctx services)
  rw [addAll_withLimit]
  split at hdone
  · next hs =>
    rw [hs] at hchecked
    rw [hchecked hdone]
  · next hs =>
    rw [hs] at hchecked
    rw [hchecked (not_stoppedByLimit_ok _)]

/-- Where the limit stops neither a check nor a run, a higher limit changes nothing: the check of
any registration in any container, and the run for any provider, come to the same. -/
theorem limit_only_stops (ctx : Context) {limit : Nat}
    (hlimit : ctx.settings.maxSpecializationDepth ≤ limit) :
    (∀ c id, (∀ type few, (Container.check c ctx id).2 ≠
        .error (.specializationDepthExceeded type few)) →
      c.check (ctx.withLimit limit) id = c.check ctx id) ∧
    ∀ provider, (∀ type few, (assemble ctx provider).result ≠
        .error (.specializationDepthExceeded type few)) →
      assemble (ctx.withLimit limit) provider = assemble ctx provider := by
  constructor
  · intro c id hdone
    exact check_persists hlimit c id fun ⟨type, few, h⟩ => hdone type few h
  · intro provider hdone
    exact assemble_persists hlimit fun ⟨type, few, h⟩ => hdone type few h

namespace Parcels

def letter : TypeExpr := ⟨.classType, "mail::Letter", [], false⟩
def desk : TypeExpr := ⟨.classType, "mail::Desk", [], false⟩
def provider : TypeExpr := ⟨.classType, "mail::Provider", [], false⟩
def content : TypeExpr := ⟨.parameter, "T", [], false⟩

def box (inner : TypeExpr) : TypeExpr := ⟨.classType, "mail::Box", [inner], false⟩
def crate (inner : TypeExpr) : TypeExpr := ⟨.classType, "mail::Crate", [inner], false⟩

/-- The crate of letters that the desk needs holds a box of letters. -/
def catalog : Catalog := .ofDefinitions [
  .built letter [],
  .built (box content) [⟨"content", content, [], none⟩],
  .built (crate content) [⟨"box", box content, [], none⟩],
  .built desk [⟨"crate", crate letter, [], none⟩],
  .declaring provider [] [
    .dependency .scoped letter none none,
    .dependency .scoped (box content) none none,
    .dependency .scoped (crate content) none none,
    .dependency .scoped desk none none]]

def context (limit : Nat) : Context :=
  { program := catalog.program, settings := { maxSpecializationDepth := limit } }

end Parcels

/-- The box is specialized while the crate is being checked. A limit of one stops the run there; a
limit of two does not, and ten give what two give. -/
theorem parcels_guarded :
    (assemble (Parcels.context 1) Parcels.provider).result =
        .error (.specializationDepthExceeded (Parcels.box Parcels.letter) 1) ∧
      (assemble (Parcels.context 2) Parcels.provider).result = .ok () ∧
      assemble (Parcels.context 10) Parcels.provider =
        assemble (Parcels.context 2) Parcels.provider := by
  have hdone : (assemble (Parcels.context 2) Parcels.provider).result = .ok () := by
    decide +kernel
  refine ⟨by decide +kernel, hdone, ?_⟩
  refine (limit_only_stops (Parcels.context 2) (by decide : 2 ≤ 10)).2 Parcels.provider ?_
  intro type few h
  rw [hdone] at h
  cases h

end Wiring
