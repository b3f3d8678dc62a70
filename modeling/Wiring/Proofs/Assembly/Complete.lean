import Wiring.Catalog.Basic
import Wiring.Proofs.Assembly.Run
import Wiring.Proofs.Check.Passed

/-!
A run that succeeds hands over a finished container. The declared services head it in their order,
every resolution is complete, every registration of a closed type that was declared, and every
specialization, is settled, and the graph has passed validation. The resolutions are written at all
depths of nesting, so what a passed check leaves behind is chained along the run.
-/

namespace Wiring

namespace Container

variable {ctx : Context}

/-- Checking several registrations passes for those of closed types. -/
theorem checkEach_passed {a b : Container} {ids : List RegistrationId} (hindexed : a.Indexed)
    (hcollect : a.EnumerablesCollect) (h : checkEach ctx a ids = (b, .ok ())) :
    ∀ id ∈ ids, id < a.size → a.isClosed id → b.HasPassed ctx id := by
  induction ids generalizing a with
  | nil => exact fun id hid => absurd hid List.not_mem_nil
  | cons first rest ih =>
    unfold checkEach at h
    intro id hid hlt hclosed
    split at h
    · split at h
      · cases h
      next middle hcheck =>
      obtain ⟨hmiddle, hextends⟩ : (a.Indexed → middle.Indexed) ∧ Extends a middle := by
        have hsettles := (kept_settles ctx).check a first
        rw [hcheck] at hsettles
        exact ⟨hsettles.indexed, hsettles.grows⟩
      obtain ⟨hmiddleCollect, hgrows⟩ := hextends hcollect
      rcases List.mem_cons.1 hid with rfl | hrest
      · have hpassed := hasPassed_of_checkWithin hindexed hcollect hcheck
        have hlater := (kept_extends ctx).checkEach middle rest hmiddleCollect
        rw [h] at hlater
        exact hpassed.grow hlater.2
      · exact ih (hmiddle hindexed) hmiddleCollect h id hrest
          (Nat.lt_of_lt_of_le hlt hgrows.size_le) (by rw [hgrows.isClosed_eq hlt, hclosed])
    · next hopen =>
      rcases List.mem_cons.1 hid with rfl | hrest
      · exact absurd hclosed hopen
      · exact ih hindexed hcollect h id hrest hlt hclosed

end Container

open Container

section Success

variable {ctx : Context} {services : List Service} {c : Container}
  (h : (declared ctx services).checkAll ctx = (c, .ok ()))
include h

theorem hasPassed_of_declared {id : RegistrationId} (hid : id < services.length)
    (hclosed : c.isClosed id) : c.HasPassed ctx id := by
  have hstart := declared_reachable ctx services
  rw [← declared_size ctx services] at hid
  exact checkEach_passed hstart.indexed hstart.enumerablesCollect h id (List.mem_range.2 hid) hid
    (by rwa [(grows_of_checkAll h).isClosed_eq hid] at hclosed)

theorem hasPassed_of_specialized {id : RegistrationId} (hid : .specialized id ∈ c.journal) :
    c.HasPassed ctx id := by
  have hstart := declared_reachable ctx services
  have hsettles := kept_of_checkAll h (kept_settles ctx)
  refine (hsettles.passed rfl hstart.indexed hstart.enumerablesCollect id hid).resolve_left ?_
  rw [declared, addAll_view (·.journal) fun _ _ => rfl]
  exact List.not_mem_nil

end Success

/-- What a successful run hands over. -/
theorem assemble_complete (ctx : Context) (provider : TypeExpr)
    (h : (assemble ctx provider).result = .ok ()) :
    ∃ services, ctx.program.declaredServices provider = .ok services ∧
      ((assemble ctx provider).container.registrations.take services.length).map (·.toService) =
        services ∧
      (∀ r ∈ (assemble ctx provider).container.resolutions, r.IsComplete) ∧
      (∀ id < services.length, (assemble ctx provider).container.isClosed id →
        (assemble ctx provider).container.IsSettled ctx id) ∧
      (∀ id, .specialized id ∈ (assemble ctx provider).container.journal →
        (assemble ctx provider).container.IsSettled ctx id) ∧
      (assemble ctx provider).container.validate = .ok () := by
  obtain ⟨services, hservices, hchecked, hvalid⟩ := assemble_ok h
  generalize (assemble ctx provider).container = c at hchecked hvalid ⊢
  refine ⟨services, hservices, take_registrations_of_checkAll hchecked, ?_,
    fun id hid hclosed => (hasPassed_of_declared hchecked hid hclosed).settled,
    fun id hid => (hasPassed_of_specialized hchecked hid).settled, hvalid⟩
  intro r hr
  refine (kept_of_checkAll hchecked (kept_complete ctx) rfl r hr).resolve_left ?_
  rw [declared, addAll_view (·.resolutions) fun _ _ => rfl]
  exact List.not_mem_nil

namespace Shop

def user : TypeExpr := ⟨.classType, "shop::User", [], false⟩
def database : TypeExpr := ⟨.classType, "shop::Database", [], false⟩
def checkout : TypeExpr := ⟨.classType, "shop::Checkout", [], false⟩
def provider : TypeExpr := ⟨.classType, "shop::Provider", [], false⟩
def entity : TypeExpr := ⟨.parameter, "T", [], false⟩

def repository (stored : TypeExpr) : TypeExpr := ⟨.classType, "shop::Repository", [stored], false⟩

def catalog : Catalog := .ofDefinitions [
  .built database [],
  .built (repository entity) [⟨"database", database, [], none⟩],
  .built checkout [⟨"users", repository user, [], none⟩],
  .declaring provider [] [
    .dependency .singleton checkout none none,
    .dependency .singleton (repository entity) none none,
    .dependency .singleton database none none]]

def context : Context := { program := catalog.program }

end Shop

/-- Only the open repository is declared; the checkout's need of one of users is met by a
specialization, which the run leaves settled. -/
theorem shop_settled :
    (assemble Shop.context Shop.provider).result = .ok () ∧
      .specialized 3 ∈ (assemble Shop.context Shop.provider).container.journal ∧
      (assemble Shop.context Shop.provider).container.IsSettled Shop.context 3 := by
  have hspecialized :
      .specialized 3 ∈ (assemble Shop.context Shop.provider).container.journal := by decide +kernel
  obtain ⟨_, -, -, -, -, hsettled, -⟩ := assemble_complete Shop.context Shop.provider rfl
  exact ⟨rfl, hspecialized, hsettled 3 hspecialized⟩

end Wiring
