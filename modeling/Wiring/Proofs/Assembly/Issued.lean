import Wiring.Proofs.Assembly.Run
import Wiring.Proofs.Check.Answer
import Wiring.Proofs.Graph.Dependency
import Wiring.Proofs.Provider.Services

/-!
Every number in a container was issued. Services are declared without elements, what a check
selects or collects was registered before, and registrations stay; so after a run no selected
service and no element of a collection is missing.
-/

namespace Wiring

namespace Container

variable {ctx : Context} {a b c : Container}

/-- The elements of every collection are registered. -/
def CollectsIssued (c : Container) : Prop :=
  ∀ r ∈ c.registrations, ∀ ids, r.collected = some ids → ∀ id ∈ ids, id < c.size

theorem CollectsIssued.add (h : c.CollectsIssued) {service : Service}
    (hservice : ∀ ids, service.collected = some ids → ∀ id ∈ ids, id < c.size) :
    (c.add ctx service).CollectsIssued := by
  intro r hr ids hids id hid
  rw [size_add]
  rw [registrations_add] at hr
  rcases List.mem_append.1 hr with hold | hnew
  · exact Nat.lt_succ_of_lt (h r hold ids hids id hid)
  · rw [List.mem_singleton.1 hnew] at hids
    exact Nat.lt_succ_of_lt (hservice ids hids id hid)

theorem CollectsIssued.addAll (h : c.CollectsIssued) {services : List Service}
    (hservices : ∀ service ∈ services, ∀ ids, service.collected = some ids →
      ∀ id ∈ ids, id < c.size) : (c.addAll ctx services).CollectsIssued := by
  induction services generalizing c with
  | nil => exact h
  | cons service services ih =>
    refine ih (h.add (hservices service List.mem_cons_self)) fun other hother ids hids id hid => ?_
    rw [size_add]
    exact Nat.lt_succ_of_lt (hservices other (List.mem_cons_of_mem _ hother) ids hids id hid)

theorem CollectsIssued.enlist (h : c.CollectsIssued) {element : TypeExpr} {member : RegistrationId}
    (hmember : member < c.size) : (c.enlist element member).CollectsIssued := by
  intro r hr ids hids id hid
  rw [size_enlist]
  unfold Container.enlist at hr
  split at hr
  · obtain ⟨i, hi⟩ := List.getElem?_of_mem hr
    rw [List.getElem?_modify] at hi
    obtain ⟨old, hold, rfl⟩ := Option.map_eq_some_iff.1 hi
    have hissued := h old (List.mem_of_getElem? hold)
    split at hids
    · simp only [Registration.collect, Option.some.injEq] at hids
      have hmem : id ∈ old.collected.getD [] ∨ id = member := by
        rw [← hids] at hid
        split at hid
        · exact Or.inl hid
        · simpa using hid
      rcases hmem with hmem | rfl
      · cases hcollected : old.collected with
        | none => simp [hcollected] at hmem
        | some elements =>
          rw [hcollected] at hmem
          exact hissued elements hcollected id hmem
      · exact hmember
    · exact hissued ids hids id hid
  · exact h r hr ids hids id hid

/-- The elements that a new collection starts with are registered. -/
theorem lt_of_mem_members (hc : c.Coherent ctx) {element : TypeExpr} {id : RegistrationId}
    (h : id ∈ c.members ctx element) : id < c.size := by
  obtain ⟨first, hfirst, rfl⟩ := List.mem_map.1 h
  exact hc.follow_lt (hc.listed.lt (List.mem_filter.1 hfirst).1)

theorem maintained_collectsIssued (ctx : Context) :
    Maintained ctx fun c => c.Coherent ctx ∧ c.CollectsIssued where
  congr := by
    rintro a b hrestates ⟨ha, h⟩
    refine ⟨(maintained_coherent ctx).congr hrestates ha, ?_⟩
    intro r hr ids hids id hid
    rw [hrestates.registrations] at hr
    exact Nat.lt_of_lt_of_le (h r hr ids hids id hid) hrestates.grows.size_le
  family := by
    rintro c target element hfree helement hnew ⟨hc, h⟩
    refine ⟨(maintained_coherent ctx).family hfree helement hnew hc, h.addAll ?_⟩
    intro service hservice ids hids id hid
    simp only [List.mem_cons, List.not_mem_nil, or_false] at hservice
    rcases hservice with rfl | rfl | rfl | rfl
    · cases hids
    · cases hids
    · cases hids
    · cases hids
      exact lt_of_mem_members hc hid
  redirect hopens hold hother := by
    rintro ⟨hc, h⟩
    exact ⟨(maintained_coherent ctx).redirect hopens hold hother hc,
      h.add fun ids hids => by cases hids⟩
  specialize := by
    rintro c target source hopens hnew ⟨hc, h⟩
    refine ⟨(maintained_coherent ctx).specialize hopens hnew hc, ?_⟩
    have hfresh (b : Container) (service : Service) (hservice : service.collected = none)
        (hb : b.CollectsIssued) : (b.add ctx service).CollectsIssued :=
      hb.add fun ids hids => by rw [hservice] at hids; cases hids
    suffices hadded : (c.addSpecialization ctx (closedOver target source)).CollectsIssued ∧
        c.size < (c.addSpecialization ctx (closedOver target source)).size from hadded.1
    refine addSpecialization_induct (P := fun b => b.CollectsIssued ∧ c.size < b.size) c _ ?_ ?_ ?_
    · refine ⟨hfresh c _ rfl h, ?_⟩
      have hsize := size_add c ctx (closedOver target source)
      change c.size < (c.add ctx (closedOver target source)).size
      omega
    · rintro b base - ⟨hb, hsize⟩
      refine ⟨hfresh b _ rfl hb, ?_⟩
      rw [size_add]
      exact Nat.lt_succ_of_lt hsize
    · rintro b element ⟨hb, hsize⟩
      exact ⟨hb.enlist hsize, by rwa [size_enlist]⟩

end Container

open Container

/-- After checks that passed every selected service and every element of a collection is
registered. -/
theorem idsIssued_of_uncollected {ctx : Context} {services : List Service} {c : Container}
    (hcollected : ∀ service ∈ services, service.collected = none)
    (h : (declared ctx services).checkAll ctx = (c, .ok ())) : c.IdsIssued := by
  have hreachable := reachable_of_checkAll h
  constructor
  case selected =>
    intro resolution hresolution p hp id hid
    exact (hreachable.answered resolution hresolution p hp id hid).lt hreachable.coherent
  case collected =>
    refine (kept_of_checkAll h (maintained_collectsIssued ctx).kept ⟨?_, ?_⟩).2
    · exact (declared_reachable ctx services).coherent
    · refine CollectsIssued.addAll (fun r hr => absurd hr List.not_mem_nil) ?_
      intro service hservice ids hids
      rw [hcollected service hservice] at hids
      cases hids

theorem idsIssued_of_checkAll {ctx : Context} {provider : TypeExpr} {services : List Service}
    {c : Container} (hservices : ctx.program.declaredServices provider = .ok services)
    (h : (declared ctx services).checkAll ctx = (c, .ok ())) : c.IdsIssued :=
  idsIssued_of_uncollected (Program.declaredServices_collected hservices) h

end Wiring
