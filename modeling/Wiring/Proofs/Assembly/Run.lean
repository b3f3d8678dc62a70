import Wiring.Proofs.Check.Record

/-!
A run starts from the container in which the declared services are registered and nothing is checked
yet, and goes on by checks only. So what it hands over is reachable, and the declared registrations
still head it as they were.
-/

namespace Wiring

namespace Container

variable {ctx : Context}

theorem addAll_view {β : Type} (view : Container → β)
    (hadd : ∀ c service, view (add c ctx service) = view c) (c : Container)
    (services : List Service) : view (c.addAll ctx services) = view c := by
  induction services generalizing c with
  | nil => rfl
  | cons service services ih => exact (ih _).trans (hadd c service)

theorem addAll_services (c : Container) (services : List Service) :
    (c.addAll ctx services).registrations.map (·.toService) =
      c.registrations.map (·.toService) ++ services := by
  induction services generalizing c with
  | nil => exact (List.append_nil _).symm
  | cons service services ih =>
    refine (ih _).trans ?_
    rw [registrations_add, List.map_append, List.append_assoc]
    rfl

/-- Before there are families, no registration changes any more. -/
theorem Grows.isPrefix_registrations {a b : Container} (h : a.Grows b)
    (ha : ∀ id, ¬ a.IsEnumerable id) : a.registrations <+: b.registrations := by
  rw [List.prefix_iff_getElem?]
  intro id hid
  obtain ⟨r, hr, rfl | ⟨henumerable, -⟩⟩ :=
    h.registrations id _ (List.getElem?_eq_getElem hid)
  · exact hr
  · exact absurd henumerable (ha id)

theorem Grows.isClosed_eq {a b : Container} (h : a.Grows b) {id : RegistrationId}
    (hid : id < a.size) : b.isClosed id = a.isClosed id := by
  obtain ⟨r, hr⟩ := registration?_isSome hid
  obtain ⟨r', hr', htype, -⟩ := h.registration?_eq_some hr
  unfold isClosed
  rw [hr, hr']
  exact congrArg TypeExpr.isClosed htype

end Container

/-- The container in which the services of a provider are registered and nothing is checked yet. -/
def declared (ctx : Context) (services : List Service) : Container :=
  Container.empty.addAll ctx services

theorem assemble_ok {ctx : Context} {provider : TypeExpr}
    (h : (assemble ctx provider).result = .ok ()) :
    ∃ services, ctx.program.declaredServices provider = .ok services ∧
      (declared ctx services).checkAll ctx = ((assemble ctx provider).container, .ok ()) ∧
      (assemble ctx provider).container.validate = .ok () := by
  unfold assemble at h ⊢
  split at h
  · cases h
  next services hservices =>
  split at h
  · cases h
  next c hc =>
  rw [hservices]
  dsimp only
  exact ⟨services, rfl, hc, h⟩

open Container

theorem declared_size (ctx : Context) (services : List Service) :
    (declared ctx services).size = services.length := by
  have hservices : (declared ctx services).registrations.map (·.toService) = services :=
    addAll_services .empty services
  have hlength := congrArg List.length hservices
  rwa [List.length_map] at hlength

theorem declared_reachable (ctx : Context) (services : List Service) :
    Reachable ctx (declared ctx services) := Evolves.refl.addAll services

theorem declared_not_isEnumerable (ctx : Context) (services : List Service) (id : RegistrationId) :
    ¬ (declared ctx services).IsEnumerable id := by
  rintro ⟨element, family, hf, -⟩
  rw [declared, addAll_view (·.families) fun _ _ => rfl] at hf
  cases hf

section Success

variable {ctx : Context} {services : List Service} {c : Container}
  (h : (declared ctx services).checkAll ctx = (c, .ok ()))
include h

theorem reachable_of_checkAll : Reachable ctx c := by
  have hreachable := (declared_reachable ctx services).checkEach
    (List.range (declared ctx services).size)
  rw [checkAll] at h
  rwa [h] at hreachable

/-- What passing checks keep holds of the run. -/
theorem kept_of_checkAll {R : Bool → Container → Container → Prop} (hkept : Kept ctx R) :
    R true (declared ctx services) c := by
  have hchecks := hkept.checkEach (declared ctx services)
    (List.range (declared ctx services).size)
  rw [checkAll] at h
  rwa [h] at hchecks

theorem grows_of_checkAll : (declared ctx services).Grows c :=
  (kept_of_checkAll h (kept_extends ctx) (declared_reachable ctx services).enumerablesCollect).2

/-- The declared services head the container, as they were declared and in their order. -/
theorem take_registrations_of_checkAll :
    (c.registrations.take services.length).map (·.toService) = services := by
  have hprefix :=
    (grows_of_checkAll h).isPrefix_registrations (declared_not_isEnumerable ctx services)
  have hlength : (declared ctx services).registrations.length = services.length :=
    declared_size ctx services
  rw [List.prefix_iff_eq_take, hlength] at hprefix
  rw [← hprefix]
  exact addAll_services .empty services

theorem toService_mem_of_checkAll {id : RegistrationId} {r : Registration}
    (hid : id < services.length) (hr : c.registration? id = some r) : r.toService ∈ services := by
  have hmem : r ∈ c.registrations.take services.length := by
    refine List.mem_of_getElem? (i := id) ?_
    rw [List.getElem?_take, if_pos hid]
    exact hr
  have hservice := List.mem_map_of_mem (f := fun r : Registration => r.toService) hmem
  rwa [take_registrations_of_checkAll h] at hservice

/-- A run checks no registration twice. -/
theorem checks_nodup_of_checkAll : (c.checks.map (·.1)).Nodup := by
  have hrecords := records_checkEach ctx List.nodup_range
    fun id (hid : id ∈ List.range (declared ctx services).size) => List.mem_range.1 hid
  rw [checkAll] at h
  rw [h] at hrecords
  obtain ⟨new, hnew, hnodup, -⟩ := hrecords.once
  rw [declared, addAll_view checks fun _ _ => rfl] at hnew
  rwa [hnew]

end Success

end Wiring
