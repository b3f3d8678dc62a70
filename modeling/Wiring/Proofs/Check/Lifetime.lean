import Wiring.Proofs.Check.Latest

/-!
The lifetime under which a type is resolved. Registrations may share the type they construct and
differ in their lifetimes; the resolution of the type has the lifetime of the registration that was
checked latest, whichever of them a consumer selected.
-/

namespace Wiring.Container

/-- The lifetime of the registration, where there is one of this number. -/
def lifetimeOf? (c : Container) (id : RegistrationId) : Option Lifetime :=
  (c.registration? id).map (·.lifetime)

/-- A type is resolved with the lifetime of the registration that its latest check was of. -/
def KeepsLifetimes (c : Container) : Prop :=
  ∀ type, (c.resolution? type).map (·.lifetime) =
    (c.latestCheck? type).bind fun check => c.lifetimeOf? check.1

variable {a b c : Container}

theorem Grows.lifetimeOf?_eq (h : a.Grows b) {id : RegistrationId} (hid : id < a.size) :
    b.lifetimeOf? id = a.lifetimeOf? id := by
  obtain ⟨r, hr⟩ := registration?_isSome hid
  obtain ⟨r', hr', rfl | ⟨-, ids, more, -, rfl⟩⟩ := h.registrations id r hr
  · rw [lifetimeOf?, lifetimeOf?, hr, hr']
  · rw [lifetimeOf?, lifetimeOf?, hr, hr']
    rfl

theorem KeepsLatest.issued_of_latest (h : c.KeepsLatest) {type : TypeExpr}
    {check : RegistrationId × List ParameterResolution}
    (hlatest : c.latestCheck? type = some check) : check.1 < c.size :=
  h.issued check (List.mem_filter.1 (List.mem_of_getLast? hlatest)).1

/-- Growth leaves the lifetimes of the latest checks those they were. -/
theorem KeepsLatest.bind_lifetimeOf?_eq (h : a.KeepsLatest) (hgrows : a.Grows b)
    (type : TypeExpr) : ((a.latestCheck? type).bind fun check => b.lifetimeOf? check.1) =
      (a.latestCheck? type).bind fun check => a.lifetimeOf? check.1 := by
  cases hlatest : a.latestCheck? type with
  | none => rfl
  | some check => exact hgrows.lifetimeOf?_eq (h.issued_of_latest hlatest)

theorem KeepsLifetimes.grow (h : a.KeepsLifetimes) (ha : a.KeepsLatest) (hgrows : a.Grows b)
    (hchecks : b.checks = a.checks) (hresolutions : b.resolutions = a.resolutions)
    (hindex : b.resolutionIndex = a.resolutionIndex) : b.KeepsLifetimes := by
  intro type
  rw [ha.latestCheck?_eq hgrows hchecks, ha.bind_lifetimeOf?_eq hgrows, resolution?, hresolutions,
    hindex]
  exact h type

theorem KeepsLifetimes.conclude (h : c.KeepsLifetimes) (hc : c.OnRecord) (ctx : Context)
    {id : RegistrationId} {r : Registration} (hr : c.registration? id = some r)
    {resolution : Resolution} (htype : r.resolvedType = resolution.type)
    (hlifetime : r.lifetime = resolution.lifetime) :
    (conclude ctx c id resolution).1.KeepsLifetimes := by
  have hgrows := (extends_conclude ctx c id resolution hc.collect).2
  intro type
  rw [resolution?_conclude hc.indexed, hc.latest.latestCheck?_conclude ctx hr htype]
  split
  · rw [Option.map_some, Option.bind_some, hgrows.lifetimeOf?_eq (registration?_eq_some_lt hr),
      lifetimeOf?, hr, Option.map_some, hlifetime]
  · rw [hc.latest.bind_lifetimeOf?_eq hgrows]
    exact h type

theorem kept_lifetimes (ctx : Context) : Kept ctx fun _ a b =>
    a.OnRecord → b.OnRecord ∧ (a.KeepsLifetimes → b.KeepsLifetimes) where
  refl _ _ ha := ⟨ha, id⟩
  trans hab hbc ha := by
    obtain ⟨hb, hlifetimes⟩ := hab ha
    obtain ⟨hc, hlifetimes'⟩ := hbc hb
    exact ⟨hc, hlifetimes' ∘ hlifetimes⟩
  remark c event hremark ha := by
    refine ⟨(kept_onRecord ctx).remark c hremark ha, fun h =>
      h.grow ha.latest (grows_note c event) ?_ rfl rfl⟩
    rw [checks_note, Event.check?_eq_none_of_isRemark hremark]
    exact List.append_nil _
  family hfree helement hnew ha := ⟨(kept_onRecord ctx).family hfree helement hnew ha,
    fun h => h.grow ha.latest (grows_addFamily _ ctx _ hnew) rfl rfl rfl⟩
  redirect _ _ _ ha :=
    ⟨ha.add ctx _, fun h => h.grow ha.latest (grows_add _ ctx _) rfl rfl rfl⟩
  nested := by
    intro c target source levels s _ _ _ _ hchecked ha
    have hentered := ha.entered ctx target source
    obtain ⟨hafter, hlifetimes⟩ := hchecked hentered
    have hgrows := (extends_entered c ctx target source ha.collect).2
    have hleaves := (extends_left s.1 hafter.collect).2
    refine ⟨hafter.left, fun h => (hlifetimes ?_).grow hafter.latest hleaves rfl rfl rfl⟩
    exact h.grow ha.latest hgrows (checks_entered c ctx target source)
      (entered_resolutions c ctx target source) (entered_resolutionIndex c ctx target source)
  stopped _ _ _ _ h := h
  conclude := by
    intro a b id r levels construction parameters hr hconstruction hparameters hbefore ha
    obtain ⟨hb, hlifetimes⟩ := hbefore ha
    have hrecord := (kept_onRecord ctx).conclude hr hconstruction hparameters (fun _ => hb) ha
    obtain ⟨-, hgrows⟩ := (kept_extends ctx).resolved hparameters ha.collect
    obtain ⟨r', hr', htype, -⟩ := hgrows.registration?_eq_some hr
    refine ⟨hrecord, fun h => (hlifetimes h).conclude hb ctx hr' htype ?_⟩
    have hsame := hgrows.lifetimeOf?_eq (registration?_eq_some_lt hr)
    rw [lifetimeOf?, lifetimeOf?, hr, hr'] at hsame
    exact Option.some.inj hsame

/-- In every container a type is resolved with the lifetime of the registration checked latest. -/
theorem Reachable.keepsLifetimes {ctx : Context} (hc : Reachable ctx c) : c.KeepsLifetimes := by
  suffices hboth : c.OnRecord ∧ c.KeepsLifetimes from hboth.2
  refine hc.invariant (P := fun b => b.OnRecord ∧ b.KeepsLifetimes) ?_ ?_ ?_
  · have hempty : Reachable ctx empty := .refl
    exact ⟨hempty.onRecord, fun type => rfl⟩
  · rintro b service ⟨hb, h⟩
    exact ⟨hb.add ctx service, h.grow hb.latest (grows_add b ctx service) rfl rfl rfl⟩
  · rintro b id ⟨hb, h⟩
    obtain ⟨hafter, hlifetimes⟩ := (kept_lifetimes ctx).check b id hb
    exact ⟨hafter, hlifetimes h⟩

end Wiring.Container
