import Wiring.Proofs.Check.Record

/-!
The resolution of a type is what the latest check of the type worked out. Registrations may share
the type they construct; of their checks only the latest is kept, and the others are on record only.
-/

namespace Wiring.Container

/-- The registration constructs the type. -/
def constructs (c : Container) (type : TypeExpr) (id : RegistrationId) : Bool :=
  (c.registration? id).any (·.resolvedType.same type)

/-- The last check on record of a registration that constructs the type. -/
def latestCheck? (c : Container) (type : TypeExpr) :
    Option (RegistrationId × List ParameterResolution) :=
  (c.checks.filter fun check => c.constructs type check.1).getLast?

structure KeepsLatest (c : Container) : Prop where
  issued : ∀ check ∈ c.checks, check.1 < c.size
  latest (type : TypeExpr) :
    (c.resolution? type).map (·.parameters) = (c.latestCheck? type).map (·.2)

variable {a b c : Container}

theorem latestCheck?_congr {first second : TypeExpr} (h : first.same second) :
    c.latestCheck? first = c.latestCheck? second := by
  have hconstructs : c.constructs first = c.constructs second := by
    funext id
    simp only [constructs, fun r : Registration => TypeExpr.same_congr r.resolvedType h]
  rw [latestCheck?, latestCheck?, hconstructs]

theorem Grows.constructs_eq (h : a.Grows b) {id : RegistrationId} (hid : id < a.size)
    (type : TypeExpr) : b.constructs type id = a.constructs type id := by
  obtain ⟨r, hr⟩ := registration?_isSome hid
  obtain ⟨r', hr', htype, -⟩ := h.registration?_eq_some hr
  unfold constructs
  rw [hr, hr', Option.any_some, Option.any_some, htype]

namespace KeepsLatest

/-- Growth leaves the checks of a type those they were. -/
theorem filter_checks (h : KeepsLatest a) (hgrows : a.Grows b) (type : TypeExpr) :
    (a.checks.filter fun check => b.constructs type check.1) =
      a.checks.filter fun check => a.constructs type check.1 :=
  List.filter_congr fun check hcheck => hgrows.constructs_eq (h.issued check hcheck) type

theorem latestCheck?_eq (h : KeepsLatest a) (hgrows : a.Grows b) (hchecks : b.checks = a.checks)
    (type : TypeExpr) : b.latestCheck? type = a.latestCheck? type := by
  rw [latestCheck?, latestCheck?, hchecks, h.filter_checks hgrows]

theorem grow (h : KeepsLatest a) (hgrows : a.Grows b) (hchecks : b.checks = a.checks)
    (hresolutions : b.resolutions = a.resolutions)
    (hindex : b.resolutionIndex = a.resolutionIndex) : KeepsLatest b where
  issued check hcheck := by
    rw [hchecks] at hcheck
    exact Nat.lt_of_lt_of_le (h.issued check hcheck) hgrows.size_le
  latest type := by
    rw [h.latestCheck?_eq hgrows hchecks, resolution?, hresolutions, hindex]
    exact h.latest type

/-- A check that concludes is the latest of its type. -/
theorem latestCheck?_conclude (h : KeepsLatest c) (ctx : Context) {id : RegistrationId}
    {r : Registration} (hr : c.registration? id = some r) {resolution : Resolution}
    (htype : r.resolvedType = resolution.type) (type : TypeExpr) :
    (Container.conclude ctx c id resolution).1.latestCheck? type =
      if resolution.type.same type then some (id, resolution.parameters)
      else c.latestCheck? type := by
  have hgrows : c.Grows (Container.conclude ctx c id resolution).1 := by
    rw [conclude_fst]
    exact (grows_store c resolution).trans (grows_note _ _)
  have hconstructs : (Container.conclude ctx c id resolution).1.constructs type id =
      resolution.type.same type := by
    rw [hgrows.constructs_eq (registration?_eq_some_lt hr), constructs, hr, ← htype]
    rfl
  rw [latestCheck?, checks_conclude, List.filter_append, h.filter_checks hgrows,
    List.filter_singleton, hconstructs]
  by_cases hsame : resolution.type.same type
  · simp [hsame]
  · simp [hsame, latestCheck?]

theorem conclude (h : KeepsLatest c) (hindexed : c.Indexed) (ctx : Context) {id : RegistrationId}
    {r : Registration} (hr : c.registration? id = some r) {resolution : Resolution}
    (htype : r.resolvedType = resolution.type) :
    KeepsLatest (conclude ctx c id resolution).1 := by
  constructor
  case issued =>
    intro check hcheck
    rw [checks_conclude] at hcheck
    rw [size_conclude]
    rcases List.mem_append.1 hcheck with hold | hnew
    · exact h.issued check hold
    · rw [List.mem_singleton.1 hnew]
      exact registration?_eq_some_lt hr
  case latest =>
    intro type
    rw [resolution?_conclude hindexed, h.latestCheck?_conclude ctx hr htype]
    split
    · rfl
    · exact h.latest type

end KeepsLatest

/-- What the search for the latest check of a type rests on. -/
structure OnRecord (c : Container) : Prop where
  indexed : c.Indexed
  collect : c.EnumerablesCollect
  latest : c.KeepsLatest

theorem OnRecord.add (h : c.OnRecord) (ctx : Context) (service : Service) :
    (c.add ctx service).OnRecord :=
  ⟨h.indexed.of_eq rfl rfl, (extends_add c ctx service h.collect).1,
    h.latest.grow (grows_add c ctx service) rfl rfl rfl⟩

theorem OnRecord.entered (h : c.OnRecord) (ctx : Context) (target : TypeExpr)
    (source : Registration) : (c.entered ctx target source).OnRecord := by
  have hresolutions := entered_resolutions c ctx target source
  have hindex := entered_resolutionIndex c ctx target source
  obtain ⟨hcollect, hgrows⟩ := extends_entered c ctx target source h.collect
  exact ⟨h.indexed.of_eq hresolutions hindex, hcollect,
    h.latest.grow hgrows (checks_entered c ctx target source) hresolutions hindex⟩

theorem OnRecord.left (h : c.OnRecord) : c.left.OnRecord := by
  obtain ⟨hcollect, hgrows⟩ := extends_left c h.collect
  exact ⟨h.indexed.of_eq rfl rfl, hcollect, h.latest.grow hgrows rfl rfl rfl⟩

theorem kept_onRecord (ctx : Context) : Kept ctx fun _ a b => OnRecord a → OnRecord b where
  refl _ _ := id
  trans hab hbc ha := hbc (hab ha)
  remark c event hremark ha := by
    refine ⟨(kept_indexed ctx).remark c hremark ha.indexed,
      (extends_note c event ha.collect).1, ha.latest.grow (grows_note c event) ?_ rfl rfl⟩
    rw [checks_note, Event.check?_eq_none_of_isRemark hremark]
    exact List.append_nil _
  family hfree helement hnew ha :=
    ⟨(kept_indexed ctx).family hfree helement hnew ha.indexed,
      (extends_addFamily _ ctx _ hnew ha.collect).1,
      ha.latest.grow (grows_addFamily _ ctx _ hnew) rfl rfl rfl⟩
  redirect _ _ _ ha := ha.add ctx _
  nested _ _ _ _ hchecked ha := (hchecked (ha.entered ctx _ _)).left
  stopped _ _ _ _ h := h
  conclude := by
    intro a b id r levels construction parameters hr _ hparameters hbefore ha
    have hb := hbefore ha
    obtain ⟨-, hgrows⟩ := (kept_extends ctx).resolved hparameters ha.collect
    obtain ⟨r', hr', htype, -⟩ := hgrows.registration?_eq_some hr
    refine ⟨?_, (extends_conclude ctx b id _ hb.collect).1,
      hb.latest.conclude hb.indexed ctx hr' htype⟩
    rw [conclude_fst]
    exact (hb.indexed.store _).of_eq rfl rfl

/-- In every container the resolution of a type is what the latest check of the type worked out. -/
theorem Reachable.onRecord {ctx : Context} (hc : Reachable ctx c) : c.OnRecord := by
  refine hc.invariant ?_ (fun b service hb => hb.add ctx service)
    fun b id hb => (kept_onRecord ctx).check b id hb
  have hempty : Reachable ctx empty := .refl
  refine ⟨hempty.indexed, hempty.enumerablesCollect, ?_, fun type => rfl⟩
  exact fun check hcheck => absurd hcheck List.not_mem_nil

end Wiring.Container
