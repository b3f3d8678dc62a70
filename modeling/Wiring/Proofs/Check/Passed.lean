import Wiring.Proofs.Check.Index

/-!
What a passed check leaves behind. Resolutions are stored whether or not their parameters are
satisfied, and specializations are registered before they are checked; but a failure at any depth
fails the whole check, so after one that passed every new resolution is complete and every new
specialization is settled.
-/

namespace Wiring

/-- One satisfied parameter for each that the construction asks for, in the same order. -/
def Resolution.IsComplete (resolution : Resolution) : Prop :=
  resolution.parameters.map (·.parameter) = resolution.construction.parameters ∧
    ∀ p ∈ resolution.parameters, p.isSatisfied

namespace Container

/-- The type the registration constructs has a resolution, or nothing constructs it: no member, and
no public constructor. -/
def IsSettled (ctx : Context) (c : Container) (id : RegistrationId) : Prop :=
  ∃ r, c.registration? id = some r ∧ ((c.resolution? r.resolvedType).isSome ∨
    r.member = none ∧ ∀ method ∈ ctx.program.constructors r.resolvedType, ¬ method.isPublic)

theorem not_isPublic_of_usableConstructor {ctx : Context} {type : TypeExpr}
    (h : usableConstructor ctx type = .ok none) :
    ∀ method ∈ ctx.program.constructors type, ¬ method.isPublic := by
  intro method hmethod hpublic
  have husable : method ∈ (ctx.program.constructors type).filter (·.isPublic) :=
    List.mem_filter.2 ⟨hmethod, hpublic⟩
  unfold usableConstructor at h
  dsimp only at h
  split at h
  · next hexplicit =>
    have himplicit := List.find?_eq_none.1 (Except.ok.inj h) method husable
    have hnot := List.filter_eq_nil_iff.1 hexplicit method husable
    cases hi : method.implicit <;> simp [hi] at himplicit hnot
  · cases h
  · cases h

theorem selectConstruction_eq_none {ctx : Context} {type : TypeExpr} {member : Option Member}
    (h : selectConstruction ctx type member = .ok none) :
    member = none ∧ usableConstructor ctx type = .ok none := by
  unfold selectConstruction at h
  split at h
  · split at h <;> cases h
  · cases hu : usableConstructor ctx type with
    | error _ => rw [hu] at h; cases h
    | ok method =>
      rw [hu] at h
      cases method with
      | none => exact ⟨rfl, rfl⟩
      | some _ => cases h

theorem resolveParameter_parameter {ctx : Context} {check : Option Check} {a b : Container}
    {parameter : Parameter} {p : ParameterResolution}
    (h : resolveParameter ctx check a parameter = (b, .ok p)) : p.parameter = parameter := by
  unfold resolveParameter at h
  dsimp only at h
  split at h
  · cases h
  · cases h
    rfl

theorem resolveParameters_parameter {ctx : Context} {check : Option Check} {a b : Container}
    {parameters : List Parameter} {resolved : List ParameterResolution}
    (h : resolveParameters ctx check a parameters = (b, .ok resolved)) :
    resolved.map (·.parameter) = parameters := by
  induction parameters generalizing a resolved with
  | nil => cases h; rfl
  | cons parameter rest ih =>
    unfold resolveParameters at h
    split at h
    · cases h
    next middle first hfirst =>
    split at h
    · cases h
    next hrest =>
    cases h
    rw [List.map_cons, resolveParameter_parameter hfirst, ih hrest]

/-- A check passes in two ways: nothing constructs the type, or all parameters are satisfied. -/
theorem checkWithin_passes {ctx : Context} {levels : Nat} {a b : Container} {id : RegistrationId}
    (h : checkWithin ctx levels a id = (b, .ok ())) :
    ∃ r, a.registration? id = some r ∧
      ((r.member = none ∧ usableConstructor ctx r.resolvedType = .ok none ∧ b = a) ∨
        ∃ construction parameters middle,
          selectConstruction ctx r.resolvedType r.member = .ok (some construction) ∧
          resolveParameters ctx (inner ctx levels) a construction.parameters =
            (middle, .ok parameters) ∧
          parameters.all (·.isSatisfied) ∧
          b = (middle.store ⟨r.resolvedType, r.lifetime, construction, parameters⟩).note
            (.resolved id parameters)) := by
  rw [checkWithin_eq] at h
  unfold checkWith at h
  split at h
  · cases h
  next r hr =>
  refine ⟨r, hr, ?_⟩
  dsimp only at h
  split at h
  · cases h
  split at h
  · cases h
  · next hnone =>
    cases h
    obtain ⟨hmember, husable⟩ := selectConstruction_eq_none hnone
    exact Or.inl ⟨hmember, husable, rfl⟩
  next construction hconstruction =>
  split at h
  · cases h
  next middle parameters hparameters =>
  have hpasses := conclude_passes ctx middle id
    ⟨r.resolvedType, r.lifetime, construction, parameters⟩
  have hfst := conclude_fst ctx middle id ⟨r.resolvedType, r.lifetime, construction, parameters⟩
  rw [h] at hpasses hfst
  exact Or.inr ⟨construction, parameters, middle, hconstruction, hparameters, hpasses.symm, hfst⟩

theorem IsSettled.grow {ctx : Context} {a b : Container} {id : RegistrationId} (h : a.Grows b)
    (ha : a.IsSettled ctx id) : b.IsSettled ctx id := by
  obtain ⟨r, hr, hsettled⟩ := ha
  obtain ⟨r', hr', htype, hmember⟩ := h.registration?_eq_some hr
  refine ⟨r', hr', ?_⟩
  rw [htype, hmember]
  exact hsettled.imp_left (h.resolved r.resolvedType)

/-- A registration whose check passed is settled. -/
theorem isSettled_of_checkWithin {ctx : Context} {levels : Nat} {a b : Container}
    {id : RegistrationId} (hindexed : a.Indexed) (hcollect : a.EnumerablesCollect)
    (h : checkWithin ctx levels a id = (b, .ok ())) : b.IsSettled ctx id := by
  obtain ⟨r, hr, ⟨hmember, husable, rfl⟩ | hconstructed⟩ := checkWithin_passes h
  · exact ⟨r, hr, Or.inr ⟨hmember, not_isPublic_of_usableConstructor husable⟩⟩
  · obtain ⟨construction, parameters, middle, -, hparameters, -, rfl⟩ := hconstructed
    have hextends : Extends a middle := (kept_extends ctx).resolved hparameters
    have hmiddle : middle.Indexed := (kept_indexed ctx).resolved hparameters hindexed
    let resolution : Resolution := ⟨r.resolvedType, r.lifetime, construction, parameters⟩
    have hgrows : a.Grows ((middle.store resolution).note (.resolved id parameters)) :=
      (hextends hcollect).2.trans ((grows_store middle resolution).trans (grows_note _ _))
    obtain ⟨r', hr', htype, -⟩ := hgrows.registration?_eq_some hr
    refine ⟨r', hr', Or.inl ?_⟩
    rw [htype]
    change ((middle.store resolution).resolution? resolution.type).isSome
    rw [resolution?_store hmiddle, if_pos (TypeExpr.same_refl _)]
    rfl

/-- A check passes for a named type only. -/
theorem isNamed_of_checkWithin {ctx : Context} {levels : Nat} {a b : Container}
    {id : RegistrationId} (h : checkWithin ctx levels a id = (b, .ok ())) :
    ∃ r, a.registration? id = some r ∧ r.resolvedType.isNamed := by
  rw [checkWithin_eq] at h
  unfold checkWith at h
  split at h
  · cases h
  next r hr =>
  refine ⟨r, hr, ?_⟩
  cases hnamed : r.resolvedType.isNamed with
  | true => rfl
  | false =>
    simp only [hnamed, Bool.not_false, if_true] at h
    cases h

/-- A check of the registration has passed: it constructs a named type, and is settled. -/
structure HasPassed (ctx : Context) (c : Container) (id : RegistrationId) : Prop where
  named : ∃ r, c.registration? id = some r ∧ r.resolvedType.isNamed
  settled : c.IsSettled ctx id

theorem HasPassed.grow {ctx : Context} {a b : Container} {id : RegistrationId} (h : a.Grows b)
    (ha : a.HasPassed ctx id) : b.HasPassed ctx id := by
  obtain ⟨r, hr, hnamed⟩ := ha.named
  obtain ⟨r', hr', htype, -⟩ := h.registration?_eq_some hr
  exact ⟨⟨r', hr', by rwa [htype]⟩, ha.settled.grow h⟩

theorem hasPassed_of_checkWithin {ctx : Context} {levels : Nat} {a b : Container}
    {id : RegistrationId} (hindexed : a.Indexed) (hcollect : a.EnumerablesCollect)
    (h : checkWithin ctx levels a id = (b, .ok ())) : b.HasPassed ctx id := by
  obtain ⟨r, hr, hnamed⟩ := isNamed_of_checkWithin h
  have hgrows : a.Grows b := by
    have hextends : Extends a (checkWithin ctx levels a id).1 :=
      (kept_extends ctx).checkWithin levels a id
    rw [h] at hextends
    exact (hextends hcollect).2
  obtain ⟨r', hr', htype, -⟩ := hgrows.registration?_eq_some hr
  exact ⟨⟨r', hr', by rwa [htype]⟩, isSettled_of_checkWithin hindexed hcollect h⟩

/-- What a check that passes resolves is complete. -/
theorem kept_complete (ctx : Context) : Kept ctx fun ok a b => ok →
    ∀ r ∈ b.resolutions, r ∈ a.resolutions ∨ r.IsComplete where
  refl _ _ _ _ hr := Or.inl hr
  trans hab hbc hok r hr := (hbc hok r hr).elim (hab rfl r) Or.inr
  remark _ _ _ _ _ hr := Or.inl hr
  family _ _ _ _ _ hr := Or.inl hr
  redirect _ _ _ _ _ hr := Or.inl hr
  nested {c target source} _ _ _ _ _ _ h hok r hr := by
    have hentered := entered_resolutions c ctx target source
    rw [← hentered]
    exact h hok r hr
  stopped _ _ _ _ h := h
  conclude _ _ hparameters h hok r hr := by
    rw [conclude_fst] at hr
    rcases mem_resolutions_of_store hr with rfl | hold
    · exact Or.inr ⟨resolveParameters_parameter hparameters, List.all_eq_true.1 hok⟩
    · exact h rfl r hold

/-- What checks keep together: the index, the collections, and, of those that pass, that the
check of every specialization they make has passed. -/
structure Settles (ctx : Context) (ok : Bool) (a b : Container) : Prop where
  indexed : a.Indexed → b.Indexed
  grows : Extends a b
  passed : ok → a.Indexed → a.EnumerablesCollect →
    ∀ id, .specialized id ∈ b.journal → .specialized id ∈ a.journal ∨ b.HasPassed ctx id

theorem kept_settles (ctx : Context) : Kept ctx (Settles ctx) where
  refl ok c := ⟨(kept_indexed ctx).refl ok c, (kept_extends ctx).refl ok c,
    fun _ _ _ _ hid => Or.inl hid⟩
  trans := by
    rintro ok a b c ⟨hiab, heab, hpab⟩ ⟨hibc, hebc, hpbc⟩
    refine ⟨hibc ∘ hiab, heab.trans hebc, fun hok hindexed hcollect id hid => ?_⟩
    obtain ⟨hbcollect, -⟩ := heab hcollect
    rcases hpbc hok (hiab hindexed) hbcollect id hid with hb | hpassed
    · exact (hpab rfl hindexed hcollect id hb).imp_right (HasPassed.grow (hebc hbcollect).2)
    · exact Or.inr hpassed
  remark c event hremark := by
    refine ⟨(kept_indexed ctx).remark c hremark, (kept_extends ctx).remark c hremark, ?_⟩
    intro _ _ _ id hid
    rcases List.mem_append.1 hid with hold | hnew
    · exact Or.inl hold
    · rw [← List.mem_singleton.1 hnew] at hremark
      cases hremark
  family hfree helement hnew := ⟨(kept_indexed ctx).family hfree helement hnew,
    (kept_extends ctx).family hfree helement hnew, fun _ _ _ _ hid => Or.inl hid⟩
  redirect hopens hold hother := ⟨(kept_indexed ctx).redirect hopens hold hother,
    (kept_extends ctx).redirect hopens hold hother, fun _ _ _ _ hid => Or.inl hid⟩
  nested := by
    rintro c target source levels ⟨b, result⟩ hopens hnew hdepth hs ⟨hi, he, hpasses⟩
    refine ⟨(kept_indexed ctx).nested hopens hnew hdepth hs hi,
      (kept_extends ctx).nested hopens hnew hdepth hs he, fun hok hindexed hcollect id hid => ?_⟩
    cases result with
    | error _ => cases hok
    | ok _ =>
      have hindexed : (c.entered ctx target source).Indexed :=
        hindexed.of_eq (entered_resolutions c ctx _ _) (entered_resolutionIndex c ctx _ _)
      obtain ⟨hcollect, -⟩ := extends_entered c ctx target source hcollect
      rcases hpasses rfl hindexed hcollect id hid with hentered | hpassed
      · rw [entered_journal] at hentered
        rcases List.mem_append.1 hentered with hold | hspecialized
        · exact Or.inl hold
        -- the new specialization itself: its own check is the one that passed
        · have hpassed : b.HasPassed ctx c.size := hasPassed_of_checkWithin hindexed hcollect hs
          cases List.mem_singleton.1 hspecialized
          exact Or.inr ⟨hpassed.named, hpassed.settled⟩
      · exact Or.inr ⟨hpassed.named, hpassed.settled⟩
  stopped _ _ _ _ h := h
  conclude := by
    rintro a b id r levels construction parameters hr hconstruction hparameters ⟨hi, he, hpasses⟩
    refine ⟨(kept_indexed ctx).conclude hr hconstruction hparameters hi,
      (kept_extends ctx).conclude hr hconstruction hparameters he,
      fun _ hindexed hcollect other hother => ?_⟩
    have hgrows := (extends_conclude ctx b id
      ⟨r.resolvedType, r.lifetime, construction, parameters⟩ (he hcollect).1).2
    have hb : .specialized other ∈ b.journal := by
      rw [conclude_fst] at hother
      rcases List.mem_append.1 hother with hold | hresolved
      · rwa [store_journal] at hold
      · cases List.mem_singleton.1 hresolved
    exact (hpasses rfl hindexed hcollect other hb).imp_right (HasPassed.grow hgrows)

end Container
end Wiring
