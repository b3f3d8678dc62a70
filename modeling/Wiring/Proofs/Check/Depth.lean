import Wiring.Proofs.Check.Kept
import Wiring.Proofs.Check.Sequence

/-!
Checks under two limits on nested specializations. The limit is read in one place only, where a
specialization would be one too many, and the failure there fails every check around it. So a check
that the lower limit did not stop does not notice the higher one: it comes to the same container and
the same result, whether it passes or fails.
-/

namespace Wiring

/-- The same engine under another limit on nested specializations. -/
def Context.withLimit (ctx : Context) (limit : Nat) : Context :=
  { ctx with settings := { ctx.settings with maxSpecializationDepth := limit } }

/-- The failure is that specializations nest deeper than a limit allows. -/
def StoppedByLimit {α : Type} (result : Except Fault α) : Prop :=
  ∃ type limit, result = .error (.specializationDepthExceeded type limit)

theorem stoppedByLimit_error {α β : Type} {fault : Fault} :
    StoppedByLimit (.error fault : Except Fault α) ↔
      StoppedByLimit (.error fault : Except Fault β) := by
  simp only [StoppedByLimit, Except.error.injEq]

theorem not_stoppedByLimit_ok {α : Type} (x : α) :
    ¬ StoppedByLimit (.ok x : Except Fault α) := by
  rintro ⟨_, _, h⟩
  cases h

namespace Container

/-- The second step is the first one, unless the first was stopped by the limit. -/
def Persists {α : Type} (s t : Step α) : Prop := ¬ StoppedByLimit s.2 → t = s

theorem Persists.refl {α : Type} (s : Step α) : Persists s s := fun _ => rfl

theorem Persists.andThen {α β : Type} {s t : Step α} {next next' : Container → α → Step β}
    (h : Persists s t) (hnext : ∀ c x, Persists (next c x) (next' c x)) :
    Persists (s.andThen next) (t.andThen next') := by
  obtain ⟨c, result⟩ := s
  cases result with
  | error fault =>
    intro hdone
    rw [h (mt stoppedByLimit_error.1 hdone), Step.andThen_error, Step.andThen_error]
  | ok x =>
    rw [h (not_stoppedByLimit_ok x)]
    exact hnext c x

variable {ctx : Context} {limit : Nat}

/-! What does not read the limit. -/

theorem follow_withLimit (c : Container) (id : RegistrationId) :
    c.follow (ctx.withLimit limit) id = c.follow ctx id := rfl

theorem entered_withLimit (c : Container) (target : TypeExpr) (source : Registration) :
    c.entered (ctx.withLimit limit) target source = c.entered ctx target source := rfl

section Nested

variable {levels levels' : Nat} (hlimit : ctx.settings.maxSpecializationDepth ≤ limit)
  (hlevels : levels ≤ levels')
  (ih : ∀ n < levels, ∀ n' ≥ n, ∀ c id,
    Persists (checkWithin ctx n c id) (checkWithin (ctx.withLimit limit) n' c id))
include hlimit hlevels ih

theorem specializeFrom_persists (c : Container) (target : TypeExpr) (source : Registration) :
    Persists (specializeFrom ctx (inner ctx levels) c target source)
      (specializeFrom (ctx.withLimit limit) (inner (ctx.withLimit limit) levels') c target
        source) := by
  unfold specializeFrom
  dsimp only
  split
  · exact .refl _
  split
  · exact .refl _
  -- a new specialization: here alone the limits count
  by_cases hdepth : c.specializationDepth < ctx.settings.maxSpecializationDepth
  · have hdepth' : c.specializationDepth < (ctx.withLimit limit).settings.maxSpecializationDepth :=
      Nat.lt_of_lt_of_le hdepth hlimit
    simp only [if_pos hdepth, if_pos hdepth']
    cases levels with
    | zero => exact fun hdone => absurd ⟨_, _, rfl⟩ hdone
    | succ n =>
      obtain ⟨n', rfl⟩ : ∃ n', levels' = n' + 1 := ⟨levels' - 1, by omega⟩
      have hinner := ih n (Nat.lt_succ_self n) n' (Nat.le_of_succ_le_succ hlevels)
        (c.entered ctx target source) c.size
      simp only [inner, checkNested_entered, entered_withLimit]
      cases hs : checkWithin ctx n (c.entered ctx target source) c.size with
      | mk after result =>
      rw [hs] at hinner
      cases result with
      | ok _ => rw [hinner (not_stoppedByLimit_ok _)]; exact .refl _
      | error fault =>
        intro hdone
        rw [hinner (mt stoppedByLimit_error.1 hdone)]
  · simp only [if_neg hdepth]
    exact fun hdone => absurd ⟨_, _, rfl⟩ hdone

theorem specialize_persists (c : Container) (target : TypeExpr) :
    Persists (specialize ctx (inner ctx levels) c target)
      (specialize (ctx.withLimit limit) (inner (ctx.withLimit limit) levels') c target) := by
  have hprogram : (ctx.withLimit limit).program = ctx.program := rfl
  unfold specialize
  rw [hprogram]
  split
  · exact .refl _
  split
  · exact .refl _
  · dsimp only
    rw [follow_withLimit]
    split
    · exact specializeFrom_persists hlimit hlevels ih c target _
    · exact .refl _
  · exact .refl _

theorem resolveTarget_persists (c : Container) (key : Option String) (target : TypeExpr)
    (requireNonEmpty : Bool) :
    Persists (resolveTarget ctx (inner ctx levels) c key target requireNonEmpty)
      (resolveTarget (ctx.withLimit limit) (inner (ctx.withLimit limit) levels') c key target
        requireNonEmpty) := by
  have hcollection : (ctx.withLimit limit).settings.collectionElement? target =
      ctx.settings.collectionElement? target := rfl
  unfold resolveTarget
  rw [hcollection]
  split
  · split
    · exact .refl _
    split
    · exact .refl _
    · split
      · exact specialize_persists hlimit hlevels ih c target
      · exact .refl _
  · exact .refl _

theorem resolveParameter_persists (c : Container) (parameter : Parameter) :
    Persists (resolveParameter ctx (inner ctx levels) c parameter)
      (resolveParameter (ctx.withLimit limit) (inner (ctx.withLimit limit) levels') c
        parameter) := by
  have hunwrap : (ctx.withLimit limit).settings.unwrapNullable = ctx.settings.unwrapNullable := rfl
  have htargetOf : targetOf (ctx.withLimit limit) = targetOf ctx := rfl
  have htarget := resolveTarget_persists hlimit hlevels ih c parameter.key
    (targetOf ctx (ctx.settings.unwrapNullable parameter.type).1) parameter.requiresNonEmpty
  rw [resolveParameter_eq_andThen, resolveParameter_eq_andThen, hunwrap, htargetOf]
  exact htarget.andThen fun _ _ => .refl _

theorem resolveParameters_persists (c : Container) (parameters : List Parameter) :
    Persists (resolveParameters ctx (inner ctx levels) c parameters)
      (resolveParameters (ctx.withLimit limit) (inner (ctx.withLimit limit) levels') c
        parameters) := by
  induction parameters generalizing c with
  | nil => exact .refl _
  | cons parameter rest ihrest =>
    rw [resolveParameters_cons, resolveParameters_cons]
    have hfirst := resolveParameter_persists hlimit hlevels ih c parameter
    exact hfirst.andThen fun middle _ => (ihrest middle).andThen fun _ _ => .refl _

end Nested

/-- A check that may nest at least as many specializations comes to the same. -/
theorem checkWithin_persists (hlimit : ctx.settings.maxSpecializationDepth ≤ limit)
    (levels levels' : Nat) (hlevels : levels ≤ levels') (c : Container) (id : RegistrationId) :
    Persists (checkWithin ctx levels c id) (checkWithin (ctx.withLimit limit) levels' c id) := by
  induction levels using Nat.strongRecOn generalizing levels' c id with
  | _ levels ih =>
    have hconstruction : selectConstruction (ctx.withLimit limit) = selectConstruction ctx := rfl
    rw [checkWithin_eq, checkWithin_eq, checkWith_eq_andThen, checkWith_eq_andThen, hconstruction]
    split
    · exact .refl _
    split
    · exact .refl _
    split
    · exact .refl _
    · exact .refl _
    next construction _ =>
    have hparameters := resolveParameters_persists hlimit hlevels
      (fun n hn n' hn' c id => ih n hn n' hn' c id) c construction.parameters
    exact hparameters.andThen fun _ _ => .refl _

theorem check_persists (hlimit : ctx.settings.maxSpecializationDepth ≤ limit) (c : Container)
    (id : RegistrationId) :
    Persists (c.check ctx id) (c.check (ctx.withLimit limit) id) :=
  checkWithin_persists hlimit _ _ (Nat.sub_le_sub_right hlimit _) c id

theorem checkEach_persists (hlimit : ctx.settings.maxSpecializationDepth ≤ limit) (c : Container)
    (ids : List RegistrationId) :
    Persists (checkEach ctx c ids) (checkEach (ctx.withLimit limit) c ids) := by
  induction ids generalizing c with
  | nil => exact .refl _
  | cons id rest ih =>
    by_cases hclosed : c.isClosed id
    · rw [checkEach_cons_of_closed hclosed, checkEach_cons_of_closed hclosed]
      exact (check_persists hlimit c id).andThen fun after _ => ih after
    · rw [checkEach, checkEach, if_neg hclosed, if_neg hclosed]
      exact ih c

end Container
end Wiring
