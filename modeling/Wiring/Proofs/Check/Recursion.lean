import Mathlib.Logic.Function.Iterate
import Wiring.Proofs.Check.Forecast
import Wiring.Proofs.Check.Frame
import Wiring.Proofs.Check.Sequence

/-!
Checks nest checks, and nothing stops them but the number of specializations under way. The engine
counts down the levels that are left; here that is taken away again. A check is what it comes to
when it nests itself, whatever is put in place of the checks below the levels that the limit leaves.
-/

namespace Wiring.Container

variable {ctx : Context} {c : Container}

/-- How many specializations the limit leaves room for, inside those under way. -/
def room (ctx : Context) (c : Container) : Nat :=
  ctx.settings.maxSpecializationDepth - c.specializationDepth

/-- The check of a specialization. -/
def recheck (ctx : Context) : Check := fun c id => c.check ctx id

/-- Where so many specializations are under way that the limit allows for one more, `nested` checks
that one. -/
def Rechecks (ctx : Context) (depth : Nat) (nested : Option Check) : Prop :=
  depth < ctx.settings.maxSpecializationDepth → ∃ check, nested = some check ∧
    ∀ c id, c.specializationDepth = depth + 1 → check c id = c.check ctx id

theorem rechecks_recheck (ctx : Context) (depth : Nat) :
    Rechecks ctx depth (some (recheck ctx)) := fun _ => ⟨_, rfl, fun _ _ _ => rfl⟩

/-- The check that the engine nests. -/
abbrev nestedCheck (ctx : Context) (c : Container) : Option Check := inner ctx (c.room ctx)

theorem rechecks_nestedCheck (ctx : Context) (c : Container) :
    Rechecks ctx c.specializationDepth (nestedCheck ctx c) := by
  intro hdepth
  obtain ⟨levels, hlevels⟩ : ∃ levels, c.room ctx = levels + 1 :=
    ⟨c.room ctx - 1, by unfold room; omega⟩
  refine ⟨checkWithin ctx levels, by rw [nestedCheck, hlevels]; rfl, fun entered id hentered => ?_⟩
  have hleft : ctx.settings.maxSpecializationDepth - entered.specializationDepth = levels := by
    unfold room at hlevels
    omega
  rw [check, hleft]

section Nested

variable {nested : Option Check} (h : Rechecks ctx c.specializationDepth nested)
include h

theorem specializeFrom_rechecks (target : TypeExpr) (source : Registration) :
    specializeFrom ctx nested c target source =
      specializeFrom ctx (nestedCheck ctx c) c target source := by
  unfold specializeFrom
  dsimp only
  split
  · rfl
  split
  · rfl
  by_cases hdepth : c.specializationDepth < ctx.settings.maxSpecializationDepth
  · obtain ⟨check, rfl, hcheck⟩ := h hdepth
    obtain ⟨check', hcheck', heq⟩ := rechecks_nestedCheck ctx c hdepth
    have hentered := entered_specializationDepth c ctx target source
    rw [hcheck']
    simp only [if_pos hdepth, checkNested_entered, hcheck _ _ hentered, heq _ _ hentered]
  · simp only [if_neg hdepth]

theorem resolveTarget_rechecks (key : Option String) (target : TypeExpr)
    (requireNonEmpty : Bool) :
    resolveTarget ctx nested c key target requireNonEmpty =
      resolveTarget ctx (nestedCheck ctx c) c key target requireNonEmpty := by
  have hspecialize : specialize ctx nested c target =
      specialize ctx (nestedCheck ctx c) c target := by
    unfold specialize
    simp only [specializeFrom_rechecks h]
  unfold resolveTarget
  rw [hspecialize]

theorem resolveParameter_rechecks (parameter : Parameter) :
    resolveParameter ctx nested c parameter =
      resolveParameter ctx (nestedCheck ctx c) c parameter := by
  unfold resolveParameter
  dsimp only
  rw [resolveTarget_rechecks h]

theorem resolveParameters_rechecks (parameters : List Parameter) :
    resolveParameters ctx nested c parameters =
      resolveParameters ctx (nestedCheck ctx c) c parameters := by
  induction parameters generalizing c with
  | nil => rfl
  | cons parameter rest ih =>
    rw [resolveParameters_cons, resolveParameters_cons, resolveParameter_rechecks h]
    -- what follows starts with as many specializations under way
    have hkept := kept_specializationDepth ctx
    have hdepth : (resolveParameter ctx (nestedCheck ctx c) c parameter).1.specializationDepth =
        c.specializationDepth := hkept.resolveParameter (fun n _ => hkept.checkWithin n) c parameter
    rcases hs : resolveParameter ctx (nestedCheck ctx c) c parameter with ⟨middle, fault | first⟩
    · rfl
    · rw [hs] at hdepth
      have hmiddle : nestedCheck ctx middle = nestedCheck ctx c := by
        rw [nestedCheck, room, hdepth]
        rfl
      rw [Step.andThen_ok, Step.andThen_ok, ih (by rwa [hdepth]), hmiddle]

/-- A check is what it comes to when the checks that it nests are checks. -/
theorem checkWith_rechecks (id : RegistrationId) : checkWith ctx nested c id = c.check ctx id := by
  rw [check, checkWithin_eq, checkWith_eq_andThen, checkWith_eq_andThen]
  simp only [resolveParameters_rechecks h]
  rfl

end Nested

theorem check_eq_checkWith (c : Container) (ctx : Context) (id : RegistrationId) :
    c.check ctx id = checkWith ctx (some (recheck ctx)) c id :=
  (checkWith_rechecks (rechecks_recheck ctx _) id).symm

/-- Unrolled once more than the limit leaves room, the recursion does not come to what is put in
place of the checks at its end. -/
theorem iterate_checkWith (last : Check) {count : Nat} (hcount : c.room ctx < count)
    (id : RegistrationId) :
    (fun check => checkWith ctx (some check))^[count] last c id = c.check ctx id := by
  induction count generalizing c id with
  | zero => exact absurd hcount (Nat.not_lt_zero _)
  | succ count ih =>
    rw [Function.iterate_succ_apply']
    refine checkWith_rechecks (fun hdepth => ⟨_, rfl, fun entered id hentered => ih ?_ id⟩) id
    unfold room at hcount ⊢
    omega

end Wiring.Container
