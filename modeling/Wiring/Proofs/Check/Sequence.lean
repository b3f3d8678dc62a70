import Wiring.Assembly

/-!
Checks as sequences of steps. A step that fails ends the sequence, and what comes after a step
starts from the container that the step left. What compares two runs of a check says once how it
passes from one step to the next, and then follows the sequence.
-/

namespace Wiring

/-- Goes on with what the step came to, unless it failed. -/
def Step.andThen {α β : Type} (s : Step α) (next : Container → α → Step β) : Step β :=
  match s with
  | (c, .error fault) => (c, .error fault)
  | (c, .ok x) => next c x

@[simp] theorem Step.andThen_error {α β : Type} (c : Container) (fault : Fault)
    (next : Container → α → Step β) : Step.andThen (c, .error fault) next = (c, .error fault) := rfl

@[simp] theorem Step.andThen_ok {α β : Type} (c : Container) (x : α)
    (next : Container → α → Step β) : Step.andThen (c, .ok x) next = next c x := rfl

theorem Step.andThen_fst {α β : Type} (s : Step α) (f : α → β) :
    (s.andThen fun c x => (c, .ok (f x))).1 = s.1 := by
  obtain ⟨_, _ | _⟩ := s <;> rfl

namespace Container

/-- The fallback is asked about what was found for the target. -/
theorem resolveParameter_eq_andThen (ctx : Context) (check : Option Check) (c : Container)
    (parameter : Parameter) :
    resolveParameter ctx check c parameter =
      let (type, nullable) := ctx.settings.unwrapNullable parameter.type
      let target := targetOf ctx type
      (resolveTarget ctx check c parameter.key target parameter.requiresNonEmpty).andThen
        fun c outcome =>
          let (c, outcome) := askFallback ctx c parameter.key target outcome
          (c, .ok ⟨parameter, type, nullable, (ctx.settings.deferredInner? type).isSome,
            outcome⟩) := by
  unfold resolveParameter
  dsimp only
  generalize resolveTarget ctx check c parameter.key _ _ = s
  obtain ⟨_, _ | _⟩ := s <;> rfl

theorem resolveParameters_cons (ctx : Context) (check : Option Check) (c : Container)
    (parameter : Parameter) (rest : List Parameter) :
    resolveParameters ctx check c (parameter :: rest) =
      (resolveParameter ctx check c parameter).andThen fun c first =>
        (resolveParameters ctx check c rest).andThen fun c others =>
          (c, .ok (first :: others)) := by
  rw [resolveParameters]
  generalize resolveParameter ctx check c parameter = s
  obtain ⟨middle, _ | _⟩ := s
  · rfl
  · dsimp only [Step.andThen_ok]
    generalize resolveParameters ctx check middle rest = t
    obtain ⟨_, _ | _⟩ := t <;> rfl

theorem checkWith_eq_andThen (ctx : Context) (check : Option Check) (c : Container)
    (id : RegistrationId) :
    checkWith ctx check c id =
      match c.registration? id with
      | none => (c, .error (.unissuedId id))
      | some r =>
        if !r.resolvedType.isNamed then (c, .error (.notNamedType r.resolvedType))
        else
          match selectConstruction ctx r.resolvedType r.member with
          | .error fault => (c, .error fault)
          | .ok none => (c, .ok ())
          | .ok (some construction) =>
            (resolveParameters ctx check c construction.parameters).andThen fun c parameters =>
              conclude ctx c id ⟨r.resolvedType, r.lifetime, construction, parameters⟩ := by
  unfold checkWith
  cases c.registration? id with
  | none => rfl
  | some r =>
    dsimp only
    cases selectConstruction ctx r.resolvedType r.member with
    | error _ => rfl
    | ok found =>
      cases found with
      | none => rfl
      | some construction =>
        dsimp only
        generalize resolveParameters ctx check c construction.parameters = s
        obtain ⟨_, _ | _⟩ := s <;> rfl

theorem checkEach_cons_of_closed {c : Container} {id : RegistrationId} (hclosed : c.isClosed id)
    (ctx : Context) (rest : List RegistrationId) :
    checkEach ctx c (id :: rest) = (c.check ctx id).andThen fun c _ => checkEach ctx c rest := by
  rw [checkEach, if_pos hclosed]
  generalize c.check ctx id = s
  obtain ⟨_, _ | _⟩ := s <;> rfl

end Container
end Wiring
