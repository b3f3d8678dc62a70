import Wiring.Findings
import Wiring.Proofs.Check.Keyed
import Wiring.Proofs.Check.Unresolved
import Wiring.Proofs.Check.Scan

/-!
What is found for a parameter. A record with a field for each finding tells as much as an outcome,
which is one thing or another by its form: the engine never sets two of them, and never none. And
the fallback is asked of a parameter exactly where the search found nothing declared.
-/

namespace Wiring

/-- The record with what the outcome says. -/
def Findings.put (found : Findings) : Outcome → Findings
  | .selected id => { found with selected := some id }
  | .undeclared => { found with noDeclaration := true }
  | .ambiguous ids => { found with several := true, candidates := ids }
  | .fallback => { found with byFallback := true }

/-- The step with its outcome on the record. -/
def Step.recorded (s : Step Outcome) (found : Findings) : Step Findings := (s.1, s.2.map found.put)

namespace Container

open Forecast (requested)

variable {ctx : Context} {b c m : Container} {key : Option String} {target : TypeExpr}
  {outcome : Outcome}

theorem findings_selectAmong (requireNonEmpty : Bool) (ids : List RegistrationId)
    (found : Findings) : Findings.selectAmong c ctx key requireNonEmpty ids found =
      found.put (c.selectAmong ctx key requireNonEmpty ids) := by
  unfold Findings.selectAmong selectAmong
  rcases c.underKey key ids with _ | ⟨id, _ | ⟨next, rest⟩⟩
  · rfl
  · dsimp only
    split <;> rfl
  · rfl

theorem findings_selectCollection (element : TypeExpr) (requireNonEmpty : Bool)
    (found : Findings) : Findings.selectCollection c ctx element requireNonEmpty found =
      ((c.selectCollection ctx element requireNonEmpty).1,
        found.put (c.selectCollection ctx element requireNonEmpty).2) := by
  unfold Findings.selectCollection selectCollection
  rcases c.families.get? element with _ | family
  · dsimp only
    split <;> rfl
  · dsimp only
    split <;> rfl

theorem findings_specializeFrom (check : Option Check) (source : Registration)
    (found : Findings) : Findings.specializeFrom ctx check c target source found =
      (specializeFrom ctx check c target source).recorded found := by
  unfold Findings.specializeFrom specializeFrom
  dsimp only
  split
  · rfl
  rcases c.underKey source.key (c.servicesFor (closedType target source)) with _ | ⟨existing, _⟩
  · dsimp only
    rcases (if c.specializationDepth < ctx.settings.maxSpecializationDepth then check else none)
      with _ | nested
    · rfl
    · dsimp only
      rcases checkNested nested (c.addSpecialization ctx (closedOver target source)) c.size with
        ⟨after, fault | _⟩
      · rfl
      · rfl
  · dsimp only
    split <;> rfl

theorem findings_specialize (check : Option Check) (found : Findings) :
    Findings.specialize ctx check c target found =
      (specialize ctx check c target).recorded found := by
  unfold Findings.specialize specialize
  rcases ctx.program.genericDefinition target with _ | definition
  · rfl
  dsimp only
  rcases c.underKey none (c.servicesFor definition) with _ | ⟨opened, _ | ⟨next, rest⟩⟩
  · rfl
  · dsimp only
    rcases c.registration? (c.follow ctx opened) with _ | source
    · rfl
    · exact findings_specializeFrom check source found
  · rfl

theorem findings_resolveTarget (check : Option Check) (requireNonEmpty : Bool)
    (found : Findings) : Findings.resolveTarget ctx check c key target requireNonEmpty found =
      (resolveTarget ctx check c key target requireNonEmpty).recorded found := by
  unfold Findings.resolveTarget resolveTarget
  rcases c.servicesFor target with _ | ⟨first, rest⟩
  · dsimp only
    split
    · rfl
    rcases ctx.settings.collectionElement? target with _ | element
    · dsimp only
      split
      · exact findings_specialize check found
      · rfl
    · dsimp only
      rw [findings_selectCollection]
      rfl
  · dsimp only
    rw [findings_selectAmong]
    rfl

theorem findings_askFallback (outcome : Outcome) :
    Findings.askFallback ctx c key target (Findings.put {} outcome) =
      ((askFallback ctx c key target outcome).1,
        Findings.put {} (askFallback ctx c key target outcome).2) := by
  unfold Findings.askFallback askFallback
  cases outcome with
  | undeclared =>
    cases ctx.fallback with
    | none => rfl
    | some canProvide => cases h : canProvide key target <;> simp [Findings.put, h]
  | selected id => rfl
  | ambiguous ids => rfl
  | fallback => rfl

/-- The record of a parameter is that of its outcome. -/
theorem findings_resolveParameter (check : Option Check) (parameter : Parameter) :
    Findings.resolveParameter ctx check c parameter =
      ((resolveParameter ctx check c parameter).1,
        (resolveParameter ctx check c parameter).2.map fun p => Findings.put {} p.outcome) := by
  unfold Findings.resolveParameter resolveParameter
  dsimp only
  rw [findings_resolveTarget]
  rcases resolveTarget ctx check c parameter.key _ parameter.requiresNonEmpty with
    ⟨m, fault | outcome⟩
  · rfl
  · simp only [Step.recorded, Except.map, findings_askFallback]

/-! How a search comes out, and what it asks. -/

/-- What the fallback was asked, and what it answered, oldest first. -/
def questions (c : Container) : List (Option String × TypeExpr × Bool) :=
  c.journal.filterMap Event.fallbackAnswer?

/-- The search for `target` under `key` leaves the second container and comes to the outcome. -/
inductive Finds (ctx : Context) (check : Option Check) (c : Container) (key : Option String)
    (target : TypeExpr) : Container → Outcome → Prop
  | undeclared {m : Container} : m.questions = c.questions →
      Finds ctx check c key target m .undeclared
  | selected {m : Container} {id : RegistrationId} : m.questions = c.questions →
      Finds ctx check c key target m (.selected id)
  | specialized {nested : Check} {source : Registration} {after : Container} :
      check = some nested → nested (c.entered ctx target source) c.size = (after, .ok ()) →
      Finds ctx check c key target after.left (.selected c.size)
  | ambiguous {type : TypeExpr} : (c.servicesFor target ≠ [] → type = target) →
      (c.servicesFor target = [] → ctx.program.genericDefinition target = some type) →
      2 ≤ (c.underKey key (c.servicesFor type)).length →
      Finds ctx check c key target c (.ambiguous (c.underKey key (c.servicesFor type)))

theorem finds_selectAmong {check : Option Check} (hsome : c.servicesFor target ≠ [])
    (requireNonEmpty : Bool) : Finds ctx check c key target c
      (c.selectAmong ctx key requireNonEmpty (c.servicesFor target)) := by
  unfold selectAmong
  split
  · exact .undeclared rfl
  · dsimp only
    split
    · exact .undeclared rfl
    · exact .selected rfl
  · next hnone hone =>
    refine .ambiguous (fun _ => rfl) (fun hnil => absurd hnil hsome) ?_
    rcases hids : c.underKey key (c.servicesFor target) with _ | ⟨first, _ | ⟨second, rest⟩⟩
    · exact absurd hids hnone
    · exact absurd hids (hone first)
    · simp

theorem finds_selectCollection {check : Option Check} (element : TypeExpr)
    (requireNonEmpty : Bool) : Finds ctx check c key target
      (c.selectCollection ctx element requireNonEmpty).1
      (c.selectCollection ctx element requireNonEmpty).2 := by
  unfold selectCollection
  split
  · split
    · exact .undeclared rfl
    · exact .selected rfl
  · dsimp only
    split
    · exact .undeclared rfl
    · exact .selected rfl

theorem finds_specializeFrom {check : Option Check} {source : Registration}
    (h : specializeFrom ctx check c target source = (m, .ok outcome)) :
    Finds ctx check c key target m outcome := by
  unfold specializeFrom at h
  dsimp only at h
  split at h
  · cases h
    refine .undeclared ?_
    simp [questions, note, Event.fallbackAnswer?]
  split at h
  · split at h
    · cases h
      exact .selected rfl
    · cases h
      exact .selected rfl
  split at h
  · cases h
  next nested hnested =>
  rw [checkNested_entered] at h
  rcases hs : nested (c.entered ctx target source) c.size with ⟨after, fault | _⟩
  · rw [hs] at h
    cases h
  · rw [hs] at h
    cases h
    refine .specialized ?_ hs
    split at hnested
    · exact hnested
    · cases hnested

theorem finds_specialize {check : Option Check} (hnone : c.servicesFor target = [])
    (h : specialize ctx check c target = (m, .ok outcome)) :
    Finds ctx check c none target m outcome := by
  unfold specialize at h
  split at h
  · cases h
    exact .undeclared rfl
  next definition hdefinition =>
  split at h
  · cases h
    exact .undeclared rfl
  · dsimp only at h
    split at h
    · exact finds_specializeFrom h
    · cases h
  · next hnil hone =>
    cases h
    refine .ambiguous (fun hsome => absurd hnone hsome) (fun _ => hdefinition) ?_
    rcases hids : c.underKey none (c.servicesFor definition) with _ | ⟨first, _ | ⟨second, rest⟩⟩
    · exact absurd hids hnil
    · exact absurd hids (hone first)
    · simp

theorem finds_resolveTarget {check : Option Check} {requireNonEmpty : Bool}
    (h : resolveTarget ctx check c key target requireNonEmpty = (m, .ok outcome)) :
    Finds ctx check c key target m outcome := by
  unfold resolveTarget at h
  split at h
  · next hnone =>
    split at h
    · cases h
      exact .undeclared rfl
    next hkey =>
    obtain rfl := Option.not_isSome_iff_eq_none.1 hkey
    split at h
    · cases h
      exact finds_selectCollection _ requireNonEmpty
    · split at h
      · exact finds_specialize hnone h
      · cases h
        exact .undeclared rfl
  · next hsome =>
    cases h
    exact finds_selectAmong hsome requireNonEmpty

/-! What may be there when a parameter is resolved. -/

/-- Parameters are resolved in the container: between checks, or in the course of one. -/
inductive Midway (ctx : Context) (m : Container) : Prop
  | between : Reachable ctx m → Midway ctx m
  | within {c start : Container} {id nested : RegistrationId} {count : Nat} {p : Parameter} :
      Reachable ctx c → c.Descends ctx id count start nested → start.Comes ctx nested m p →
      Midway ctx m

theorem Midway.invariant {P : Container → Prop} (hP : Maintained ctx P)
    (hreachable : ∀ {c}, Reachable ctx c → P c) (hm : m.Midway ctx) : P m := by
  cases hm with
  | between hm => exact hreachable hm
  | within hc hdescends hcomes =>
    exact hcomes.kept hP.kept (hdescends.invariant hP.kept hP.entered (hreachable hc))

theorem Midway.arranged (hc : c.Midway ctx) : c.Arranged ctx :=
  hc.invariant (maintained_arranged ctx) Reachable.arranged

theorem Midway.numbered (hc : c.Midway ctx) : c.Numbered :=
  hc.invariant (maintained_numbered ctx) Reachable.numbered

/-- What is found under a key in the table of a type is what a scan finds under it. -/
theorem Numbered.underKey_eq_scan (h : c.Numbered) (harranged : c.Arranged ctx)
    (key : Option String) (type : TypeExpr) : c.underKey key (c.servicesFor type) =
      (c.registrations.filter fun r => r.type.same type && r.key == key).map (·.id) := by
  rw [h.servicesFor_eq_scan harranged.coherent.listed harranged.ordered, underKey, List.filter_map,
    List.filter_filter]
  apply congrArg
  refine List.filter_congr fun r hr => ?_
  rw [Function.comp_apply, h.registration?_id hr, Bool.and_comm]

theorem Numbered.servicesFor_eq_nil_iff (h : c.Numbered) (harranged : c.Arranged ctx)
    (type : TypeExpr) : c.servicesFor type = [] ↔ ∀ r ∈ c.registrations, ¬ r.type.same type := by
  rw [h.servicesFor_eq_scan harranged.coherent.listed harranged.ordered, List.map_eq_nil_iff,
    List.filter_eq_nil_iff]

/-- All registrations under the key, in the order in which they were added: of the type that is
asked for, or of its definition where the type has none under any key. -/
def AllDeclared (ctx : Context) (c : Container) (key : Option String) (target : TypeExpr)
    (ids : List RegistrationId) : Prop :=
  ∃ type, ((∃ r ∈ c.registrations, r.type.same target) → type = target) ∧
    ((∀ r ∈ c.registrations, ¬ r.type.same target) →
      ctx.program.genericDefinition target = some type) ∧
    ids = (c.registrations.filter fun r => r.type.same type && r.key == key).map (·.id)

theorem Finds.allDeclared {check : Option Check} {ids : List RegistrationId}
    (hc : c.Midway ctx) (h : Finds ctx check c key target m (.ambiguous ids)) :
    m = c ∧ 2 ≤ ids.length ∧ c.AllDeclared ctx key target ids := by
  cases h with
  | @ambiguous type hsome hnone hlength =>
    refine ⟨rfl, hlength, type, ?_, ?_, hc.numbered.underKey_eq_scan hc.arranged key type⟩
    · rintro ⟨r, hr, hsame⟩
      refine hsome fun hnil => ?_
      exact (hc.numbered.servicesFor_eq_nil_iff hc.arranged target).1 hnil r hr hsame
    · intro hall
      exact hnone ((hc.numbered.servicesFor_eq_nil_iff hc.arranged target).2 hall)

theorem resolveTarget_of_resolveParameter {check : Option Check} {parameter : Parameter}
    {p : ParameterResolution} (h : resolveParameter ctx check c parameter = (b, .ok p)) :
    ∃ m outcome, resolveTarget ctx check c parameter.key (requested ctx parameter)
        parameter.requiresNonEmpty = (m, .ok outcome) ∧
      askFallback ctx m parameter.key (requested ctx parameter) outcome = (b, p.outcome) := by
  rw [resolveParameter_eq_andThen] at h
  dsimp only at h
  rw [requested]
  rcases hs : resolveTarget ctx check c parameter.key
    (targetOf ctx (ctx.settings.unwrapNullable parameter.type).1) parameter.requiresNonEmpty with
    ⟨m, fault | outcome⟩
  · rw [hs] at h
    cases h
  · rw [hs, Step.andThen_ok] at h
    cases h
    exact ⟨m, outcome, rfl, rfl⟩

theorem questions_askFallback (ctx : Context) (c : Container) (key : Option String)
    (target : TypeExpr) : (askFallback ctx c key target .undeclared).1.questions =
      c.questions ++ (ctx.fallback.map fun canProvide =>
        (key, target, canProvide key target)).toList := by
  unfold askFallback questions
  cases ctx.fallback with
  | none => exact (List.append_nil _).symm
  | some canProvide => exact List.filterMap_append ..

theorem askFallback_undeclared (ctx : Context) (c : Container) (key : Option String)
    (target : TypeExpr) : (askFallback ctx c key target .undeclared).2 = .undeclared ∨
      (askFallback ctx c key target .undeclared).2 = .fallback := by
  rw [askFallback_snd]
  split
  · exact Or.inr rfl
  · exact Or.inl rfl

theorem Findings.flags_put (outcome : Outcome) :
    (Findings.put {} outcome).flags.count true = 1 := by
  cases outcome <;> rfl

/-- What the engine records of a parameter is one thing only: a registration, that none is declared,
that the fallback supplies it, or that several are declared. These are then all there are under the
key. The fallback is asked, once, exactly where the search found nothing declared; that search asked
it nothing, and no search does but through the check of what it specializes. -/
theorem one_finding (hc : c.Midway ctx) {check : Option Check} {parameter : Parameter}
    {p : ParameterResolution} (h : resolveParameter ctx check c parameter = (b, .ok p)) :
    ∃ m found record,
      Findings.resolveTarget ctx check c parameter.key (requested ctx parameter)
        parameter.requiresNonEmpty {} = (m, .ok found) ∧
      Findings.resolveParameter ctx check c parameter = (b, .ok record) ∧
      record = Findings.put {} p.outcome ∧
      record.flags.count true = 1 ∧ (record.several ↔ record.candidates ≠ []) ∧
      (record.several → b = c ∧ 2 ≤ record.candidates.length ∧
        c.AllDeclared ctx parameter.key (requested ctx parameter) record.candidates) ∧
      (found.noDeclaration → m.questions = c.questions ∧
        b.questions = c.questions ++ (ctx.fallback.map fun canProvide => (parameter.key,
          requested ctx parameter, canProvide parameter.key (requested ctx parameter))).toList) ∧
      (found.noDeclaration = false → b = m ∧ record = found ∧
        (b.questions = c.questions ∨ ∃ nested source after, check = some nested ∧
          nested (c.entered ctx (requested ctx parameter) source) c.size = (after, .ok ()) ∧
          b = after.left ∧ record.selected = some c.size)) := by
  obtain ⟨m, outcome, htarget, hasked⟩ := resolveTarget_of_resolveParameter h
  refine ⟨m, Findings.put {} outcome, Findings.put {} p.outcome, ?_, ?_, rfl,
    Findings.flags_put p.outcome, ?_⟩
  · rw [findings_resolveTarget, htarget]
    rfl
  · rw [findings_resolveParameter, h]
    rfl
  have hfinds := finds_resolveTarget htarget
  generalize p.outcome = final at hasked ⊢
  cases hfinds with
  | undeclared hsearch =>
    have hquestions := questions_askFallback ctx m parameter.key (requested ctx parameter)
    have hfinal := askFallback_undeclared ctx m parameter.key (requested ctx parameter)
    rw [hasked] at hquestions hfinal
    rw [hsearch] at hquestions
    obtain rfl | rfl := hfinal
    all_goals exact ⟨by simp [Findings.put], fun hseveral => (by cases hseveral),
      fun _ => ⟨hsearch, hquestions⟩, fun hnot => (by cases hnot)⟩
  | selected hsearch =>
    cases hasked
    exact ⟨by simp [Findings.put], fun hseveral => (by cases hseveral),
      fun hnone => (by cases hnone), fun _ => ⟨rfl, rfl, Or.inl hsearch⟩⟩
  | specialized hcheck hnested =>
    cases hasked
    exact ⟨by simp [Findings.put], fun hseveral => (by cases hseveral),
      fun hnone => (by cases hnone),
      fun _ => ⟨rfl, rfl, Or.inr ⟨_, _, _, hcheck, hnested, rfl, rfl⟩⟩⟩
  | ambiguous _ _ hlength =>
    obtain ⟨-, -, hall⟩ := (finds_resolveTarget htarget).allDeclared hc
    cases hasked
    have hids := List.ne_nil_of_length_pos (Nat.lt_of_lt_of_le Nat.two_pos hlength)
    exact ⟨⟨fun _ => hids, fun _ => rfl⟩, fun _ => ⟨rfl, hlength, hall⟩,
      fun hnone => (by cases hnone), fun _ => ⟨rfl, rfl, Or.inl rfl⟩⟩

namespace Depots

def user : TypeExpr := ⟨.classType, "app::User", [], false⟩
def entity : TypeExpr := ⟨.parameter, "T", [], false⟩

def store (stored : TypeExpr) : TypeExpr := ⟨.classType, "app::Store", [stored], false⟩

def users : Parameter := ⟨"users", store user, [], none⟩

def catalog : Catalog := .ofDefinitions [.built (store entity) []]

/-- The running program supplies whatever is asked of it. -/
def context : Context := { program := catalog.program, fallback := some fun _ _ => true }

/-- Three open stores, one of them under a key. -/
def registered : Container := empty.addAll context [
  { type := store entity, lifetime := .singleton },
  { type := store entity, lifetime := .singleton, key := some "archive" },
  { type := store entity, lifetime := .scoped }]

def resolution : ParameterResolution := ⟨users, store user, false, false, .ambiguous [0, 2]⟩

end Depots

/-- There is no store of users, but two open ones without a key: a request is ambiguous, and the
program that could supply one is not asked. -/
theorem depots_ambiguous :
    resolveParameter Depots.context (inner Depots.context 16) Depots.registered Depots.users =
        (Depots.registered, .ok Depots.resolution) ∧
      Depots.registered.AllDeclared Depots.context none (requested Depots.context Depots.users)
        [0, 2] ∧
      Depots.registered.questions = [] := by
  have hresolved : resolveParameter Depots.context (inner Depots.context 16) Depots.registered
      Depots.users = (Depots.registered, .ok Depots.resolution) := by decide +kernel
  have hmidway : Depots.registered.Midway Depots.context := .between (Evolves.refl.addAll _)
  obtain ⟨_, _, _, -, -, rfl, -, -, hseveral, -, -⟩ := one_finding hmidway hresolved
  obtain ⟨-, -, hall⟩ := hseveral rfl
  exact ⟨hresolved, hall, by decide +kernel⟩

end Container
end Wiring
