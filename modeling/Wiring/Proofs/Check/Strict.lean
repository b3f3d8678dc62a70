import Wiring.Proofs.Check.Key
import Wiring.Strict

/-!
The strict engine beside the engine. In a coherent container every number that a step looks up is
that of a registration, and what a step makes of the container is coherent again; so no strict step
comes to nothing, and each does what the step of the engine does.
-/

namespace Wiring

theorem mapM_eq_some_map {α β : Type} {f : α → Option β} {g : α → β} {xs : List α}
    (h : ∀ x ∈ xs, f x = some (g x)) : xs.mapM f = some (xs.map g) := by
  induction xs with
  | nil => rfl
  | cons x xs ih =>
    obtain ⟨hx, hrest⟩ := List.forall_mem_cons.1 h
    rw [List.mapM_cons, hx, ih hrest]
    rfl

/-- The steps of a fold succeed as long as `P` holds, which they keep. -/
theorem foldlM_eq_some_foldl {α β : Type} {P : β → Prop} {f : β → α → Option β} {g : β → α → β}
    (hstep : ∀ b x, P b → f b x = some (g b x) ∧ P (g b x)) (xs : List α) {b : β} (hb : P b) :
    xs.foldlM f b = some (xs.foldl g b) ∧ P (xs.foldl g b) := by
  induction xs generalizing b with
  | nil => exact ⟨rfl, hb⟩
  | cons x xs ih =>
    obtain ⟨hx, hnext⟩ := hstep b x hb
    rw [List.foldlM_cons, hx]
    exact ih hnext

namespace Strict

open Container (Coherent)

variable {ctx : Context} {c : Container}

theorem needing_eq {α : Type} {ids : List RegistrationId} (h : ∀ id ∈ ids, id < c.size)
    (result : α) : needing c ids result = some result := if_pos h

theorem needing_singleton {α : Type} {id : RegistrationId} (h : id < c.size) (result : α) :
    needing c [id] result = some result :=
  needing_eq (fun _ hmem => by rwa [List.mem_singleton.1 hmem]) result

theorem servicesFor_eq (hc : c.Coherent ctx) (type : TypeExpr) :
    servicesFor c type = some ((c.servicesFor type).filterMap c.registration?) := by
  unfold servicesFor
  generalize hids : c.servicesFor type = ids
  have hlt (id : RegistrationId) (hid : id ∈ ids) : id < c.size := by
    rw [← hids] at hid
    exact hc.listed.lt hid
  clear hids
  induction ids with
  | nil => rfl
  | cons id ids ih =>
    obtain ⟨hid, hrest⟩ := List.forall_mem_cons.1 hlt
    obtain ⟨r, hr⟩ := Container.registration?_isSome hid
    rw [List.mapM_cons, ih hrest, List.filterMap_cons, hr]
    rfl

theorem add_eq (hc : c.Coherent ctx) (service : Service) :
    add c ctx service = some (c.add ctx service) :=
  needing_eq (fun _ => hc.listed.lt) _

theorem addAll_eq (hc : c.Coherent ctx) (services : List Service) :
    addAll c ctx services = some (c.addAll ctx services) :=
  (foldlM_eq_some_foldl (P := Coherent ctx)
    (fun _ service hb => ⟨add_eq hb service, hb.add service⟩) services hc).1

theorem underKey_servicesFor_eq (hc : c.Coherent ctx) (key : Option String) (type : TypeExpr) :
    underKey c key (c.servicesFor type) = some (c.underKey key (c.servicesFor type)) :=
  needing_eq (fun _ => hc.listed.lt) _

theorem follow_eq (hc : c.Coherent ctx) {id : RegistrationId} (hid : id < c.size) :
    follow c ctx id = some (c.follow ctx id) := by
  obtain ⟨r, hr⟩ := Container.registration?_isSome hid
  unfold follow familyOf? Container.follow
  rw [needing_singleton hid]
  cases c.familyOf? ctx id with
  | some family => rfl
  | none =>
    simp only [Option.bind_eq_bind, Option.bind_some, hr]
    cases r.implementation with
    | none => rfl
    | some implementation =>
      dsimp only
      split
      · rfl
      · rw [underKey_servicesFor_eq hc, Option.bind_some]
        cases c.underKey r.key (c.servicesFor implementation) with
        | nil => rfl
        | cons concrete others => cases others <;> rfl

theorem selectAmong_eq (hc : c.Coherent ctx) (key : Option String) (requireNonEmpty : Bool)
    {ids : List RegistrationId} (hids : ∀ id ∈ ids, id < c.size) :
    selectAmong c ctx key requireNonEmpty ids =
      some (c.selectAmong ctx key requireNonEmpty ids) := by
  unfold selectAmong Container.selectAmong underKey
  rw [needing_eq hids, Option.bind_eq_bind, Option.bind_some]
  match hunder : c.underKey key ids with
  | [] => rfl
  | [id] =>
    have hmem : id ∈ c.underKey key ids := by simp [hunder]
    have hid := hids id (Container.mem_underKey.1 hmem).1
    dsimp only
    rw [follow_eq hc hid, Option.bind_eq_bind, Option.bind_some, isEmptyCollection,
      needing_singleton (hc.follow_lt hid)]
    rfl
  | first :: second :: rest => rfl

theorem members_eq (hc : c.Coherent ctx) (element : TypeExpr) :
    members c ctx element = some (c.members ctx element) := by
  unfold members Container.members
  rw [needing_eq fun _ => hc.listed.lt, Option.bind_eq_bind, Option.bind_some]
  exact mapM_eq_some_map fun id hid => follow_eq hc (hc.listed.lt (List.mem_filter.1 hid).1)

theorem addFamily_eq (hc : c.Coherent ctx) (element : TypeExpr) (ids : List RegistrationId) :
    addFamily c ctx element ids = some (c.addFamily ctx element ids) := by
  unfold addFamily
  dsimp only
  rw [addAll_eq hc]
  rfl

theorem selectCollection_eq (hc : c.Coherent ctx) (element : TypeExpr) (requireNonEmpty : Bool) :
    selectCollection c ctx element requireNonEmpty =
      some (c.selectCollection ctx element requireNonEmpty) := by
  unfold selectCollection Container.selectCollection
  cases hfamily : c.families.get? element with
  | some family =>
    dsimp only
    rw [isEmptyCollection, needing_singleton (hc.enumerable_lt hfamily)]
    rfl
  | none =>
    dsimp only
    rw [members_eq hc, Option.bind_eq_bind, Option.bind_some, addFamily_eq hc]
    split <;> rfl

theorem enlist_eq (hc : c.Coherent ctx) (element : TypeExpr) (id : RegistrationId) :
    enlist c element id = some (c.enlist element id) := by
  unfold enlist
  cases hfamily : c.families.get? element with
  | some family => exact needing_singleton (hc.enumerable_lt hfamily) _
  | none => simp [Container.enlist, hfamily]

theorem addBase_eq (hc : c.Coherent ctx) (template : Service) (closed : TypeExpr)
    (id : RegistrationId) (base : TypeExpr) :
    addBase ctx template closed id c base =
      some (Container.addBase ctx template closed id c base) := by
  unfold addBase
  rw [add_eq hc]
  exact enlist_eq (hc.add _) base id

theorem addSpecialization_eq (hc : c.Coherent ctx) (template : Service) :
    addSpecialization c ctx template = some (c.addSpecialization ctx template) := by
  let closed := template.type
  have hstep (b : Container) (base : TypeExpr) (hb : b.Coherent ctx) :
      addBase ctx template closed c.size b base =
          some (Container.addBase ctx template closed c.size b base) ∧
        (Container.addBase ctx template closed c.size b base).Coherent ctx :=
    ⟨addBase_eq hb template closed c.size base, (hb.add _).enlist base c.size⟩
  obtain ⟨hbases, hserved⟩ := foldlM_eq_some_foldl hstep (Container.servedBases ctx closed)
    ((hc.add template).note (.specialized c.size))
  unfold addSpecialization
  rw [add_eq hc, Option.bind_eq_bind, Option.bind_some, hbases, Option.bind_some]
  exact enlist_eq hserved closed c.size

/-- The strict check that a check with this allowance nests. -/
def inner (ctx : Context) : Nat → Option Check
  | 0 => none
  | levels + 1 => some (checkWithin ctx levels)

theorem checkWithin_eq (ctx : Context) (levels : Nat) :
    checkWithin ctx levels = checkWith ctx (inner ctx levels) := by
  cases levels <;> rfl

section Nested

variable {levels : Nat} (ih : ∀ n < levels, ∀ (c : Container) (id : RegistrationId),
  c.Coherent ctx → id < c.size → checkWithin ctx n c id = some (Container.checkWithin ctx n c id))
include ih

theorem checkNested_eq {n : Nat} (hn : n < levels) (hc : c.Coherent ctx) {id : RegistrationId}
    (hid : id < c.size) :
    checkNested (checkWithin ctx n) c id =
      some (Container.checkNested (Container.checkWithin ctx n) c id) := by
  have hdeeper := (Container.maintained_coherent ctx).congr
    (Container.restates_depth c (c.specializationDepth + 1)) hc
  unfold checkNested
  rw [ih n hn _ id hdeeper hid]
  rfl

theorem specializeFrom_eq (hc : c.Coherent ctx) (target : TypeExpr) (source : Registration) :
    specializeFrom ctx (inner ctx levels) c target source =
      some (Container.specializeFrom ctx (Container.inner ctx levels) c target source) := by
  unfold specializeFrom Container.specializeFrom
  dsimp only
  split
  · rfl
  rw [underKey_servicesFor_eq hc, Option.bind_eq_bind, Option.bind_some]
  cases c.underKey source.key (c.servicesFor (Container.closedType target source)) with
  | cons existing others =>
    dsimp only
    split
    · rfl
    · rw [add_eq hc]
      rfl
  | nil =>
    dsimp only
    by_cases hdepth : c.specializationDepth < ctx.settings.maxSpecializationDepth
    · rw [if_pos hdepth, if_pos hdepth]
      cases levels with
      | zero => rfl
      | succ n =>
        let template := Container.closedOver target source
        have hadded := hc.addSpecialization template
        have hnew := Container.lt_of_register
          (Container.register_addSpecialization_self c ctx template)
        dsimp only [inner, Container.inner]
        rw [addSpecialization_eq hc, Option.bind_eq_bind, Option.bind_some,
          checkNested_eq ih (Nat.lt_succ_self n) hadded hnew, Option.bind_eq_bind, Option.bind_some]
        rcases Container.checkNested (Container.checkWithin ctx n)
          (c.addSpecialization ctx template) c.size with ⟨after, fault | _⟩
        · rfl
        · rfl
    · rw [if_neg hdepth, if_neg hdepth]
      rfl

theorem specialize_eq (hc : c.Coherent ctx) (target : TypeExpr) :
    specialize ctx (inner ctx levels) c target =
      some (Container.specialize ctx (Container.inner ctx levels) c target) := by
  unfold specialize Container.specialize
  cases ctx.program.genericDefinition target with
  | none => rfl
  | some definition =>
    dsimp only
    rw [underKey_servicesFor_eq hc, Option.bind_eq_bind, Option.bind_some]
    match hunder : c.underKey none (c.servicesFor definition) with
    | [] => rfl
    | [opened] =>
      have hmem : opened ∈ c.underKey none (c.servicesFor definition) := by simp [hunder]
      have hopened := hc.listed.lt (Container.mem_underKey.1 hmem).1
      obtain ⟨source, hsource⟩ := Container.registration?_isSome (hc.follow_lt hopened)
      dsimp only
      rw [follow_eq hc hopened, Option.bind_eq_bind, Option.bind_some, hsource]
      exact specializeFrom_eq ih hc target source
    | first :: second :: rest => rfl

theorem resolveTarget_eq (hc : c.Coherent ctx) (key : Option String) (target : TypeExpr)
    (requireNonEmpty : Bool) :
    resolveTarget ctx (inner ctx levels) c key target requireNonEmpty =
      some (Container.resolveTarget ctx (Container.inner ctx levels) c key target
        requireNonEmpty) := by
  have hlisted (id : RegistrationId) (hid : id ∈ c.servicesFor target) : id < c.size :=
    hc.listed.lt hid
  unfold resolveTarget Container.resolveTarget
  cases hservices : c.servicesFor target with
  | nil =>
    dsimp only
    split
    · rfl
    cases ctx.settings.collectionElement? target with
    | some element =>
      dsimp only
      rw [selectCollection_eq hc]
      rfl
    | none =>
      dsimp only
      split
      · exact specialize_eq ih hc target
      · rfl
  | cons id ids =>
    rw [hservices] at hlisted
    dsimp only
    rw [selectAmong_eq hc key requireNonEmpty hlisted]
    rfl

theorem resolveParameter_eq (hc : c.Coherent ctx) (parameter : Parameter) :
    resolveParameter ctx (inner ctx levels) c parameter =
      some (Container.resolveParameter ctx (Container.inner ctx levels) c parameter) := by
  unfold resolveParameter Container.resolveParameter
  dsimp only
  rw [resolveTarget_eq ih hc, Option.bind_eq_bind, Option.bind_some]
  rcases Container.resolveTarget ctx (Container.inner ctx levels) c parameter.key
    (Container.targetOf ctx (ctx.settings.unwrapNullable parameter.type).1)
    parameter.requiresNonEmpty with ⟨after, fault | outcome⟩
  · rfl
  · rfl

theorem resolveParameters_eq (hc : c.Coherent ctx) (parameters : List Parameter) :
    resolveParameters ctx (inner ctx levels) c parameters =
      some (Container.resolveParameters ctx (Container.inner ctx levels) c parameters) := by
  induction parameters generalizing c with
  | nil => rfl
  | cons parameter rest ihrest =>
    unfold resolveParameters Container.resolveParameters
    rw [resolveParameter_eq ih hc, Option.bind_eq_bind, Option.bind_some]
    have hkept := Container.kept_coherent ctx
    have hafter : Coherent ctx
        (Container.resolveParameter ctx (Container.inner ctx levels) c parameter).1 :=
      hkept.resolveParameter (fun n _ => hkept.checkWithin n) c parameter hc
    rcases hs : Container.resolveParameter ctx (Container.inner ctx levels) c parameter with
      ⟨after, fault | first⟩
    · rfl
    · rw [hs] at hafter
      dsimp only
      rw [ihrest hafter, Option.bind_eq_bind, Option.bind_some]
      rcases Container.resolveParameters ctx (Container.inner ctx levels) after rest with
        ⟨last, fault | others⟩
      · rfl
      · rfl

end Nested

/-- The candidates of what is ambiguous are there to be described. -/
theorem conclude_eq (id : RegistrationId) {resolution : Resolution}
    (hcandidates : ∀ p ∈ resolution.parameters, ∀ id ∈ p.outcome.candidates, id < c.size) :
    conclude ctx c id resolution = some (Container.conclude ctx c id resolution) := by
  refine needing_eq (fun candidate hcandidate => ?_) _
  obtain ⟨p, hp, hcandidate⟩ := List.mem_flatMap.1 hcandidate
  exact hcandidates p (List.mem_filter.1 hp).1 candidate hcandidate

/-- No check of a registration that is there looks up one that is not, however deeply
specializations nest. -/
theorem checkWithin_eq_some (levels : Nat) (hc : c.Coherent ctx) {id : RegistrationId}
    (hid : id < c.size) :
    checkWithin ctx levels c id = some (Container.checkWithin ctx levels c id) := by
  induction levels using Nat.strongRecOn generalizing c id with
  | _ levels ih =>
    obtain ⟨r, hr⟩ := Container.registration?_isSome hid
    rw [checkWithin_eq, Container.checkWithin_eq]
    unfold checkWith Container.checkWith
    rw [hr, Option.bind_eq_bind, Option.bind_some]
    dsimp only
    split
    · rfl
    cases hconstruction : Container.selectConstruction ctx r.resolvedType r.member with
    | error fault => rfl
    | ok construction? =>
      cases construction? with
      | none => rfl
      | some construction =>
        dsimp only
        rw [resolveParameters_eq (fun n hn c id hc hid => ih n hn hc hid) hc,
          Option.bind_eq_bind, Option.bind_some]
        rcases hs : Container.resolveParameters ctx (Container.inner ctx levels) c
          construction.parameters with ⟨after, fault | parameters⟩
        · rfl
        · refine conclude_eq id fun p hp candidate hcandidate => ?_
          have hunder := (Container.justifies_isUnder ctx).resolveParameters hc hs p hp
          exact Container.lt_of_keyOf? (hunder.2 candidate hcandidate)

theorem check_eq (hc : c.Coherent ctx) {id : RegistrationId} (hid : id < c.size) :
    check c ctx id = some (c.check ctx id) := checkWithin_eq_some _ hc hid

end Strict
end Wiring
