import Wiring.Proofs.Assembly.Issued
import Wiring.Proofs.Check.Strict

/-!
Nothing dangles. Where only issued numbers are collected and checked, every number that the
container holds, in a table, a family, a collection or a resolution, is that of a registration, and
no step looks up another. A run is of this kind for every provider.
-/

namespace Wiring

namespace Container

variable {ctx : Context} {a b c : Container}

/-- The tables of the types list registrations. -/
def ListsIssued (c : Container) : Prop := ∀ entry ∈ c.byType, ∀ id ∈ entry.2, id < c.size

namespace ListsIssued

theorem of_eq (h : a.ListsIssued) (hsize : b.size = a.size) (hbyType : b.byType = a.byType) :
    b.ListsIssued := by
  intro entry hentry id hid
  rw [hbyType] at hentry
  rw [hsize]
  exact h entry hentry id hid

theorem add (h : c.ListsIssued) (service : Service) : (c.add ctx service).ListsIssued := by
  intro entry hentry id hid
  rw [size_add]
  rcases TypeMap.mem_alter hentry with hold | hchanged
  · exact Nat.lt_succ_of_lt (h entry hold id hid)
  rw [hchanged, List.mem_append, List.mem_singleton] at hid
  rcases hid with hlisted | rfl
  · cases hids : c.byType.get? service.type with
    | none =>
      rw [hids] at hlisted
      cases hlisted
    | some ids =>
      obtain ⟨old, hold, -, rfl⟩ := TypeMap.get?_eq_some hids
      rw [hids] at hlisted
      exact Nat.lt_succ_of_lt (h old hold id hlisted)
  · exact Nat.lt_succ_self _

theorem enlist (h : c.ListsIssued) (element : TypeExpr) (member : RegistrationId) :
    (c.enlist element member).ListsIssued :=
  h.of_eq (size_enlist c element member) (enlist_byType c element member)

end ListsIssued

theorem maintained_listsIssued (ctx : Context) : Maintained ctx ListsIssued :=
  maintained_of_add
    (fun hregistrations hbyType h => h.of_eq (congrArg List.length hregistrations) hbyType)
    (fun service h => h.add service) fun element member h => h.enlist element member

theorem Reachable.listsIssued (hc : Reachable ctx c) : c.ListsIssued :=
  hc.invariant (fun _ hentry => absurd hentry List.not_mem_nil) (fun _ service hb => hb.add service)
    fun b id hb => (maintained_listsIssued ctx).kept.check b id hb

/-- Every number that the container holds is that of a registration. -/
structure NoDangling (c : Container) : Prop extends IdsIssued c where
  listed : c.ListsIssued
  families : ∀ entry ∈ c.families, ∀ id ∈ entry.2.ids, id < c.size
  candidates : ∀ resolution ∈ c.resolutions, ∀ p ∈ resolution.parameters,
    ∀ id ∈ p.outcome.candidates, id < c.size

theorem Grounded.collectsIssued (h : Grounded ctx c) : c.CollectsIssued := by
  induction h with
  | empty => exact fun r hr => absurd hr List.not_mem_nil
  | add _ hcollected ih => exact ih.add hcollected
  | check hgrounded _ ih =>
    exact ((maintained_collectsIssued ctx).kept.check _ _ ⟨hgrounded.reachable.coherent, ih⟩).2

theorem Grounded.noDangling (h : Grounded ctx c) : c.NoDangling := by
  have hreachable := h.reachable
  have hunder := (justifies_isUnder ctx).reachable hreachable
  refine ⟨⟨?_, h.collectsIssued⟩, hreachable.listsIssued, ?_, ?_⟩
  · intro resolution hresolution p hp id hid
    exact lt_of_keyOf? ((hunder resolution hresolution p hp).1 id hid)
  · intro entry hentry id hid
    exact (hreachable.arranged.families.shapes entry hentry).lt_of_mem hid
  · intro resolution hresolution p hp id hid
    exact lt_of_keyOf? ((hunder resolution hresolution p hp).2 id hid)

theorem Grounded.addAll (h : Grounded ctx c) {services : List Service}
    (hservices : ∀ service ∈ services, ∀ ids, service.collected = some ids →
      ∀ id ∈ ids, id < c.size) : Grounded ctx (c.addAll ctx services) := by
  induction services generalizing c with
  | nil => exact h
  | cons service services ih =>
    obtain ⟨hfirst, hrest⟩ := List.forall_mem_cons.1 hservices
    refine ih (h.add hfirst) fun other hother ids hids id hid => ?_
    rw [size_add]
    exact Nat.lt_succ_of_lt (hrest other hother ids hids id hid)

end Container

namespace Strict

open Container (Coherent)

variable {ctx : Context} {c : Container}

theorem validate_eq (h : c.IdsIssued) : validate c = some c.validate := by
  refine needing_eq (fun id hid => ?_) _
  have hhard {p : ParameterResolution} (hp : p ∈ c.closedResolutions.flatMap fun resolution =>
      resolution.parameters.filter (·.isHard)) :
      ∃ resolution ∈ c.resolutions, p ∈ resolution.parameters := by
    obtain ⟨resolution, hresolution, hp⟩ := List.mem_flatMap.1 hp
    exact ⟨resolution, (List.mem_filter.1 hresolution).1, (List.mem_filter.1 hp).1⟩
  rcases List.mem_append.1 hid with hselected | htarget
  · obtain ⟨p, hp, hselected⟩ := List.mem_filterMap.1 hselected
    obtain ⟨resolution, hresolution, hp⟩ := hhard hp
    exact h.selected resolution hresolution p hp id hselected
  · obtain ⟨p, hp, htarget⟩ := List.mem_flatMap.1 htarget
    obtain ⟨resolution, hresolution, hp⟩ := hhard hp
    exact h.target_lt hresolution hp htarget

theorem checkEach_eq (hc : c.Coherent ctx) {ids : List RegistrationId}
    (hids : ∀ id ∈ ids, id < c.size) :
    checkEach ctx c ids = some (Container.checkEach ctx c ids) := by
  induction ids generalizing c with
  | nil => rfl
  | cons id rest ih =>
    obtain ⟨hid, hrest⟩ := List.forall_mem_cons.1 hids
    obtain ⟨r, hr⟩ := Container.registration?_isSome hid
    have hclosed : c.isClosed id = r.isClosed := by rw [Container.isClosed, hr]
    unfold checkEach Container.checkEach
    rw [hr, hclosed, Option.bind_eq_bind, Option.bind_some]
    split
    · have hchecked := (Container.kept_coherent ctx).check c id hc
      have hgrows := ((Container.kept_extends ctx).check c id hc.collect).2
      rw [check_eq hc hid, Option.bind_eq_bind, Option.bind_some]
      rcases hs : c.check ctx id with ⟨after, fault | _⟩
      · rfl
      · rw [hs] at hchecked hgrows
        exact ih hchecked fun other hother => Nat.lt_of_lt_of_le (hrest other hother) hgrows.size_le
    · exact ih hc hrest

theorem checkAll_eq (hc : c.Coherent ctx) :
    checkEach ctx c (List.range c.size) = some (c.checkAll ctx) :=
  checkEach_eq hc fun _ hid => List.mem_range.1 hid

/-- A run looks up what is registered only, as what a provider declares collects nothing. -/
theorem assemble_eq (ctx : Context) (provider : TypeExpr) :
    assemble ctx provider = some (Wiring.assemble ctx provider) := by
  unfold assemble Wiring.assemble
  cases hservices : ctx.program.declaredServices provider with
  | error fault => rfl
  | ok services =>
    have hdeclared : (Container.empty.addAll ctx services).Coherent ctx :=
      (declared_reachable ctx services).coherent
    dsimp only
    rw [addAll_eq (Container.coherent_empty ctx), Option.bind_eq_bind, Option.bind_some,
      checkAll_eq hdeclared, Option.bind_eq_bind, Option.bind_some]
    rcases hs : (Container.empty.addAll ctx services).checkAll ctx with ⟨after, fault | _⟩
    · rfl
    · dsimp only
      rw [validate_eq (idsIssued_of_checkAll hservices hs)]
      rfl

end Strict

open Container

/-- Where only issued numbers are collected and checked, checks that failed included, no number in
the container dangles, and no further step looks up a number that no registration has: registering
a service, checking a registration, listing the registrations of a type, validating. Neither does a
run, whatever the provider. -/
theorem lookups_grounded (ctx : Context) :
    (∀ c, Grounded ctx c → c.NoDangling ∧
      (∀ service, Strict.add c ctx service = some (c.add ctx service)) ∧
      (∀ id < c.size, (c.registration? id).isSome ∧
        Strict.check c ctx id = some (c.check ctx id)) ∧
      (∀ type, Strict.servicesFor c type =
        some ((c.servicesFor type).filterMap c.registration?)) ∧
      Strict.validate c = some c.validate) ∧
    ∀ provider, Strict.assemble ctx provider = some (assemble ctx provider) := by
  refine ⟨fun c hc => ?_, Strict.assemble_eq ctx⟩
  have hcoherent := hc.reachable.coherent
  have hissued := hc.noDangling
  refine ⟨hissued, Strict.add_eq hcoherent, fun id hid => ⟨?_, Strict.check_eq hcoherent hid⟩,
    Strict.servicesFor_eq hcoherent, Strict.validate_eq hissued.toIdsIssued⟩
  obtain ⟨r, hr⟩ := registration?_isSome hid
  rw [hr]
  rfl

namespace Workshop

def part : TypeExpr := ⟨.interfaceType, "app::Part", [], false⟩
def gear : TypeExpr := ⟨.classType, "app::Gear", [], false⟩
def kit : TypeExpr := ⟨.classType, "app::Kit", [], false⟩
def machine : TypeExpr := ⟨.classType, "app::Machine", [], false⟩
def panel : TypeExpr := ⟨.classType, "app::Panel", [], false⟩
def provider : TypeExpr := ⟨.classType, "app::Provider", [], false⟩
def box (held : TypeExpr) : TypeExpr := ⟨.classType, "app::Box", [held], false⟩
def held : TypeExpr := ⟨.parameter, "T", [], false⟩

/-- A box is a part; a machine collects the parts before it asks for a box of gears. -/
def catalog : Catalog := .ofDefinitions [
  .built gear [],
  { Definition.built (box held) [] with bases := [part] },
  .built machine [⟨"parts", Settings.enumerableOf {} part, [], none⟩,
    ⟨"gears", box gear, [], none⟩, ⟨"kit", kit, [], none⟩],
  .built panel [⟨"part", part, [], none⟩],
  .declaring provider [] [
    .dependency .singleton part (some gear) none,
    .dependency .singleton (box held) none none,
    .dependency .singleton panel none none]]

def context : Context := { program := catalog.program }

def stock : Container := empty.addAll context [
  { type := part, lifetime := .singleton, implementation := some gear },
  { type := part, lifetime := .singleton, implementation := some kit, key := some "spare" },
  { type := box held, lifetime := .singleton }]

/-- The kit collects the parts in stock. -/
def registered : Container := stock.addAll context [
  { type := kit, lifetime := .singleton, collected := some [0, 1] },
  { type := machine, lifetime := .singleton },
  { type := panel, lifetime := .singleton }]

def checked : Container := ((registered.check context 4).1.check context 5).1

theorem checked_grounded : Grounded context checked := by
  have hstock : Grounded context stock := Grounded.empty.addAll (by decide +kernel)
  have hregistered : Grounded context registered := hstock.addAll (by decide +kernel)
  exact (hregistered.check (by decide +kernel)).check (by decide +kernel)

/-- A kit of what was never registered. -/
def stray : Container := ((empty.addAll context [
  { type := kit, lifetime := .singleton, collected := some [7] },
  { type := machine, lifetime := .singleton }]).check context 1).1

end Workshop

/-- The box that the check of the machine specializes joins the parts, and the panel, which asks for
one part, fails on two. A kit of what was never registered would be looked up in vain. -/
theorem workshop_grounded :
    Workshop.checked.resolutions.map (fun resolution => resolution.parameters.map (·.outcome)) =
        [[], [.selected 9, .selected 10, .selected 3], [.ambiguous [0, 11]]] ∧
      Workshop.checked.registrations.filterMap (·.collected) = [[0, 1], [0, 1, 10]] ∧
      Workshop.checked.NoDangling ∧
      Strict.check Workshop.checked Workshop.context 5 =
        some (Workshop.checked.check Workshop.context 5) ∧
      Strict.validate Workshop.checked = some Workshop.checked.validate ∧
      Strict.assemble Workshop.context Workshop.provider =
        some (assemble Workshop.context Workshop.provider) ∧
      Strict.validate Workshop.stray = none := by
  obtain ⟨hgrounded, hassemble⟩ := lookups_grounded Workshop.context
  obtain ⟨hissued, -, hchecks, -, hvalidate⟩ :=
    hgrounded Workshop.checked Workshop.checked_grounded
  exact ⟨by decide +kernel, by decide +kernel, hissued, (hchecks 5 (by decide +kernel)).2,
    hvalidate, hassemble Workshop.provider, by decide +kernel⟩

end Wiring
