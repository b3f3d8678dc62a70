import Wiring.Catalog.Basic
import Wiring.Proofs.Assembly.Run
import Wiring.Proofs.Graph.Dependency

/-!
Cycles through collections of collections. Validation follows a collection to its elements, but an
element that is a collection in its turn stands in the graph under the type of its array, which
nothing resolves, and the search ends there. Apart from types that are left open, this is the only
way in which a cycle through collections is missed.
-/

namespace Wiring

namespace Container

/-- What a request that selects the registration comes to: itself, or what its elements come to
where it collects. -/
inductive Expands (c : Container) : RegistrationId → Registration → Prop
  | leaf {id : RegistrationId} {r : Registration} :
      c.registration? id = some r → r.collected = none → Expands c id r
  | element {id member : RegistrationId} {r target : Registration} {ids : List RegistrationId} :
      c.registration? id = some r → r.collected = some ids → member ∈ ids →
      Expands c member target → Expands c id target

/-- The resolution of `a` has a parameter that waits for the registration `id`. -/
def Selects (c : Container) (a : TypeExpr) (id : RegistrationId) : Prop :=
  ∃ resolution ∈ c.resolution? a, ∃ p ∈ resolution.parameters,
    p.outcome.selected? = some id ∧ p.isHard ∧ p.deferred = false

instance (c : Container) (a : TypeExpr) (id : RegistrationId) : Decidable (c.Selects a id) :=
  inferInstanceAs (Decidable (∃ resolution ∈ c.resolution? a, ∃ p ∈ resolution.parameters,
    p.outcome.selected? = some id ∧ p.isHard ∧ p.deferred = false))

/-- What `a` waits for comes to a registration that constructs `b`. -/
def ExpandsTo (c : Container) (a b : TypeExpr) : Prop :=
  ∃ id target, c.Selects a id ∧ c.Expands id target ∧ target.resolvedType.same b

/-- The registration collects others. -/
def Collects (c : Container) (id : RegistrationId) : Prop :=
  ∃ r, c.registration? id = some r ∧ r.collected.isSome

/-- What `a` waits for comes to `b` by way of a collection in a collection. -/
def Buries (c : Container) (a b : TypeExpr) : Prop :=
  ∃ id r ids member target, c.Selects a id ∧ c.registration? id = some r ∧
    r.collected = some ids ∧ member ∈ ids ∧ c.Collects member ∧ c.Expands member target ∧
    target.resolvedType.same b

variable {c : Container}

/-- What a request comes to it is supplied with, unless a collection is among the elements. -/
theorem Expands.supplies {id : RegistrationId} {target : Registration}
    (h : c.Expands id target)
    (hflat : ∀ r ids member, c.registration? id = some r → r.collected = some ids → member ∈ ids →
      c.Expands member target → ¬ c.Collects member) :
    ∃ t, c.Supplies id t ∧ c.registration? t = some target := by
  cases h with
  | leaf hr hcollected =>
    refine ⟨id, ⟨target, hr, ?_⟩, hr⟩
    rw [hcollected]
  | @element _ member r _ ids hr hcollected hmember hexpands =>
    have hleaf := hflat r ids member hr hcollected hmember hexpands
    cases hexpands with
    | leaf hmemberReg _ =>
      refine ⟨member, ⟨r, hr, ?_⟩, hmemberReg⟩
      rwa [hcollected]
    | element hmemberReg hids _ _ =>
      exact absurd ⟨_, hmemberReg, by rw [hids]; rfl⟩ hleaf

/-- What a closed type comes to wait for it waits for, unless the way there is buried. -/
theorem ExpandsTo.waits (h : c.Indexed) {a b : TypeExpr} (hab : c.ExpandsTo a b)
    (hclosed : a.isClosed) (hflat : ¬ c.Buries a b) : c.Waits a b := by
  obtain ⟨id, target, hselects, hexpands, hb⟩ := hab
  obtain ⟨t, hsupplies, ht⟩ := hexpands.supplies fun r ids member hr hids hmember hto hcollects =>
    hflat ⟨id, r, ids, member, target, hselects, hr, hids, hmember, hcollects, hto, hb⟩
  obtain ⟨resolution, hresolution, p, hp, hselected, hhard, hdeferred⟩ := hselects
  obtain ⟨hmem, hsame⟩ := h.resolution?_eq_some_iff.1 hresolution
  exact waits_of_isHard hmem hsame hclosed hp hhard hdeferred hselected hsupplies ht hb

end Container

open Container

/-- After a run that succeeds a closed type comes to wait for itself exactly if some step on the way
is no wait of the graph: from an open type, or by way of a collection in a collection. -/
theorem assemble_collection_cycle_iff (ctx : Context) (provider : TypeExpr)
    (h : (assemble ctx provider).result = .ok ()) :
    (∃ x : TypeExpr, x.isClosed ∧
        Relation.TransGen (assemble ctx provider).container.ExpandsTo x x) ↔
      ∃ x a b : TypeExpr, x.isClosed ∧
        Relation.ReflTransGen (assemble ctx provider).container.ExpandsTo x a ∧
        (assemble ctx provider).container.ExpandsTo a b ∧
        Relation.ReflTransGen (assemble ctx provider).container.ExpandsTo b x ∧
        ¬ (assemble ctx provider).container.Waits a b ∧
        (a.isOpen ∨ (assemble ctx provider).container.Buries a b) := by
  obtain ⟨services, -, hchecked, hvalid⟩ := assemble_ok h
  generalize (assemble ctx provider).container = c at hchecked hvalid ⊢
  have hindexed := (reachable_of_checkAll hchecked).indexed
  have hacyclic := not_waits_of_validate hindexed hvalid
  constructor
  · rintro ⟨x, hclosed, hcycle⟩
    -- if every step is a wait of the graph, the circle is one of the graph
    by_contra hnone
    refine hacyclic x (Relation.TransGen.mono ?_ x x (transGen_on_cycle hcycle .refl))
    rintro a b ⟨hab, hxa, hbx⟩
    by_contra hwaits
    refine hnone ⟨x, a, b, hclosed, hxa, hab, hbx, hwaits, ?_⟩
    by_contra hplain
    rw [not_or] at hplain
    refine hwaits (hab.waits hindexed ?_ hplain.2)
    simpa [TypeExpr.isClosed] using hplain.1
  · rintro ⟨x, a, b, hclosed, hxa, hab, hbx, -, -⟩
    exact ⟨x, hclosed, (Relation.TransGen.tail' hxa hab).trans_left hbx⟩

namespace Relays

def hub : TypeExpr := ⟨.classType, "app::Hub", [], false⟩
def relay : TypeExpr := ⟨.classType, "app::Relay", [], false⟩
def provider : TypeExpr := ⟨.classType, "app::Provider", [], false⟩

def all (element : TypeExpr) : TypeExpr := Settings.enumerableOf {} element

/-- The hub needs all relays, and each relay all groups of relays, of which the hub's is one. -/
def catalog : Catalog := .ofDefinitions [
  .built hub [⟨"relays", all relay, [], none⟩],
  .built relay [⟨"groups", all (all relay), [], none⟩],
  .declaring provider [] [
    .dependency .transient hub none none,
    .dependency .transient relay none none]]

def context : Context := { program := catalog.program }

theorem cycle : (assemble context provider).container.ExpandsTo relay relay := by
  have hselects : (assemble context provider).container.Selects relay 9 := by decide +kernel
  have hgroups : ((assemble context provider).container.registration? 9).bind (·.collected) =
      some [5] := by decide +kernel
  have hrelays : ((assemble context provider).container.registration? 5).bind (·.collected) =
      some [1] := by decide +kernel
  have hrelay : ((assemble context provider).container.registration? 1).map
      (fun r => (r.collected, r.resolvedType)) = some (none, relay) := by decide +kernel
  obtain ⟨groups, hgroups, hgroupsIds⟩ := Option.bind_eq_some_iff.1 hgroups
  obtain ⟨relays, hrelays, hrelaysIds⟩ := Option.bind_eq_some_iff.1 hrelays
  obtain ⟨r, hr, hpair⟩ := Option.map_eq_some_iff.1 hrelay
  obtain ⟨hleaf, htype⟩ := Prod.mk.inj hpair
  have hexpands : (assemble context provider).container.Expands 9 r :=
    .element hgroups hgroupsIds (List.mem_singleton_self 5)
      (.element hrelays hrelaysIds (List.mem_singleton_self 1) (.leaf hr hleaf))
  exact ⟨9, r, hselects, hexpands, by rw [htype, TypeExpr.same_refl]⟩

end Relays

/-- The relay comes to wait for itself by way of a group among the groups. -/
theorem relays_buried :
    (assemble Relays.context Relays.provider).result = .ok () ∧
      ∃ a b : TypeExpr, ¬ (assemble Relays.context Relays.provider).container.Waits a b ∧
        (a.isOpen ∨ (assemble Relays.context Relays.provider).container.Buries a b) := by
  obtain ⟨_, a, b, -, -, -, -, hwaits, hburied⟩ :=
    (assemble_collection_cycle_iff Relays.context Relays.provider rfl).1
      ⟨Relays.relay, rfl, .single Relays.cycle⟩
  exact ⟨rfl, a, b, hwaits, hburied⟩

/-- The run succeeds, though every relay waits for itself. -/
theorem relays_cycle_unseen :
    (assemble Relays.context Relays.provider).result = .ok () ∧ Relays.relay.isClosed ∧
      Relation.TransGen (assemble Relays.context Relays.provider).container.ExpandsTo
        Relays.relay Relays.relay :=
  ⟨rfl, rfl, .single Relays.cycle⟩

end Wiring
