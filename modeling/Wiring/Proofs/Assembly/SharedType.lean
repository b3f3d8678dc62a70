import Wiring.Catalog.Basic
import Wiring.Proofs.Assembly.Run
import Wiring.Proofs.Check.Latest
import Wiring.Proofs.Graph.Dependency
import Wiring.Proofs.Provider.Services

/-!
Cycles between registrations. Validation sees one resolution for each type, and registrations may
share a type, as two factories of one service do under different keys. Then the check of the later
one replaces what the check of the earlier one worked out, and a cycle through the earlier one may
go unseen. This is the only way in which a cycle between declared registrations is missed.
-/

namespace Wiring

namespace Container

/-- The check of `a` worked out a parameter that waits for `b`. -/
def Needs (c : Container) (a b : RegistrationId) : Prop :=
  ∃ check ∈ c.checks, check.1 = a ∧
    ∃ p ∈ check.2, p.outcome.selected? = some b ∧ p.isHard ∧ p.deferred = false

instance (c : Container) (a b : RegistrationId) : Decidable (c.Needs a b) :=
  inferInstanceAs (Decidable (∃ check ∈ c.checks, check.1 = a ∧
    ∃ p ∈ check.2, p.outcome.selected? = some b ∧ p.isHard ∧ p.deferred = false))

/-- The same between the first `count` registrations, where both construct closed types. -/
structure NeedsAmong (c : Container) (count : Nat) (a b : RegistrationId) : Prop where
  consumer : a < count ∧ c.isClosed a
  target : b < count ∧ c.isClosed b
  needs : c.Needs a b

/-- The type that `a` constructs is resolved by the later check of `k`. -/
def Replaced (c : Container) (a k : RegistrationId) : Prop :=
  k ≠ a ∧ ∃ r ps, c.registration? a = some r ∧ c.latestCheck? r.resolvedType = some (k, ps)

/-- By what is resolved, the type of `a` does not wait for that of `b`. -/
def Forgets (c : Container) (a b : RegistrationId) : Prop :=
  ∀ ra rb, c.registration? a = some ra → c.registration? b = some rb →
    ¬ c.Waits ra.resolvedType rb.resolvedType

variable {c : Container}

theorem isClosed_iff {id : RegistrationId} :
    c.isClosed id ↔ ∃ r, c.registration? id = some r ∧ r.resolvedType.isClosed := by
  unfold isClosed
  cases hid : c.registration? id with
  | none => simp
  | some r => simp [Service.isClosed]

/-- The check of a registration whose type is resolved by no other check is the one that counts. -/
theorem resolution_of_not_replaced (h : c.OnRecord) (honce : (c.checks.map (·.1)).Nodup)
    {a : RegistrationId} {ps : List ParameterResolution} {r : Registration}
    (hcheck : (a, ps) ∈ c.checks) (hr : c.registration? a = some r)
    (hkept : ∀ k, ¬ c.Replaced a k) :
    ∃ resolution ∈ c.resolutions, resolution.type.same r.resolvedType ∧
      resolution.parameters = ps := by
  have hown : (a, ps) ∈ c.checks.filter fun check => c.constructs r.resolvedType check.1 := by
    refine List.mem_filter.2 ⟨hcheck, ?_⟩
    unfold constructs
    rw [hr, Option.any_some, TypeExpr.same_refl]
  obtain ⟨⟨k, qs⟩, hlatest⟩ : ∃ check, c.latestCheck? r.resolvedType = some check :=
    ⟨_, List.getLast?_eq_some_getLast (List.ne_nil_of_mem hown)⟩
  have hk : k = a := by
    by_contra hne
    exact hkept k ⟨hne, r, qs, hr, hlatest⟩
  subst hk
  have hsame : (k, qs) = (k, ps) := by
    have hmem := List.mem_of_getLast? hlatest
    exact List.inj_on_of_nodup_map honce (List.mem_filter.1 hmem).1 hcheck rfl
  have hstored := h.latest.latest r.resolvedType
  rw [hlatest, hsame] at hstored
  obtain ⟨resolution, hresolution, hps⟩ := Option.map_eq_some_iff.1 hstored
  obtain ⟨hmem, htype⟩ := h.indexed.resolution?_eq_some_iff.1 hresolution
  exact ⟨resolution, hmem, htype, hps⟩

/-- A need is among the waits of the types, unless the check that found it was replaced. -/
theorem NeedsAmong.waits (h : c.OnRecord) (honce : (c.checks.map (·.1)).Nodup) {count : Nat}
    (hplain : ∀ id < count, ∀ r, c.registration? id = some r → r.collected = none)
    {a b : RegistrationId} (hneeds : c.NeedsAmong count a b) (hkept : ∀ k, ¬ c.Replaced a k)
    {ra rb : Registration} (hra : c.registration? a = some ra)
    (hrb : c.registration? b = some rb) : c.Waits ra.resolvedType rb.resolvedType := by
  obtain ⟨⟨a', ps⟩, hcheck, rfl, p, hp, hselected, hhard, hdeferred⟩ := hneeds.needs
  obtain ⟨resolution, hmem, htype, rfl⟩ :=
    resolution_of_not_replaced h honce hcheck hra hkept
  have hclosed : ra.resolvedType.isClosed := by
    obtain ⟨r, hr, hclosed⟩ := isClosed_iff.1 hneeds.consumer.2
    obtain rfl := Option.some.inj (hra.symm.trans hr)
    exact hclosed
  have hsupplies : c.Supplies b b := by
    refine ⟨rb, hrb, ?_⟩
    rw [hplain b hneeds.target.1 rb hrb]
  exact waits_of_isHard hmem htype hclosed hp hhard hdeferred hselected hsupplies hrb
    (TypeExpr.same_refl _)

/-- Steps between registrations that are waits of their types chain to such waits. -/
theorem waits_of_steps {step : RegistrationId → RegistrationId → Prop}
    (hwaits : ∀ {x y : RegistrationId} {rx ry : Registration}, step x y →
      c.registration? x = some rx → c.registration? y = some ry →
      c.Waits rx.resolvedType ry.resolvedType)
    (hissued : ∀ {x y : RegistrationId}, step x y → ∃ r, c.registration? x = some r)
    {a b : RegistrationId} (h : Relation.TransGen step a b) {ra rb : Registration}
    (hra : c.registration? a = some ra) (hrb : c.registration? b = some rb) :
    Relation.TransGen c.Waits ra.resolvedType rb.resolvedType := by
  induction h generalizing rb with
  | single hab => exact .single (hwaits hab hra hrb)
  | tail _ hlast ih =>
    obtain ⟨r, hr⟩ := hissued hlast
    exact (ih hr).tail (hwaits hlast hr hrb)

end Container

open Container

/-- A run that succeeds has a cycle between declared registrations exactly if one of them, at a step
of the cycle, was replaced by another registration of its type that does without the next. -/
theorem assemble_cycle_iff (ctx : Context) (provider : TypeExpr)
    (h : (assemble ctx provider).result = .ok ()) :
    ∃ services, ctx.program.declaredServices provider = .ok services ∧
      ((∃ a, Relation.TransGen
          ((assemble ctx provider).container.NeedsAmong services.length) a a) ↔
        ∃ a b k, (assemble ctx provider).container.NeedsAmong services.length a b ∧
          Relation.ReflTransGen
            ((assemble ctx provider).container.NeedsAmong services.length) b a ∧
          (assemble ctx provider).container.Replaced a k ∧
          (assemble ctx provider).container.Forgets a b) := by
  obtain ⟨services, hservices, hchecked, hvalid⟩ := assemble_ok h
  generalize (assemble ctx provider).container = c at hchecked hvalid ⊢
  refine ⟨services, hservices, ?_⟩
  have hrecord := (reachable_of_checkAll hchecked).onRecord
  have hacyclic := not_waits_of_validate hrecord.indexed hvalid
  have honce := checks_nodup_of_checkAll hchecked
  have hplain : ∀ id < services.length, ∀ r, c.registration? id = some r → r.collected = none :=
    fun id hid r hr => Program.declaredServices_collected hservices _
      (toService_mem_of_checkAll hchecked hid hr)
  constructor
  · rintro ⟨a, hcycle⟩
    -- if no step of the cycle is lost, the types wait in a circle, and validation has failed
    by_contra hnone
    have hwaits {x y : RegistrationId} {rx ry : Registration}
        (hxy : c.NeedsAmong services.length x y ∧
          Relation.ReflTransGen (c.NeedsAmong services.length) a x ∧
          Relation.ReflTransGen (c.NeedsAmong services.length) y a)
        (hrx : c.registration? x = some rx) (hry : c.registration? y = some ry) :
        c.Waits rx.resolvedType ry.resolvedType := by
      obtain ⟨hneeds, hax, hya⟩ := hxy
      by_contra hforgets
      refine hforgets (hneeds.waits hrecord honce hplain (fun k hreplaced => ?_) hrx hry)
      refine hnone ⟨x, y, k, hneeds, hya.trans hax, hreplaced, fun rx' ry' hrx' hry' => ?_⟩
      rwa [← Option.some.inj (hrx.symm.trans hrx'), ← Option.some.inj (hry.symm.trans hry')]
    have hissued {x y : RegistrationId} (hxy : c.NeedsAmong services.length x y ∧
        Relation.ReflTransGen (c.NeedsAmong services.length) a x ∧
        Relation.ReflTransGen (c.NeedsAmong services.length) y a) :
        ∃ r, c.registration? x = some r := by
      obtain ⟨r, hr, -⟩ := isClosed_iff.1 hxy.1.consumer.2
      exact ⟨r, hr⟩
    have hsteps := transGen_on_cycle hcycle .refl
    obtain ⟨b, hfirst, -⟩ := Relation.TransGen.head'_iff.1 hsteps
    obtain ⟨r, hr⟩ := hissued hfirst
    exact hacyclic _ (waits_of_steps hwaits hissued hsteps hr hr)
  · rintro ⟨a, b, -, hab, hba, -, -⟩
    exact ⟨a, .head' hab hba⟩

namespace Stores

def store : TypeExpr := ⟨.classType, "app::Store", [], false⟩
def cache : TypeExpr := ⟨.classType, "app::Cache", [], false⟩
def provider : TypeExpr := ⟨.classType, "app::Provider", [], false⟩

def slow : Member :=
  .method ⟨"slow", .publicAccess, false, [⟨"cache", cache, [], none⟩], some store⟩

def fast : Member := .method ⟨"fast", .publicAccess, false, [], some store⟩

/-- The slow store needs the cache, and the cache the slow store; the fast one needs nothing. -/
def catalog : Catalog := .ofDefinitions [
  .built cache [⟨"store", store, [.keyed "slow"], none⟩],
  .declaring provider [slow, fast] [
    .factory .singleton store (some "slow") "slow",
    .factory .singleton store (some "fast") "fast",
    .dependency .singleton cache none none]]

def context : Context := { program := catalog.program }

theorem cycle : Relation.TransGen ((assemble context provider).container.NeedsAmong 3) 0 0 := by
  have hcache : (assemble context provider).container.NeedsAmong 3 0 2 :=
    ⟨by decide +kernel, by decide +kernel, by decide +kernel⟩
  have hstore : (assemble context provider).container.NeedsAmong 3 2 0 :=
    ⟨by decide +kernel, by decide +kernel, by decide +kernel⟩
  exact .head hcache (.single hstore)

theorem length_services {services : List Service}
    (h : context.program.declaredServices provider = .ok services) : services.length = 3 := by
  have hlength : (context.program.declaredServices provider).toOption.map List.length = some 3 :=
    rfl
  rw [h] at hlength
  exact Option.some.inj hlength

end Stores

/-- On the slow store's step the cycle was lost, when the fast store replaced it. -/
theorem stores_replaced :
    (assemble Stores.context Stores.provider).result = .ok () ∧
      ∃ a b k, (assemble Stores.context Stores.provider).container.NeedsAmong 3 a b ∧
        (assemble Stores.context Stores.provider).container.Replaced a k ∧
        (assemble Stores.context Stores.provider).container.Forgets a b := by
  obtain ⟨services, hservices, hiff⟩ := assemble_cycle_iff Stores.context Stores.provider rfl
  rw [Stores.length_services hservices] at hiff
  obtain ⟨a, b, k, hneeds, -, hreplaced, hforgets⟩ := hiff.1 ⟨0, Stores.cycle⟩
  exact ⟨rfl, a, b, k, hneeds, hreplaced, hforgets⟩

/-- The run succeeds, though its first registration waits for itself. -/
theorem stores_cycle_unseen :
    ∃ services, Stores.context.program.declaredServices Stores.provider = .ok services ∧
      (assemble Stores.context Stores.provider).result = .ok () ∧
      Relation.TransGen
        ((assemble Stores.context Stores.provider).container.NeedsAmong services.length) 0 0 :=
  ⟨_, rfl, rfl, Stores.cycle⟩

end Wiring
