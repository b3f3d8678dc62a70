import Mathlib.Data.List.Sort
import Wiring.Proofs.Check.Family

/-!
The tables of a container against a scan of what it holds. Each registration knows its number, which
is its place; the table of a type lists what a scan finds under the type, in the order in which it
stands; and the index of a type leads to the one resolution that a scan finds. Types are compared up
to annotations in both.
-/

namespace Wiring.Container

variable {ctx : Context} {a b c : Container}

/-- Registrations are numbered by their places. -/
def Numbered (c : Container) : Prop := ∀ id r, c.registration? id = some r → r.id = id

namespace Numbered

theorem of_eq (h : a.Numbered) (hregistrations : b.registrations = a.registrations) :
    b.Numbered := by
  intro id r hr
  rw [registration?, hregistrations] at hr
  exact h id r hr

theorem add (h : c.Numbered) (service : Service) : (c.add ctx service).Numbered := by
  intro id r hr
  rw [registration?_add] at hr
  split at hr
  · next hlast =>
    cases hr
    exact hlast.symm
  · exact h id r hr

theorem enlist (h : c.Numbered) (element : TypeExpr) (member : RegistrationId) :
    (c.enlist element member).Numbered := by
  cases hfamily : c.families.get? element with
  | none => exact h.of_eq (by rw [Container.enlist, hfamily])
  | some family =>
    intro id r hr
    rw [registration?_enlist hfamily] at hr
    obtain ⟨old, hold, rfl⟩ := Option.map_eq_some_iff.1 hr
    have hid := h id old hold
    split
    · exact hid
    · exact hid

end Numbered

theorem maintained_numbered (ctx : Context) : Maintained ctx Numbered :=
  maintained_of_add (fun hregistrations _ h => h.of_eq hregistrations)
    (fun service h => h.add service) fun element member h => h.enlist element member

theorem Reachable.numbered (hc : Reachable ctx c) : c.Numbered := by
  refine hc.invariant ?_ (fun b service hb => hb.add service)
    fun b id hb => (maintained_numbered ctx).kept.check b id hb
  intro id r hr
  cases hr

theorem Numbered.registration?_id (h : c.Numbered) {r : Registration} (hr : r ∈ c.registrations) :
    c.registration? r.id = some r := by
  obtain ⟨id, hid⟩ := List.getElem?_of_mem hr
  rwa [h id r hid]

theorem Numbered.pairwise_id (h : c.Numbered) :
    c.registrations.Pairwise fun first second => first.id < second.id := by
  rw [List.pairwise_iff_getElem]
  intro i j hi hj hlt
  rwa [h i _ (List.getElem?_eq_getElem hi), h j _ (List.getElem?_eq_getElem hj)]

theorem Numbered.mem_scan_iff (h : c.Numbered) (hlisted : c.Listed) {type : TypeExpr}
    {id : RegistrationId} :
    id ∈ c.servicesFor type ↔ id ∈ (c.registrations.filter (·.type.same type)).map (·.id) := by
  rw [hlisted, List.mem_map]
  constructor
  · rintro ⟨service, hservice, htype⟩
    obtain ⟨r, hr, rfl⟩ := register_eq_some_iff.1 hservice
    exact ⟨r, List.mem_filter.2 ⟨List.mem_of_getElem? hr, htype⟩, h id r hr⟩
  · rintro ⟨r, hr, rfl⟩
    obtain ⟨hmem, htype⟩ := List.mem_filter.1 hr
    exact ⟨_, register_of_registration (h.registration?_id hmem), htype⟩

/-- The table of a type lists what a scan finds: both are in order, and they have the same
members. -/
theorem Numbered.servicesFor_eq_scan (h : c.Numbered) (hlisted : c.Listed) (hordered : c.Ordered)
    (type : TypeExpr) :
    c.servicesFor type = (c.registrations.filter (·.type.same type)).map (·.id) := by
  have hscan : ((c.registrations.filter (·.type.same type)).map (·.id)).Pairwise (· < ·) :=
    List.pairwise_map.2 (h.pairwise_id.sublist List.filter_sublist)
  exact (hordered type).eq_of_mem_iff hscan fun id => h.mem_scan_iff hlisted

theorem Indexed.pairwise_type (h : c.Indexed) :
    c.resolutions.Pairwise fun first second => ¬ first.type.same second.type := by
  rw [List.pairwise_iff_getElem]
  intro i j hi hj hlt hsame
  let type := c.resolutions[i].type
  have hfirst : c.resolutionIndex.get? type = some i :=
    (h type i).2 ⟨_, List.getElem?_eq_getElem hi, TypeExpr.same_refl _⟩
  have hsecond : c.resolutionIndex.get? type = some j := by
    refine (h type j).2 ⟨_, List.getElem?_eq_getElem hj, ?_⟩
    rwa [TypeExpr.same_comm]
  rw [hfirst] at hsecond
  exact absurd (Option.some.inj hsecond) (Nat.ne_of_lt hlt)

theorem Indexed.resolution?_eq_find? (h : c.Indexed) (type : TypeExpr) :
    c.resolution? type = c.resolutions.find? (·.type.same type) := by
  cases hfound : c.resolutions.find? (·.type.same type) with
  | some resolution =>
    have hsame : resolution.type.same type := by simpa using List.find?_some hfound
    exact h.resolution?_eq_some_iff.2 ⟨List.mem_of_find?_eq_some hfound, hsame⟩
  | none =>
    cases hstored : c.resolution? type with
    | none => rfl
    | some resolution =>
      obtain ⟨hmem, hsame⟩ := h.resolution?_eq_some_iff.1 hstored
      exact absurd hsame (List.find?_eq_none.1 hfound resolution hmem)

/-- In every container, checks that failed included: a registration has the number of its place; the
registrations of a type are those that a scan finds under it, in that order and none twice; no two
resolutions are of one type, and the resolution of a type is the one that a scan finds. -/
theorem tables_scan (hc : Reachable ctx c) :
    (∀ (i : Nat) (r : Registration), c.registrations[i]? = some r → r.id = i) ∧
      (∀ type, (c.servicesFor type).map c.registration? =
          (c.registrations.filter (·.type.same type)).map some ∧ (c.servicesFor type).Nodup) ∧
      c.resolutions.Pairwise (fun first second => ¬ first.type.same second.type) ∧
      ∀ type, c.resolution? type = c.resolutions.find? (·.type.same type) := by
  have hnumbered := hc.numbered
  have harranged := hc.arranged
  refine ⟨hnumbered, fun type => ⟨?_, (harranged.ordered type).imp Nat.ne_of_lt⟩,
    hc.indexed.pairwise_type, hc.indexed.resolution?_eq_find?⟩
  rw [hnumbered.servicesFor_eq_scan harranged.coherent.listed harranged.ordered, List.map_map]
  exact List.map_congr_left fun r hr => hnumbered.registration?_id (List.mem_filter.1 hr).1

namespace Accounts

def user : TypeExpr := ⟨.classType, "app::User", [], false⟩
def clock : TypeExpr := ⟨.classType, "app::Clock", [], false⟩
def store (stored : TypeExpr) : TypeExpr := ⟨.classType, "app::Store", [stored], false⟩
def orNull (type : TypeExpr) : TypeExpr := { type with nullable := true }

/-- A store needs a clock, which nobody registers. -/
def catalog : Catalog := .ofDefinitions [
  .built user [],
  .built (store ⟨.parameter, "T", [], false⟩) [⟨"clock", clock, [], none⟩]]

def context : Context := { program := catalog.program }

def registered : Container := empty.addAll context [
  { type := store user, lifetime := .singleton },
  { type := user, lifetime := .singleton },
  { type := store (orNull user), lifetime := .scoped },
  { type := orNull (store user), lifetime := .transient }]

/-- The stores were checked first and last, the users in between. -/
def checked : Container :=
  (((registered.check context 0).1.check context 1).1.check context 2).1

theorem checked_reachable : Reachable context checked :=
  (((Evolves.refl.addAll _).check 0).check 1).check 2

end Accounts

/-- The three stores of users differ in annotations only and are found together. Both checks of them
failed, and the resolution of the second stands in the place of that of the first. -/
theorem accounts_scanned :
    (Accounts.registered.check Accounts.context 0).passes = false ∧
      Accounts.checked.servicesFor (Accounts.store Accounts.user) = [0, 2, 3] ∧
      (Accounts.checked.servicesFor (Accounts.store Accounts.user)).map
          Accounts.checked.registration? =
        (Accounts.checked.registrations.filter
          (·.type.same (Accounts.store Accounts.user))).map some ∧
      Accounts.checked.resolutions.map (·.type) =
        [Accounts.store (Accounts.orNull Accounts.user), Accounts.user] ∧
      Accounts.checked.resolution? (Accounts.store Accounts.user) =
        Accounts.checked.resolutions.find? (·.type.same (Accounts.store Accounts.user)) := by
  obtain ⟨-, hservices, -, hresolution⟩ := tables_scan Accounts.checked_reachable
  exact ⟨by decide +kernel, by decide +kernel, (hservices _).1, by decide +kernel, hresolution _⟩

end Wiring.Container
