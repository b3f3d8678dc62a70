import Wiring.Proofs.Check.Scan

/-!
Slots. An instance is kept in a slot among those of its type, and a registration is told the number
of its slot when it is added: so many closed registrations of the type stand before it. Checks add
registrations in the course of other checks, but always behind the last one, and none is opened or
closed afterwards. So the slots of each type are numbered from zero without a gap.
-/

namespace Wiring

/-- A registration as the slots of types know it; one that is open has none. -/
structure Slot where
  type : TypeExpr
  closed : Bool
  number : Nat

namespace Slot

def isOf (type : TypeExpr) (slot : Slot) : Bool := slot.type.same type && slot.closed

theorem isOf_congr {a b : TypeExpr} (h : a.same b) : isOf a = isOf b := by
  funext slot
  rw [isOf, isOf, TypeExpr.same_congr _ h]

/-- The number of each is that of the slots of its type before it. -/
def Counted (slots : List Slot) : Prop :=
  ∀ (i : Nat) (slot : Slot), slots[i]? = some slot →
    slot.number = (slots.take i).countP (isOf slot.type)

theorem Counted.concat {slots : List Slot} (h : Counted slots) {last : Slot}
    (hlast : last.number = slots.countP (isOf last.type)) : Counted (slots ++ [last]) := by
  intro i slot hslot
  rcases Nat.lt_or_ge i slots.length with hlt | hge
  · rw [List.getElem?_append_left hlt] at hslot
    rw [List.take_append_of_le_length (Nat.le_of_lt hlt)]
    exact h i slot hslot
  · rw [List.getElem?_append_right hge, List.getElem?_singleton] at hslot
    split at hslot
    · next hend =>
      obtain rfl := Option.some.inj hslot
      obtain rfl : i = slots.length := by omega
      rw [List.take_left, hlast]
    · cases hslot

/-- Up to any place the slots of a type are numbered one after another. -/
theorem Counted.map_take {slots : List Slot} (h : Counted slots) (type : TypeExpr) (count : Nat) :
    ((slots.take count).filter (isOf type)).map (·.number) =
      List.range ((slots.take count).countP (isOf type)) := by
  induction count with
  | zero => rfl
  | succ count ih =>
    rw [List.take_add_one]
    cases hlast : slots[count]? with
    | none => simpa using ih
    | some slot =>
      rw [Option.toList_some, List.filter_append, List.map_append, List.countP_append, ih]
      by_cases hslot : isOf type slot
      · have hsame : slot.type.same type := (Bool.and_eq_true_iff.1 hslot).1
        have hnumber := h count slot hlast
        rw [isOf_congr hsame] at hnumber
        simp [hslot, List.range_succ, hnumber]
      · simp [hslot]

theorem Counted.map_filter {slots : List Slot} (h : Counted slots) (type : TypeExpr) :
    (slots.filter (isOf type)).map (·.number) = List.range (slots.countP (isOf type)) := by
  have hall := h.map_take type slots.length
  rwa [List.take_length] at hall

end Slot

def Registration.slot (r : Registration) : Slot := ⟨r.type, r.isClosed, r.indexForType⟩

namespace Container

variable {ctx : Context} {a b c : Container}

def slots (c : Container) : List Slot := c.registrations.map (·.slot)

@[simp] theorem slots_enlist (c : Container) (element : TypeExpr) (member : RegistrationId) :
    (c.enlist element member).slots = c.slots := map_registrations_enlist (fun _ _ => rfl) ..

/-- The slots are counted, by the tables of the registrations that they are counted with. -/
structure Slotted (c : Container) : Prop where
  listed : c.Listed
  ordered : c.Ordered
  numbered : c.Numbered
  counted : Slot.Counted c.slots

namespace Slotted

theorem of_eq (h : a.Slotted) (hregistrations : b.registrations = a.registrations)
    (hbyType : b.byType = a.byType) : b.Slotted where
  listed := h.listed.of_eq (by rw [register, hregistrations, register]) hbyType
  ordered := h.ordered.of_eq hbyType
  numbered := h.numbered.of_eq hregistrations
  counted := by
    rw [slots, hregistrations]
    exact h.counted

/-- What the table of the type counts is what stands before the new registration. -/
theorem number_registrationOf (h : c.Slotted) (ctx : Context) (service : Service) :
    (c.registrationOf ctx service).slot.number = c.slots.countP (Slot.isOf service.type) := by
  change ((c.servicesFor service.type).filter c.isClosed).length = _
  rw [h.numbered.servicesFor_eq_scan h.listed h.ordered, List.filter_map, List.length_map,
    List.filter_filter, slots, List.countP_map, List.countP_eq_length_filter]
  refine congrArg _ (List.filter_congr fun r hr => ?_)
  rw [Function.comp_apply, isClosed, h.numbered.registration?_id hr, Bool.and_comm]
  rfl

theorem add (h : c.Slotted) (service : Service) : (c.add ctx service).Slotted where
  listed := h.listed.add ctx service
  ordered := h.ordered.add h.listed ctx service
  numbered := h.numbered.add service
  counted := by
    rw [slots, registrations_add, List.map_append]
    exact h.counted.concat (h.number_registrationOf ctx service)

theorem enlist (h : c.Slotted) (element : TypeExpr) (member : RegistrationId) :
    (c.enlist element member).Slotted where
  listed := h.listed.enlist element member
  ordered := h.ordered.of_eq (enlist_byType c element member)
  numbered := h.numbered.enlist element member
  counted := by
    rw [slots_enlist]
    exact h.counted

end Slotted

theorem maintained_slotted (ctx : Context) : Maintained ctx Slotted :=
  maintained_of_add (fun hregistrations hbyType h => h.of_eq hregistrations hbyType)
    (fun service h => h.add service) fun element member h => h.enlist element member

theorem Reachable.slotted (hc : Reachable ctx c) : c.Slotted := by
  refine hc.invariant ?_ (fun b service hb => hb.add service)
    fun b id hb => (maintained_slotted ctx).kept.check b id hb
  have hempty : Reachable ctx empty := .refl
  refine ⟨hempty.coherent.listed, hempty.arranged.ordered, hempty.numbered, fun i slot hslot => ?_⟩
  cases hslot

/-- The closed registrations of a type are numbered 0, 1, 2, ... in the order in which they were
added, and an open one has the number that the next closed one gets: that of the closed ones of the
type before it. -/
theorem slots_dense (hc : Reachable ctx c) :
    (∀ type : TypeExpr,
        (c.registrations.filter fun r => r.type.same type && r.isClosed).map (·.indexForType) =
          List.range (c.registrations.countP fun r => r.type.same type && r.isClosed)) ∧
      ∀ id r, c.registration? id = some r → r.indexForType =
        (c.registrations.take id).countP fun other => other.type.same r.type && other.isClosed := by
  have hcounted := hc.slotted.counted
  refine ⟨fun type => ?_, fun id r hr => ?_⟩
  · have hdense := hcounted.map_filter type
    rwa [slots, List.filter_map, List.map_map, List.countP_map] at hdense
  · have hslot : c.slots[id]? = some r.slot := by
      rw [slots, List.getElem?_map]
      exact congrArg _ hr
    have hnumber := hcounted id r.slot hslot
    rwa [slots, ← List.map_take, List.countP_map] at hnumber

namespace Stores

def user : TypeExpr := ⟨.classType, "app::User", [], false⟩
def order : TypeExpr := ⟨.classType, "app::Order", [], false⟩
def entry : TypeExpr := ⟨.parameter, "T", [], false⟩
def store : TypeExpr := ⟨.interfaceType, "app::Store", [], false⟩
def file : TypeExpr := ⟨.classType, "app::File", [], false⟩
def log (entry : TypeExpr) : TypeExpr := ⟨.classType, "app::Log", [entry], false⟩
def reader : TypeExpr := ⟨.classType, "app::Reader", [], false⟩

def catalog : Catalog := .ofDefinitions [
  .built file [],
  { Definition.built (log entry) [] with bases := [store] },
  .built reader [⟨"users", log user, [], none⟩, ⟨"orders", log order, [], none⟩]]

def context : Context := { program := catalog.program }

def openStore : Service :=
  { type := store, lifetime := .singleton, implementation := some (log entry) }

def registered : Container := empty.addAll context [
  { type := store, lifetime := .singleton, implementation := some file },
  openStore,
  { type := store, lifetime := .singleton, implementation := some file },
  { type := log entry, lifetime := .singleton },
  { type := reader, lifetime := .singleton }]

/-- The check of the reader closes the log twice, and each closed log is a store. -/
def read : Container := ((registered.check context 4).1).add context openStore

theorem read_reachable : Reachable context read := ((Evolves.refl.addAll _).check 4).add _

end Stores

/-- Four stores are closed, two of them added in the middle of a check; the open one before the
second has its number, and the last one the number after all. -/
theorem stores_dense :
    (Stores.read.registrations.filter fun r => r.type.same Stores.store).map
        (fun r => (r.id, r.isClosed, r.indexForType)) =
      [(0, true, 0), (1, false, 1), (2, true, 1), (6, true, 2), (8, true, 3), (9, false, 4)] ∧
    ((Stores.read.registrations.filter fun r => r.type.same Stores.store && r.isClosed).map
        (·.indexForType) =
      List.range (Stores.read.registrations.countP fun r =>
        r.type.same Stores.store && r.isClosed)) ∧
    ∀ r, Stores.read.registration? 9 = some r → r.indexForType =
      (Stores.read.registrations.take 9).countP fun other =>
        other.type.same r.type && other.isClosed :=
  ⟨by decide +kernel, (slots_dense Stores.read_reachable).1 Stores.store,
    (slots_dense Stores.read_reachable).2 9⟩

end Container
end Wiring
