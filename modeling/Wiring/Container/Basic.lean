import Wiring.Fault
import Wiring.Program
import Wiring.Resolution
import Wiring.Settings.Basic
import Wiring.TypeMap

/-!
The container of one provider: its registrations in the order in which they were added, the
constructions worked out for their types, and the collections made on request. Registrations are
only ever added; of an added one nothing changes but the elements of a collection.
-/

namespace Wiring

/-- What a container consults and is bound by. -/
structure Context where
  program : Program
  settings : Settings := {}
  fallback : Option Fallback := none

/-- The four registrations that stand for the collection of one element type. -/
structure Family where
  array : RegistrationId
  readOnlyList : RegistrationId
  readOnlyCollection : RegistrationId
  enumerable : RegistrationId
  deriving DecidableEq, Repr

def Family.ids (family : Family) : List RegistrationId :=
  [family.array, family.readOnlyList, family.readOnlyCollection, family.enumerable]

inductive Warning where
  /-- A service holds another that does not live as long. -/
  | shorterLifetime (consumer : TypeExpr) (consumerLifetime : Lifetime)
      (dependency : TypeExpr) (dependencyLifetime : Lifetime)
  /-- An open implementation has another number of arguments than the type asked for. -/
  | arityMismatch (target implementation : TypeExpr)
  deriving DecidableEq

/-- What happened while parameters were resolved. -/
inductive Event where
  | warned (warning : Warning)
  | fallbackAsked (key : Option String) (type : TypeExpr) (answer : Bool)
  /-- The registration was added as a closed form of an open one. -/
  | specialized (id : RegistrationId)
  /-- A check of the registration worked out these parameters. -/
  | resolved (id : RegistrationId) (parameters : List ParameterResolution)
  deriving DecidableEq

namespace Event

def warning? : Event → Option Warning
  | warned warning => some warning
  | fallbackAsked .. | specialized .. | resolved .. => none

/-- A question to the fallback, and what it answered. -/
def fallbackAnswer? : Event → Option (Option String × TypeExpr × Bool)
  | fallbackAsked key type answer => some (key, type, answer)
  | warned _ | specialized .. | resolved .. => none

end Event

structure Container where
  registrations : List Registration
  byType : TypeMap (List RegistrationId)
  resolutions : List Resolution
  resolutionIndex : TypeMap Nat
  families : TypeMap Family
  /-- How many specializations are being checked inside one another. -/
  specializationDepth : Nat
  /-- Oldest event first. -/
  journal : List Event
  deriving DecidableEq

namespace Container

def empty : Container := ⟨[], [], [], [], [], 0, []⟩

def size (c : Container) : Nat := c.registrations.length

def registration? (c : Container) (id : RegistrationId) : Option Registration :=
  c.registrations[id]?

/-- The registrations of a type, in the order in which they were added. -/
def servicesFor (c : Container) (type : TypeExpr) : List RegistrationId :=
  (c.byType.get? type).getD []

def resolution? (c : Container) (type : TypeExpr) : Option Resolution :=
  (c.resolutionIndex.get? type).bind (c.resolutions[·]?)

/-- The registrations that construct closed types. -/
def allServices (c : Container) : List Registration := c.registrations.filter (·.isClosed)

def servicesByLifetime (c : Container) (lifetime : Lifetime) : List Registration :=
  c.allServices.filter (·.lifetime == lifetime)

def isClosed (c : Container) (id : RegistrationId) : Bool :=
  match c.registration? id with
  | some r => r.isClosed
  | none => false

/-- The ids among `ids` registered under exactly this key. -/
def underKey (c : Container) (key : Option String) (ids : List RegistrationId) :
    List RegistrationId :=
  ids.filter fun id =>
    match c.registration? id with
    | some r => r.key == key
    | none => false

def note (c : Container) (event : Event) : Container := { c with journal := c.journal ++ [event] }

/-- Some type the service is, its own or a base, has the name. -/
def bearsName (ctx : Context) (name : String) (type : TypeExpr) : Bool :=
  type.name == name || (ctx.program.baseTypes type).any (·.name == name)

/-- The registration that `add` makes of a service. -/
def registrationOf (c : Container) (ctx : Context) (service : Service) : Registration :=
  { service with
    id := c.size
    indexForType := ((c.servicesFor service.type).filter c.isClosed).length
    disposable := bearsName ctx ctx.settings.disposable service.resolvedType
    asyncDisposable := bearsName ctx ctx.settings.asyncDisposable service.resolvedType }

/-- Adds a registration; its number is the number of registrations before it. -/
def add (c : Container) (ctx : Context) (service : Service) : Container :=
  { c with
    registrations := c.registrations ++ [c.registrationOf ctx service]
    byType := c.byType.alter service.type fun ids => ids.getD [] ++ [c.size] }

def addAll (c : Container) (ctx : Context) (services : List Service) : Container :=
  services.foldl (fun c service => c.add ctx service) c

/-- A resolution takes the place of an earlier one of the same type. -/
def store (c : Container) (resolution : Resolution) : Container :=
  match c.resolutionIndex.get? resolution.type with
  | some index => { c with resolutions := c.resolutions.set index resolution }
  | none =>
    { c with
      resolutions := c.resolutions ++ [resolution]
      resolutionIndex := c.resolutionIndex.insert resolution.type c.resolutions.length }

def warnings (c : Container) : List Warning := c.journal.filterMap Event.warning?

/-- One line on how much the container holds. -/
def summary (c : Container) : String :=
  "ServiceManifest \x7b registrations: " ++ Nat.repr c.registrations.length ++
    ", resolutions: " ++ Nat.repr c.resolutions.length ++
    ", collections: " ++ Nat.repr c.families.length ++ " \x7d"

@[simp] theorem registrations_add (c : Container) (ctx : Context) (service : Service) :
    (c.add ctx service).registrations = c.registrations ++ [c.registrationOf ctx service] := rfl

@[simp] theorem size_add (c : Container) (ctx : Context) (service : Service) :
    (c.add ctx service).size = c.size + 1 := by simp [size]

theorem registration?_add (c : Container) (ctx : Context) (service : Service)
    (id : RegistrationId) :
    (c.add ctx service).registration? id =
      if id = c.size then some (c.registrationOf ctx service) else c.registration? id := by
  by_cases h : id = c.size
  · rw [if_pos h, h]
    simp [registration?, size]
  · rw [if_neg h]
    by_cases hlt : id < c.registrations.length
    · simp [registration?, List.getElem?_append_left hlt]
    · have hlt : c.registrations.length < id :=
        Nat.lt_of_le_of_ne (Nat.le_of_not_lt hlt) (Ne.symm h)
      rw [registration?, registration?, List.getElem?_eq_none (Nat.le_of_lt hlt),
        List.getElem?_eq_none (by simpa using Nat.succ_le_of_lt hlt)]

theorem servicesFor_add (c : Container) (ctx : Context) (service : Service) (type : TypeExpr) :
    (c.add ctx service).servicesFor type =
      if service.type.same type then c.servicesFor type ++ [c.size] else c.servicesFor type := by
  simp only [servicesFor, add, TypeMap.get?_alter]
  split
  · next h => simp [TypeMap.get?_congr c.byType h]
  · rfl

theorem resolution?_add (c : Container) (ctx : Context) (service : Service) (type : TypeExpr) :
    (c.add ctx service).resolution? type = c.resolution? type := rfl

end Container
end Wiring
