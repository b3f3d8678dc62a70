import Wiring.Container.Check

/-!
Histories: what registering and checking can make of a container. Checks that fail count, since what
they did before they failed stays.
-/

namespace Wiring.Container

/-- Registering services and checking registrations can make the second container of the first. -/
inductive Evolves (ctx : Context) (first : Container) : Container → Prop
  | refl : Evolves ctx first first
  | add {c : Container} (service : Service) :
      Evolves ctx first c → Evolves ctx first (c.add ctx service)
  | check {c : Container} (id : RegistrationId) :
      Evolves ctx first c → Evolves ctx first (c.check ctx id).1

def Reachable (ctx : Context) (c : Container) : Prop := Evolves ctx .empty c

/-- Only numbers that were issued are collected and checked. -/
inductive Grounded (ctx : Context) : Container → Prop
  | empty : Grounded ctx .empty
  | add {c : Container} {service : Service} : Grounded ctx c →
      (∀ ids, service.collected = some ids → ∀ id ∈ ids, id < c.size) →
      Grounded ctx (c.add ctx service)
  | check {c : Container} {id : RegistrationId} :
      Grounded ctx c → id < c.size → Grounded ctx (c.check ctx id).1

theorem Grounded.reachable {ctx : Context} {c : Container} (h : Grounded ctx c) :
    Reachable ctx c := by
  induction h with
  | empty => exact .refl
  | add _ _ ih => exact ih.add _
  | check _ _ ih => exact ih.check _

theorem Evolves.trans {ctx : Context} {a b c : Container} (hab : Evolves ctx a b)
    (hbc : Evolves ctx b c) : Evolves ctx a c := by
  induction hbc with
  | refl => exact hab
  | add service _ ih => exact ih.add service
  | check id _ ih => exact ih.check id

theorem Evolves.addAll {ctx : Context} {a b : Container} (h : Evolves ctx a b)
    (services : List Service) : Evolves ctx a (b.addAll ctx services) := by
  induction services generalizing b with
  | nil => exact h
  | cons service services ih => exact ih (h.add service)

end Wiring.Container
