import Wiring.Proofs.Check.Findings
import Wiring.Proofs.Check.Follow

/-!
Reuse. A specialization is registered together with its bases, each of them implemented by it. As
long as the closed type and the base are registered once only, a request for the base is led to the
specialization, and nothing is registered for it any more.
-/

namespace Wiring.Container

open Forecast (requested)

variable {ctx : Context} {a b c d m start : Container} {id nested : RegistrationId} {count : Nat}
  {target : TypeExpr} {source : Registration} {p : Parameter}

/-! What is there later. -/

theorem Evolves.extends (h : Evolves ctx a b) : Extends a b := by
  induction h with
  | refl => exact Extends.refl a
  | add service _ ih => exact ih.trans (extends_add _ ctx service)
  | check id _ ih => exact ih.trans ((kept_extends ctx).check _ id)

/-- Whether the check of a new specialization passes or fails, what it left is there. -/
theorem Opens.resolveParameter_entered (hopens : m.Opens ctx (requested ctx p) source)
    (hkey : p.key = none)
    (hnew : m.underKey source.key (m.servicesFor (closedType (requested ctx p) source)) = [])
    (hdepth : m.specializationDepth < ctx.settings.maxSpecializationDepth) :
    (resolveParameter ctx (some (recheck ctx)) m p).1 =
      ((m.entered ctx (requested ctx p) source).check ctx m.size).1.left := by
  have htarget := hopens.resolveTarget_eq (some (recheck ctx)) p.requiresNonEmpty
  rw [specializeFrom_entered hopens.arity hnew hdepth, recheck] at htarget
  rw [resolveParameter_eq_andThen]
  dsimp only
  rw [hkey]
  rw [requested] at htarget ⊢
  rw [htarget]
  rcases (m.entered ctx _ source).check ctx m.size with ⟨after, fault | _⟩
  · rfl
  · rfl

theorem Step.extends_andThen {α β : Type} (s : Step α) {next : Container → α → Step β}
    (h : ∀ c x, Extends c (next c x).1) : Extends s.1 (s.andThen next).1 := by
  obtain ⟨_, _ | x⟩ := s
  · exact Extends.refl _
  · exact h _ x

theorem extends_resolveParameters (c : Container) (parameters : List Parameter) :
    Extends c (resolveParameters ctx (some (recheck ctx)) c parameters).1 := by
  rw [resolveParameters_rechecks (rechecks_recheck ctx _)]
  exact (kept_extends ctx).resolveParameters (fun n _ => (kept_extends ctx).checkWithin n) c
    parameters

/-- What resolving a parameter leaves is there when the check has ended. -/
theorem Comes.extends_check (h : c.Comes ctx id m p) :
    Extends (resolveParameter ctx (some (recheck ctx)) m p).1 (c.check ctx id).1 := by
  obtain ⟨r, construction, before, after, resolved, hr, hnamed, hconstruction, hparameters,
    hbefore⟩ := h
  rw [check_eq_checkWith, checkWith_eq_andThen, hr]
  simp only [hnamed, Bool.not_true, Bool.false_eq_true, if_false, hconstruction, hparameters]
  rw [resolveParameters_append, hbefore, Step.andThen_ok, resolveParameters_cons]
  refine ((Step.extends_andThen _ fun after first => ?_).trans
    (Step.extends_andThen _ fun after second => Extends.refl after)).trans
    (Step.extends_andThen _ fun after parameters => extends_conclude ctx after id _)
  exact (extends_resolveParameters after _).trans
    (Step.extends_andThen _ fun after others => Extends.refl after)

/-- What a nested check leaves is there when the check around it has ended. -/
theorem Descends.extends_check (h : c.Descends ctx id count start nested) :
    Extends (start.check ctx nested).1 (c.check ctx id).1 := by
  induction h with
  | outset => exact Extends.refl _
  | enter _ hattempts hdepth ih =>
    obtain ⟨p, hp, hkey, rfl⟩ := hattempts.comes
    have hchecked := hp.extends_check
    rw [hattempts.opens.resolveParameter_entered hkey hattempts.new hdepth] at hchecked
    exact ((extends_left _).trans hchecked).trans ih

/-! What a specialization is registered as, and where that leads. -/

/-- `source` closed over the arguments of `target`, registered under a type of its own. -/
def closedAs (target : TypeExpr) (source : Registration) (type : TypeExpr)
    (implementation : Option TypeExpr) : Service where
  type := type
  lifetime := source.lifetime
  implementation := implementation
  member := source.member.map (·.substitute (source.resolvedType.bindings target))

theorem Opens.register_entered (hm : m.Coherent ctx) (hopens : m.Opens ctx target source) :
    (m.entered ctx target source).register = m.register ++
      closedAs target source (closedType target source) none ::
        (servedBases ctx (closedType target source)).map fun base =>
          closedAs target source base (some (closedType target source)) := by
  have hkey :
      closedOver target source = closedAs target source (closedType target source) none := by
    rw [closedOver, hopens.key_eq_none hm]
    rfl
  change (m.addSpecialization ctx (closedOver target source)).register = _
  rw [hkey, register_addSpecialization]
  rfl

theorem Opens.placed_entered (hm : m.Coherent ctx) (hopens : m.Opens ctx target source)
    (hnew : m.underKey source.key (m.servicesFor (closedType target source)) = []) :
    (m.entered ctx target source).Placed ctx m.size (closedOver target source) :=
  (placed_addSpecialization hm hopens hnew).grow
    (Grows.of_eq rfl rfl rfl rfl (List.prefix_refl _))

/-- Nothing that is added with a specialization is a shape of a collection, now or later. -/
theorem not_isShape_of_entered (hm : m.Coherent ctx)
    (hgrows : (m.entered ctx target source).Grows d) (hle : m.size ≤ id)
    (hid : id < (m.entered ctx target source).size) : ¬ d.IsShape id := by
  intro hshape
  have hentered := hgrows.isShape_of_lt hid hshape
  have hfamilies : (m.entered ctx target source).families = m.families :=
    addSpecialization_view (·.families) ctx (fun _ _ => rfl) enlist_families m _
  have hbefore : m.IsShape id := by
    unfold IsShape at hentered ⊢
    rwa [hfamilies] at hentered
  exact absurd (hm.lt_of_isShape hbefore) (Nat.not_lt_of_le hle)

/-- A specialization holds no elements, now or later. -/
theorem isEmptyCollection_of_entered (hm : m.Coherent ctx)
    (hgrows : (m.entered ctx target source).Grows d) : d.isEmptyCollection m.size = false := by
  have hadded : Extends (m.add ctx (closedOver target source)) (m.entered ctx target source) :=
    (addSpecialization_induct m (closedOver target source) (extends_note _ _)
      (fun b _ _ hb => hb.trans (extends_add b ctx _))
      fun b element hb => hb.trans (extends_enlist b element _)).trans (extends_depth _ _)
  have hgrows := (hadded (hm.add _).collect).2.trans hgrows
  unfold isEmptyCollection
  cases hr : d.registration? m.size with
  | none => rfl
  | some r =>
    have hnone : r.collected = none := by
      refine Option.not_isSome_iff_eq_none.1 fun hcollects => ?_
      have hlt : m.size < (m.add ctx (closedOver target source)).size := by
        rw [size_add]
        exact Nat.lt_succ_self _
      obtain ⟨old, hold, hcollected⟩ := hgrows.collects_of_lt hlt hr hcollects
      rw [registration?_add, if_pos rfl] at hold
      obtain rfl := Option.some.inj hold
      cases hcollected
    simp [Registration.isEmptyCollection, hnone]

theorem underKey_eq_singleton (hc : c.Listed) {key : Option String} {type : TypeExpr}
    {service : Service} (hid : c.register[id]? = some service) (htype : service.type.same type)
    (hkey : service.key = key) (hone : (c.underKey key (c.servicesFor type)).length = 1) :
    c.underKey key (c.servicesFor type) = [id] := by
  obtain ⟨only, honly⟩ := List.length_eq_one_iff.1 hone
  have hmem := (mem_underKey_servicesFor hc).2 ⟨service, hid, htype, hkey⟩
  rw [honly] at hmem ⊢
  rw [List.mem_singleton.1 hmem]

/-- The one registration of a base is led to the one registration of the closed type. -/
theorem Placed.follow_base {closed : RegistrationId} {template : Service}
    (h : d.Placed ctx closed template) (hd : d.Listed) (hkey : template.key = none)
    {base : TypeExpr} {i : Nat} (hbase : (servedBases ctx template.type)[i]? = some base)
    (hshape : ¬ d.IsShape (closed + 1 + i))
    (hone : (d.underKey none (d.servicesFor template.type)).length = 1) :
    d.follow ctx (closed + 1 + i) = closed := by
  have hother : ¬ template.type.same base := by
    have hserved := (List.mem_filter.1 (List.mem_of_getElem? hbase)).2
    rw [TypeExpr.same_comm]
    simp at hserved
    simp [hserved.2]
  have hmirror : (mirrorOf template template.type base).key = none := hkey
  rw [follow_eq_pick hshape (h.bases i base hbase) rfl hother, hmirror,
    underKey_eq_singleton hd h.registered (TypeExpr.same_refl _) hkey hone]
  rfl

/-- The one registration of a base is of the specialization, which is what a request selects. -/
theorem Opens.selectAmong_base (hm : m.Coherent ctx) (hopens : m.Opens ctx target source)
    (hnew : m.underKey source.key (m.servicesFor (closedType target source)) = [])
    (hd : d.Listed) (hgrows : (m.entered ctx target source).Grows d)
    (hone : (d.underKey none (d.servicesFor (closedType target source))).length = 1)
    {base : TypeExpr} (hbase : base ∈ servedBases ctx (closedType target source))
    (hbaseOne : (d.underKey none (d.servicesFor base)).length = 1) (requireNonEmpty : Bool) :
    d.selectAmong ctx none requireNonEmpty (d.servicesFor base) = .selected m.size := by
  have hentered := hopens.placed_entered hm hnew
  have hplaced := hentered.grow hgrows
  have htemplate : (closedOver target source).key = none := hopens.key_eq_none hm
  obtain ⟨i, hi⟩ := List.mem_iff_getElem?.1 hbase
  have hshape : ¬ d.IsShape (m.size + 1 + i) :=
    not_isShape_of_entered hm hgrows (by omega) (lt_of_register (hentered.bases i base hi))
  have hunder := underKey_eq_singleton hd (hplaced.bases i base hi) (TypeExpr.same_refl base)
    htemplate hbaseOne
  rw [selectAmong_single _ hunder, hplaced.follow_base hd htemplate hi hshape hone,
    isEmptyCollection_of_entered hm hgrows, Bool.and_false]
  rfl

/-- What specializing adds, before the specialization is checked, is the closed type and then its
bases, in the order in which the program lists them, without those that are ignored and the closed
type itself: all of them without a key, with the lifetime of what was open and with its member,
closed over the same arguments. The rest is the check, and whether it passes or fails, everything is
there later. Wherever it is, and the closed type has one registration without a key and the base has
one, a request for the base selects the specialization, asks nobody and changes nothing. -/
theorem bases_lead_to_specialization (hc : Reachable ctx c)
    (hdescends : c.Descends ctx id count start nested)
    (hattempts : start.Attempts ctx nested m target source)
    (hdepth : m.specializationDepth < ctx.settings.maxSpecializationDepth) :
    (∀ requireNonEmpty, resolveTarget ctx (some (recheck ctx)) m none target requireNonEmpty =
        let checked := (m.entered ctx target source).check ctx m.size
        (checked.1.left, checked.2.map fun _ => .selected m.size)) ∧
      (m.entered ctx target source).register = m.register ++
        closedAs target source (closedType target source) none ::
          (servedBases ctx (closedType target source)).map (fun base =>
            closedAs target source base (some (closedType target source))) ∧
      (∀ d, Evolves ctx (c.check ctx id).1 d → (m.entered ctx target source).Grows d) ∧
      ∀ d, d.Midway ctx → (m.entered ctx target source).Grows d →
        (d.underKey none (d.servicesFor (closedType target source))).length = 1 →
        ∀ base ∈ servedBases ctx (closedType target source),
          (d.underKey none (d.servicesFor base)).length = 1 →
          ∀ (check : Option Check) (q : Parameter), q.key = none → (requested ctx q).same base →
            ∃ resolved, resolveParameter ctx check d q = (d, .ok resolved) ∧
              resolved.outcome = .selected m.size := by
  obtain ⟨p, hp, -, -⟩ := hattempts.comes
  have hopens := hattempts.opens
  have hm : m.Coherent ctx := (Midway.within hc hdescends hp).arranged.coherent
  refine ⟨fun requireNonEmpty => ?_, hopens.register_entered hm, fun d hd => ?_,
    fun d hd hgrows hone base hbase hbaseOne check q hkey hrequested => ?_⟩
  · rw [hopens.resolveTarget_eq, specializeFrom_entered hopens.arity hattempts.new hdepth]
    rfl
  · have hentered : (m.entered ctx target source).Coherent ctx :=
      (maintained_coherent ctx).entered hopens hattempts.new hm
    have hlater := (((kept_extends ctx).check _ m.size).trans
      (hdescends.enter hattempts hdepth).extends_check).trans hd.extends
    exact (hlater hentered.collect).2
  · have hselected : d.selectAmong ctx q.key q.requiresNonEmpty
        (d.servicesFor (requested ctx q)) = .selected m.size := by
      rw [hkey, servicesFor_of_same hrequested]
      exact hopens.selectAmong_base hm hattempts.new hd.arranged.coherent.listed hgrows hone hbase
        hbaseOne _
    have hsome : d.servicesFor (requested ctx q) ≠ [] := by
      rw [servicesFor_of_same hrequested]
      intro hnil
      rw [hnil] at hbaseOne
      cases hbaseOne
    have htarget : resolveTarget ctx check d q.key (requested ctx q) q.requiresNonEmpty =
        (d, .ok (.selected m.size)) := by
      rw [resolveTarget_served _ _ (Or.inl hsome), hselected]
    exact ⟨_, resolveParameter_of_declared htarget nofun, outcome_concluded nofun⟩

namespace Mailboxes

def user : TypeExpr := ⟨.classType, "app::User", [], false⟩
def object : TypeExpr := ⟨.classType, "core::Object", [], false⟩
def reader : TypeExpr := ⟨.classType, "app::Reader", [], false⟩
def sender : TypeExpr := ⟨.classType, "app::Sender", [], false⟩
def owner : TypeExpr := ⟨.parameter, "T", [], false⟩

def inbox (owner : TypeExpr) : TypeExpr := ⟨.interfaceType, "app::Inbox", [owner], false⟩
def outbox (owner : TypeExpr) : TypeExpr := ⟨.interfaceType, "app::Outbox", [owner], false⟩
def mailbox (owner : TypeExpr) : TypeExpr := ⟨.classType, "app::Mailbox", [owner], false⟩

def received : Parameter := ⟨"received", inbox user, [], none⟩
def sent : Parameter := ⟨"sent", outbox user, [], none⟩

def readerMethod : Method :=
  ⟨Method.constructorName, .publicAccess, false, [received], none⟩

def catalog : Catalog := .ofDefinitions [
  .declaring (inbox owner) [] [],
  .declaring (outbox owner) [] [],
  { Definition.built (mailbox owner) [] with bases := [object, inbox owner, outbox owner] },
  .built reader [received],
  .built sender [sent]]

def context : Context := { program := catalog.program }

def openInbox : Registration :=
  { type := inbox owner, lifetime := .scoped, implementation := some (mailbox owner), id := 0,
    indexForType := 0, disposable := false, asyncDisposable := false }

def registered : Container := empty.addAll context [
  openInbox.toService, { type := reader, lifetime := .scoped }]

theorem reachable : Reachable context registered := Evolves.refl.addAll _

theorem opens : registered.Opens context (inbox user) openInbox where
  unserved := by decide +kernel
  noCollection := by decide +kernel
  generic := by decide +kernel
  opened := ⟨inbox owner, 0, by decide +kernel, by decide +kernel, by decide +kernel⟩
  arity := by decide +kernel

/-- The check of the reader comes to the inbox of users first. -/
theorem comes : registered.Comes context 1 registered received :=
  ⟨_, .constructor readerMethod, [], [], [], rfl, by decide +kernel, by decide +kernel, rfl, rfl⟩

theorem attempts : registered.Attempts context 1 registered (inbox user) openInbox where
  comes := ⟨received, comes, rfl, by decide +kernel⟩
  opens := opens
  new := by decide +kernel

/-- The reader was checked, and then the sender was registered. -/
def later : Container :=
  (registered.check context 1).1.add context { type := sender, lifetime := .scoped }

end Mailboxes

/-- The mailbox of users was closed for the reader, who asked for an inbox. The sender asks for an
outbox, and comes to the same mailbox. -/
theorem sender_shares_mailbox :
    Mailboxes.later.register.map (·.type) =
        [Mailboxes.inbox Mailboxes.owner, Mailboxes.reader, Mailboxes.mailbox Mailboxes.user,
          Mailboxes.inbox Mailboxes.user, Mailboxes.outbox Mailboxes.user, Mailboxes.sender] ∧
      ∃ resolved, resolveParameter Mailboxes.context (inner Mailboxes.context 16) Mailboxes.later
          Mailboxes.sent = (Mailboxes.later, .ok resolved) ∧
        resolved.outcome = .selected 2 := by
  obtain ⟨-, -, hgrows, hleads⟩ :=
    bases_lead_to_specialization Mailboxes.reachable .outset Mailboxes.attempts (by decide +kernel)
  have hlater : Evolves Mailboxes.context (Mailboxes.registered.check Mailboxes.context 1).1
      Mailboxes.later := Evolves.refl.add _
  have hmidway : Mailboxes.later.Midway Mailboxes.context :=
    .between ((Mailboxes.reachable.check 1).add _)
  exact ⟨by decide +kernel,
    hleads Mailboxes.later hmidway (hgrows _ hlater) (by decide +kernel)
      (Mailboxes.outbox Mailboxes.user) (by decide +kernel) (by decide +kernel) _ Mailboxes.sent rfl
      (by decide +kernel)⟩

end Wiring.Container
