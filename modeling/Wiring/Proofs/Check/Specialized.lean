import Wiring.Proofs.Check.Membership

/-!
Specializations. A closed type is specialized only where no registration without a key has it yet;
a specialization is registered before it is checked and stays when its check fails, so however often
and by whatever name it is asked for, it is made once. Nothing that checks register has a key, or
such a registration could be missed by the next request.
-/

namespace Wiring.Container

variable {ctx : Context} {count : Nat} {a b c : Container}

/-- No registration has a key but perhaps one of the first `count`. -/
def UnkeyedFrom (count : Nat) (c : Container) : Prop :=
  ∀ id service, count ≤ id → c.register[id]? = some service → service.key = none

theorem UnkeyedFrom.append (h : a.UnkeyedFrom count) {new : List Service}
    (hregister : b.register = a.register ++ new) (hnew : ∀ service ∈ new, service.key = none) :
    b.UnkeyedFrom count := by
  intro id service hle hid
  rw [hregister, List.getElem?_append] at hid
  split at hid
  · exact h id service hle hid
  · exact hnew service (List.mem_of_getElem? hid)

theorem maintained_unkeyedFrom (ctx : Context) (count : Nat) :
    Maintained ctx fun c => c.Coherent ctx ∧ c.UnkeyedFrom count where
  congr := by
    rintro a b hrestates ⟨ha, h⟩
    refine ⟨(maintained_coherent ctx).congr hrestates ha, fun id service hle hid => ?_⟩
    rw [hrestates.register] at hid
    exact h id service hle hid
  family hfree helement hnew := by
    rintro ⟨hc, h⟩
    exact ⟨(maintained_coherent ctx).family hfree helement hnew hc,
      h.append (register_addFamily _ ctx _ _) fun _ hshape => (anonymous_of_mem_shapesOf hshape).1⟩
  redirect hopens hold hother := by
    rintro ⟨hc, h⟩
    refine ⟨(maintained_coherent ctx).redirect hopens hold hother hc,
      h.append (register_add _ ctx _) fun service hservice => ?_⟩
    rw [List.mem_singleton.1 hservice]
    exact hopens.key_eq_none hc
  specialize hopens hnew := by
    rintro ⟨hc, h⟩
    refine ⟨(maintained_coherent ctx).specialize hopens hnew hc,
      h.append (register_addSpecialization _ ctx _) fun service hservice => ?_⟩
    rcases List.mem_cons.1 hservice with rfl | hbase
    · exact hopens.key_eq_none hc
    · obtain ⟨base, -, rfl⟩ := List.mem_map.1 hbase
      exact hopens.key_eq_none hc

/-- Every specialization on record has no key and is the first of its type. -/
structure Specialized (ctx : Context) (c : Container) : Prop where
  coherent : c.Coherent ctx
  placed (closed : RegistrationId) : .specialized closed ∈ c.journal →
    ∃ template, c.Placed ctx closed template ∧ template.key = none

theorem Specialized.extend (h : a.Specialized ctx) (hb : b.Coherent ctx) (hgrows : a.Grows b)
    (hjournal : ∀ closed, .specialized closed ∈ b.journal → .specialized closed ∈ a.journal ∨
      ∃ template, b.Placed ctx closed template ∧ template.key = none) :
    b.Specialized ctx := by
  refine ⟨hb, fun closed hclosed => ?_⟩
  rcases hjournal closed hclosed with hold | hnew
  · obtain ⟨template, hplaced, hkey⟩ := h.placed closed hold
    exact ⟨template, hplaced.grow hgrows, hkey⟩
  · exact hnew

theorem maintained_specialized (ctx : Context) : Maintained ctx (Specialized ctx) where
  congr hrestates h := h.extend ((maintained_coherent ctx).congr hrestates h.coherent)
    hrestates.grows fun closed hclosed => Or.inl (hrestates.specialized closed hclosed)
  family hfree helement hnew h :=
    h.extend ((maintained_coherent ctx).family hfree helement hnew h.coherent)
      (grows_addFamily _ ctx _ hnew) fun _ hclosed => Or.inl hclosed
  redirect hopens hold hother h :=
    h.extend ((maintained_coherent ctx).redirect hopens hold hother h.coherent)
      (grows_add _ ctx _) fun _ hclosed => Or.inl hclosed
  specialize := by
    intro c target source hopens hnew h
    let template := closedOver target source
    have hjournal : (c.addSpecialization ctx template).journal =
        c.journal ++ [.specialized c.size] :=
      addSpecialization_view (·.journal) ctx (fun _ _ => rfl) enlist_journal c template
    refine h.extend ((maintained_coherent ctx).specialize hopens hnew h.coherent)
      (extends_addSpecialization c ctx template h.coherent.collect).2 fun closed hclosed => ?_
    rw [hjournal] at hclosed
    rcases List.mem_append.1 hclosed with hold | hlast
    · exact Or.inl hold
    · cases List.mem_singleton.1 hlast
      exact Or.inr ⟨template, placed_addSpecialization h.coherent hopens hnew,
        hopens.key_eq_none h.coherent⟩

theorem Reachable.specialized (hc : Reachable ctx c) : c.Specialized ctx := by
  refine hc.invariant ?_ (fun b service hb => ?_)
    fun b id hb => (maintained_specialized ctx).kept.check b id hb
  · exact ⟨coherent_empty ctx,
      fun closed hclosed => absurd hclosed List.not_mem_nil⟩
  · exact hb.extend (hb.coherent.add service) (grows_add b ctx service) fun _ hclosed =>
      Or.inl hclosed

/-- Of two specializations of one type the later would not be the first registration of it. -/
theorem Specialized.unique (h : c.Specialized ctx) {first second : RegistrationId}
    (hfirst : .specialized first ∈ c.journal) (hsecond : .specialized second ∈ c.journal)
    {service other : Service} (hservice : c.register[first]? = some service)
    (hother : c.register[second]? = some other) (hsame : service.type.same other.type) :
    first = second := by
  obtain ⟨template, hplaced, hkey⟩ := h.placed first hfirst
  obtain ⟨template', hplaced', hkey'⟩ := h.placed second hsecond
  obtain rfl := Option.some.inj (hplaced.registered.symm.trans hservice)
  obtain rfl := Option.some.inj (hplaced'.registered.symm.trans hother)
  rcases Nat.lt_trichotomy first second with hlt | heq | hlt
  · exact absurd hsame (hplaced'.first first template hlt hservice hkey)
  · exact heq
  · rw [TypeExpr.same_comm] at hsame
    exact absurd hsame (hplaced.first second template' hlt hother hkey')

/-- What a check registers has a known origin, and no key. -/
theorem origin_of_check (hc : c.Coherent ctx) (id : RegistrationId) {other : RegistrationId}
    {service : Service} (hle : c.size ≤ other)
    (hother : (c.check ctx id).1.register[other]? = some service) :
    (c.check ctx id).1.Origin ctx other service ∧ service.key = none := by
  have hnone (place : RegistrationId) (s : Service) (hplace : c.size ≤ place)
      (hs : c.register[place]? = some s) : False :=
    absurd (lt_of_register hs) (Nat.not_lt_of_le hplace)
  have horigin := (maintained_originates ctx c.size).kept.check c id
    ⟨hc, fun place s hplace hs => (hnone place s hplace hs).elim⟩
  have hunkeyed := (maintained_unkeyedFrom ctx c.size).kept.check c id
    ⟨hc, fun place s hplace hs => (hnone place s hplace hs).elim⟩
  exact ⟨horigin.2 other service hle hother, hunkeyed.2 other service hle hother⟩

/-- Whatever was registered and checked, and however the checks came out: a specialization was the
first registration of its type without a key when it was made, there is no other one of its type,
and all that checks register, specializations, their bases and aliases among it, is without a
key. -/
theorem specialized_once (hc : Reachable ctx c) :
    (∀ id, .specialized id ∈ c.journal →
        ∃ service, c.register[id]? = some service ∧ service.key = none ∧
          ∀ earlier < id, ∀ other, c.register[earlier]? = some other → other.key = none →
            ¬ other.type.same service.type) ∧
      (∀ first second service other, .specialized first ∈ c.journal →
        .specialized second ∈ c.journal → c.register[first]? = some service →
        c.register[second]? = some other → service.type.same other.type → first = second) ∧
      ∀ id other service, c.size ≤ other →
        (c.check ctx id).1.register[other]? = some service →
        (c.check ctx id).1.Origin ctx other service ∧ service.key = none := by
  have h := hc.specialized
  refine ⟨fun id hid => ?_, fun first second service other hfirst hsecond hservice hother hsame =>
    h.unique hfirst hsecond hservice hother hsame,
    fun id other service hle hother => origin_of_check h.coherent id hle hother⟩
  obtain ⟨template, hplaced, hkey⟩ := h.placed id hid
  exact ⟨template, hplaced.registered, hkey, fun earlier hlt other hother =>
    hplaced.first earlier other hlt hother⟩

namespace Sessions

def user : TypeExpr := ⟨.classType, "app::User", [], false⟩
def clock : TypeExpr := ⟨.classType, "app::Clock", [], false⟩
def chat : TypeExpr := ⟨.classType, "app::Chat", [], false⟩
def lobby : TypeExpr := ⟨.classType, "app::Lobby", [], false⟩
def entity : TypeExpr := ⟨.parameter, "T", [], false⟩

def channel (peer : TypeExpr) : TypeExpr := ⟨.interfaceType, "app::Channel", [peer], false⟩
def feed (peer : TypeExpr) : TypeExpr := ⟨.interfaceType, "app::Feed", [peer], false⟩
def session (peer : TypeExpr) : TypeExpr := ⟨.classType, "app::Session", [peer], false⟩
def lazy (type : TypeExpr) : TypeExpr := ⟨.classType, "core::Lazy", [type], false⟩

/-- A session asks for the channel it serves as, and for a clock, which nobody registers. -/
def catalog : Catalog := .ofDefinitions [
  .declaring (channel entity) [] [],
  .declaring (feed entity) [] [],
  { Definition.built (session entity)
      [⟨"peer", lazy (channel entity), [], none⟩, ⟨"clock", clock, [], none⟩] with
    bases := [channel entity] },
  .built chat [⟨"channel", channel user, [], none⟩],
  .built lobby [⟨"session", session user, [], none⟩, ⟨"feed", feed user, [], none⟩]]

def context : Context := { program := catalog.program }

def registered : Container := empty.addAll context [
  { type := channel entity, lifetime := .scoped, implementation := some (session entity) },
  { type := feed entity, lifetime := .scoped, implementation := some (session entity) },
  { type := chat, lifetime := .scoped },
  { type := lobby, lifetime := .scoped }]

/-- The chat was checked, then the lobby. -/
def container : Container := ((registered.check context 2).1.check context 3).1

theorem reachable : Reachable context container := ((Evolves.refl.addAll _).check 2).check 3

end Sessions

/-- The session of users was asked for as a channel, from inside its own construction, then under
its own name, and as a feed, for which there is an alias now. It failed the first time and is there
once; no later check can make another one. -/
theorem sessions_specialized_once :
    (Sessions.registered.check Sessions.context 2).passes = false ∧
      Sessions.container.register.map (·.type) =
        [Sessions.channel Sessions.entity, Sessions.feed Sessions.entity, Sessions.chat,
          Sessions.lobby, Sessions.session Sessions.user, Sessions.channel Sessions.user,
          Sessions.feed Sessions.user] ∧
      (∃ service, Sessions.container.register[4]? = some service ∧ service.key = none ∧
        ∀ earlier < 4, ∀ other, Sessions.container.register[earlier]? = some other →
          other.key = none → ¬ other.type.same service.type) ∧
      ∀ id, .specialized id ∈ Sessions.container.journal → ∀ service,
        Sessions.container.register[id]? = some service →
        service.type.same (Sessions.session Sessions.user) → id = 4 := by
  obtain ⟨hfirst, hunique, -⟩ := specialized_once Sessions.reachable
  have hspecialized : .specialized 4 ∈ Sessions.container.journal := by decide +kernel
  refine ⟨by decide +kernel, by decide +kernel, hfirst 4 hspecialized, ?_⟩
  intro id hid service hservice hsame
  obtain ⟨session, hsession, -⟩ := hfirst 4 hspecialized
  have htype : (Sessions.container.register[4]?).map (·.type) =
      some (Sessions.session Sessions.user) := by decide +kernel
  rw [hsession] at htype
  have htype : session.type = Sessions.session Sessions.user := Option.some.inj htype
  refine hunique id 4 service session hid hspecialized hservice hsession ?_
  rwa [htype]

end Wiring.Container
