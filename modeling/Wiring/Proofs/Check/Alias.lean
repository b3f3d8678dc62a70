import Wiring.Proofs.Check.Findings
import Wiring.Proofs.Check.Follow

/-!
Aliases. Where the open registration of its definition closes a type to another one that is
registered already, a request for the type is served by what is registered, and an alias leads there
from then on. But the registrations of the other type are not searched as a request for that type
searches them: the first one is taken, however many there are, and it is not followed.
-/

namespace Wiring.Container

open Forecast (requested)

variable {ctx : Context} {c : Container} {service : Service} {source : Registration}
  {target : TypeExpr} {id first : RegistrationId} {rest : List RegistrationId}

theorem underKey_servicesFor_add (hc : c.Listed) (key : Option String) {type : TypeExpr}
    (hother : ¬ service.type.same type) :
    (c.add ctx service).underKey key ((c.add ctx service).servicesFor type) =
      c.underKey key (c.servicesFor type) := by
  rw [servicesFor_add, if_neg hother]
  refine List.filter_congr fun id hid => ?_
  rw [registration?_add_of_lt (hc.lt hid)]

/-- No shape of a collection is of a type that names no element. -/
theorem Coherent.not_isShape (hc : c.Coherent ctx) (hid : c.register[id]? = some service)
    (helement : ctx.settings.collectionElement? service.type = none) : ¬ c.IsShape id := by
  intro hshaped
  obtain ⟨_, shape, hshape, hregister⟩ := hc.shape_of_isShape hshaped
  obtain rfl := Option.some.inj (hregister.symm.trans hid)
  rw [collectionElement?_of_mem_shapesOf hshape] at helement
  cases helement

theorem selectAmong_several {key : Option String} {ids : List RegistrationId}
    (requireNonEmpty : Bool) (h : c.underKey key ids = first :: rest) (hrest : rest ≠ []) :
    c.selectAmong ctx key requireNonEmpty ids = .ambiguous (first :: rest) := by
  obtain ⟨second, others, rfl⟩ := List.exists_cons_of_ne_nil hrest
  rw [selectAmong, h]

/-- The first registration is selected where it is the only one and leads nowhere else. -/
theorem selectAmong_eq_selected {key : Option String} {ids : List RegistrationId}
    (requireNonEmpty : Bool) (h : c.underKey key ids = first :: rest) :
    c.selectAmong ctx key requireNonEmpty ids = .selected first ↔
      rest = [] ∧ c.follow ctx first = first ∧
        ¬ (requireNonEmpty && c.isEmptyCollection first) := by
  by_cases hrest : rest = []
  · subst hrest
    rw [selectAmong_single requireNonEmpty h]
    split
    · next hempty =>
      refine iff_of_false nofun fun ⟨_, hself, hnonempty⟩ => hnonempty ?_
      rwa [hself] at hempty
    · next hnonempty =>
      refine ⟨fun hselected => ?_, fun ⟨_, hself, _⟩ => by rw [hself]⟩
      have hself : c.follow ctx first = first := Outcome.selected.inj hselected
      rw [hself] at hnonempty
      exact ⟨rfl, hself, hnonempty⟩
  · rw [selectAmong_several requireNonEmpty h hrest]
    exact iff_of_false nofun fun hsingle => hrest hsingle.1

theorem resolveParameter_among {check : Option Check} {parameter : Parameter}
    (hsome : c.servicesFor (requested ctx parameter) ≠ []) :
    (resolveParameter ctx check c parameter).2 =
      .ok (concluded ctx parameter (c.selectAmong ctx parameter.key parameter.requiresNonEmpty
        (c.servicesFor (requested ctx parameter)))) := by
  rw [resolveParameter_snd, resolveTarget_served _ _ (Or.inl hsome)]
  rfl

/-- What leads requests for `target` to the type that `source` is closed to. -/
abbrev aliasFor (target : TypeExpr) (source : Registration) : Service :=
  aliasOf target (closedType target source) source

/-- The first registration of the closed type is taken. -/
theorem Opens.resolveParameter_eq {parameter : Parameter} (hc : c.Coherent ctx)
    (hopens : c.Opens ctx (requested ctx parameter) source) (hkey : parameter.key = none)
    (hother : ¬ (closedType (requested ctx parameter) source).same (requested ctx parameter))
    (hids : c.underKey none (c.servicesFor (closedType (requested ctx parameter) source)) =
      first :: rest) (check : Option Check) :
    resolveParameter ctx check c parameter =
      (c.add ctx (aliasFor (requested ctx parameter) source),
        .ok (concluded ctx parameter (.selected first))) := by
  refine resolveParameter_of_declared ?_ nofun
  rw [hkey, hopens.resolveTarget_eq]
  simp only [specializeFrom, hopens.arity, ne_eq, not_true, if_false, hopens.key_eq_none hc, hids,
    if_neg hother]

/-- The alias leads to the one registration of the closed type; to itself, where there are more. -/
theorem Opens.follow_alias (hc : c.Coherent ctx) (hopens : c.Opens ctx target source)
    (hother : ¬ (closedType target source).same target)
    (hids : c.underKey none (c.servicesFor (closedType target source)) = first :: rest) :
    (c.add ctx (aliasFor target source)).follow ctx c.size =
      if rest = [] then first else c.size := by
  have hregister : (c.add ctx (aliasFor target source)).register[c.size]? =
      some (aliasFor target source) := by
    rw [register_add_eq, if_pos rfl]
    rfl
  have hshape := (hc.add (aliasFor target source)).not_isShape hregister hopens.noCollection
  have hother' : ¬ target.same (closedType target source) := by
    rwa [TypeExpr.same_comm]
  rw [follow_eq_pick hshape hregister rfl hother,
    show (aliasFor target source).key = none from hopens.key_eq_none hc,
    underKey_servicesFor_add hc.listed none hother', hids]
  cases rest <;> rfl

theorem isEmptyCollection_alias (c : Container) (ctx : Context) (target : TypeExpr)
    (source : Registration) :
    (c.add ctx (aliasFor target source)).isEmptyCollection c.size = false := by
  rw [isEmptyCollection, registration?_add, if_pos rfl]
  rfl

/-- Asked for again, the type comes to what the alias leads to. -/
theorem Opens.selectAmong_alias (hc : c.Coherent ctx) (hopens : c.Opens ctx target source)
    (hother : ¬ (closedType target source).same target)
    (hids : c.underKey none (c.servicesFor (closedType target source)) = first :: rest)
    (requireNonEmpty : Bool) :
    (c.add ctx (aliasFor target source)).servicesFor target ≠ [] ∧
    (c.add ctx (aliasFor target source)).selectAmong ctx none requireNonEmpty
        ((c.add ctx (aliasFor target source)).servicesFor target) =
      if rest = [] then
        if requireNonEmpty && c.isEmptyCollection first then .undeclared else .selected first
      else .selected c.size := by
  have hservices : (c.add ctx (aliasFor target source)).servicesFor target = [c.size] := by
    have htype : (aliasFor target source).type.same target := TypeExpr.same_refl target
    rw [servicesFor_add, if_pos htype, hopens.unserved]
    rfl
  have hunder : (c.add ctx (aliasFor target source)).underKey none [c.size] = [c.size] := by
    have hkey : (aliasFor target source).key = none := hopens.key_eq_none hc
    simp [underKey, registration?_add, registrationOf, hkey]
  have hfirst : first < c.size :=
    hc.listed.lt (mem_underKey.1 (hids ▸ List.mem_cons_self)).1
  rw [hservices]
  refine ⟨List.cons_ne_nil _ _, ?_⟩
  rw [selectAmong_single requireNonEmpty hunder, hopens.follow_alias hc hother hids]
  split
  · rw [isEmptyCollection_add hfirst]
  · rw [isEmptyCollection_alias, Bool.and_false]
    rfl

/-- A type that is closed to a registered one is always served by the first registration of that
one, whatever else is registered. A request for the other type itself comes to the same exactly
where that registration is the only one, leads nowhere else, and is not an empty collection that the
request has no use for; with several registrations it is ambiguous. The request through the open
registration does not even agree with itself: repeated, it goes by the alias, which leads to the
registration where it is the only one, and else is selected itself. -/
theorem alias_agrees_iff (hc : c.Midway ctx) {p q : Parameter} (hp : p.key = none)
    (hq : q.key = none) (hopens : c.Opens ctx (requested ctx p) source)
    (hother : ¬ (closedType (requested ctx p) source).same (requested ctx p))
    (himplementation : (requested ctx q).same (closedType (requested ctx p) source))
    (hids : c.underKey none (c.servicesFor (closedType (requested ctx p) source)) = first :: rest)
    (check : Option Check) :
    ∃ aliased direct again,
      resolveParameter ctx check c p =
        (c.add ctx (aliasFor (requested ctx p) source), .ok aliased) ∧
      (resolveParameter ctx check c q).2 = .ok direct ∧
      (resolveParameter ctx check (c.add ctx (aliasFor (requested ctx p) source)) p).2 =
        .ok again ∧
      aliased.outcome = .selected first ∧
      (rest ≠ [] → direct.outcome = .ambiguous (first :: rest) ∧
        again.outcome = .selected c.size) ∧
      (direct.outcome = aliased.outcome ↔ rest = [] ∧ c.follow ctx first = first ∧
        ¬ (q.requiresNonEmpty && c.isEmptyCollection first)) := by
  have hcoherent := hc.arranged.coherent
  have hservices : c.servicesFor (requested ctx q) =
      c.servicesFor (closedType (requested ctx p) source) := servicesFor_of_same himplementation
  have hsome : c.servicesFor (requested ctx q) ≠ [] := by
    intro hnil
    rw [← hservices, hnil] at hids
    cases hids
  obtain ⟨hagain, hselected⟩ :=
    hopens.selectAmong_alias hcoherent hother hids p.requiresNonEmpty
  refine ⟨_, _, _, hopens.resolveParameter_eq hcoherent hp hother hids check,
    resolveParameter_among hsome, resolveParameter_among hagain, ?_⟩
  rw [hp, hq, hservices, hselected]
  have haliased : (concluded ctx p (.selected first)).outcome = .selected first :=
    outcome_concluded nofun
  rw [haliased]
  refine ⟨rfl, fun hrest => ?_,
    outcome_concluded_eq_selected.trans (selectAmong_eq_selected _ hids)⟩
  rw [selectAmong_several _ hids hrest, if_neg hrest]
  exact ⟨outcome_concluded nofun, outcome_concluded nofun⟩

namespace Feeds

def user : TypeExpr := ⟨.classType, "app::User", [], false⟩
def item : TypeExpr := ⟨.parameter, "T", [], false⟩

def feed (item : TypeExpr) : TypeExpr := ⟨.interfaceType, "app::Feed", [item], false⟩
def stream (item : TypeExpr) : TypeExpr := ⟨.classType, "app::Stream", [item], false⟩

def asFeed : Parameter := ⟨"users", feed user, [], none⟩
def asStream : Parameter := ⟨"users", stream user, [], none⟩

def catalog : Catalog := .ofDefinitions [
  .declaring (feed item) [] [],
  { Definition.built (stream item) [] with bases := [feed item] }]

def context : Context := { program := catalog.program }

/-- Feeds are streams, and there are two streams of users. -/
def registered : Container := empty.addAll context [
  { type := feed item, lifetime := .scoped, implementation := some (stream item) },
  { type := stream user, lifetime := .scoped },
  { type := stream user, lifetime := .singleton }]

def openFeed : Registration :=
  { type := feed item, lifetime := .scoped, implementation := some (stream item), id := 0,
    indexForType := 0, disposable := false, asyncDisposable := false }

theorem reachable : Reachable context registered := Evolves.refl.addAll _

theorem opens : registered.Opens context (requested context asFeed) openFeed where
  unserved := by decide +kernel
  noCollection := by decide +kernel
  generic := by decide +kernel
  opened := ⟨feed item, 0, by decide +kernel, by decide +kernel, by decide +kernel⟩
  arity := by decide +kernel

/-- What the users come to. -/
def outcome (c : Container) (parameter : Parameter) : Option Outcome :=
  (resolveParameter context (inner context 16) c parameter).2.toOption.map (·.outcome)

end Feeds

/-- The feed of users comes to the first stream, and the next time to the alias; the stream of users
is ambiguous. -/
theorem feeds_aliased :
    ∃ aliased direct again,
      resolveParameter Feeds.context (inner Feeds.context 16) Feeds.registered Feeds.asFeed =
        (Feeds.registered.add Feeds.context (aliasFor (Feeds.feed Feeds.user) Feeds.openFeed),
          .ok aliased) ∧
      (resolveParameter Feeds.context (inner Feeds.context 16) Feeds.registered
        Feeds.asStream).2 = .ok direct ∧
      (resolveParameter Feeds.context (inner Feeds.context 16)
        (Feeds.registered.add Feeds.context (aliasFor (Feeds.feed Feeds.user) Feeds.openFeed))
        Feeds.asFeed).2 = .ok again ∧
      aliased.outcome = .selected 1 ∧ direct.outcome = .ambiguous [1, 2] ∧
      again.outcome = .selected 3 ∧ direct.outcome ≠ aliased.outcome := by
  obtain ⟨aliased, direct, again, haliased, hdirect, hagain, hfirst, hseveral, hagree⟩ :=
    alias_agrees_iff (.between Feeds.reachable) (p := Feeds.asFeed) (q := Feeds.asStream) rfl rfl
      Feeds.opens (by decide +kernel) (by decide +kernel)
      (show _ = 1 :: [2] by decide +kernel) (inner Feeds.context 16)
  obtain ⟨hambiguous, hitself⟩ := hseveral (List.cons_ne_nil 2 [])
  exact ⟨aliased, direct, again, haliased, hdirect, hagain, hfirst, hambiguous, hitself,
    fun hsame => absurd (hagree.1 hsame).1 (List.cons_ne_nil 2 [])⟩

/-- Nothing is registered for the feed of users itself, and the one open feed closes to the stream
of users, which is registered; yet the feed is served by one of the two streams between which the
request for a stream cannot choose. -/
theorem feeds_disagree :
    Reachable Feeds.context Feeds.registered ∧
      Feeds.registered.Opens Feeds.context (requested Feeds.context Feeds.asFeed) Feeds.openFeed ∧
      ¬ (closedType (requested Feeds.context Feeds.asFeed) Feeds.openFeed).same
        (requested Feeds.context Feeds.asFeed) ∧
      requested Feeds.context Feeds.asStream =
        closedType (requested Feeds.context Feeds.asFeed) Feeds.openFeed ∧
      Feeds.registered.underKey none
        (Feeds.registered.servicesFor (requested Feeds.context Feeds.asStream)) ≠ [] ∧
      Feeds.outcome Feeds.registered Feeds.asFeed = some (.selected 1) ∧
      Feeds.outcome Feeds.registered Feeds.asStream = some (.ambiguous [1, 2]) :=
  ⟨Feeds.reachable, Feeds.opens, by decide +kernel, by decide +kernel, by decide +kernel,
    by decide +kernel, by decide +kernel⟩

end Wiring.Container
