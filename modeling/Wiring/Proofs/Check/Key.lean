import Wiring.Proofs.Check.Family

/-!
Keys. A request under a key is served by a registration under that key, and a request without a key
by one without, whichever way it is served: registrations that stand in for one another have the
same key, and what checks register has none. So a request under a key registers nothing.
-/

namespace Wiring.Container

variable {ctx : Context} {a b c : Container} {key : Option String}

/-- The key of the registration, where there is one of this number. -/
def keyOf? (c : Container) (id : RegistrationId) : Option (Option String) :=
  (c.registration? id).map (·.key)

theorem keyOf?_eq_some_iff {id : RegistrationId} :
    c.keyOf? id = some key ↔ ∃ service, c.register[id]? = some service ∧ service.key = key := by
  rw [register_getElem?, keyOf?]
  cases c.registration? id with
  | none => simp
  | some r => simp [Service.plain]

theorem lt_of_keyOf? {id : RegistrationId} (h : c.keyOf? id = some key) : id < c.size := by
  obtain ⟨service, hservice, -⟩ := keyOf?_eq_some_iff.1 h
  exact lt_of_register hservice

theorem Grows.keyOf? (h : a.Grows b) {id : RegistrationId} (hid : a.keyOf? id = some key) :
    b.keyOf? id = some key := by
  obtain ⟨service, hservice, hkey⟩ := keyOf?_eq_some_iff.1 hid
  exact keyOf?_eq_some_iff.2 ⟨service, h.register_eq_some hservice, hkey⟩

theorem keyOf?_of_mem_underKey {ids : List RegistrationId} {id : RegistrationId}
    (h : id ∈ c.underKey key ids) : c.keyOf? id = some key :=
  keyOf?_eq_some_iff.2 (mem_underKey.1 h).2

/-- The shapes of a collection have no key. -/
theorem Coherent.keyOf?_of_mem_ids (hc : c.Coherent ctx) {element : TypeExpr} {family : Family}
    (hfamily : c.families.get? element = some family) {id : RegistrationId}
    (hid : id ∈ family.ids) : c.keyOf? id = some none := by
  obtain ⟨_, shape, hshape, hregister⟩ := hc.shape_of_isShape ⟨element, family, hfamily, hid⟩
  exact keyOf?_eq_some_iff.2 ⟨shape, hregister, (anonymous_of_mem_shapesOf hshape).1⟩

theorem Coherent.keyOf?_enumerable (hc : c.Coherent ctx) {element : TypeExpr} {family : Family}
    (hfamily : c.families.get? element = some family) :
    c.keyOf? family.enumerable = some none :=
  hc.keyOf?_of_mem_ids hfamily (by simp [Family.ids])

/-- What a request is led to has the key of what it was led from. -/
theorem Follows.keyOf? (hc : c.Coherent ctx) {id next : RegistrationId} (h : c.Follows id next)
    (hid : c.keyOf? id = some key) : c.keyOf? next = some key := by
  cases h with
  | itself _ => exact hid
  | shape hfamily hmem =>
    rw [hc.keyOf?_of_mem_ids hfamily hmem] at hid
    rw [hc.keyOf?_enumerable hfamily, hid]
  | implementation hid' _ _ hnext _ hsame =>
    obtain ⟨service, hservice, hkey⟩ := keyOf?_eq_some_iff.1 hid
    obtain rfl := Option.some.inj (hservice.symm.trans hid')
    exact keyOf?_eq_some_iff.2 ⟨_, hnext, hsame.trans hkey⟩

/-- Only what is open without a key is closed for a request. -/
theorem Opens.key_eq_none (hc : c.Coherent ctx) {target : TypeExpr} {source : Registration}
    (h : c.Opens ctx target source) : source.key = none := by
  obtain ⟨definition, first, -, hunder, hsource⟩ := h.opened
  have hmem : first ∈ c.underKey none (c.servicesFor definition) := by
    rw [hunder]
    exact List.mem_singleton_self first
  obtain ⟨opened, hopened, -⟩ := (mem_underKey.1 hmem).2
  have hkey := (follows_follow hc hopened).keyOf? hc (keyOf?_of_mem_underKey hmem)
  rw [Container.keyOf?, hsource] at hkey
  exact Option.some.inj hkey

/-- Every registration that the outcome names is under the key. -/
def IsUnder (c : Container) (key : Option String) (outcome : Outcome) : Prop :=
  (∀ id, outcome.selected? = some id → c.keyOf? id = some key) ∧
    ∀ id ∈ outcome.candidates, c.keyOf? id = some key

theorem isUnder_selected {id : RegistrationId} (h : c.keyOf? id = some key) :
    c.IsUnder key (.selected id) := by
  refine ⟨fun id' hid => ?_, fun id' hid => absurd hid List.not_mem_nil⟩
  rwa [← Option.some.inj hid]

theorem isUnder_undeclared : c.IsUnder key .undeclared :=
  ⟨fun id hid => (by cases hid), fun id hid => absurd hid List.not_mem_nil⟩

theorem isUnder_ambiguous {ids : List RegistrationId} :
    c.IsUnder key (.ambiguous (c.underKey key ids)) :=
  ⟨fun id hid => (by cases hid), fun _ hid => keyOf?_of_mem_underKey hid⟩

theorem IsUnder.grow {outcome : Outcome} (h : a.IsUnder key outcome) (hgrows : a.Grows b) :
    b.IsUnder key outcome :=
  ⟨fun id hid => hgrows.keyOf? (h.1 id hid), fun id hid => hgrows.keyOf? (h.2 id hid)⟩

theorem isUnder_selectAmong (hc : c.Coherent ctx) (requireNonEmpty : Bool)
    (ids : List RegistrationId) :
    c.IsUnder key (c.selectAmong ctx key requireNonEmpty ids) := by
  unfold selectAmong
  split
  · exact isUnder_undeclared
  · next id hid =>
    have hmem : id ∈ c.underKey key ids := by simp [hid]
    obtain ⟨service, hservice, -⟩ := (mem_underKey.1 hmem).2
    dsimp only
    split
    · exact isUnder_undeclared
    · exact isUnder_selected
        ((follows_follow hc hservice).keyOf? hc (keyOf?_of_mem_underKey hmem))
  · exact isUnder_ambiguous

theorem isUnder_selectCollection (hc : c.Coherent ctx) (element : TypeExpr)
    (requireNonEmpty : Bool) :
    (c.selectCollection ctx element requireNonEmpty).1.IsUnder none
      (c.selectCollection ctx element requireNonEmpty).2 := by
  unfold selectCollection
  split
  · next family hfamily =>
    split
    · exact isUnder_undeclared
    · exact isUnder_selected (hc.keyOf?_enumerable hfamily)
  · next hnew =>
    dsimp only
    split
    · exact isUnder_undeclared
    · have hadded := hc.addFamily (c.members ctx element) hnew
      exact isUnder_selected
        (hadded.keyOf?_enumerable (families_addFamily_self c ctx element _))

section Nested

variable {levels : Nat}

theorem keyOf?_checkNested (hc : c.Coherent ctx) {target : TypeExpr} {source : Registration}
    (hopens : c.Opens ctx target source) (n : Nat) :
    (checkNested (checkWithin ctx n) (c.addSpecialization ctx (closedOver target source))
      c.size).1.keyOf? c.size = some none := by
  rw [checkNested_entered]
  obtain ⟨hentered, -⟩ := extends_entered c ctx target source hc.collect
  obtain ⟨hchecked, hnested⟩ :=
    (kept_extends ctx).checkWithin n (c.entered ctx target source) c.size hentered
  have hself : (c.entered ctx target source).keyOf? c.size = some none :=
    keyOf?_eq_some_iff.2 ⟨_, register_addSpecialization_self c ctx (closedOver target source),
      hopens.key_eq_none hc⟩
  exact (hnested.trans (extends_left _ hchecked).2).keyOf? hself

theorem isUnder_specializeFrom (hc : c.Coherent ctx) {target : TypeExpr} {source : Registration}
    (hopens : source.resolvedType.args.length = target.args.length → c.Opens ctx target source)
    {outcome : Outcome}
    (h : specializeFrom ctx (inner ctx levels) c target source = (b, .ok outcome)) :
    b.IsUnder none outcome := by
  unfold specializeFrom at h
  dsimp only at h
  split at h
  · cases h
    exact isUnder_undeclared
  next harity =>
  have hopens := hopens (Decidable.not_not.1 harity)
  have hkey := hopens.key_eq_none hc
  split at h
  · next existing rest hexisting =>
    have hmem : existing ∈ c.underKey source.key (c.servicesFor (closedType target source)) := by
      simp [hexisting]
    have hexists : c.keyOf? existing = some none := by
      rw [← hkey]
      exact keyOf?_of_mem_underKey hmem
    split at h
    · cases h
      exact isUnder_selected hexists
    · cases h
      exact isUnder_selected ((grows_add c ctx _).keyOf? hexists)
  split at h
  · cases h
  next check hcheck =>
  split at hcheck
  · obtain ⟨n, rfl, rfl⟩ := inner_eq_some hcheck
    have hnested := keyOf?_checkNested hc hopens n
    split at h
    · next hs =>
      cases h
      rw [hs] at hnested
      exact isUnder_selected hnested
    · cases h
  · cases hcheck

theorem isUnder_specialize (hc : c.Coherent ctx) {target : TypeExpr}
    (hfree : c.servicesFor target = [])
    (hcollection : ctx.settings.collectionElement? target = none) (hgeneric : target.isGeneric)
    {outcome : Outcome} (h : specialize ctx (inner ctx levels) c target = (b, .ok outcome)) :
    b.IsUnder none outcome := by
  unfold specialize at h
  split at h
  · cases h
    exact isUnder_undeclared
  next definition hdefinition =>
  split at h
  · cases h
    exact isUnder_undeclared
  · next opened hopened =>
    dsimp only at h
    split at h
    · next source hsource =>
      exact isUnder_specializeFrom hc (fun harity => ⟨hfree, hcollection, hgeneric,
        ⟨definition, opened, hdefinition, hopened, hsource⟩, harity⟩) h
    · cases h
  · cases h
    exact isUnder_ambiguous

/-- However a request under the key comes out, what it names is under the key. -/
theorem isUnder_resolveTarget (hc : c.Coherent ctx) {target : TypeExpr} {requireNonEmpty : Bool}
    {outcome : Outcome}
    (h : resolveTarget ctx (inner ctx levels) c key target requireNonEmpty = (b, .ok outcome)) :
    b.IsUnder key outcome := by
  unfold resolveTarget at h
  split at h
  · next hfree =>
    split at h
    · cases h
      exact isUnder_undeclared
    next hkey =>
    obtain rfl : key = none := by simpa using hkey
    split at h
    · next element _ =>
      have hcollection := isUnder_selectCollection hc element requireNonEmpty
      cases h
      exact hcollection
    · next hcollection =>
      split at h
      · next hgeneric => exact isUnder_specialize hc hfree hcollection hgeneric h
      · cases h
        exact isUnder_undeclared
  · cases h
    exact isUnder_selectAmong hc requireNonEmpty _

end Nested

theorem justifies_isUnder (ctx : Context) :
    Justifies ctx fun c key _ outcome => c.IsUnder key outcome where
  grow h hgrows := h.grow hgrows
  request hc h := isUnder_resolveTarget hc h
  fallback h := ⟨fun id hid => (by cases hid), h.2⟩

/-- A request for a type that is registered makes nothing, and neither does one under a key, as
neither collections nor specializations have a key. -/
theorem resolveTarget_served (check : Option Check) {target : TypeExpr} (requireNonEmpty : Bool)
    (h : c.servicesFor target ≠ [] ∨ key.isSome) :
    resolveTarget ctx check c key target requireNonEmpty =
      (c, .ok (c.selectAmong ctx key requireNonEmpty (c.servicesFor target))) := by
  unfold resolveTarget
  split
  · next hnone =>
    rw [if_pos (h.resolve_left (not_not.2 hnone)), hnone]
    rfl
  · rfl

/-- Resolving a parameter that has a key changes the journal only. -/
theorem resolveParameter_of_key (ctx : Context) (check : Option Check) (c : Container)
    {parameter : Parameter} (hkey : parameter.key.isSome) :
    (resolveParameter ctx check c parameter).1 = c ∨ ∃ event : Event, event.isRemark ∧
      (resolveParameter ctx check c parameter).1 = c.note event := by
  unfold resolveParameter
  dsimp only
  rw [resolveTarget_served check parameter.requiresNonEmpty (Or.inr hkey)]
  exact askFallback_fst ctx c parameter.key _ _

/-- Whatever a stored resolution names for a parameter is under the key of the parameter, or under
none where that has none; and a parameter with a key is resolved without registering anything. -/
theorem keys_kept_apart (ctx : Context) :
    (∀ c, Reachable ctx c → ∀ resolution ∈ c.resolutions, ∀ p ∈ resolution.parameters,
        (∀ id, p.outcome.selected? = some id → c.keyOf? id = some p.key) ∧
          ∀ id ∈ p.outcome.candidates, c.keyOf? id = some p.key) ∧
      ∀ (check : Option Check) (c : Container) (parameter : Parameter), parameter.key.isSome →
        (resolveParameter ctx check c parameter).1.registrations = c.registrations ∧
          (resolveParameter ctx check c parameter).1.families = c.families ∧
          (resolveParameter ctx check c parameter).1.resolutions = c.resolutions := by
  refine ⟨fun c hc => (justifies_isUnder ctx).reachable hc, fun check c parameter hkey => ?_⟩
  rcases resolveParameter_of_key ctx check c hkey with hsame | ⟨event, -, hnoted⟩
  · rw [hsame]
    exact ⟨rfl, rfl, rfl⟩
  · rw [hnoted]
    exact ⟨rfl, rfl, rfl⟩

namespace Senders

def user : TypeExpr := ⟨.classType, "app::User", [], false⟩
def mail : TypeExpr := ⟨.classType, "app::Mail", [], false⟩
def notifier : TypeExpr := ⟨.classType, "app::Notifier", [], false⟩
def sender : TypeExpr := .interface "app::Sender"
def entity : TypeExpr := ⟨.parameter, "T", [], false⟩

def store (stored : TypeExpr) : TypeExpr := ⟨.interfaceType, "app::Store", [stored], false⟩

/-- The notifier takes a fast sender and a plain one. It can do without a slow one, of which there
are two, and without a fast store of users. -/
def catalog : Catalog := .ofDefinitions [
  .built mail [],
  .declaring (store entity) [] [],
  .built notifier [⟨"first", sender, [.keyed "fast"], none⟩, ⟨"second", sender, [], none⟩,
    ⟨"third", sender, [.keyed "slow"], some "null"⟩,
    ⟨"users", { store user with nullable := true }, [.keyed "fast"], none⟩]]

def context : Context := { program := catalog.program }

def registered : Container := empty.addAll context [
  { type := sender, lifetime := .singleton, implementation := some mail, key := some "fast" },
  { type := mail, lifetime := .singleton, key := some "fast" },
  { type := mail, lifetime := .singleton },
  { type := sender, lifetime := .singleton, implementation := some mail },
  { type := sender, lifetime := .singleton, implementation := some mail, key := some "slow" },
  { type := sender, lifetime := .singleton, implementation := some mail, key := some "slow" },
  { type := store entity, lifetime := .singleton },
  { type := notifier, lifetime := .singleton }]

def checked : Container := (registered.check context 7).1

theorem checked_reachable : Reachable context checked := (Evolves.refl.addAll _).check 7

end Senders

/-- Both senders of mail are selected by way of an interface, each under its own key, and for the
store of users, which is there without a key only, nothing is specialized. -/
theorem senders_selected :
    ∃ resolution ∈ Senders.checked.resolutions,
      resolution.parameters.map (·.outcome) =
          [.selected 1, .selected 2, .ambiguous [4, 5], .undeclared] ∧
        (∀ p ∈ resolution.parameters,
          (∀ id, p.outcome.selected? = some id → Senders.checked.keyOf? id = some p.key) ∧
            ∀ id ∈ p.outcome.candidates, Senders.checked.keyOf? id = some p.key) ∧
        ∀ p ∈ resolution.parameters, p.parameter.key.isSome →
          (resolveParameter Senders.context none Senders.checked p.parameter).1.registrations =
            Senders.checked.registrations := by
  have hstored : (Senders.checked.resolutions.map fun resolution =>
      resolution.parameters.map (·.outcome)) =
        [[.selected 1, .selected 2, .ambiguous [4, 5], .undeclared]] := by decide +kernel
  obtain ⟨resolution, hresolution⟩ := List.length_eq_one_iff.1
    ((List.length_map _).symm.trans (congrArg List.length hstored))
  rw [hresolution] at hstored ⊢
  have hapart := keys_kept_apart Senders.context
  refine ⟨resolution, List.mem_singleton_self _, (List.cons.inj hstored).1, ?_, ?_⟩
  · exact hapart.1 Senders.checked Senders.checked_reachable resolution
      (by rw [hresolution]; exact List.mem_singleton_self _)
  · exact fun p _ hkey => (hapart.2 none Senders.checked p.parameter hkey).1

end Wiring.Container
