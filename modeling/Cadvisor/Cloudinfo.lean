import Cadvisor.Go.Runtime

/-! The cloud provider detection of `utils/cloudinfo`. `NewRealCloudInfo` ranges over the
map of registered providers and takes the first that reports itself active; Go visits a
map in an unspecified order, so the model takes the order as an input, any permutation
of the map's entries. -/

namespace Cadvisor.Cloudinfo

/-- `info.UnknownProvider`, a constant of `info/v1`, which is not in the modelled source. -/
def unknownProvider : String := "Unknown"

/-- `info.UnknownInstance`, a constant of `info/v1`. -/
def unknownInstance : String := "Unknown"

/-- `info.UnNamedInstance`, a constant of `info/v1`. -/
def unNamedInstance : String := "None"

/-- A `CloudProvider`, by the answers of its methods. -/
structure CloudProvider where
  isActiveProvider : Bool
  instanceType : String
  instanceID : String
  deriving DecidableEq, Repr

/-- The map `providers`, from provider name to provider. -/
abbrev Providers := Go.StrMap CloudProvider

/-- `var providers = map[info.CloudProvider]CloudProvider{}` -/
def Providers.empty : Providers := Go.StrMap.empty

/-- `RegisterCloudProvider(name, provider)`: a second registration of a name replaces the
first, after a warning. -/
def registerCloudProvider (providers : Providers) (name : String) (provider : CloudProvider) : Providers :=
  providers.insert name provider

/-- One order in which `for name, provider := range providers` may visit the map: every
entry once. -/
structure Iteration (providers : Providers) where
  order : List (String × CloudProvider)
  perm : order.Perm providers.entries

/-- `realCloudInfo`: what `GetCloudProvider`, `GetInstanceType` and `GetInstanceID` return. -/
structure RealCloudInfo where
  cloudProvider : String
  instanceType : String
  instanceID : String
  deriving DecidableEq, Repr

/-- The value returned when no registered provider is active. -/
def unknownInfo : RealCloudInfo := ⟨unknownProvider, unknownInstance, unNamedInstance⟩

/-- The value returned for the active provider `entry`. -/
def providerInfo (entry : String × CloudProvider) : RealCloudInfo :=
  ⟨entry.1, entry.2.instanceType, entry.2.instanceID⟩

/-- The loop of `NewRealCloudInfo`: the first provider in visiting order that is active. -/
def firstActive : List (String × CloudProvider) → RealCloudInfo
  | [] => unknownInfo
  | (name, provider) :: rest =>
    if provider.isActiveProvider then ⟨name, provider.instanceType, provider.instanceID⟩
    else firstActive rest

/-- `NewRealCloudInfo()`, when the map is visited in the order of `iteration`. -/
def newRealCloudInfo {providers : Providers} (iteration : Iteration providers) : RealCloudInfo :=
  firstActive iteration.order

/-- The registered providers that report themselves active. -/
def activeProviders (entries : List (String × CloudProvider)) : List (String × CloudProvider) :=
  entries.filter fun entry => entry.2.isActiveProvider

/-- The loop returns the first active provider of the order, or the unknown value. -/
theorem firstActive_eq : ∀ order : List (String × CloudProvider),
    firstActive order = (((activeProviders order).head?).map providerInfo).getD unknownInfo
  | [] => rfl
  | (name, provider) :: rest => by
    cases active : provider.isActiveProvider <;>
      simp [firstActive, activeProviders, List.filter_cons, active, firstActive_eq rest, providerInfo]

theorem activeProviders_names_nodup (providers : Providers) :
    ((activeProviders providers.entries).map Prod.fst).Nodup :=
  providers.nodup.sublist ((List.filter_sublist _).map _)

theorem exists_iteration_visiting_first {providers : Providers} {entry : String × CloudProvider}
    (member : entry ∈ providers.entries) : ∃ iteration : Iteration providers, iteration.order.head? = some entry := by
  obtain ⟨before, after, split⟩ := List.append_of_mem member
  exact ⟨⟨entry :: (before ++ after), split ▸ List.perm_middle.symm⟩, rfl⟩

theorem newRealCloudInfo_of_head? {providers : Providers} {iteration : Iteration providers}
    {entry : String × CloudProvider} (first : iteration.order.head? = some entry)
    (active : entry.2.isActiveProvider = true) : newRealCloudInfo iteration = providerInfo entry := by
  rcases iteration with ⟨_ | ⟨head, rest⟩, _⟩
  · cases first
  · cases first
    simp [newRealCloudInfo, firstActive, active, providerInfo]

theorem newRealCloudInfo_visiting_first (providers : Providers) :
    ∀ entry ∈ activeProviders providers.entries, ∃ iteration : Iteration providers,
      iteration.order.head? = some entry ∧ newRealCloudInfo iteration = providerInfo entry := by
  intro entry active
  obtain ⟨member, reports⟩ := List.mem_filter.mp active
  obtain ⟨iteration, first⟩ := exists_iteration_visiting_first member
  exact ⟨iteration, first, newRealCloudInfo_of_head? first (by simpa using reports)⟩

/-- Over all orders of visiting the map, `NewRealCloudInfo` returns the unknown value when
no provider is active, and otherwise exactly the values of the active providers. -/
theorem newRealCloudInfo_results (providers : Providers) (result : RealCloudInfo) :
    (∃ iteration : Iteration providers, newRealCloudInfo iteration = result) ↔
      (activeProviders providers.entries = [] ∧ result = unknownInfo) ∨
        ∃ entry ∈ activeProviders providers.entries, result = providerInfo entry := by
  constructor
  · rintro ⟨⟨order, perm⟩, rfl⟩
    have visited : (activeProviders order).Perm (activeProviders providers.entries) := perm.filter _
    rw [newRealCloudInfo, firstActive_eq]
    cases found : activeProviders order with
    | nil => exact .inl ⟨List.Perm.eq_nil (found ▸ visited).symm, rfl⟩
    | cons first rest =>
      exact .inr ⟨first, visited.subset (found ▸ List.mem_cons_self first rest), rfl⟩
  · rintro (⟨none, rfl⟩ | ⟨entry, active, rfl⟩)
    · exact ⟨⟨providers.entries, List.Perm.refl _⟩, by rw [newRealCloudInfo, firstActive_eq, none]; rfl⟩
    · obtain ⟨iteration, -, reported⟩ := newRealCloudInfo_visiting_first providers entry active
      exact ⟨iteration, reported⟩

private theorem newRealCloudInfo_outcome {providers : Providers} (iteration : Iteration providers) :
    (activeProviders providers.entries = [] ∧ newRealCloudInfo iteration = unknownInfo) ∨
      ∃ entry ∈ activeProviders providers.entries, newRealCloudInfo iteration = providerInfo entry :=
  (newRealCloudInfo_results providers _).mp ⟨iteration, rfl⟩

theorem newRealCloudInfo_of_none {providers : Providers} (none : activeProviders providers.entries = [])
    (iteration : Iteration providers) : newRealCloudInfo iteration = unknownInfo := by
  rcases newRealCloudInfo_outcome iteration with ⟨-, unknown⟩ | ⟨entry, active, -⟩
  · exact unknown
  · simp [none] at active

theorem newRealCloudInfo_of_single {providers : Providers} {entry : String × CloudProvider}
    (single : activeProviders providers.entries = [entry]) (iteration : Iteration providers) :
    newRealCloudInfo iteration = providerInfo entry := by
  rcases newRealCloudInfo_outcome iteration with ⟨none, -⟩ | ⟨other, active, reported⟩
  · simp [single] at none
  · rw [single, List.mem_singleton] at active
    rw [reported, active]

theorem newRealCloudInfo_order_dependent {providers : Providers} {one two : String × CloudProvider}
    {rest : List (String × CloudProvider)} (listed : activeProviders providers.entries = one :: two :: rest) :
    ∃ first second : Iteration providers,
      (newRealCloudInfo first).cloudProvider ≠ (newRealCloudInfo second).cloudProvider := by
  obtain ⟨first, reportsOne⟩ := (newRealCloudInfo_results providers (providerInfo one)).mpr
    (.inr ⟨one, by simp [listed], rfl⟩)
  obtain ⟨second, reportsTwo⟩ := (newRealCloudInfo_results providers (providerInfo two)).mpr
    (.inr ⟨two, by simp [listed], rfl⟩)
  have distinct : one.1 ≠ two.1 := by
    have names := activeProviders_names_nodup providers
    simp only [listed, List.map_cons, List.nodup_cons, List.mem_cons] at names
    exact fun same => names.1 (.inl same)
  exact ⟨first, second, by rw [reportsOne, reportsTwo]; exact distinct⟩

/-- Each order of visiting the map gives its first active provider, or the unknown value.
With no provider active every order gives the unknown value; with exactly one active every
order gives that provider's. Over all orders the results are exactly the active providers'
values, or the unknown one when none is active, each active provider's given by the orders
that visit it first; so the result is the same for any two orders exactly when at most one
provider is active. -/
theorem newRealCloudInfo_order_independent_iff (providers : Providers) :
    (∀ iteration : Iteration providers,
        newRealCloudInfo iteration = (((activeProviders iteration.order).head?).map providerInfo).getD unknownInfo) ∧
      (activeProviders providers.entries = [] →
        ∀ iteration : Iteration providers, newRealCloudInfo iteration = unknownInfo) ∧
      (∀ entry, activeProviders providers.entries = [entry] →
        ∀ iteration : Iteration providers, newRealCloudInfo iteration = providerInfo entry) ∧
      (∀ result, (∃ iteration : Iteration providers, newRealCloudInfo iteration = result) ↔
        (activeProviders providers.entries = [] ∧ result = unknownInfo) ∨
          ∃ entry ∈ activeProviders providers.entries, result = providerInfo entry) ∧
      (∀ entry ∈ activeProviders providers.entries, ∃ iteration : Iteration providers,
        iteration.order.head? = some entry ∧ newRealCloudInfo iteration = providerInfo entry) ∧
      ((∀ first second : Iteration providers, newRealCloudInfo first = newRealCloudInfo second) ↔
        (activeProviders providers.entries).length ≤ 1) := by
  refine ⟨fun iteration => firstActive_eq iteration.order, newRealCloudInfo_of_none,
    fun _ => newRealCloudInfo_of_single, newRealCloudInfo_results providers,
    newRealCloudInfo_visiting_first providers, ⟨fun same => ?_, fun atMostOne => ?_⟩⟩
  · rcases listed : activeProviders providers.entries with _ | ⟨one, _ | ⟨two, rest⟩⟩
    case cons.cons =>
      obtain ⟨first, second, differ⟩ := newRealCloudInfo_order_dependent listed
      exact absurd (congrArg RealCloudInfo.cloudProvider (same first second)) differ
    all_goals simp
  · intro first second
    rcases listed : activeProviders providers.entries with _ | ⟨entry, _ | ⟨two, rest⟩⟩
    case nil => rw [newRealCloudInfo_of_none listed first, newRealCloudInfo_of_none listed second]
    case cons.nil =>
      rw [newRealCloudInfo_of_single listed first, newRealCloudInfo_of_single listed second]
    case cons.cons => simp [listed] at atMostOne

/-- Two providers registered on an instance that both report themselves active: one order
of visiting the map reports the first, the other order the second. -/
theorem newRealCloudInfo_two_active_orders_differ :
    let aws : CloudProvider := ⟨true, "m5.large", "i-0abc"⟩
    let gce : CloudProvider := ⟨true, "n1-standard-1", "4711"⟩
    let providers := registerCloudProvider (registerCloudProvider .empty "AWS" aws) "GCE" gce
    ∃ first second : Iteration providers,
      newRealCloudInfo first = ⟨"AWS", "m5.large", "i-0abc"⟩ ∧
        newRealCloudInfo second = ⟨"GCE", "n1-standard-1", "4711"⟩ :=
  ⟨⟨[("AWS", _), ("GCE", _)], List.Perm.swap _ _ _⟩, ⟨[("GCE", _), ("AWS", _)], List.Perm.refl _⟩,
    rfl, rfl⟩

end Cadvisor.Cloudinfo
