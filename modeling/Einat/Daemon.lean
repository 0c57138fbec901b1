/-
The daemon (`main.rs`, `daemon` and `daemon_guard`): its start, which checks every interface's config before loading
any, then loads, attaches and starts the hairpin routings; each interface's context; its reaction to an address event;
the monitor loop over any sequence of events; and the cleanup that detaches every context however the daemon ended.

The route helper, the route monitor and `HairpinRouting` (route.rs) are not among the sources, nor is libbpf. What the
host does is `Host`: the route helper's report for each configured interface, which TC operations the kernel refuses,
and whether each `HairpinRouting::configure` and `deconfigure` succeeds. What the daemon leaves in the kernel is
`Kernel`: einat's TC filters, and the hairpin routings it configured (in place from a successful `configure` until a
successful `deconfigure`). An address event carries its interface index and what `query_all_addresses` then
returned, `none` when the query failed. A context keeps, for each family, the destinations it last handed to its
hairpin routing (`configure` at the start, `reconfigure_dests` after each event), `none` when that routing is not
configured; `reconfigure_dests`' errors are only logged. The daemon's maps keyed by interface index are a list of
entries (`mapInsert`, and the contexts the start returns) read through a function (`toContexts`); their iteration
order is the list's. A failed load or attach ends the start and leaves the map as it is. The monitor ends at the first
error of a query or a reconfigure (`?`); a signal ends it after any prefix of the events, so every result below holds
after every prefix.

Results:
- `start_ok`: every context a successful start returns is synchronised: its instance, configured for the interface it
  is kept under, is what the load of the config `try_from` built from the addresses it records gave, with both hooks
  attached, and each configured routing holds that config's hairpin destinations; when the start finds no interface
  needing the monitor, every config is static.
- `daemon_synced`: whatever faults, after the start and any events, each context's stored runtime configs are those
  built from its policy and the addresses it records, also when the monitor stopped on an error; when no event failed,
  each configured hairpin routing holds the stored configs' hairpin destinations.
- `daemon_contexts`: after the start and any events, the daemon holds a context for exactly the interfaces the
  configurations resolve to, each instance configured for the interface it is kept under.
- `daemon_clean`: without faults, every event whose query succeeds succeeds, and each family's kernel maps and scalar
  hold the config built from the recorded addresses.
- `daemon_static`: when the start finds no interface needing the monitor (`need_monitor`), handling the events would,
  whatever faults, succeed and change no instance: the daemon loses nothing by not monitoring.
- `daemonGuard_cleanup`: whatever fails during the start or the monitor, `daemon_guard` leaves in the kernel only
  filters and routings whose removal the host refused; a refused egress detach leaves the ingress filter too.
-/
import Einat.Interface

namespace Einat.Daemon

open Einat.Network Einat.Policy Einat.Builder Einat.Interface

/-! ## Model -/

/-- `IfContext`: an interface's instance, the addresses it last applied, and, for each family, the destinations its
hairpin routing was last handed, when that routing is configured -/
structure IfContext (n : ℕ) where
  inst : Instance n
  addresses : IfAddresses
  v4HairpinRouting : Option (List Ipv4Net)
  v6HairpinRouting : Option (List Ipv6Net)

/-- why the monitor stops -/
inductive MonitorError where
  /-- `query_all_addresses` failed -/
  | query
  /-- a reconfigure failed -/
  | reconfigure (e : DataPlane.MapError)

/-- `MonitorEvent::ChangeAddress { if_index }`, with what `query_all_addresses(if_index)` then returned -/
structure AddressEvent where
  ifIndex : ℕ
  query : Option IfAddresses

/-- the rule priorities of `config::ConfigDefaults` the daemon checks -/
structure RulePrefs where
  ipv4HairpinRulePref : ℕ
  ipv4LocalRulePref : ℕ
  ipv6HairpinRulePref : ℕ
  ipv6LocalRulePref : ℕ

/-- what the route helper reports for a configured interface: its index, its encapsulation and its addresses -/
structure IfInfo where
  ifIndex : ℕ
  encap : PacketEncap
  addresses : IfAddresses

/-- the IP family of a hairpin routing -/
inductive IpFamily where
  | v4
  | v6
deriving DecidableEq, Repr

/-- what the host does, outside the sources: the route helper's report for each configuration, by its index in the
configuration, `none` when resolving the interface or a query fails; which TC operations the kernel refuses; and, by
interface index and family, whether `HairpinRouting::configure` and `HairpinRouting::deconfigure` succeed -/
structure Host where
  query : ℕ → Option IfInfo
  tcFault : TcFault
  configure : ℕ → IpFamily → Bool
  deconfigure : ℕ → IpFamily → Bool

/-- what the daemon leaves in the kernel: einat's TC filters and, by interface index and family, whether a hairpin
routing the daemon configured is in place (from a successful `configure` until a successful `deconfigure`) -/
structure Kernel where
  filters : TcFilters
  routings : ℕ → IpFamily → Bool

/-- the kernel with one hairpin routing's state set -/
def Kernel.setRouting (kernel : Kernel) (ifIndex : ℕ) (family : IpFamily) (b : Bool) : Kernel :=
  { kernel with routings := fun i f => if i = ifIndex ∧ f = family then b else kernel.routings i f }

/-- why the start fails -/
inductive StartError where
  /-- resolving an interface, or querying its link or its addresses, failed -/
  | query
  /-- `InstanceConfig::try_from` failed -/
  | config (e : Interface.Error)
  /-- `InstanceConfig::load` failed -/
  | load (e : DataPlane.MapError)
  /-- `Instance::attach` failed at this TC operation -/
  | attach (op : TcOp)
  /-- the hairpin IPv4 route rule priority is not less than the local IP rule priority -/
  | v4RulePref (ipRulePref localIpRulePref : ℕ)
  /-- the hairpin IPv6 route rule priority is not less than the local IP rule priority -/
  | v6RulePref (ipRulePref localIpRulePref : ℕ)

/-- why `IfContext::detach` fails -/
inductive CleanupError where
  /-- `Instance::detach` failed at this TC operation -/
  | hook (op : TcOp)
  /-- a hairpin routing's `deconfigure` failed -/
  | deconfigure (family : IpFamily)

/-- the error the daemon ends with -/
inductive DaemonError where
  | start (e : StartError)
  | monitor (e : MonitorError)

/-- an entry of the daemon's map of interfaces before the loads: the interface's configuration (the source keeps its
index, `config_idx`), the config `try_from` built, and the addresses it was built from -/
structure ConfigEntry (n : ℕ) where
  ifConfig : ConfigNetIf
  instConfig : InstanceConfig n
  addresses : IfAddresses

section Model

variable {n : ℕ} (env : Env n) (matchAny : ConfigExternal × ConfigExternal) (defaults : ConfigDefaults)

/-- one family's hairpin routing at the start: when it is enabled, the rule priority check, then the routing, handed
the loaded config's hairpin destinations, when its `configure` succeeds (a failure is only logged) -/
def startHairpin {P : Type} (hairpinConfig : ConfigHairpinRoute) (defaultRulePref localIpRulePref : ℕ)
    (rulePrefError : ℕ → ℕ → StartError) (configured : Bool) (dests : List P) :
    Except StartError (Option (List P)) :=
  let enable := hairpinConfig.enable == some true ||
    hairpinConfig.enable != some false && !hairpinConfig.internalIfNames.isEmpty
  if enable then
    let ipRulePref := hairpinConfig.ipRulePref.getD defaultRulePref
    if ipRulePref ≥ localIpRulePref then throw (rulePrefError ipRulePref localIpRulePref)
    else pure (if configured then some dests else none)
  else pure none

/-- one configured interface's part of the start before anything is loaded: resolve it, query its encapsulation and
addresses, and build its config -/
def queryConfig (host : Host) (configIdx : ℕ) (ifConfig : ConfigNetIf) :
    Except StartError (ℕ × ConfigEntry n) :=
  match host.query configIdx with
  | none => throw .query
  | some info => do
    let instConfig ← (InstanceConfig.tryFrom matchAny info.ifIndex info.encap ifConfig defaults
      info.addresses).mapError .config
    pure (info.ifIndex, ⟨ifConfig, instConfig, info.addresses⟩)

/-- `HashMap::insert`, on a map kept as its list of entries: the new entry replaces the key's old one -/
def mapInsert {α : Type} (m : List (ℕ × α)) (k : ℕ) (v : α) : List (ℕ × α) :=
  m.filter (·.1 != k) ++ [(k, v)]

/-- every configured interface, in order, into the map keyed by interface index: a later configuration of an index
replaces an earlier one, and the first failure ends the start before anything is loaded -/
def queryConfigs (host : Host) : ℕ → List ConfigNetIf → List (ℕ × ConfigEntry n) →
    Except StartError (List (ℕ × ConfigEntry n))
  | _, [], entries => pure entries
  | configIdx, ifConfig :: ifConfigs, entries => do
    let (ifIndex, entry) ← queryConfig matchAny defaults host configIdx ifConfig
    queryConfigs host (configIdx + 1) ifConfigs (mapInsert entries ifIndex entry)

/-- load every entry's config, in the map's order, into a context with no hairpin routing; the first failure ends the
start, and the contexts loaded before it are in the daemon's map -/
def loadAll (rodata : Rodata) :
    List (ℕ × ConfigEntry n) → Except StartError Unit × List (ℕ × ConfigNetIf × IfContext n)
  | [] => (.ok (), [])
  | (ifIndex, entry) :: entries =>
    match entry.instConfig.load env rodata with
    | .error e => (.error (.load e), [])
    | .ok inst =>
      let rest := loadAll rodata entries
      (rest.1, (ifIndex, entry.ifConfig, ⟨inst, entry.addresses, none, none⟩) :: rest.2)

/-- whether the context holds a configured hairpin routing of `family` -/
def IfContext.configured (ctx : IfContext n) : IpFamily → Bool
  | .v4 => ctx.v4HairpinRouting.isSome
  | .v6 => ctx.v6HairpinRouting.isSome

/-- `ctx.inst.attach()?`, then each family's hairpin routing, kept, and in place, when its `configure` succeeds; the
context keeps what was done before a failure -/
def attachContext (rulePrefs : RulePrefs) (host : Host) (ifIndex : ℕ) (ifConfig : ConfigNetIf) (ctx : IfContext n)
    (kernel : Kernel) : Except StartError Unit × IfContext n × Kernel :=
  match ctx.inst.attach host.tcFault kernel.filters with
  | (.error e, inst, filters) => (.error (.attach e), { ctx with inst }, { kernel with filters })
  | (.ok (), inst, filters) =>
    let ctx := { ctx with inst }
    let kernel := { kernel with filters }
    match startHairpin ifConfig.ipv4HairpinRoute rulePrefs.ipv4HairpinRulePref rulePrefs.ipv4LocalRulePref
        .v4RulePref (host.configure ifIndex .v4) ctx.inst.config.runtimeV4Config.hairpinDests with
    | .error e => (.error e, ctx, kernel)
    | .ok v4HairpinRouting =>
      let ctx := { ctx with v4HairpinRouting }
      let kernel := if v4HairpinRouting.isSome then kernel.setRouting ifIndex .v4 true else kernel
      match startHairpin ifConfig.ipv6HairpinRoute rulePrefs.ipv6HairpinRulePref rulePrefs.ipv6LocalRulePref
          .v6RulePref (host.configure ifIndex .v6) ctx.inst.config.runtimeV6Config.hairpinDests with
      | .error e => (.error e, ctx, kernel)
      | .ok v6HairpinRouting =>
        (.ok (), { ctx with v6HairpinRouting },
          if v6HairpinRouting.isSome then kernel.setRouting ifIndex .v6 true else kernel)

/-- attach every loaded context, in the map's order; the first failure ends the start, and the map keeps every
context, attached or not -/
def attachAll (rulePrefs : RulePrefs) (host : Host) :
    List (ℕ × ConfigNetIf × IfContext n) → Kernel → Except StartError Unit × List (ℕ × IfContext n) × Kernel
  | [], kernel => (.ok (), [], kernel)
  | (ifIndex, ifConfig, ctx) :: loaded, kernel =>
    match attachContext rulePrefs host ifIndex ifConfig ctx kernel with
    | (.error e, ctx, kernel) => (.error e, (ifIndex, ctx) :: loaded.map fun x => (x.1, x.2.2), kernel)
    | (.ok (), ctx, kernel) =>
      let rest := attachAll rulePrefs host loaded kernel
      (rest.1, (ifIndex, ctx) :: rest.2.1, rest.2.2)

/-- `contexts.insert(ctx.if_index, ctx)` for each context in turn -/
def toContexts (contexts : List (ℕ × IfContext n)) : ℕ → Option (IfContext n) :=
  contexts.foldl (fun m e => Function.update m e.1 (some e.2)) fun _ => none

/-- `daemon` up to its monitor: every interface's config, then every load, then every attach, each into the daemon's
map of contexts; once all succeeded, whether some interface's config is not static (`need_monitor`); and the map,
however the start ended -/
def start (rulePrefs : RulePrefs) (rodata : Rodata) (host : Host) (ifConfigs : List ConfigNetIf) (kernel : Kernel) :
    Except StartError Bool × List (ℕ × IfContext n) × Kernel :=
  match queryConfigs matchAny defaults host 0 ifConfigs [] with
  | .error e => (.error e, [], kernel)
  | .ok entries =>
    let needMonitor := entries.any fun e => !e.2.instConfig.isStatic
    let loaded := loadAll env rodata entries
    match loaded.1 with
    | .error e => (.error e, loaded.2.map fun x => (x.1, x.2.2), kernel)
    | .ok () =>
      let attached := attachAll rulePrefs host loaded.2 kernel
      (attached.1.map fun _ => needMonitor, attached.2.1, attached.2.2)

/-- one family's part of the reaction to an event: when the queried addresses differ from those the context last
applied, reconfigure, and record them once the reconfigure succeeds -/
def IfContext.changeFamily {A : Type} [DecidableEq A]
    (reconfigure : Instance n → List A → Except DataPlane.MapError Unit × Instance n)
    (set : IfAddresses → List A → IfAddresses) (ctx : IfContext n) (old new : List A) :
    Except DataPlane.MapError Unit × IfContext n :=
  if new ≠ old then
    match reconfigure ctx.inst new with
    | (.ok (), inst) => (.ok (), { ctx with inst, addresses := set ctx.addresses new })
    | (.error e, inst) => (.error e, { ctx with inst })
  else (.ok (), ctx)

/-- `if new_addresses.ipv4 != ctx.addresses.ipv4 { ctx.inst.reconfigure_v4_addresses(..)?; ctx.addresses.ipv4 = .. }` -/
def IfContext.changeV4 (ctx : IfContext n) (ipv4 : List (Fin (2 ^ 32))) :
    Except DataPlane.MapError Unit × IfContext n :=
  ctx.changeFamily (·.reconfigureV4Addresses env ·) (fun a ipv4 => { a with ipv4 }) ctx.addresses.ipv4 ipv4

/-- `if new_addresses.ipv6 != ctx.addresses.ipv6 { ctx.inst.reconfigure_v6_addresses(..)?; ctx.addresses.ipv6 = .. }` -/
def IfContext.changeV6 (ctx : IfContext n) (ipv6 : List (Fin (2 ^ 128))) :
    Except DataPlane.MapError Unit × IfContext n :=
  ctx.changeFamily (·.reconfigureV6Addresses env ·) (fun a ipv6 => { a with ipv6 }) ctx.addresses.ipv6 ipv6

/-- `hairpin_routing.reconfigure_dests(ctx.inst.vX_hairpin_dests())` for each configured routing -/
def IfContext.reconfigureDests (ctx : IfContext n) : IfContext n :=
  { ctx with
    v4HairpinRouting := ctx.v4HairpinRouting.map fun _ => ctx.inst.config.runtimeV4Config.hairpinDests
    v6HairpinRouting := ctx.v6HairpinRouting.map fun _ => ctx.inst.config.runtimeV6Config.hairpinDests }

/-- the monitor's reaction to `ChangeAddress` for a known interface, given what the query returned -/
def IfContext.onChangeAddress (ctx : IfContext n) : Option IfAddresses → Except MonitorError Unit × IfContext n
  | none => (.error .query, ctx)
  | some newAddresses =>
    match ctx.changeV4 env newAddresses.ipv4 with
    | (.error e, ctx) => (.error (.reconfigure e), ctx)
    | (.ok (), ctx) =>
      match ctx.changeV6 env newAddresses.ipv6 with
      | (.error e, ctx) => (.error (.reconfigure e), ctx)
      | (.ok (), ctx) => (.ok (), ctx.reconfigureDests)

/-- the monitor loop over `events`, ending at the first error; an event for an unknown interface is skipped -/
def monitor (contexts : ℕ → Option (IfContext n)) :
    List AddressEvent → Except MonitorError Unit × (ℕ → Option (IfContext n))
  | [] => (.ok (), contexts)
  | event :: events =>
    match contexts event.ifIndex with
    | none => monitor contexts events
    | some ctx =>
      match ctx.onChangeAddress env event.query with
      | (.ok (), ctx) => monitor (Function.update contexts event.ifIndex (some ctx)) events
      | (.error e, ctx) => (.error e, Function.update contexts event.ifIndex (some ctx))

/-- one family's part of `IfContext::detach`: `take()` the routing and, when there was one, `deconfigure` it; once that
succeeds it is no longer in place -/
def deconfigureRouting (host : Host) (ifIndex : ℕ) (family : IpFamily) (configured : Bool) (kernel : Kernel) :
    Except CleanupError Unit × Kernel :=
  if configured then
    if host.deconfigure ifIndex family then (.ok (), kernel.setRouting ifIndex family false)
    else (.error (.deconfigure family), kernel)
  else (.ok (), kernel)

/-- `IfContext::detach`: the instance's hooks, then each family's hairpin routing; every step runs whatever failed
before it, and the first failure is reported -/
def IfContext.detach (host : Host) (ifIndex : ℕ) (ctx : IfContext n) (kernel : Kernel) :
    Except CleanupError Unit × IfContext n × Kernel :=
  let hooks := ctx.inst.detach host.tcFault kernel.filters
  let v4 := deconfigureRouting host ifIndex .v4 (ctx.configured .v4) { kernel with filters := hooks.2.2 }
  let v6 := deconfigureRouting host ifIndex .v6 (ctx.configured .v6) v4.2
  (hooks.1.mapError .hook *> v4.1 *> v6.1,
    { ctx with inst := hooks.2.1, v4HairpinRouting := none, v6HairpinRouting := none }, v6.2)

/-- `daemon_guard`'s cleanup: every context of the map, in its order, is detached; a failure is only logged -/
def detachAll (host : Host) (contexts : ℕ → Option (IfContext n)) : List ℕ → Kernel → Kernel
  | [], kernel => kernel
  | ifIndex :: ifIndexes, kernel =>
    match contexts ifIndex with
    | none => detachAll host contexts ifIndexes kernel
    | some ctx => detachAll host contexts ifIndexes (ctx.detach host ifIndex kernel).2.2

/-- `daemon_guard`: the daemon's start and, when some interface needs it, the monitor over the address events that come
before the termination signal; however the daemon ended, every context of its map is then detached, and its error, if
any, is returned -/
def daemonGuard (rulePrefs : RulePrefs) (rodata : Rodata) (host : Host) (ifConfigs : List ConfigNetIf)
    (events : List AddressEvent) (kernel : Kernel) : Except DaemonError Unit × Kernel :=
  let started := start env matchAny defaults rulePrefs rodata host ifConfigs kernel
  let ended : Except DaemonError Unit × (ℕ → Option (IfContext n)) := match started.1 with
    | .error e => (.error (.start e), toContexts started.2.1)
    | .ok needMonitor =>
      if needMonitor then
        let monitored := monitor env (toContexts started.2.1) events
        (monitored.1.mapError .monitor, monitored.2)
      else (.ok (), toContexts started.2.1)
  (ended.1, detachAll host ended.2 (started.2.1.map Prod.fst) started.2.2)

end Model

/-! ## One event -/

section Step

variable {n : ℕ} (env : Env n)

/-- the context's stored runtime configs are those built from its policy and the addresses it records -/
structure IfContext.ConfigSynced (ctx : IfContext n) : Prop where
  v4 : ctx.inst.config.runtimeV4Config =
    .from ctx.inst.config.v4NoSnatDests ctx.inst.config.externals ctx.addresses.ipv4
  v6 : ctx.inst.config.runtimeV6Config =
    .from ctx.inst.config.v6NoSnatDests ctx.inst.config.externals ctx.addresses.ipv6

/-- and each configured hairpin routing was last handed the stored configs' hairpin destinations -/
structure IfContext.Synced (ctx : IfContext n) extends ctx.ConfigSynced : Prop where
  v4Hairpin : ∀ dests ∈ ctx.v4HairpinRouting, dests = ctx.inst.config.runtimeV4Config.hairpinDests
  v6Hairpin : ∀ dests ∈ ctx.v6HairpinRouting, dests = ctx.inst.config.runtimeV6Config.hairpinDests

/-- `ctx'` keeps the read-only data, the TC hooks, which hairpin routings are configured, and every part of `ctx`'s
configuration but the runtime configs -/
def IfContext.Frame (ctx ctx' : IfContext n) : Prop :=
  ctx'.inst.rodata = ctx.inst.rodata ∧ ctx'.inst.hooked = ctx.inst.hooked ∧ ctx'.configured = ctx.configured ∧
    ∃ runtimeV4Config runtimeV6Config, ctx'.inst.config = { ctx.inst.config with runtimeV4Config, runtimeV6Config }

theorem IfContext.Frame.refl (ctx : IfContext n) : ctx.Frame ctx := ⟨rfl, rfl, rfl, _, _, rfl⟩

theorem IfContext.Frame.trans {ctx₁ ctx₂ ctx₃ : IfContext n} (h₁₂ : ctx₁.Frame ctx₂)
    (h₂₃ : ctx₂.Frame ctx₃) : ctx₁.Frame ctx₃ := by
  obtain ⟨hr₁₂, hh₁₂, hc₁₂, _, _, hcfg₁₂⟩ := h₁₂
  obtain ⟨hr₂₃, hh₂₃, hc₂₃, runtimeV4Config, runtimeV6Config, hcfg₂₃⟩ := h₂₃
  exact ⟨hr₂₃.trans hr₁₂, hh₂₃.trans hh₁₂, hc₂₃.trans hc₁₂, runtimeV4Config, runtimeV6Config,
    by rw [hcfg₂₃, hcfg₁₂]⟩

theorem IfContext.Frame.ifIndex_eq {ctx ctx' : IfContext n} (h : ctx.Frame ctx') :
    ctx'.inst.config.ifIndex = ctx.inst.config.ifIndex := by
  obtain ⟨-, -, -, _, _, hc⟩ := h
  rw [hc]

theorem IfContext.Frame.reconfigureDests (ctx : IfContext n) : ctx.Frame ctx.reconfigureDests := by
  refine ⟨rfl, rfl, funext fun f => ?_, _, _, rfl⟩
  cases f <;> simp [IfContext.configured, IfContext.reconfigureDests]

theorem IfContext.changeFamily_cases {A : Type} [DecidableEq A]
    (reconfigure : Instance n → List A → Except DataPlane.MapError Unit × Instance n)
    (set : IfAddresses → List A → IfAddresses) (ctx : IfContext n) (old new : List A) :
    ctx.changeFamily reconfigure set old new = (.ok (), ctx) ∨
    (∃ inst, reconfigure ctx.inst new = (.ok (), inst) ∧
      ctx.changeFamily reconfigure set old new = (.ok (), { ctx with inst, addresses := set ctx.addresses new })) ∨
    ∃ e inst, reconfigure ctx.inst new = (.error e, inst) ∧
      ctx.changeFamily reconfigure set old new = (.error e, { ctx with inst }) := by
  unfold IfContext.changeFamily
  split_ifs
  · rcases h : reconfigure ctx.inst new with ⟨_ | ⟨⟩, inst⟩
    exacts [.inr (.inr ⟨_, _, rfl, rfl⟩), .inr (.inl ⟨_, rfl, rfl⟩)]
  · exact .inl rfl

theorem IfContext.changeFamily_ok {A : Type} [DecidableEq A]
    {reconfigure : Instance n → List A → Except DataPlane.MapError Unit × Instance n}
    {set : IfAddresses → List A → IfAddresses} {ctx : IfContext n} {old new : List A} (Q : Instance n → Prop)
    (hq : Q ctx.inst) (h : (reconfigure ctx.inst new).1 = .ok () ∧ Q (reconfigure ctx.inst new).2) :
    (ctx.changeFamily reconfigure set old new).1 = .ok () ∧ Q (ctx.changeFamily reconfigure set old new).2.inst := by
  rcases ctx.changeFamily_cases reconfigure set old new with hc | ⟨inst, hr, hc⟩ | ⟨e, inst, hr, hc⟩ <;>
    rw [hc] <;> try rw [hr] at h
  exacts [⟨rfl, hq⟩, h, nomatch h.1]

theorem IfContext.ConfigSynced.changeV4 {ctx : IfContext n} (h : ctx.ConfigSynced) (ipv4 : List (Fin (2 ^ 32))) :
    (ctx.changeV4 env ipv4).2.ConfigSynced ∧ ctx.Frame (ctx.changeV4 env ipv4).2 := by
  rcases ctx.changeFamily_cases (·.reconfigureV4Addresses env ·) (fun a ipv4 => { a with ipv4 }) ctx.addresses.ipv4
    ipv4 with hc | ⟨inst, hr, hc⟩ | ⟨e, inst, hr, hc⟩ <;> rw [IfContext.changeV4, hc]
  · exact ⟨h, .refl ctx⟩
  all_goals
    rcases reconfigureV4Addresses_cases env ctx.inst ipv4 with ⟨skel, hr'⟩ | ⟨_, skel, hr'⟩ <;>
      rw [hr'] at hr <;> cases hr
  · exact ⟨⟨rfl, h.v6⟩, rfl, rfl, rfl, _, _, rfl⟩
  · exact ⟨⟨h.v4, h.v6⟩, rfl, rfl, rfl, _, _, rfl⟩

theorem IfContext.ConfigSynced.changeV6 {ctx : IfContext n} (h : ctx.ConfigSynced) (ipv6 : List (Fin (2 ^ 128))) :
    (ctx.changeV6 env ipv6).2.ConfigSynced ∧ ctx.Frame (ctx.changeV6 env ipv6).2 := by
  rcases ctx.changeFamily_cases (·.reconfigureV6Addresses env ·) (fun a ipv6 => { a with ipv6 }) ctx.addresses.ipv6
    ipv6 with hc | ⟨inst, hr, hc⟩ | ⟨e, inst, hr, hc⟩ <;> rw [IfContext.changeV6, hc]
  · exact ⟨h, .refl ctx⟩
  all_goals
    rcases reconfigureV6Addresses_cases env ctx.inst ipv6 with ⟨skel, hr'⟩ | ⟨_, skel, hr'⟩ <;>
      rw [hr'] at hr <;> cases hr
  · exact ⟨⟨h.v4, rfl⟩, rfl, rfl, rfl, _, _, rfl⟩
  · exact ⟨⟨h.v4, h.v6⟩, rfl, rfl, rfl, _, _, rfl⟩

theorem IfContext.ConfigSynced.reconfigureDests {ctx : IfContext n} (h : ctx.ConfigSynced) :
    ctx.reconfigureDests.Synced where
  toConfigSynced := ⟨h.v4, h.v6⟩
  v4Hairpin _ hd := by obtain ⟨_, -, rfl⟩ := Option.mem_map.1 hd; rfl
  v6Hairpin _ hd := by obtain ⟨_, -, rfl⟩ := Option.mem_map.1 hd; rfl

/-- **One event, whatever faults**: the stored configs stay those built from the recorded addresses, also when the
event fails halfway; nothing else of the configuration changes; and a successful event leaves each configured
routing holding the new hairpin destinations -/
theorem IfContext.ConfigSynced.onChangeAddress {ctx : IfContext n} (h : ctx.ConfigSynced) (query : Option IfAddresses) :
    ((ctx.onChangeAddress env query).2.ConfigSynced ∧ ctx.Frame (ctx.onChangeAddress env query).2) ∧
      ((ctx.onChangeAddress env query).1 = .ok () → (ctx.onChangeAddress env query).2.Synced) := by
  cases query with
  | none => exact ⟨⟨h, .refl ctx⟩, nofun⟩
  | some a =>
    obtain ⟨h4, f4⟩ := h.changeV4 env a.ipv4
    simp only [IfContext.onChangeAddress]
    generalize ctx.changeV4 env a.ipv4 = r4 at h4 f4 ⊢
    obtain ⟨_ | ⟨⟩, ctx4⟩ := r4 <;> dsimp only at h4 f4 ⊢
    · exact ⟨⟨h4, f4⟩, nofun⟩
    · obtain ⟨h6, f6⟩ := h4.changeV6 env a.ipv6
      generalize ctx4.changeV6 env a.ipv6 = r6 at h6 f6 ⊢
      obtain ⟨_ | ⟨⟩, ctx6⟩ := r6 <;> dsimp only at h6 f6 ⊢
      · exact ⟨⟨h6, f4.trans f6⟩, nofun⟩
      · exact ⟨⟨h6.reconfigureDests.toConfigSynced, (f4.trans f6).trans (.reconfigureDests ctx6)⟩,
          fun _ => h6.reconfigureDests⟩

theorem IfContext.onChangeAddress_ok {Q R : IfContext n → Prop}
    (h4 : ∀ ctx ipv4, Q ctx → (ctx.changeV4 env ipv4).1 = .ok () ∧ Q (ctx.changeV4 env ipv4).2)
    (h6 : ∀ ctx ipv6, Q ctx → (ctx.changeV6 env ipv6).1 = .ok () ∧ Q (ctx.changeV6 env ipv6).2)
    (hd : ∀ ctx, Q ctx → R ctx.reconfigureDests) {ctx : IfContext n} (h : Q ctx) (a : IfAddresses) :
    (ctx.onChangeAddress env (some a)).1 = .ok () ∧ R (ctx.onChangeAddress env (some a)).2 := by
  obtain ⟨hok4, hq4⟩ := h4 ctx a.ipv4 h
  obtain ⟨hok6, hq6⟩ := h6 _ a.ipv6 hq4
  simp only [IfContext.onChangeAddress]
  generalize ctx.changeV4 env a.ipv4 = r4 at hok4 hq4 hok6 hq6 ⊢
  obtain ⟨_, ctx4⟩ := r4
  subst hok4
  dsimp only at hok6 hq6 ⊢
  generalize ctx4.changeV6 env a.ipv6 = r6 at hok6 hq6 ⊢
  obtain ⟨_, ctx6⟩ := r6
  subst hok6
  exact ⟨rfl, hd _ hq6⟩

theorem IfContext.ConfigSynced.changeV4_static {ctx : IfContext n} (h : ctx.ConfigSynced)
    (hs : ctx.inst.config.isStatic = true) (ipv4 : List (Fin (2 ^ 32))) :
    (ctx.changeV4 env ipv4).1 = .ok () ∧ (ctx.changeV4 env ipv4).2.inst = ctx.inst :=
  IfContext.changeFamily_ok (· = ctx.inst) rfl
    (by simp only [reconfigureV4Addresses_of_isStatic env hs h.v4, and_self])

theorem IfContext.ConfigSynced.changeV6_static {ctx : IfContext n} (h : ctx.ConfigSynced)
    (hs : ctx.inst.config.isStatic = true) (ipv6 : List (Fin (2 ^ 128))) :
    (ctx.changeV6 env ipv6).1 = .ok () ∧ (ctx.changeV6 env ipv6).2.inst = ctx.inst :=
  IfContext.changeFamily_ok (· = ctx.inst) rfl
    (by simp only [reconfigureV6Addresses_of_isStatic env hs h.v6, and_self])

theorem IfContext.ConfigSynced.onChangeAddress_static {ctx : IfContext n} (h : ctx.ConfigSynced)
    (hs : ctx.inst.config.isStatic = true) (a : IfAddresses) :
    (ctx.onChangeAddress env (some a)).1 = .ok () ∧
      (ctx.onChangeAddress env (some a)).2.ConfigSynced ∧ (ctx.onChangeAddress env (some a)).2.inst = ctx.inst :=
  IfContext.onChangeAddress_ok env (Q := fun c => c.ConfigSynced ∧ c.inst = ctx.inst)
    (R := fun c => c.ConfigSynced ∧ c.inst = ctx.inst)
    (fun _ ipv4 ⟨hc, hi⟩ => ⟨(hc.changeV4_static env (hi ▸ hs) ipv4).1, (hc.changeV4 env ipv4).1,
      (hc.changeV4_static env (hi ▸ hs) ipv4).2.trans hi⟩)
    (fun _ ipv6 ⟨hc, hi⟩ => ⟨(hc.changeV6_static env (hi ▸ hs) ipv6).1, (hc.changeV6 env ipv6).1,
      (hc.changeV6_static env (hi ▸ hs) ipv6).2.trans hi⟩)
    (fun _ ⟨hc, hi⟩ => ⟨hc.reconfigureDests.toConfigSynced, hi⟩) ⟨h, rfl⟩ a

end Step

/-! ## The start -/

section Start

variable {n : ℕ} (env : Env n) (matchAny : ConfigExternal × ConfigExternal) (defaults : ConfigDefaults)

/-- `try_from` built the entry's config for the interface it is keyed by, from the addresses it records -/
def Checked (entry : ℕ × ConfigEntry n) : Prop :=
  ∃ ifEncap, InstanceConfig.tryFrom matchAny entry.1 ifEncap entry.2.ifConfig defaults entry.2.addresses =
    .ok entry.2.instConfig

theorem mem_mapInsert {α : Type} {m : List (ℕ × α)} {k : ℕ} {v : α} {e : ℕ × α}
    (h : e ∈ mapInsert m k v) : e ∈ m ∨ e = (k, v) := by
  simp only [mapInsert, List.mem_append, List.mem_filter, List.mem_singleton] at h
  exact h.imp_left And.left

theorem keys_mapInsert {α : Type} (m : List (ℕ × α)) (k : ℕ) (v : α) (i : ℕ) :
    i ∈ (mapInsert m k v).map Prod.fst ↔ i ∈ m.map Prod.fst ∨ i = k := by
  by_cases hik : i = k
  · simp [mapInsert, hik]
  · simp only [mapInsert, List.map_append, List.mem_append, List.mem_map, List.mem_filter, List.map_cons,
      List.map_nil, List.mem_singleton, hik, or_false]
    exact exists_congr fun e => ⟨fun ⟨⟨he, _⟩, hi⟩ => ⟨he, hi⟩, fun ⟨he, hi⟩ => ⟨⟨he, by simpa [hi] using hik⟩, hi⟩⟩

theorem queryConfig_ok {host : Host} {configIdx : ℕ} {ifConfig : ConfigNetIf} {ifIndex : ℕ}
    {entry : ConfigEntry n} (h : queryConfig matchAny defaults host configIdx ifConfig = .ok (ifIndex, entry)) :
    (∃ info, host.query configIdx = some info ∧ info.ifIndex = ifIndex) ∧
      Checked matchAny defaults (ifIndex, entry) := by
  unfold queryConfig at h
  split at h
  · cases h
  · next info hinfo =>
    obtain ⟨instConfig, htry, h⟩ := bind_eq_ok.1 h
    cases h
    cases htry' : InstanceConfig.tryFrom matchAny _ _ ifConfig defaults _ <;> rw [htry'] at htry <;> cases htry
    exact ⟨⟨info, hinfo, rfl⟩, _, htry'⟩

theorem checked_queryConfigs {host : Host} {configIdx : ℕ} {ifConfigs : List ConfigNetIf}
    {entries result : List (ℕ × ConfigEntry n)}
    (h : queryConfigs matchAny defaults host configIdx ifConfigs entries = .ok result)
    (hentries : ∀ e ∈ entries, Checked matchAny defaults e) :
    ∀ e ∈ result, Checked matchAny defaults e := by
  induction ifConfigs generalizing configIdx entries with
  | nil => rw [queryConfigs] at h; cases h; exact hentries
  | cons ifConfig ifConfigs ih =>
    rw [queryConfigs] at h
    obtain ⟨⟨ifIndex, entry⟩, hq, h⟩ := bind_eq_ok.1 h
    refine ih h fun e he => ?_
    rcases mem_mapInsert he with he | rfl
    exacts [hentries e he, (queryConfig_ok matchAny defaults hq).2]

theorem keys_queryConfigs {host : Host} {configIdx : ℕ} {ifConfigs : List ConfigNetIf}
    {entries result : List (ℕ × ConfigEntry n)}
    (h : queryConfigs matchAny defaults host configIdx ifConfigs entries = .ok result) (i : ℕ) :
    i ∈ result.map Prod.fst ↔ i ∈ entries.map Prod.fst ∨
      ∃ j < ifConfigs.length, ∃ info, host.query (configIdx + j) = some info ∧ info.ifIndex = i := by
  induction ifConfigs generalizing configIdx entries with
  | nil => rw [queryConfigs] at h; cases h; simp
  | cons ifConfig ifConfigs ih =>
    rw [queryConfigs] at h
    obtain ⟨⟨ifIndex, entry⟩, hq, h⟩ := bind_eq_ok.1 h
    obtain ⟨info, hinfo, rfl⟩ := (queryConfig_ok matchAny defaults hq).1
    rw [ih h, keys_mapInsert, or_assoc]
    refine or_congr_right ⟨?_, ?_⟩
    · rintro (rfl | ⟨j, hj, h⟩)
      · exact ⟨0, Nat.succ_pos _, info, hinfo, rfl⟩
      · exact ⟨j + 1, Nat.succ_lt_succ hj, Nat.add_right_comm configIdx 1 j ▸ h⟩
    · rintro ⟨_ | j, hj, info', h, rfl⟩
      · exact .inl (by rw [Nat.add_zero, hinfo] at h; cases h; rfl)
      · exact .inr ⟨j, Nat.lt_of_succ_lt_succ hj, info', Nat.add_right_comm configIdx 1 j ▸ h, rfl⟩

theorem nodup_keys_mapInsert {α : Type} {m : List (ℕ × α)} (h : (m.map Prod.fst).Nodup) (k : ℕ) (v : α) :
    ((mapInsert m k v).map Prod.fst).Nodup := by
  simp only [mapInsert, List.map_append, List.map_cons, List.map_nil, List.nodup_append, List.nodup_singleton,
    true_and]
  refine ⟨h.sublist ((List.filter_sublist _).map _), fun a ha hk => ?_⟩
  obtain ⟨e, he, rfl⟩ := List.mem_map.1 ha
  simp_all

theorem nodup_keys_queryConfigs {host : Host} {configIdx : ℕ} {ifConfigs : List ConfigNetIf}
    {entries result : List (ℕ × ConfigEntry n)}
    (h : queryConfigs matchAny defaults host configIdx ifConfigs entries = .ok result)
    (hentries : (entries.map Prod.fst).Nodup) : (result.map Prod.fst).Nodup := by
  induction ifConfigs generalizing configIdx entries with
  | nil => rw [queryConfigs] at h; cases h; exact hentries
  | cons ifConfig ifConfigs ih =>
    rw [queryConfigs] at h
    obtain ⟨⟨ifIndex, entry⟩, -, h⟩ := bind_eq_ok.1 h
    exact ih h (nodup_keys_mapInsert hentries _ _)

theorem ifIndex_of_checked {entry : ℕ × ConfigEntry n} (h : Checked matchAny defaults entry) :
    entry.2.instConfig.ifIndex = entry.1 := by
  obtain ⟨_, htry⟩ := h
  obtain ⟨-, _, -, hcfg⟩ := tryFrom_ok htry
  rw [hcfg]

theorem loadAll_ok {rodata : Rodata} (entries : List (ℕ × ConfigEntry n)) :
    ∀ x ∈ (loadAll env rodata entries).2, ∃ e ∈ entries, e.1 = x.1 ∧
      e.2.instConfig.load env rodata = .ok x.2.2.inst ∧ x.2.2.addresses = e.2.addresses := by
  induction entries with
  | nil => exact fun _ h => nomatch h
  | cons entry entries ih =>
    rw [loadAll]
    split
    · exact fun _ h => nomatch h
    · next inst hl =>
      rintro x (_ | ⟨_, hx⟩)
      · exact ⟨_, List.mem_cons_self _ _, rfl, hl, rfl⟩
      · obtain ⟨e, he, h⟩ := ih x hx
        exact ⟨e, List.mem_cons_of_mem _ he, h⟩

theorem keys_loadAll {rodata : Rodata} (entries : List (ℕ × ConfigEntry n)) :
    ((loadAll env rodata entries).2.map Prod.fst).Sublist (entries.map Prod.fst) ∧
      ((loadAll env rodata entries).1 = .ok () →
        (loadAll env rodata entries).2.map Prod.fst = entries.map Prod.fst) := by
  induction entries with
  | nil => exact ⟨.slnil, fun _ => rfl⟩
  | cons entry entries ih =>
    rw [loadAll]
    split
    · exact ⟨List.nil_sublist _, nofun⟩
    · exact ⟨ih.1.cons₂ _, fun h => congrArg (entry.1 :: ·) (ih.2 h)⟩

theorem keyed_loadAll (rodata : Rodata) {entries : List (ℕ × ConfigEntry n)}
    (hchecked : ∀ e ∈ entries, Checked matchAny defaults e) :
    ∀ y ∈ (loadAll env rodata entries).2, y.2.2.inst.config.ifIndex = y.1 := fun y hy =>
  have ⟨e, he, hey, hload, _⟩ := loadAll_ok env entries y hy
  by rw [(of_load hload).1, ifIndex_of_checked matchAny defaults (hchecked e he), hey]

theorem startHairpin_dests {P : Type} {hairpinConfig : ConfigHairpinRoute} {defaultRulePref localIpRulePref : ℕ}
    {rulePrefError : ℕ → ℕ → StartError} {configured : Bool} {dests : List P} {routing : Option (List P)}
    (h : startHairpin hairpinConfig defaultRulePref localIpRulePref rulePrefError configured dests = .ok routing) :
    ∀ d ∈ routing, d = dests := by
  simp only [startHairpin] at h
  split_ifs at h <;> cases h
  all_goals simp [*]

theorem filters_setRouting_if (kernel : Kernel) (ifIndex : ℕ) (family : IpFamily) (b : Bool) :
    (if b then kernel.setRouting ifIndex family true else kernel).filters = kernel.filters := by
  split <;> rfl

theorem routings_setRouting_if {kernel : Kernel} {ifIndex : ℕ} {family : IpFamily} {b : Bool} {i : ℕ}
    {f : IpFamily} (h : (if b then kernel.setRouting ifIndex family true else kernel).routings i f = true) :
    kernel.routings i f = true ∨ (i = ifIndex ∧ f = family ∧ b = true) := by
  cases b
  · exact .inl h
  · by_cases hi : i = ifIndex ∧ f = family
    · exact .inr ⟨hi.1, hi.2, rfl⟩
    · exact .inl (by simpa [Kernel.setRouting, hi] using h)

theorem attachContext_shape (rulePrefs : RulePrefs) (host : Host) (ifIndex : ℕ) (ifConfig : ConfigNetIf)
    (ctx : IfContext n) (kernel : Kernel) :
    (attachContext rulePrefs host ifIndex ifConfig ctx kernel).2.1.inst =
        (ctx.inst.attach host.tcFault kernel.filters).2.1 ∧
      (attachContext rulePrefs host ifIndex ifConfig ctx kernel).2.2.filters =
        (ctx.inst.attach host.tcFault kernel.filters).2.2 ∧
      ∀ i f, (attachContext rulePrefs host ifIndex ifConfig ctx kernel).2.2.routings i f = true →
        kernel.routings i f = true ∨
          (i = ifIndex ∧ (attachContext rulePrefs host ifIndex ifConfig ctx kernel).2.1.configured f = true) := by
  generalize hr : attachContext rulePrefs host ifIndex ifConfig ctx kernel = r
  unfold Daemon.attachContext at hr
  split at hr
  · next hatt =>
    subst hr
    rw [hatt]
    exact ⟨rfl, rfl, fun _ _ => .inl⟩
  next inst filters hatt =>
  rw [hatt]
  dsimp only at hr
  split at hr
  · subst hr
    exact ⟨rfl, rfl, fun _ _ => .inl⟩
  split at hr
  · subst hr
    refine ⟨rfl, filters_setRouting_if .., fun i f h => ?_⟩
    rcases routings_setRouting_if h with h | ⟨rfl, rfl, hb⟩
    exacts [.inl h, .inr ⟨rfl, hb⟩]
  subst hr
  refine ⟨rfl, by rw [filters_setRouting_if, filters_setRouting_if], fun i f h => ?_⟩
  rcases routings_setRouting_if h with h | ⟨rfl, rfl, hb⟩
  · rcases routings_setRouting_if h with h | ⟨rfl, rfl, hb⟩
    exacts [.inl h, .inr ⟨rfl, hb⟩]
  · exact .inr ⟨rfl, hb⟩

theorem IfContext.ConfigSynced.attachContext {ctx : IfContext n} (hs : ctx.ConfigSynced) (rulePrefs : RulePrefs)
    (host : Host) (ifIndex : ℕ) (ifConfig : ConfigNetIf) (kernel : Kernel)
    (h : (attachContext rulePrefs host ifIndex ifConfig ctx kernel).1 = .ok ()) :
    (attachContext rulePrefs host ifIndex ifConfig ctx kernel).2.1.Synced ∧
      (attachContext rulePrefs host ifIndex ifConfig ctx kernel).2.1.inst =
        { ctx.inst with attachedIngressHook := true, attachedEgressHook := true } := by
  generalize hr : Daemon.attachContext rulePrefs host ifIndex ifConfig ctx kernel = r at h ⊢
  unfold Daemon.attachContext at hr
  split at hr
  · subst hr; cases h
  next inst filters hatt =>
  have hinst := (ctx.inst.attach_spec host.tcFault kernel.filters).2.1
  rw [hatt] at hinst
  obtain rfl := hinst rfl
  dsimp only at hr
  split at hr
  · subst hr; cases h
  next v4HairpinRouting h4 =>
  split at hr
  · subst hr; cases h
  next v6HairpinRouting h6 =>
  subst hr
  exact ⟨⟨⟨hs.v4, hs.v6⟩, startHairpin_dests h4, startHairpin_dests h6⟩, rfl⟩

theorem keys_attachAll (rulePrefs : RulePrefs) (host : Host) (loaded : List (ℕ × ConfigNetIf × IfContext n)) :
    ∀ kernel, (attachAll rulePrefs host loaded kernel).2.1.map Prod.fst = loaded.map Prod.fst := by
  induction loaded with
  | nil => exact fun _ => rfl
  | cons y loaded ih =>
    intro kernel
    rw [attachAll]
    split
    · simp
    · exact congrArg (y.1 :: ·) (ih _)

theorem attachAll_ok {rulePrefs : RulePrefs} {host : Host} (loaded : List (ℕ × ConfigNetIf × IfContext n))
    (hs : ∀ y ∈ loaded, y.2.2.ConfigSynced) :
    ∀ kernel, (attachAll rulePrefs host loaded kernel).1 = .ok () →
      ∀ x ∈ (attachAll rulePrefs host loaded kernel).2.1, x.2.Synced ∧ ∃ y ∈ loaded, y.1 = x.1 ∧
        x.2.inst = { y.2.2.inst with attachedIngressHook := true, attachedEgressHook := true } := by
  induction loaded with
  | nil => exact fun _ _ _ h => nomatch h
  | cons y loaded ih =>
    intro kernel h
    have hy := (hs y (List.mem_cons_self _ _)).attachContext rulePrefs host y.1 y.2.1 kernel
    rw [attachAll] at h ⊢
    split <;> rename_i hc <;> simp only [hc] at h hy
    · cases h
    rintro x (_ | ⟨_, hx⟩)
    · obtain ⟨hsx, hinst⟩ := hy trivial
      exact ⟨hsx, y, List.mem_cons_self _ _, rfl, hinst⟩
    · obtain ⟨hsx, y', hy', h⟩ := ih (fun y hy => hs y (List.mem_cons_of_mem _ hy)) _ h x hx
      exact ⟨hsx, y', List.mem_cons_of_mem _ hy', h⟩

theorem update_some_of {R : ℕ → IfContext n → Prop} {contexts : ℕ → Option (IfContext n)}
    (h : ∀ i ctx, contexts i = some ctx → R i ctx) {k : ℕ} {ctx : IfContext n} (hk : R k ctx) :
    ∀ i c, Function.update contexts k (some ctx) i = some c → R i c := by
  intro i c hi
  by_cases hik : i = k
  · subst hik
    rw [Function.update_same] at hi
    cases hi
    exact hk
  · rw [Function.update_noteq hik] at hi
    exact h i c hi

theorem foldl_update_of {R : ℕ → IfContext n → Prop} (contexts : List (ℕ × IfContext n)) :
    ∀ {m : ℕ → Option (IfContext n)}, (∀ i ctx, m i = some ctx → R i ctx) →
      (∀ x ∈ contexts, R x.1 x.2) →
      ∀ i ctx, contexts.foldl (fun m (e : ℕ × IfContext n) => Function.update m e.1 (some e.2)) m i = some ctx →
        R i ctx := by
  induction contexts with
  | nil => exact fun hm _ => hm
  | cons x contexts ih =>
    intro m hm hx
    exact ih (update_some_of hm (hx x (List.mem_cons_self _ _))) fun y hy => hx y (List.mem_cons_of_mem _ hy)

theorem isSome_foldl_update (contexts : List (ℕ × IfContext n)) :
    ∀ (m : ℕ → Option (IfContext n)) i,
      (contexts.foldl (fun m (e : ℕ × IfContext n) => Function.update m e.1 (some e.2)) m i).isSome ↔
        (m i).isSome ∨ i ∈ contexts.map Prod.fst := by
  induction contexts with
  | nil => simp
  | cons x contexts ih =>
    intro m i
    rw [List.foldl_cons, ih, List.map_cons, List.mem_cons]
    by_cases hi : i = x.1
    · rw [hi, Function.update_same]; simp
    · simp [Function.update_noteq hi, hi]

theorem foldl_update_of_not_mem (contexts : List (ℕ × IfContext n)) :
    ∀ (m : ℕ → Option (IfContext n)) i, i ∉ contexts.map Prod.fst →
      contexts.foldl (fun m (e : ℕ × IfContext n) => Function.update m e.1 (some e.2)) m i = m i := by
  induction contexts with
  | nil => exact fun _ _ _ => rfl
  | cons x contexts ih =>
    intro m i hi
    rw [List.map_cons, List.mem_cons, not_or] at hi
    rw [List.foldl_cons, ih _ _ hi.2, Function.update_noteq hi.1]

theorem toContexts_of_mem {contexts : List (ℕ × IfContext n)} (hnd : (contexts.map Prod.fst).Nodup)
    {x : ℕ × IfContext n} (hx : x ∈ contexts) : toContexts contexts x.1 = some x.2 := by
  suffices ∀ m : ℕ → Option (IfContext n),
      contexts.foldl (fun m (e : ℕ × IfContext n) => Function.update m e.1 (some e.2)) m x.1 = some x.2
    from this fun _ => none
  induction contexts with
  | nil => nomatch hx
  | cons y contexts ih =>
    intro m
    rw [List.map_cons, List.nodup_cons] at hnd
    rw [List.foldl_cons]
    rcases List.mem_cons.1 hx with rfl | hx
    · rw [foldl_update_of_not_mem _ _ _ hnd.1, Function.update_same]
    · exact ih hnd.2 hx _

theorem isSome_toContexts (contexts : List (ℕ × IfContext n)) (i : ℕ) :
    (toContexts contexts i).isSome ↔ i ∈ contexts.map Prod.fst := by
  rw [toContexts, isSome_foldl_update]
  simp

theorem configSynced_of_load {entry : ℕ × ConfigEntry n} (h : Checked matchAny defaults entry) {rodata : Rodata}
    {ctx : IfContext n} (hload : entry.2.instConfig.load env rodata = .ok ctx.inst)
    (haddr : ctx.addresses = entry.2.addresses) : ctx.ConfigSynced := by
  obtain ⟨_, htry⟩ := h
  obtain ⟨-, externals, -, hcfg⟩ := tryFrom_ok htry
  have hc := (of_load hload).1.trans hcfg
  constructor <;> simp only [hc, haddr]

theorem start_eq_ok {rulePrefs : RulePrefs} {rodata : Rodata} {host : Host} {ifConfigs : List ConfigNetIf}
    {kernel kernel' : Kernel} {contexts : List (ℕ × IfContext n)} {needMonitor : Bool}
    (h : start env matchAny defaults rulePrefs rodata host ifConfigs kernel = (.ok needMonitor, contexts, kernel')) :
    ∃ entries, queryConfigs matchAny defaults host 0 ifConfigs [] = .ok entries ∧
      (loadAll env rodata entries).1 = .ok () ∧
      (attachAll rulePrefs host (loadAll env rodata entries).2 kernel).1 = .ok () ∧
      contexts = (attachAll rulePrefs host (loadAll env rodata entries).2 kernel).2.1 ∧
      needMonitor = entries.any fun e => !e.2.instConfig.isStatic := by
  unfold start at h
  split at h
  · cases h
  next entries hq =>
  dsimp only at h
  split at h
  · cases h
  next hl =>
  simp only [Prod.mk.injEq] at h
  obtain ⟨ha, rfl, -⟩ := h
  cases hA : (attachAll rulePrefs host (loadAll env rodata entries).2 kernel).1 <;> rw [hA] at ha <;> cases ha
  exact ⟨entries, hq, hl, hA, rfl, rfl⟩

/-- **What a successful start leaves.** Every context it returns is synchronised, and its instance, configured for
the interface the context is kept under, is what the load of the config `try_from` built from the addresses it
records gave, with both hooks attached; each configured hairpin routing was handed that config's hairpin
destinations. When it finds that no interface needs the monitor, every loaded config is static. -/
theorem start_ok {rulePrefs : RulePrefs} {rodata : Rodata} {host : Host} {ifConfigs : List ConfigNetIf}
    {kernel kernel' : Kernel} {contexts : List (ℕ × IfContext n)} {needMonitor : Bool}
    (h : start env matchAny defaults rulePrefs rodata host ifConfigs kernel = (.ok needMonitor, contexts, kernel')) :
    ∀ i ctx, toContexts contexts i = some ctx →
      ctx.inst.config.ifIndex = i ∧ ctx.Synced ∧ ∃ (cfg : InstanceConfig n) (inst : Instance n),
        cfg.load env rodata = .ok inst ∧
        ctx.inst = { inst with attachedIngressHook := true, attachedEgressHook := true } ∧
        (needMonitor = false → cfg.isStatic = true) := by
  obtain ⟨entries, hq, -, ha, rfl, rfl⟩ := start_eq_ok env matchAny defaults h
  have hchecked : ∀ e ∈ entries, Checked matchAny defaults e :=
    checked_queryConfigs matchAny defaults hq fun _ h => nomatch h
  have hsynced y (hy : y ∈ (loadAll env rodata entries).2) : y.2.2.ConfigSynced :=
    have ⟨e, he, _, hload, haddr⟩ := loadAll_ok env entries y hy
    configSynced_of_load env matchAny defaults (hchecked e he) hload haddr
  refine foldl_update_of _ (fun _ _ => nofun) fun x hx => ?_
  obtain ⟨hsx, y, hy, hyx, hinst⟩ := attachAll_ok _ hsynced _ ha x hx
  obtain ⟨e, he, hey, hload, -⟩ := loadAll_ok env entries y hy
  refine ⟨?_, hsx, e.2.instConfig, y.2.2.inst, hload, hinst, fun hnm => ?_⟩
  · rw [hinst]
    exact (keyed_loadAll env matchAny defaults rodata hchecked y hy).trans hyx
  · simpa using List.any_eq_false.1 hnm e he

/-- **The start runs every configured interface.** A successful start keeps a context for exactly the interface
indexes the configurations resolve to -/
theorem isSome_start {rulePrefs : RulePrefs} {rodata : Rodata} {host : Host} {ifConfigs : List ConfigNetIf}
    {kernel kernel' : Kernel} {contexts : List (ℕ × IfContext n)} {needMonitor : Bool}
    (h : start env matchAny defaults rulePrefs rodata host ifConfigs kernel = (.ok needMonitor, contexts, kernel'))
    (i : ℕ) : (toContexts contexts i).isSome ↔
      ∃ configIdx < ifConfigs.length, ∃ info, host.query configIdx = some info ∧ info.ifIndex = i := by
  obtain ⟨entries, hq, hl, -, rfl, -⟩ := start_eq_ok env matchAny defaults h
  rw [isSome_toContexts, keys_attachAll, (keys_loadAll env entries).2 hl, keys_queryConfigs matchAny defaults hq]
  simp

end Start

/-! ## Runs -/

section Runs

variable {n : ℕ} (env : Env n)

/-- **What every event keeps, the monitor keeps.** The monitor stops at the first failure, so `J` holds of every
context before each event it handles: when each event's outcome gives `I` and each success keeps `J`, every context
satisfies `I` after any events, and `J` when none failed -/
theorem monitor_keeps (I J : ℕ → IfContext n → Prop) (hJI : ∀ i ctx, J i ctx → I i ctx)
    (hstep : ∀ i ctx query, J i ctx → I i (ctx.onChangeAddress env query).2 ∧
      ((ctx.onChangeAddress env query).1 = .ok () → J i (ctx.onChangeAddress env query).2))
    (contexts : ℕ → Option (IfContext n)) (h : ∀ i ctx, contexts i = some ctx → J i ctx)
    (events : List AddressEvent) :
    (∀ i ctx, (monitor env contexts events).2 i = some ctx → I i ctx) ∧
      ((monitor env contexts events).1 = .ok () →
        ∀ i ctx, (monitor env contexts events).2 i = some ctx → J i ctx) := by
  induction events generalizing contexts with
  | nil => exact ⟨fun i ctx hc => hJI i ctx (h i ctx hc), fun _ => h⟩
  | cons event events ih =>
    simp only [monitor]
    split
    · exact ih contexts h
    · next ctx hctx =>
      obtain ⟨hI, hJ⟩ := hstep _ ctx event.query (h _ ctx hctx)
      split
      · next c heq => rw [heq] at hJ; exact ih _ (update_some_of h (hJ rfl))
      · next e c heq => rw [heq] at hI; exact ⟨update_some_of (fun i c hc => hJI i c (h i c hc)) hI, nofun⟩

theorem isSome_monitor (contexts : ℕ → Option (IfContext n)) (events : List AddressEvent) (i : ℕ) :
    ((monitor env contexts events).2 i).isSome = (contexts i).isSome := by
  induction events generalizing contexts with
  | nil => rfl
  | cons event events ih =>
    simp only [monitor]
    split
    · exact ih contexts
    · next ctx hctx =>
      have hupdate (ctx' : IfContext n) :
          (Function.update contexts event.ifIndex (some ctx') i).isSome = (contexts i).isSome := by
        by_cases hi : i = event.ifIndex
        · subst hi; simp [hctx]
        · rw [Function.update_noteq hi]
      split <;> simp only [ih, hupdate]

/-- **The monitor handles every event whose query succeeds** when each such event succeeds and keeps `J`; `J` then
holds of every context after all of them -/
theorem monitor_ok (J : ℕ → IfContext n → Prop)
    (hstep : ∀ i ctx a, J i ctx →
      (ctx.onChangeAddress env (some a)).1 = .ok () ∧ J i (ctx.onChangeAddress env (some a)).2)
    (contexts : ℕ → Option (IfContext n)) (h : ∀ i ctx, contexts i = some ctx → J i ctx)
    (events : List AddressEvent) (hq : ∀ event ∈ events, event.query.isSome) :
    (monitor env contexts events).1 = .ok () ∧
      ∀ i ctx, (monitor env contexts events).2 i = some ctx → J i ctx := by
  induction events generalizing contexts with
  | nil => exact ⟨rfl, h⟩
  | cons event events ih =>
    have hq' := fun e he => hq e (List.mem_cons_of_mem _ he)
    obtain ⟨a, ha⟩ := Option.isSome_iff_exists.1 (hq event (List.mem_cons_self _ _))
    simp only [monitor, ha]
    split
    · exact ih contexts h hq'
    · next ctx hctx =>
      obtain ⟨hok, hJ⟩ := hstep _ ctx a (h _ ctx hctx)
      split
      · next c heq => rw [heq] at hJ; exact ih _ (update_some_of h hJ) hq'
      · next e c heq => rw [heq] at hok; cases hok

theorem monitor_synced (contexts : ℕ → Option (IfContext n)) (h : ∀ i ctx, contexts i = some ctx → ctx.Synced)
    (events : List AddressEvent) :
    (∀ i ctx', (monitor env contexts events).2 i = some ctx' →
      ctx'.ConfigSynced ∧ ∃ ctx, contexts i = some ctx ∧ ctx.Frame ctx') ∧
    ((monitor env contexts events).1 = .ok () →
      ∀ i ctx', (monitor env contexts events).2 i = some ctx' → ctx'.Synced) := by
  have := monitor_keeps env (fun i ctx' => ctx'.ConfigSynced ∧ ∃ ctx, contexts i = some ctx ∧ ctx.Frame ctx')
    (fun i ctx' => ctx'.Synced ∧ ∃ ctx, contexts i = some ctx ∧ ctx.Frame ctx')
    (fun _ _ ⟨hs, hf⟩ => ⟨hs.toConfigSynced, hf⟩)
    (fun _ _ query ⟨hs, ctx₀, h₀, hf⟩ =>
      have step := hs.toConfigSynced.onChangeAddress env query
      ⟨⟨step.1.1, ctx₀, h₀, hf.trans step.1.2⟩,
        fun hok => ⟨step.2 hok, ctx₀, h₀, hf.trans step.1.2⟩⟩)
    contexts (fun i ctx hc => ⟨h i ctx hc, ctx, hc, .refl ctx⟩) events
  exact ⟨this.1, fun hok i ctx' hc => (this.2 hok i ctx' hc).1⟩

theorem monitor_static (contexts : ℕ → Option (IfContext n))
    (h : ∀ i ctx, contexts i = some ctx → ctx.ConfigSynced ∧ ctx.inst.config.isStatic = true)
    (events : List AddressEvent) (hq : ∀ event ∈ events, event.query.isSome) :
    (monitor env contexts events).1 = .ok () ∧
      ∀ i ctx', (monitor env contexts events).2 i = some ctx' →
        ∃ ctx, contexts i = some ctx ∧ ctx'.inst = ctx.inst := by
  obtain ⟨hok, hJ⟩ := monitor_ok env
    (fun i ctx' => ctx'.ConfigSynced ∧ ∃ ctx, contexts i = some ctx ∧ ctx'.inst = ctx.inst)
    (fun _ _ a ⟨hs, ctx, hc, hi⟩ =>
      have step := hs.onChangeAddress_static env (hi ▸ (h _ ctx hc).2) a
      ⟨step.1, step.2.1, ctx, hc, step.2.2.trans hi⟩)
    contexts (fun i ctx hc => ⟨(h i ctx hc).1, ctx, hc, rfl⟩) events hq
  exact ⟨hok, fun i ctx' hc => (hJ i ctx' hc).2⟩

end Runs

/-! ## What the daemon leaves in the kernel -/

section Shutdown

variable {n : ℕ}

/-- what the daemon puts in the kernel for an interface: einat's TC filter at an attach point, or a hairpin routing -/
inductive KernelObject where
  | filter (point : TcAttachPoint)
  | routing (family : IpFamily)
deriving DecidableEq, Repr

/-- whether the kernel holds the object on the interface -/
def Kernel.holds (kernel : Kernel) (ifIndex : ℕ) : KernelObject → Bool
  | .filter point => kernel.filters ifIndex point
  | .routing family => kernel.routings ifIndex family

/-- whether the context records the object: its instance holds the hook, or it keeps the configured routing -/
def IfContext.records (ctx : IfContext n) : KernelObject → Bool
  | .filter point => ctx.inst.hooked point
  | .routing family => ctx.configured family

/-- the host refused to remove the object: the kernel refused the filter's detach (for the ingress filter, possibly
the egress detach before it), or the routing's `deconfigure` failed -/
def Host.refused (host : Host) (ifIndex : ℕ) : KernelObject → Bool
  | .filter point => detachRefused host.tcFault ifIndex point
  | .routing family => !host.deconfigure ifIndex family

/-- every object the daemon put in the kernel is recorded by the context of its interface, and each context's instance
is configured for the interface it is kept under -/
structure Held (contexts : ℕ → Option (IfContext n)) (kernel : Kernel) : Prop where
  keyed : ∀ i ctx, contexts i = some ctx → ctx.inst.config.ifIndex = i
  holds : ∀ i o, kernel.holds i o = true → ∃ ctx, contexts i = some ctx ∧ ctx.records o = true

theorem attachContext_holds (rulePrefs : RulePrefs) (host : Host) (ifIndex : ℕ) (ifConfig : ConfigNetIf)
    (ctx : IfContext n) (kernel : Kernel) (hk : ctx.inst.config.ifIndex = ifIndex) :
    (attachContext rulePrefs host ifIndex ifConfig ctx kernel).2.1.inst.config = ctx.inst.config ∧
    ∀ i o, (attachContext rulePrefs host ifIndex ifConfig ctx kernel).2.2.holds i o = true →
      kernel.holds i o = true ∨
        (i = ifIndex ∧ (attachContext rulePrefs host ifIndex ifConfig ctx kernel).2.1.records o = true) := by
  obtain ⟨hinst, hfilters, hroutings⟩ := attachContext_shape rulePrefs host ifIndex ifConfig ctx kernel
  obtain ⟨⟨_, _, hattach⟩, -, hput⟩ := ctx.inst.attach_spec host.tcFault kernel.filters
  refine ⟨by rw [hinst, hattach], fun i o h => ?_⟩
  cases o with
  | filter p =>
    simp only [Kernel.holds, hfilters] at h
    rcases hput i p h with h | ⟨rfl, hp⟩
    · exact .inl h
    · exact .inr ⟨hk, by simpa only [IfContext.records, hinst] using hp⟩
  | routing f => exact hroutings i f h

/-- **The start's attach loop keeps track of what it puts in the kernel.** Whatever fails, each context keeps its
configuration, and each object put in place is recorded by a context of the map kept under its interface -/
theorem attachAll_holds (rulePrefs : RulePrefs) (host : Host) (loaded : List (ℕ × ConfigNetIf × IfContext n))
    (hkeyed : ∀ y ∈ loaded, y.2.2.inst.config.ifIndex = y.1) : ∀ kernel,
    (∀ x ∈ (attachAll rulePrefs host loaded kernel).2.1, ∃ y ∈ loaded, y.1 = x.1 ∧
      x.2.inst.config = y.2.2.inst.config) ∧
    ∀ i o, (attachAll rulePrefs host loaded kernel).2.2.holds i o = true → kernel.holds i o = true ∨
      ∃ x ∈ (attachAll rulePrefs host loaded kernel).2.1, x.1 = i ∧ x.2.records o = true := by
  induction loaded with
  | nil => exact fun _ => ⟨(fun _ h => nomatch h), fun _ _ => .inl⟩
  | cons y loaded ih =>
    intro kernel
    have hy := attachContext_holds rulePrefs host y.1 y.2.1 y.2.2 kernel (hkeyed y (List.mem_cons_self _ _))
    have ih := ih fun y hy => hkeyed y (List.mem_cons_of_mem _ hy)
    rw [attachAll]
    split <;> rename_i hc <;> simp only [hc] at hy <;> obtain ⟨hcfg, hholds⟩ := hy
    · refine ⟨?_, fun i o h => ?_⟩
      · rintro x (_ | ⟨_, hx⟩)
        · exact ⟨y, List.mem_cons_self _ _, rfl, hcfg⟩
        · obtain ⟨z, hz, rfl⟩ := List.mem_map.1 hx
          exact ⟨z, List.mem_cons_of_mem _ hz, rfl, rfl⟩
      · rcases hholds i o h with h | ⟨rfl, ho⟩
        exacts [.inl h, .inr ⟨_, List.mem_cons_self _ _, rfl, ho⟩]
    · obtain ⟨ihcfg, ihholds⟩ := ih _
      refine ⟨?_, fun i o h => ?_⟩
      · rintro x (_ | ⟨_, hx⟩)
        · exact ⟨y, List.mem_cons_self _ _, rfl, hcfg⟩
        · obtain ⟨z, hz, h⟩ := ihcfg x hx
          exact ⟨z, List.mem_cons_of_mem _ hz, h⟩
      · rcases ihholds i o h with h | ⟨x, hx, hxi, ho⟩
        · rcases hholds i o h with h | ⟨rfl, ho⟩
          exacts [.inl h, .inr ⟨_, List.mem_cons_self _ _, rfl, ho⟩]
        · exact .inr ⟨x, List.mem_cons_of_mem _ hx, hxi, ho⟩

/-- **Whatever fails during the start, the daemon's map records all it put in the kernel.** From a kernel with none
of einat's filters and routings, every object the start leaves is recorded by the context of its interface, and each
context's instance is configured for the interface it is kept under -/
theorem start_held (env : Env n) (matchAny : ConfigExternal × ConfigExternal) (defaults : ConfigDefaults)
    (rulePrefs : RulePrefs) (rodata : Rodata) (host : Host) (ifConfigs : List ConfigNetIf) {kernel : Kernel}
    (hempty : ∀ i o, kernel.holds i o = false) :
    Held (toContexts (start env matchAny defaults rulePrefs rodata host ifConfigs kernel).2.1)
      (start env matchAny defaults rulePrefs rodata host ifConfigs kernel).2.2 := by
  have hnone i o (h : kernel.holds i o = true) : False := by rw [hempty] at h; cases h
  unfold start
  split
  · exact ⟨(fun _ _ h => nomatch h), fun i o h => (hnone i o h).elim⟩
  next entries hq =>
  have hchecked := checked_queryConfigs matchAny defaults hq fun _ h => nomatch h
  have hkeyed := keyed_loadAll env matchAny defaults rodata hchecked
  dsimp only
  split
  · refine ⟨foldl_update_of _ (fun _ _ => nofun) fun x hx => ?_, fun i o h => (hnone i o h).elim⟩
    obtain ⟨y, hy, rfl⟩ := List.mem_map.1 hx
    exact hkeyed y hy
  next hl =>
  obtain ⟨hcfg, hholds⟩ := attachAll_holds rulePrefs host _ hkeyed kernel
  have hnodup : ((attachAll rulePrefs host (loadAll env rodata entries).2 kernel).2.1.map Prod.fst).Nodup := by
    rw [keys_attachAll, (keys_loadAll env entries).2 hl]
    exact nodup_keys_queryConfigs matchAny defaults hq List.nodup_nil
  refine ⟨foldl_update_of _ (fun _ _ => nofun) fun x hx => ?_, fun i o h => ?_⟩
  · obtain ⟨y, hy, hyx, hc⟩ := hcfg x hx
    rw [hc, hkeyed y hy, hyx]
  · rcases hholds i o h with h | ⟨x, hx, rfl, ho⟩
    · exact (hnone _ _ h).elim
    · exact ⟨x.2, toContexts_of_mem hnodup hx, ho⟩

theorem monitor_held (env : Env n) (contexts : ℕ → Option (IfContext n))
    (hs : ∀ i ctx, contexts i = some ctx → ctx.Synced) {kernel : Kernel} (h : Held contexts kernel)
    (events : List AddressEvent) : Held (monitor env contexts events).2 kernel := by
  have back i ctx' (hc : (monitor env contexts events).2 i = some ctx') :=
    ((monitor_synced env contexts hs events).1 i ctx' hc).2
  refine ⟨fun i ctx' hc => ?_, fun i o ho => ?_⟩
  · obtain ⟨ctx, h₀, hf⟩ := back i ctx' hc
    exact hf.ifIndex_eq.trans (h.keyed i ctx h₀)
  · obtain ⟨ctx, h₀, hr⟩ := h.holds i o ho
    obtain ⟨ctx', hc'⟩ := Option.isSome_iff_exists.1
      (show ((monitor env contexts events).2 i).isSome = true by rw [isSome_monitor, h₀]; rfl)
    obtain ⟨ctx₀, h₀', hf⟩ := back i ctx' hc'
    rw [h₀] at h₀'
    cases h₀'
    refine ⟨ctx', hc', ?_⟩
    cases o <;> simpa only [IfContext.records, hf.2.1, hf.2.2.1] using hr

theorem deconfigureRouting_holds (host : Host) (ifIndex : ℕ) (family : IpFamily) (configured : Bool)
    (kernel : Kernel) :
    (deconfigureRouting host ifIndex family configured kernel).2.filters = kernel.filters ∧
    ∀ i f, (deconfigureRouting host ifIndex family configured kernel).2.routings i f = true →
      kernel.routings i f = true ∧
        (i = ifIndex → f = family → configured = false ∨ host.deconfigure i f = false) := by
  unfold deconfigureRouting
  split_ifs with hc hd
  · refine ⟨rfl, fun i f h => ?_⟩
    by_cases hi : i = ifIndex ∧ f = family
    · simp [Kernel.setRouting, hi] at h
    · simp only [Kernel.setRouting, if_neg hi] at h
      exact ⟨h, fun h1 h2 => absurd ⟨h1, h2⟩ hi⟩
  · exact ⟨rfl, fun i f h => ⟨h, fun h1 h2 => .inr (by subst h1 h2; simpa using hd)⟩⟩
  · exact ⟨rfl, fun i f h => ⟨h, fun _ _ => .inl (by simpa using hc)⟩⟩

/-- **What detaching a context leaves.** `IfContext::detach` puts nothing in place, and, whatever fails, runs every
step: it leaves an object of its interface only when the context did not record it or the host refused its removal -/
theorem IfContext.detach_holds (host : Host) (ifIndex : ℕ) (ctx : IfContext n) (kernel : Kernel)
    (hk : ctx.inst.config.ifIndex = ifIndex) :
    ∀ i o, (ctx.detach host ifIndex kernel).2.2.holds i o = true →
      kernel.holds i o = true ∧ (i = ifIndex → ctx.records o = false ∨ host.refused i o = true) := by
  intro i o h
  have hooks := ctx.inst.detach_filters host.tcFault kernel.filters
  obtain ⟨hf4, hr4⟩ := deconfigureRouting_holds host ifIndex .v4 (ctx.configured .v4)
    { kernel with filters := (ctx.inst.detach host.tcFault kernel.filters).2.2 }
  obtain ⟨hf6, hr6⟩ := deconfigureRouting_holds host ifIndex .v6 (ctx.configured .v6)
    (deconfigureRouting host ifIndex .v4 (ctx.configured .v4)
      { kernel with filters := (ctx.inst.detach host.tcFault kernel.filters).2.2 }).2
  simp only [IfContext.detach] at h
  cases o with
  | filter p =>
    simp only [Kernel.holds, hf6, hf4] at h
    obtain ⟨h0, hp⟩ := hooks i p h
    exact ⟨h0, fun hi => hp (hi.trans hk.symm)⟩
  | routing f =>
    obtain ⟨h4, h6⟩ := hr6 i f h
    obtain ⟨h0, h4⟩ := hr4 i f h4
    refine ⟨h0, fun hi => ?_⟩
    subst hi
    cases f
    · simpa [IfContext.records, Host.refused] using h4 rfl rfl
    · simpa [IfContext.records, Host.refused] using h6 rfl rfl

/-- **What the cleanup leaves.** Detaching the contexts kept under `ifIndexes` puts nothing in place, and leaves an
object of one of those interfaces only when its context did not record it or the host refused its removal -/
theorem detachAll_holds (host : Host) (contexts : ℕ → Option (IfContext n))
    (hkeyed : ∀ i ctx, contexts i = some ctx → ctx.inst.config.ifIndex = i) (ifIndexes : List ℕ) :
    ∀ kernel i o, (detachAll host contexts ifIndexes kernel).holds i o = true → kernel.holds i o = true ∧
      (i ∈ ifIndexes → ∀ ctx, contexts i = some ctx → ctx.records o = false ∨ host.refused i o = true) := by
  induction ifIndexes with
  | nil => exact fun _ _ _ h => ⟨h, nofun⟩
  | cons k ifIndexes ih =>
    intro kernel i o h
    rw [detachAll] at h
    split at h
    · next hk =>
      obtain ⟨h0, hrest⟩ := ih kernel i o h
      refine ⟨h0, fun hi ctx hc => ?_⟩
      rcases List.mem_cons.1 hi with rfl | hi
      · rw [hk] at hc; cases hc
      · exact hrest hi ctx hc
    · next ctx hk =>
      obtain ⟨h1, hrest⟩ := ih _ i o h
      obtain ⟨h0, hctx⟩ := ctx.detach_holds host k kernel (hkeyed k ctx hk) i o h1
      refine ⟨h0, fun hi ctx' hc => ?_⟩
      rcases List.mem_cons.1 hi with rfl | hi
      · rw [hk] at hc; cases hc; exact hctx rfl
      · exact hrest hi ctx' hc

theorem detachAll_held (host : Host) {contexts : ℕ → Option (IfContext n)} {kernel : Kernel} (h : Held contexts kernel)
    (ifIndexes : List ℕ) (hcover : ∀ i, (contexts i).isSome → i ∈ ifIndexes) :
    ∀ i o, (detachAll host contexts ifIndexes kernel).holds i o = true → host.refused i o = true := by
  intro i o hd
  obtain ⟨h0, hrest⟩ := detachAll_holds host contexts h.keyed ifIndexes kernel i o hd
  obtain ⟨ctx, hc, hr⟩ := h.holds i o h0
  rcases hrest (hcover i (by rw [hc]; rfl)) ctx hc with hr' | hr'
  · rw [hr] at hr'; cases hr'
  · exact hr'

end Shutdown

/-! ## The daemon -/

section Daemon

variable {n : ℕ} (env : Env n) (matchAny : ConfigExternal × ConfigExternal) (defaults : ConfigDefaults)
  (rulePrefs : RulePrefs) (rodata : Rodata) (host : Host) (ifConfigs : List ConfigNetIf) (kernel : Kernel)

/-- an interface with NAT44, one matcher of every IPv4 address, and IPv4 hairpin routing for lan0 -/
def matchAllIf : ConfigNetIf :=
  ⟨none, true, false, false, [Lifecycle.matchAllEntry], [], none, none, none, none, none, none, none,
    ⟨none, ["lan0"], none⟩, ⟨none, [], none⟩⟩

/-- an interface with NAT44 and the one static address 1.2.3.4 -/
def staticIf : ConfigNetIf :=
  ⟨none, true, false, false, [staticEntry false], [], none, none, none, none, none, none, none, ⟨none, [], none⟩,
    ⟨none, [], none⟩⟩

/-- hairpin rules at priority 100, the local rule at 200 -/
def rulePrefs100 : RulePrefs := ⟨100, 200, 100, 200⟩

/-- one configured interface, index 2, Ethernet, with no addresses yet; the kernel refuses nothing, and every hairpin
routing's `configure` and `deconfigure` succeed -/
def oneIfHost : Host :=
  ⟨fun configIdx => if configIdx = 0 then some ⟨2, .ethernet, ⟨[], []⟩⟩ else none, fun _ _ => false,
    fun _ _ => true, fun _ _ => true⟩

/-- a kernel with none of einat's filters and hairpin routings -/
def cleanKernel : Kernel := ⟨fun _ _ => false, fun _ _ => false⟩

theorem holds_cleanKernel : ∀ i o, cleanKernel.holds i o = false := fun _ o => by cases o <;> rfl

/-- interface 2 gains 0.0.0.5, an event comes for an unknown interface, then interface 2 gains 0.0.0.6 -/
def addressEvents : List AddressEvent :=
  [⟨2, some ⟨[5], []⟩⟩, ⟨3, some ⟨[6], []⟩⟩, ⟨2, some ⟨[5, 6], []⟩⟩]

theorem query_isSome_addressEvents : ∀ event ∈ addressEvents, event.query.isSome := by
  simp [addressEvents]

/-- the IPv4 data plane fails the insert of 0.0.0.6/32, as in `Lifecycle.reconfigure_after_failed_apply` -/
def failSixEnv : Env 1 :=
  ⟨Lifecycle.failInsertSix, Lifecycle.DiffOrder.canonical, DataPlane.noFault, Lifecycle.DiffOrder.canonical⟩

/-- **The daemon keeps every interface synchronised, whatever faults.** After a successful start and any address
events, every context's stored runtime configs are those built from its policy and the addresses it records, also when
the monitor stopped on a failed reconfigure; its read-only data, its hooks, which routings it keeps and the rest of its
configuration are those the start left; and when no event failed, each configured hairpin routing was last handed the
stored configs' hairpin destinations. -/
theorem daemon_synced {contexts : List (ℕ × IfContext n)} {needMonitor : Bool} {kernel' : Kernel}
    (h : start env matchAny defaults rulePrefs rodata host ifConfigs kernel = (.ok needMonitor, contexts, kernel'))
    (events : List AddressEvent) :
    (∀ i ctx', (monitor env (toContexts contexts) events).2 i = some ctx' →
      ctx'.ConfigSynced ∧ ∃ ctx, toContexts contexts i = some ctx ∧ ctx.Frame ctx') ∧
    ((monitor env (toContexts contexts) events).1 = .ok () →
      ∀ i ctx', (monitor env (toContexts contexts) events).2 i = some ctx' → ctx'.Synced) :=
  monitor_synced env _ (fun i ctx hc => (start_ok env matchAny defaults h i ctx hc).2.1) events

theorem daemon_synced_failSix :
    ∃ (contexts : List (ℕ × IfContext 1)) (needMonitor : Bool) (kernel' : Kernel),
      start failSixEnv (Lifecycle.matchAllEntry, Lifecycle.matchAllEntry) noDefaults rulePrefs100 zeroRodata oneIfHost
          [matchAllIf] cleanKernel = (.ok needMonitor, contexts, kernel') ∧
      (∀ i ctx', (monitor failSixEnv (toContexts contexts) addressEvents).2 i = some ctx' →
        ctx'.ConfigSynced ∧ ∃ ctx, toContexts contexts i = some ctx ∧ ctx.Frame ctx') ∧
      ((monitor failSixEnv (toContexts contexts) addressEvents).1 = .ok () →
        ∀ i ctx', (monitor failSixEnv (toContexts contexts) addressEvents).2 i = some ctx' → ctx'.Synced) :=
  have ⟨contexts, needMonitor, kernel', h⟩ : ∃ contexts needMonitor kernel', start failSixEnv
      (Lifecycle.matchAllEntry, Lifecycle.matchAllEntry) noDefaults rulePrefs100 zeroRodata oneIfHost [matchAllIf]
      cleanKernel = (.ok needMonitor, contexts, kernel') := ⟨_, _, _, rfl⟩
  ⟨contexts, needMonitor, kernel', h, daemon_synced failSixEnv _ _ _ _ _ _ _ h addressEvents⟩

/-- **The daemon runs exactly the configured interfaces, each instance on its own.** After a successful start and any
address events, whatever faults, the daemon holds a context for exactly the interface indexes the configurations
resolve to, and each context's instance is configured for the interface it is kept under: the instance an event of an
interface reconfigures is the one the start attached to that interface. -/
theorem daemon_contexts {contexts : List (ℕ × IfContext n)} {needMonitor : Bool} {kernel' : Kernel}
    (h : start env matchAny defaults rulePrefs rodata host ifConfigs kernel = (.ok needMonitor, contexts, kernel'))
    (events : List AddressEvent) :
    (∀ i, ((monitor env (toContexts contexts) events).2 i).isSome ↔
      ∃ configIdx < ifConfigs.length, ∃ info, host.query configIdx = some info ∧ info.ifIndex = i) ∧
    ∀ i ctx', (monitor env (toContexts contexts) events).2 i = some ctx' → ctx'.inst.config.ifIndex = i :=
  ⟨fun i => (isSome_monitor env _ events i).symm ▸ isSome_start env matchAny defaults h i,
    fun i ctx' hc =>
      have ⟨_, ctx, hctx, hf⟩ := (monitor_synced env _
        (fun i ctx hc => (start_ok env matchAny defaults h i ctx hc).2.1) events).1 i ctx' hc
      hf.ifIndex_eq.trans (start_ok env matchAny defaults h i ctx hctx).1⟩

/-- two configurations of interface 2: the second, static one replaces the first -/
def twoConfigsHost : Host :=
  ⟨fun configIdx => if configIdx < 2 then some ⟨2, .ethernet, ⟨[], []⟩⟩ else none, fun _ _ => false,
    fun _ _ => true, fun _ _ => true⟩

theorem daemon_contexts_twoConfigs :
    ∃ (contexts : List (ℕ × IfContext 1)) (needMonitor : Bool) (kernel' : Kernel),
      start (Env.clean : Env 1) (Lifecycle.matchAllEntry, Lifecycle.matchAllEntry) noDefaults rulePrefs100
          zeroRodata twoConfigsHost [matchAllIf, staticIf] cleanKernel = (.ok needMonitor, contexts, kernel') ∧
      (∀ i, ((monitor Env.clean (toContexts contexts) addressEvents).2 i).isSome ↔
        ∃ configIdx < [matchAllIf, staticIf].length, ∃ info,
          twoConfigsHost.query configIdx = some info ∧ info.ifIndex = i) ∧
      ∀ i ctx', (monitor Env.clean (toContexts contexts) addressEvents).2 i = some ctx' →
        ctx'.inst.config.ifIndex = i :=
  have ⟨contexts, needMonitor, kernel', h⟩ : ∃ contexts needMonitor kernel', start (Env.clean : Env 1)
      (Lifecycle.matchAllEntry, Lifecycle.matchAllEntry) noDefaults rulePrefs100 zeroRodata twoConfigsHost
      [matchAllIf, staticIf] cleanKernel = (.ok needMonitor, contexts, kernel') := ⟨_, _, _, rfl⟩
  ⟨contexts, needMonitor, kernel', h, daemon_contexts Env.clean _ _ _ _ _ _ _ h addressEvents⟩

/-- **A start that finds no monitor needed loses nothing by not monitoring.** When every interface's `External`s are
static, the start finds that no interface needs the monitor (`need_monitor` false), and the daemon then waits for a
signal without handling address events. Handling them, whatever faults, would succeed for every event whose query
succeeds and leave every instance, its data planes and stored configs, as the start left it. -/
theorem daemon_static {contexts : List (ℕ × IfContext n)} {kernel' : Kernel}
    (h : start env matchAny defaults rulePrefs rodata host ifConfigs kernel = (.ok false, contexts, kernel'))
    (env' : Env n) (events : List AddressEvent) (hq : ∀ event ∈ events, event.query.isSome) :
    (monitor env' (toContexts contexts) events).1 = .ok () ∧
      ∀ i ctx', (monitor env' (toContexts contexts) events).2 i = some ctx' →
        ∃ ctx, toContexts contexts i = some ctx ∧ ctx'.inst = ctx.inst :=
  monitor_static env' _ (fun i ctx hc =>
    have ⟨_, hs, _, _, hload, hctx, hstatic⟩ := start_ok env matchAny defaults h i ctx hc
    ⟨hs.toConfigSynced, by rw [hctx]; exact (of_load hload).1 ▸ hstatic rfl⟩) events hq

theorem daemon_static_staticIf :
    ∃ (contexts : List (ℕ × IfContext 1)) (kernel' : Kernel),
      (start (Env.clean : Env 1) (Lifecycle.matchAllEntry, Lifecycle.matchAllEntry) noDefaults rulePrefs100 zeroRodata
          oneIfHost [staticIf] cleanKernel = (.ok false, contexts, kernel') ∧
        ∀ event ∈ addressEvents, event.query.isSome) ∧
      (monitor failSixEnv (toContexts contexts) addressEvents).1 = .ok () ∧
        ∀ i ctx', (monitor failSixEnv (toContexts contexts) addressEvents).2 i = some ctx' →
          ∃ ctx, toContexts contexts i = some ctx ∧ ctx'.inst = ctx.inst :=
  have ⟨contexts, kernel', h⟩ : ∃ contexts kernel', start (Env.clean : Env 1)
      (Lifecycle.matchAllEntry, Lifecycle.matchAllEntry) noDefaults rulePrefs100 zeroRodata oneIfHost [staticIf]
      cleanKernel = (.ok false, contexts, kernel') := ⟨_, _, rfl⟩
  ⟨contexts, kernel', ⟨h, query_isSome_addressEvents⟩,
    daemon_static Env.clean _ _ _ _ _ _ _ h failSixEnv addressEvents query_isSome_addressEvents⟩

/-- **Shutdown leaves nothing the host did not refuse to remove.** From a kernel with none of einat's TC filters and
hairpin routings, whatever fails during the start (after any number of loads, attaches and routings), whatever the
monitor meets and wherever the signal comes, `daemon_guard` leaves in the kernel only a filter whose detach the kernel
refused (for an ingress filter, possibly the egress detach before it) or a hairpin routing whose `deconfigure` failed:
every context of the daemon's map is detached, and every step of each detach runs. -/
theorem daemonGuard_cleanup (hempty : ∀ i o, kernel.holds i o = false) (events : List AddressEvent) :
    ∀ i o, (daemonGuard env matchAny defaults rulePrefs rodata host ifConfigs events kernel).2.holds i o = true →
      host.refused i o = true := by
  have hheld := start_held env matchAny defaults rulePrefs rodata host ifConfigs hempty
  have hcover i (hi : (toContexts (start env matchAny defaults rulePrefs rodata host ifConfigs kernel).2.1 i).isSome) :=
    (isSome_toContexts _ i).1 hi
  unfold daemonGuard
  generalize hs : start env matchAny defaults rulePrefs rodata host ifConfigs kernel = s at hheld hcover
  obtain ⟨r, contexts, kernel'⟩ := s
  dsimp only at hheld hcover ⊢
  cases r with
  | error e => exact detachAll_held host hheld _ hcover
  | ok needMonitor =>
    have hsynced i ctx (hc : toContexts contexts i = some ctx) : ctx.Synced :=
      (start_ok env matchAny defaults hs i ctx hc).2.1
    dsimp only
    split
    · exact detachAll_held host (monitor_held env _ hsynced hheld events) _
        fun i hi => hcover i (by rwa [isSome_monitor] at hi)
    · exact detachAll_held host hheld _ hcover

/-- the kernel refuses every egress detach, and every hairpin routing's `deconfigure` fails -/
def stuckHost : Host :=
  ⟨oneIfHost.query, fun _ op => op == .detach .egress, fun _ _ => true, fun _ _ => false⟩

theorem daemonGuard_cleanup_stuckHost :
    (∀ i o, cleanKernel.holds i o = false) ∧
      ∀ i o, (daemonGuard (Env.clean : Env 1) (Lifecycle.matchAllEntry, Lifecycle.matchAllEntry) noDefaults rulePrefs100
        zeroRodata stuckHost [matchAllIf] addressEvents cleanKernel).2.holds i o = true →
          stuckHost.refused i o = true :=
  ⟨holds_cleanKernel, daemonGuard_cleanup (Env.clean : Env 1) _ _ _ _ _ _ _ holds_cleanKernel addressEvents⟩

end Daemon

end Einat.Daemon
