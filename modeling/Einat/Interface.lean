/-
One interface, both address families: the whole of `InstanceConfig::try_from`, `ConstConfig::apply`, and
`InstanceConfig::load` and `Instance::reconfigure_v4_addresses` / `reconfigure_v6_addresses` on an instance of two
families; and `Instance::attach` / `detach`, its TC hooks.

`crate::config` and `crate::route` are not among the sources: `ConfigNetIf` and `IfAddresses` keep the fields
`try_from` and the daemon read, and `PacketEncap` follows the spec's four cases. `ConfigExternal::match_any_ipv4` and
`match_any_ipv6` (config.rs) are not described anywhere: they are the parameters `matchAny`. The build is the one with
the `ipv6` feature, so `nat66` is the interface's own flag. The data plane object is opened and loaded by the loader,
which the model leaves out: `load` writes the constants into its read-only data and applies each family's runtime
config to a fresh data plane of its own (`Lifecycle.InstanceConfig.load`); the two families' config maps and scalars
are distinct objects. libbpf is not among the sources either: a TC operation either is refused by the kernel
(`TcFault`), changing nothing, or does what its name says to einat's filters (`TcFilters`), and an instance's hooks
are the two records `attached_ingress_hook` and `attached_egress_hook`.

Results:
- `tryFrom_ok`: what `try_from` did to return a config: the encapsulation is supported, every configured and default
  `External` is valid, and each family's runtime config is built from that family's no-SNAT destinations and
  addresses, from the same `External`s.
- `tryFrom_defaultExternals`: with `default_externals`, and `match_any_ipv4` / `match_any_ipv6` matching every address
  of their family, every non-zero address of the interface is a key of its family's external config, for each family
  whose NAT is enabled.
- `reconfigureV4Addresses_cases` / `agrees_reconfigureV4Addresses` / `reconfigureV4Addresses_of_isStatic`, and their
  IPv6 twins: what a reconfigure of one family does to the instance of two, whatever faults, without faults, and with
  a static policy.
- `Instance.attach_spec` / `Instance.detach_filters`: attaching records every filter it puts in place; detaching leaves
  a filter only when no hook was recorded there or the kernel refused, and a refused egress detach ends it before the
  ingress hook.
-/
import Einat.Lifecycle

namespace Einat.Interface

open Einat.Network Einat.Policy Einat.Builder

/-! ## Configuration records -/

/-- Modelled from the spec: `route::PacketEncap`, the interface's packet encapsulation -/
inductive PacketEncap where
  | ethernet
  | bareIp
  | unsupported
  | unknown
deriving DecidableEq

/-- `route::IfAddresses`: the interface's addresses of each family -/
structure IfAddresses where
  ipv4 : List (Fin (2 ^ 32))
  ipv6 : List (Fin (2 ^ 128))

/-- `config::ConfigHairpinRoute`, the fields the daemon reads itself; `table_id` and `ip_protocols` only go to
`HairpinRouting::configure` -/
structure ConfigHairpinRoute where
  enable : Option Bool
  internalIfNames : List String
  ipRulePref : Option ℕ

/-- `config::ConfigNetIf`, the fields `InstanceConfig::try_from` and the daemon read -/
structure ConfigNetIf where
  bpfLogLevel : Option ℕ
  nat44 : Bool
  nat66 : Bool
  defaultExternals : Bool
  externals : List ConfigExternal
  noSnatDests : List IpNet
  bpfFibLookupExternal : Option Bool
  allowInboundIcmpx : Option Bool
  timeoutFragment : Option ℕ
  timeoutPktMin : Option ℕ
  timeoutPktDefault : Option ℕ
  timeoutTcpTrans : Option ℕ
  timeoutTcpEst : Option ℕ
  ipv4HairpinRoute : ConfigHairpinRoute
  ipv6HairpinRoute : ConfigHairpinRoute

/-- `ConstConfig`: the data plane's read-only constants, each set only when given -/
structure ConstConfig where
  logLevel : Option ℕ
  hasEthEncap : Option Bool
  ingressIpv4 : Option Bool
  egressIpv4 : Option Bool
  ingressIpv6 : Option Bool
  egressIpv6 : Option Bool
  enableFibLookupSrc : Option Bool
  allowInboundIcmpx : Option Bool
  timeoutFragment : Option ℕ
  timeoutPktMin : Option ℕ
  timeoutPktDefault : Option ℕ
  timeoutTcpTrans : Option ℕ
  timeoutTcpEst : Option ℕ
deriving DecidableEq

/-- the object's read-only data (`rodata`), the constants `ConstConfig::apply` writes; a flag is the integer that
`as _` makes of a `bool` -/
@[ext]
structure Rodata where
  logLevel : ℕ
  hasEthEncap : ℕ
  ingressIpv4 : ℕ
  egressIpv4 : ℕ
  ingressIpv6 : ℕ
  egressIpv6 : ℕ
  enableFibLookupSrc : ℕ
  allowInboundIcmpx : ℕ
  timeoutFragment : ℕ
  timeoutPktMin : ℕ
  timeoutPktDefault : ℕ
  timeoutTcpTrans : ℕ
  timeoutTcpEst : ℕ
deriving DecidableEq

/-- the errors of `InstanceConfig::try_from` -/
inductive Error where
  /-- "Interface has unsupported packet encapsulation" -/
  | unsupportedEncap
  /-- an error of `External::try_from` -/
  | external (e : Policy.Error)
deriving DecidableEq

/-- `InstanceConfig`: the interface's validated configuration, both families -/
structure InstanceConfig (n : ℕ) where
  ifIndex : ℕ
  v4NoSnatDests : List Ipv4Net
  v6NoSnatDests : List Ipv6Net
  externals : List External
  constConfig : ConstConfig
  runtimeV4Config : RuntimeConfig Ipv4Net n
  runtimeV6Config : RuntimeConfig Ipv6Net n

/-- `Instance`: the configuration, the object's read-only data, the data plane objects of each family, and whether
`attached_ingress_hook` and `attached_egress_hook` hold an attached TC hook -/
structure Instance (n : ℕ) where
  config : InstanceConfig n
  rodata : Rodata
  v4Skel : DataPlane.Skel Ipv4Net n
  v6Skel : DataPlane.Skel Ipv6Net n
  attachedIngressHook : Bool
  attachedEgressHook : Bool

/-- a TC hook's attach point: `TC_INGRESS`, where `ingress_rev_snat` runs, or `TC_EGRESS`, where `egress_snat` runs -/
inductive TcAttachPoint where
  | ingress
  | egress
deriving DecidableEq, Repr

/-- a TC operation of `Instance::attach` or `Instance::detach`, through libbpf: `create()` of the hook's qdisc, or
`attach()` or `detach()` of a hook -/
inductive TcOp where
  | create
  | attach (point : TcAttachPoint)
  | detach (point : TcAttachPoint)
deriving DecidableEq, Repr

/-- the kernel's einat TC filters (handle 1, priority 1): whether each interface's attach point holds one -/
abbrev TcFilters := ℕ → TcAttachPoint → Bool

/-- which TC operations the kernel refuses, on which interface (libbpf is not among the sources) -/
abbrev TcFault := ℕ → TcOp → Bool

/-! ## Model -/

section Model

variable {n : ℕ}

/-- `if let Some(value) = field { rodata.X = value }`, one write of `ConstConfig::apply` -/
def writeIf {α : Type} (field : Option α) (write : α → Rodata → Rodata) (rodata : Rodata) : Rodata :=
  match field with
  | some value => write value rodata
  | none => rodata

/-- `ConstConfig::apply`, in the source's order; `timeout_pkt_default` is written to `TIMEOUT_PKT_MIN`, as the source
does -/
def ConstConfig.apply (self : ConstConfig) (rodata : Rodata) : Rodata :=
  let rodata := writeIf self.logLevel (fun v r => { r with logLevel := v }) rodata
  let rodata := writeIf self.hasEthEncap (fun v r => { r with hasEthEncap := v.toNat }) rodata
  let rodata := writeIf self.ingressIpv4 (fun v r => { r with ingressIpv4 := v.toNat }) rodata
  let rodata := writeIf self.egressIpv4 (fun v r => { r with egressIpv4 := v.toNat }) rodata
  let rodata := writeIf self.ingressIpv6 (fun v r => { r with ingressIpv6 := v.toNat }) rodata
  let rodata := writeIf self.egressIpv6 (fun v r => { r with egressIpv6 := v.toNat }) rodata
  let rodata := writeIf self.enableFibLookupSrc (fun v r => { r with enableFibLookupSrc := v.toNat }) rodata
  let rodata := writeIf self.allowInboundIcmpx (fun v r => { r with allowInboundIcmpx := v.toNat }) rodata
  let rodata := writeIf self.timeoutFragment (fun v r => { r with timeoutFragment := v }) rodata
  let rodata := writeIf self.timeoutPktMin (fun v r => { r with timeoutPktMin := v }) rodata
  let rodata := writeIf self.timeoutPktDefault (fun v r => { r with timeoutPktMin := v }) rodata
  let rodata := writeIf self.timeoutTcpTrans (fun v r => { r with timeoutTcpTrans := v }) rodata
  writeIf self.timeoutTcpEst (fun v r => { r with timeoutTcpEst := v }) rodata

/-- `unwrap_v4` -/
def unwrapV4 : IpNet → Option Ipv4Net
  | .v4 network => some network
  | .v6 _ => none

/-- `unwrap_v6` -/
def unwrapV6 : IpNet → Option Ipv6Net
  | .v6 network => some network
  | .v4 _ => none

/-- the `default_externals` of an interface: `match_any_ipv4` with NAT44, `match_any_ipv6` with NAT66 -/
def defaultExternals (matchAny : ConfigExternal × ConfigExternal) (ifConfig : ConfigNetIf) : List ConfigExternal :=
  if ifConfig.defaultExternals then
    (if ifConfig.nat44 then [matchAny.1] else []) ++ (if ifConfig.nat66 then [matchAny.2] else [])
  else []

/-- `InstanceConfig::try_from` -/
def InstanceConfig.tryFrom (matchAny : ConfigExternal × ConfigExternal) (ifIndex : ℕ) (ifEncap : PacketEncap)
    (ifConfig : ConfigNetIf) (defaults : ConfigDefaults) (addresses : IfAddresses) :
    Except Error (InstanceConfig n) := do
  let hasEthEncap ← match ifEncap with
    | .ethernet => pure true
    | .bareIp => pure false
    | .unsupported => throw .unsupportedEncap
    | .unknown => pure false
  let nat44 := ifConfig.nat44
  let nat66 := ifConfig.nat66
  let nat64 := false
  let constConfig : ConstConfig :=
    { logLevel := some (min (ifConfig.bpfLogLevel.getD 0) 5), hasEthEncap := some hasEthEncap,
      ingressIpv4 := some (nat44 || nat64), egressIpv4 := some nat44, ingressIpv6 := some nat66,
      egressIpv6 := some (nat66 || nat64), enableFibLookupSrc := ifConfig.bpfFibLookupExternal,
      allowInboundIcmpx := ifConfig.allowInboundIcmpx, timeoutFragment := ifConfig.timeoutFragment,
      timeoutPktMin := ifConfig.timeoutPktMin, timeoutPktDefault := ifConfig.timeoutPktDefault,
      timeoutTcpTrans := ifConfig.timeoutTcpTrans, timeoutTcpEst := ifConfig.timeoutTcpEst }
  let externals ← (ifConfig.externals ++ defaultExternals matchAny ifConfig).mapM fun external =>
    (External.tryFrom n external defaults).mapError .external
  let v4NoSnatDests := ifConfig.noSnatDests.filterMap unwrapV4
  let runtimeV4Config := RuntimeConfig.from v4NoSnatDests externals addresses.ipv4
  let v6NoSnatDests := ifConfig.noSnatDests.filterMap unwrapV6
  let runtimeV6Config := RuntimeConfig.from v6NoSnatDests externals addresses.ipv6
  pure { ifIndex, v4NoSnatDests, v6NoSnatDests, externals, constConfig, runtimeV4Config, runtimeV6Config }

/-- `InstanceConfig::is_static` -/
def InstanceConfig.isStatic (self : InstanceConfig n) : Bool := Builder.isStatic self.externals

/-- the IPv4 part of the configuration, as the one-family model has it -/
def InstanceConfig.v4 (self : InstanceConfig n) : Lifecycle.InstanceConfig Ipv4Net n :=
  ⟨self.v4NoSnatDests, self.externals, self.runtimeV4Config⟩

/-- the IPv6 part of the configuration, as the one-family model has it -/
def InstanceConfig.v6 (self : InstanceConfig n) : Lifecycle.InstanceConfig Ipv6Net n :=
  ⟨self.v6NoSnatDests, self.externals, self.runtimeV6Config⟩

/-- how each family's data plane behaves: which operations fault, and in which orders the diffs come -/
structure Env (n : ℕ) where
  v4Fault : DataPlane.Fault Ipv4Net n
  v4Order : Apply.DiffOrder Ipv4Net n
  v6Fault : DataPlane.Fault Ipv6Net n
  v6Order : Apply.DiffOrder Ipv6Net n

variable (env : Env n)

/-- `InstanceConfig::load`: the constants into the read-only data, then the first apply of the IPv4 and of the
IPv6 runtime config -/
def InstanceConfig.load (self : InstanceConfig n) (rodata : Rodata) : Except DataPlane.MapError (Instance n) :=
  let rodata := self.constConfig.apply rodata
  match self.v4.load env.v4Fault env.v4Order with
  | .error e => .error e
  | .ok v4 =>
    match self.v6.load env.v6Fault env.v6Order with
    | .error e => .error e
    | .ok v6 => .ok ⟨self, rodata, v4.skel, v6.skel, false, false⟩

/-- the IPv4 part of an instance, as the one-family model has it -/
def Instance.v4 (self : Instance n) : Lifecycle.Instance Ipv4Net n := ⟨self.config.v4, self.v4Skel⟩

/-- the IPv6 part of an instance, as the one-family model has it -/
def Instance.v6 (self : Instance n) : Lifecycle.Instance Ipv6Net n := ⟨self.config.v6, self.v6Skel⟩

/-- `Instance::reconfigure_v4_addresses` -/
def Instance.reconfigureV4Addresses (self : Instance n) (addresses : List (Fin (2 ^ 32))) :
    Except DataPlane.MapError Unit × Instance n :=
  let r := self.v4.reconfigureAddresses env.v4Fault env.v4Order addresses
  (r.1, { self with config := { self.config with runtimeV4Config := r.2.config.runtimeConfig }, v4Skel := r.2.skel })

/-- `Instance::reconfigure_v6_addresses` -/
def Instance.reconfigureV6Addresses (self : Instance n) (addresses : List (Fin (2 ^ 128))) :
    Except DataPlane.MapError Unit × Instance n :=
  let r := self.v6.reconfigureAddresses env.v6Fault env.v6Order addresses
  (r.1, { self with config := { self.config with runtimeV6Config := r.2.config.runtimeConfig }, v6Skel := r.2.skel })

/-- whether the instance holds an attached hook at `point` -/
def Instance.hooked (self : Instance n) : TcAttachPoint → Bool
  | .ingress => self.attachedIngressHook
  | .egress => self.attachedEgressHook

/-- one TC operation on an interface: the kernel refuses it and nothing changes, or `attach()` puts the program's
filter in place (`replace(true)`) and `detach()` removes it -/
def tcPerform (fault : TcFault) (ifIndex : ℕ) (op : TcOp) (filters : TcFilters) : Except TcOp Unit × TcFilters :=
  if fault ifIndex op then (.error op, filters)
  else
    match op with
    | .create => (.ok (), filters)
    | .attach point => (.ok (), fun i p => if i = ifIndex ∧ p = point then true else filters i p)
    | .detach point => (.ok (), fun i p => if i = ifIndex ∧ p = point then false else filters i p)

/-- `Instance::attach`: create the ingress hook and attach `ingress_rev_snat`, then attach `egress_snat`, recording
each hook once it is attached; the first failure ends it, keeping what was recorded -/
def Instance.attach (fault : TcFault) (self : Instance n) (filters : TcFilters) :
    Except TcOp Unit × Instance n × TcFilters :=
  match tcPerform fault self.config.ifIndex .create filters with
  | (.error e, filters) => (.error e, self, filters)
  | (.ok (), filters) =>
    match tcPerform fault self.config.ifIndex (.attach .ingress) filters with
    | (.error e, filters) => (.error e, self, filters)
    | (.ok (), filters) =>
      let self := { self with attachedIngressHook := true }
      match tcPerform fault self.config.ifIndex (.attach .egress) filters with
      | (.error e, filters) => (.error e, self, filters)
      | (.ok (), filters) => (.ok (), { self with attachedEgressHook := true }, filters)

/-- one hook's part of `Instance::detach`: `take()` empties the record, then the hook there was is detached -/
def detachHook (fault : TcFault) (ifIndex : ℕ) (point : TcAttachPoint) (attached : Bool) (filters : TcFilters) :
    Except TcOp Unit × TcFilters :=
  if attached then tcPerform fault ifIndex (.detach point) filters else (.ok (), filters)

/-- `Instance::detach`: the egress hook, then the ingress hook; the first failure ends it, so a failed egress detach
leaves the ingress hook attached and recorded -/
def Instance.detach (fault : TcFault) (self : Instance n) (filters : TcFilters) :
    Except TcOp Unit × Instance n × TcFilters :=
  match detachHook fault self.config.ifIndex .egress self.attachedEgressHook filters with
  | (.error e, filters) => (.error e, { self with attachedEgressHook := false }, filters)
  | (.ok (), filters) =>
    let r := detachHook fault self.config.ifIndex .ingress self.attachedIngressHook filters
    (r.1, { self with attachedEgressHook := false, attachedIngressHook := false }, r.2)

/-- the kernel refused to detach the filter at `point`, or, for the ingress filter, the egress detach before it -/
def detachRefused (fault : TcFault) (ifIndex : ℕ) (point : TcAttachPoint) : Bool :=
  fault ifIndex (.detach point) || point == .ingress && fault ifIndex (.detach .egress)

end Model

/-! ## What `try_from` returns -/

section TryFrom

variable {n : ℕ}

theorem mapM_mapError {ε ε' α β : Type} (f : α → Except ε β) (g : ε → ε') :
    ∀ l : List α, (l.mapM fun a => (f a).mapError g) = (l.mapM f).mapError g
  | [] => rfl
  | a :: l => by
    simp only [List.mapM_cons, mapM_mapError f g l]
    cases f a <;> cases l.mapM f <;> rfl

/-- what `InstanceConfig::try_from` did to return `cfg`: the encapsulation is supported, every configured and default
`External` passed `External::try_from`, and `cfg` is built from them -/
theorem tryFrom_ok {matchAny : ConfigExternal × ConfigExternal} {ifIndex : ℕ} {ifEncap : PacketEncap}
    {ifConfig : ConfigNetIf} {defaults : ConfigDefaults} {addresses : IfAddresses} {cfg : InstanceConfig n}
    (h : InstanceConfig.tryFrom matchAny ifIndex ifEncap ifConfig defaults addresses = .ok cfg) :
    ifEncap ≠ .unsupported ∧ ∃ externals,
      (ifConfig.externals ++ defaultExternals matchAny ifConfig).mapM
        (fun external => External.tryFrom n external defaults) = .ok externals ∧
      cfg = { ifIndex, v4NoSnatDests := ifConfig.noSnatDests.filterMap unwrapV4,
              v6NoSnatDests := ifConfig.noSnatDests.filterMap unwrapV6, externals,
              constConfig :=
                { logLevel := some (min (ifConfig.bpfLogLevel.getD 0) 5),
                  hasEthEncap := some (ifEncap == .ethernet), ingressIpv4 := some ifConfig.nat44,
                  egressIpv4 := some ifConfig.nat44, ingressIpv6 := some ifConfig.nat66,
                  egressIpv6 := some ifConfig.nat66, enableFibLookupSrc := ifConfig.bpfFibLookupExternal,
                  allowInboundIcmpx := ifConfig.allowInboundIcmpx, timeoutFragment := ifConfig.timeoutFragment,
                  timeoutPktMin := ifConfig.timeoutPktMin, timeoutPktDefault := ifConfig.timeoutPktDefault,
                  timeoutTcpTrans := ifConfig.timeoutTcpTrans, timeoutTcpEst := ifConfig.timeoutTcpEst },
              runtimeV4Config := .from (ifConfig.noSnatDests.filterMap unwrapV4) externals addresses.ipv4,
              runtimeV6Config := .from (ifConfig.noSnatDests.filterMap unwrapV6) externals addresses.ipv6 } := by
  unfold InstanceConfig.tryFrom at h
  cases ifEncap <;> simp only [pure_bind] at h
  case unsupported => cases h
  all_goals
    obtain ⟨externals, hext, h⟩ := bind_eq_ok.1 h
    rw [mapM_mapError] at hext
    cases hl : (ifConfig.externals ++ defaultExternals matchAny ifConfig).mapM
      (fun external => External.tryFrom n external defaults) <;> rw [hl] at hext <;> cases hext
    cases h
    exact ⟨nofun, _, rfl, by simp⟩

theorem mem_mapM_ok {ε α β : Type} {f : α → Except ε β} {l : List α} {r : List β} (h : l.mapM f = .ok r) :
    ∀ x ∈ l, ∃ y ∈ r, f x = .ok y := by
  induction l generalizing r with
  | nil => exact fun _ h => nomatch h
  | cons a l ih =>
    rw [List.mapM_cons] at h
    obtain ⟨b, hb, h⟩ := bind_eq_ok.1 h
    obtain ⟨rest, hrest, h⟩ := bind_eq_ok.1 h
    cases h
    rintro x (_ | ⟨_, hx⟩)
    · exact ⟨b, List.mem_cons_self _ _, hb⟩
    · obtain ⟨y, hy, hfy⟩ := ih hrest x hx
      exact ⟨y, List.mem_cons_of_mem _ hy, hfy⟩

/-- **Default externals NAT every address of the interface.** When `try_from` accepts an interface configuration with
`default_externals`, and `match_any_ipv4` and `match_any_ipv6` are matchers of every address of their family, every
address of the interface but the unspecified one is a key of its family's external config, for each family whose NAT
is enabled. -/
theorem tryFrom_defaultExternals {matchAny : ConfigExternal × ConfigExternal}
    (hm4 : ∃ net, matchAny.1.address = .matcher net ∧ ∀ a, net.contains (.v4 a) = true)
    (hm6 : ∃ net, matchAny.2.address = .matcher net ∧ ∀ a, net.contains (.v6 a) = true) {ifIndex : ℕ}
    {ifEncap : PacketEncap} {ifConfig : ConfigNetIf} {defaults : ConfigDefaults} {addresses : IfAddresses}
    {cfg : InstanceConfig n} (h : InstanceConfig.tryFrom matchAny ifIndex ifEncap ifConfig defaults addresses = .ok cfg)
    (hd : ifConfig.defaultExternals = true) :
    (ifConfig.nat44 = true → ∀ a ∈ addresses.ipv4, a.val ≠ 0 →
      (cfg.runtimeV4Config.externalConfig.find? ⟨a, 32, le_rfl⟩).isSome) ∧
    (ifConfig.nat66 = true → ∀ a ∈ addresses.ipv6, a.val ≠ 0 →
      (cfg.runtimeV6Config.externalConfig.find? ⟨a, 128, le_rfl⟩).isSome) := by
  obtain ⟨-, externals, hext, rfl⟩ := tryFrom_ok h
  have hdefault entry (he : entry ∈ defaultExternals matchAny ifConfig) : ∃ e ∈ externals, e.address = entry.address :=
    have ⟨e, he', htry⟩ := mem_mapM_ok hext entry (List.mem_append_right _ he)
    ⟨e, he', address_of_tryFrom htry⟩
  obtain ⟨net4, hnet4, hall4⟩ := hm4
  obtain ⟨net6, hnet6, hall6⟩ := hm6
  refine ⟨fun h44 a ha ha0 => ?_, fun h66 a ha ha0 => ?_⟩
  · obtain ⟨e, he, haddr⟩ := hdefault matchAny.1 (by simp [defaultExternals, hd, h44])
    refine isSome_find?_from_of_claims _ he ?_
    simpa [claims, haddr, hnet4, hall4, ha0, IpNetwork.isUnspecified, IpNetwork.ipAddr] using
      List.mem_map_of_mem IpNetwork.fromAddr ha
  · obtain ⟨e, he, haddr⟩ := hdefault matchAny.2 (by simp [defaultExternals, hd, h66])
    refine isSome_find?_from_of_claims _ he ?_
    simpa [claims, haddr, hnet6, hall6, ha0, IpNetwork.isUnspecified, IpNetwork.ipAddr] using
      List.mem_map_of_mem IpNetwork.fromAddr ha

/-- a matcher of every IPv6 address -/
def matchAllV6Entry : ConfigExternal :=
  ⟨.matcher (.v6 ⟨0, 0, by decide⟩), false, false, none, none, none, none, none⟩

/-- an interface with NAT44, NAT66 and the default externals, and nothing else configured -/
def defaultsIf : ConfigNetIf :=
  ⟨none, true, true, true, [], [], none, none, none, none, none, none, none, ⟨none, [], none⟩, ⟨none, [], none⟩⟩

theorem tryFrom_defaultExternals_defaultsIf :
    ((∃ net, Lifecycle.matchAllEntry.address = .matcher net ∧ ∀ a, net.contains (.v4 a) = true) ∧
      (∃ net, matchAllV6Entry.address = .matcher net ∧ ∀ a, net.contains (.v6 a) = true)) ∧
    ∃ cfg : InstanceConfig 1, (InstanceConfig.tryFrom (Lifecycle.matchAllEntry, matchAllV6Entry) 2 .ethernet
        defaultsIf noDefaults ⟨[5], [7]⟩ = .ok cfg ∧ defaultsIf.defaultExternals = true) ∧
      (defaultsIf.nat44 = true → ∀ a ∈ [(5 : Fin (2 ^ 32))], a.val ≠ 0 →
        (cfg.runtimeV4Config.externalConfig.find? ⟨a, 32, le_rfl⟩).isSome) ∧
      (defaultsIf.nat66 = true → ∀ a ∈ [(7 : Fin (2 ^ 128))], a.val ≠ 0 →
        (cfg.runtimeV6Config.externalConfig.find? ⟨a, 128, le_rfl⟩).isSome) :=
  have hm4 : ∃ net, Lifecycle.matchAllEntry.address = .matcher net ∧ ∀ a, net.contains (.v4 a) = true :=
    ⟨_, rfl, fun a => by simpa [IpNet.contains, Ipv4Net.contains] using Nat.div_eq_of_lt a.isLt⟩
  have hm6 : ∃ net, matchAllV6Entry.address = .matcher net ∧ ∀ a, net.contains (.v6 a) = true :=
    ⟨_, rfl, fun a => by simpa [IpNet.contains, Ipv6Net.contains] using Nat.div_eq_of_lt a.isLt⟩
  have ⟨cfg, h⟩ : ∃ cfg : InstanceConfig 1, InstanceConfig.tryFrom (Lifecycle.matchAllEntry, matchAllV6Entry) 2
      .ethernet defaultsIf noDefaults ⟨[5], [7]⟩ = .ok cfg := ⟨_, rfl⟩
  ⟨⟨hm4, hm6⟩, cfg, ⟨h, rfl⟩, tryFrom_defaultExternals hm4 hm6 h rfl⟩

end TryFrom

/-! ## One family of an instance -/

section Families

variable {n : ℕ} (env : Env n)

/-- an IPv4 reconfigure either succeeds and stores the IPv4 config built from the new addresses, or fails and keeps
the stored config; either way it changes nothing else but the IPv4 data plane -/
theorem reconfigureV4Addresses_cases (inst : Instance n) (addresses : List (Fin (2 ^ 32))) :
    (∃ v4Skel, inst.reconfigureV4Addresses env addresses = (.ok (), { inst with
      config := { inst.config with runtimeV4Config := .from inst.config.v4NoSnatDests inst.config.externals addresses },
      v4Skel })) ∨
    ∃ e v4Skel, inst.reconfigureV4Addresses env addresses = (.error e, { inst with v4Skel }) := by
  rcases Lifecycle.reconfigureAddresses_cases env.v4Order env.v4Fault inst.v4 addresses with
    ⟨skel, h⟩ | ⟨e, skel, h⟩
  exacts [.inl ⟨skel, by simp only [Instance.reconfigureV4Addresses, h]; rfl⟩,
    .inr ⟨e, skel, by simp only [Instance.reconfigureV4Addresses, h]; rfl⟩]

theorem reconfigureV6Addresses_cases (inst : Instance n) (addresses : List (Fin (2 ^ 128))) :
    (∃ v6Skel, inst.reconfigureV6Addresses env addresses = (.ok (), { inst with
      config := { inst.config with runtimeV6Config := .from inst.config.v6NoSnatDests inst.config.externals addresses },
      v6Skel })) ∨
    ∃ e v6Skel, inst.reconfigureV6Addresses env addresses = (.error e, { inst with v6Skel }) := by
  rcases Lifecycle.reconfigureAddresses_cases env.v6Order env.v6Fault inst.v6 addresses with
    ⟨skel, h⟩ | ⟨e, skel, h⟩
  exacts [.inl ⟨skel, by simp only [Instance.reconfigureV6Addresses, h]; rfl⟩,
    .inr ⟨e, skel, by simp only [Instance.reconfigureV6Addresses, h]; rfl⟩]

/-- the kernel maps and scalar of each family hold its stored runtime config -/
def Instance.Agrees (inst : Instance n) : Prop := inst.v4.Agrees ∧ inst.v6.Agrees

/-- with only static entries, an IPv4 reconfigure of an instance whose IPv4 config was built from its policy does
nothing -/
theorem reconfigureV4Addresses_of_isStatic {inst : Instance n} (hs : inst.config.isStatic = true)
    {addresses₀ : List (Fin (2 ^ 32))}
    (h : inst.config.runtimeV4Config = .from inst.config.v4NoSnatDests inst.config.externals addresses₀)
    (addresses : List (Fin (2 ^ 32))) : inst.reconfigureV4Addresses env addresses = (.ok (), inst) := by
  simp only [Instance.reconfigureV4Addresses,
    Lifecycle.reconfigureAddresses_of_isStatic env.v4Order env.v4Fault inst.v4 hs h addresses]
  rfl

theorem reconfigureV6Addresses_of_isStatic {inst : Instance n} (hs : inst.config.isStatic = true)
    {addresses₀ : List (Fin (2 ^ 128))}
    (h : inst.config.runtimeV6Config = .from inst.config.v6NoSnatDests inst.config.externals addresses₀)
    (addresses : List (Fin (2 ^ 128))) : inst.reconfigureV6Addresses env addresses = (.ok (), inst) := by
  simp only [Instance.reconfigureV6Addresses,
    Lifecycle.reconfigureAddresses_of_isStatic env.v6Order env.v6Fault inst.v6 hs h addresses]
  rfl

end Families

/-! ## What `load` stores -/

section Rodata

variable {n : ℕ}

theorem of_load {env : Env n} {cfg : InstanceConfig n} {rodata : Rodata} {inst : Instance n}
    (h : cfg.load env rodata = .ok inst) : inst.config = cfg ∧ inst.rodata = cfg.constConfig.apply rodata := by
  unfold InstanceConfig.load at h
  split at h
  · cases h
  · split at h
    · cases h
    · cases h; exact ⟨rfl, rfl⟩

/-- both families without faults, their diffs in `prefixMapDiff`'s order -/
def Env.clean : Env n :=
  ⟨DataPlane.noFault, Lifecycle.DiffOrder.canonical, DataPlane.noFault, Lifecycle.DiffOrder.canonical⟩

/-- the read-only data as compiled, all zero -/
def zeroRodata : Rodata := ⟨0, 0, 0, 0, 0, 0, 0, 0, 0, 0, 0, 0, 0⟩

end Rodata

/-! ## The TC hooks -/

section Hooks

variable {n : ℕ} (fault : TcFault)

theorem tcPerform_create (ifIndex : ℕ) (filters : TcFilters) : (tcPerform fault ifIndex .create filters).2 = filters := by
  unfold tcPerform
  split_ifs <;> rfl

theorem tcPerform_filters {ifIndex : ℕ} {op : TcOp} {filters : TcFilters} {i : ℕ} {p : TcAttachPoint}
    (h : (tcPerform fault ifIndex op filters).2 i p = true) :
    filters i p = true ∨ (i = ifIndex ∧ op = .attach p) := by
  unfold tcPerform at h
  split_ifs at h
  · exact .inl h
  · cases op with
    | create => exact .inl h
    | attach point =>
      by_cases hp : i = ifIndex ∧ p = point
      · exact .inr ⟨hp.1, hp.2 ▸ rfl⟩
      · exact .inl (by simpa only [hp, if_false] using h)
    | detach point =>
      by_cases hp : i = ifIndex ∧ p = point
      · simp [hp] at h
      · exact .inl (by simpa only [hp, if_false] using h)

theorem tcPerform_error {ifIndex : ℕ} {op : TcOp} {filters filters' : TcFilters} {e : TcOp}
    (h : tcPerform fault ifIndex op filters = (.error e, filters')) :
    fault ifIndex op = true ∧ filters' = filters := by
  unfold tcPerform at h
  split_ifs at h with hf
  · cases h
    exact ⟨hf, rfl⟩
  · cases op <;> cases h

/-- **Attaching records what it attaches.** `Instance::attach` changes only the instance's records of its hooks, each
filter it puts in place is on the instance's interface and recorded, and when it succeeds both hooks are recorded -/
theorem Instance.attach_spec (inst : Instance n) (filters : TcFilters) :
    (∃ ingress egress, (inst.attach fault filters).2.1 =
      { inst with attachedIngressHook := ingress, attachedEgressHook := egress }) ∧
    ((inst.attach fault filters).1 = .ok () → (inst.attach fault filters).2.1 =
      { inst with attachedIngressHook := true, attachedEgressHook := true }) ∧
    ∀ i p, (inst.attach fault filters).2.2 i p = true →
      filters i p = true ∨ (i = inst.config.ifIndex ∧ (inst.attach fault filters).2.1.hooked p = true) := by
  generalize hr : inst.attach fault filters = r
  unfold Instance.attach at hr
  dsimp only at hr
  split at hr
  · next e f1 h1 =>
    subst hr
    have h0 : f1 = filters := by rw [← tcPerform_create fault inst.config.ifIndex filters, h1]
    exact ⟨⟨_, _, rfl⟩, nofun, fun i p h => .inl (h0 ▸ h)⟩
  next f1 h1 =>
  have h0 : f1 = filters := by rw [← tcPerform_create fault inst.config.ifIndex filters, h1]
  subst h0
  split at hr
  · next e f2 h2 =>
    subst hr
    obtain ⟨-, rfl⟩ := tcPerform_error fault h2
    exact ⟨⟨_, _, rfl⟩, nofun, fun i p h => .inl h⟩
  next f2 h2 =>
  have hf2 i p (h : f2 i p = true) := tcPerform_filters fault (show (tcPerform fault _ _ f1).2 i p = true by rwa [h2])
  split at hr
  · next e f3 h3 =>
    subst hr
    obtain ⟨-, rfl⟩ := tcPerform_error fault h3
    refine ⟨⟨_, _, rfl⟩, nofun, fun i p h => ?_⟩
    rcases hf2 i p h with h | ⟨rfl, hp⟩
    exacts [.inl h, .inr ⟨rfl, by cases hp; rfl⟩]
  next f3 h3 =>
  have hf3 i p (h : f3 i p = true) := tcPerform_filters fault (show (tcPerform fault _ _ f2).2 i p = true by rwa [h3])
  subst hr
  refine ⟨⟨_, _, rfl⟩, fun _ => rfl, fun i p h => ?_⟩
  rcases hf3 i p h with h | ⟨rfl, hp⟩
  · rcases hf2 i p h with h | ⟨rfl, hp⟩
    exacts [.inl h, .inr ⟨rfl, by cases hp; rfl⟩]
  · exact .inr ⟨rfl, by cases hp; rfl⟩

theorem tcPerform_detach {ifIndex : ℕ} {point : TcAttachPoint} {filters : TcFilters} {i : ℕ} {p : TcAttachPoint}
    (h : (tcPerform fault ifIndex (.detach point) filters).2 i p = true) :
    filters i p = true ∧ (i = ifIndex → p = point → fault ifIndex (.detach point) = true) := by
  unfold tcPerform at h
  split_ifs at h with hf
  · exact ⟨h, fun _ _ => hf⟩
  · by_cases hp : i = ifIndex ∧ p = point
    · simp [hp] at h
    · exact ⟨by simpa only [hp, if_false] using h, fun hi hpt => absurd ⟨hi, hpt⟩ hp⟩

theorem detachHook_filters {ifIndex : ℕ} {point : TcAttachPoint} {attached : Bool} {filters : TcFilters} {i : ℕ}
    {p : TcAttachPoint} (h : (detachHook fault ifIndex point attached filters).2 i p = true) :
    filters i p = true ∧ (i = ifIndex → p = point → attached = false ∨ fault ifIndex (.detach point) = true) := by
  unfold detachHook at h
  cases attached
  · exact ⟨h, fun _ _ => .inl rfl⟩
  · have ⟨h, hf⟩ := tcPerform_detach fault h
    exact ⟨h, fun hi hp => .inr (hf hi hp)⟩

theorem detachHook_error {ifIndex : ℕ} {point : TcAttachPoint} {attached : Bool} {filters filters' : TcFilters}
    {e : TcOp} (h : detachHook fault ifIndex point attached filters = (.error e, filters')) :
    fault ifIndex (.detach point) = true ∧ filters' = filters := by
  unfold detachHook at h
  split_ifs at h
  exacts [tcPerform_error fault h, nomatch h]

/-- **What detaching leaves.** `Instance::detach` turns no filter on, and leaves one of its interface's filters in place
only when the instance held no hook there or the kernel refused its detach (for the ingress filter, possibly the egress
detach before it) -/
theorem Instance.detach_filters (inst : Instance n) (filters : TcFilters) (i : ℕ) (p : TcAttachPoint)
    (h : (inst.detach fault filters).2.2 i p = true) :
    filters i p = true ∧ (i = inst.config.ifIndex → inst.hooked p = false ∨ detachRefused fault i p = true) := by
  unfold Instance.detach at h
  split at h
  · next e f1 he =>
    obtain ⟨hf, rfl⟩ := detachHook_error fault he
    refine ⟨h, fun hi => .inr ?_⟩
    subst hi
    cases p <;> simp [detachRefused, hf]
  · next f1 he =>
    obtain ⟨h1, hin⟩ := detachHook_filters fault h
    obtain ⟨h0, heg⟩ := detachHook_filters fault (show (detachHook fault _ _ _ filters).2 i p = true by rwa [he])
    refine ⟨h0, fun hi => ?_⟩
    subst hi
    cases p with
    | ingress => rcases hin rfl rfl with h | h <;> simp [Instance.hooked, detachRefused, h]
    | egress => rcases heg rfl rfl with h | h <;> simp [Instance.hooked, detachRefused, h]

end Hooks

end Einat.Interface
