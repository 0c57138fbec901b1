/-
An `Instance` for one address family: `InstanceConfig::load` and `Instance::reconfigure_vX_addresses`, and runs of
them.

`InstanceConfig` keeps what the family reads: its no-SNAT destinations, the `External`s and its runtime config; its
`try_from` part validates the `External`s and builds the runtime config from the addresses. `load` applies the
config to a fresh data plane (the other family's apply and the const config touch other objects). A reconfigure
builds the new runtime config, applies it against the stored one, and stores it only when the apply succeeds; the
data plane keeps whatever the apply did before an error.

Results:
- `load_reconfigure_agree`: without faults, `load` and every later reconfigure succeed, each stores the config built
  from its addresses and leaves the kernel maps and scalar holding it, no operation fails, and each reconfigure
  purges exactly the addresses of the external prefixes it updates or removes.
- `reconfigure_touches_delta`: for a fixed policy, the configs of two address lists differ only at host prefixes of
  addresses in one list only; whatever faults, a reconfigure from one to the other names no other prefix, and does
  nothing at all when the lists hold the same addresses.
- `reconfigure_after_failed_apply`: a reconfigure that fails after part of its diff leaves that part in the kernel
  while keeping the old config as the diff's baseline; the next reconfigure, without faults, fails on `EEXIST` after
  a failed insert and on `ENOENT` after a failed delete, or succeeds with the kernel still off the stored config.
- `reconfigure_keeps_baseline`: a failed reconfigure keeps the stored config and a successful one stores the config
  built from its addresses; from a state where the kernel holds the stored config, a reconfigure without faults
  succeeds and leaves the kernel holding the new one.
- `reconfigure_sweeps`: without faults, a reconfigure leaves in the binding and CT maps exactly the entries that no
  purge of a stale external address removes.
-/
import Einat.Apply

namespace Einat.Lifecycle

open Einat.Network Einat.Policy Einat.Trie Einat.Builder Einat.DataPlane Einat.Apply

/-! ## Model -/

/-- `InstanceConfig`, the part of it one address family reads -/
structure InstanceConfig (P : Type) [IpNetwork P] (n : ℕ) where
  noSnatDests : List P
  externals : List External
  runtimeConfig : RuntimeConfig P n

/-- `Instance`: its config and its data plane objects -/
structure Instance (P : Type) [IpNetwork P] (n : ℕ) where
  config : InstanceConfig P n
  skel : Skel P n

section Model

variable {P : Type} [IpNetwork P] {n : ℕ}

/-- the family's part of `InstanceConfig::try_from`: validate the interface's `External`s (the configured ones, then
the default ones) and build the runtime config from the addresses -/
def InstanceConfig.tryFrom (externals : List ConfigExternal) (defaults : ConfigDefaults) (noSnatDests : List P)
    (addresses : List (IpNetwork.Addr P)) : Except Error (InstanceConfig P n) := do
  let externals ← externals.mapM fun external => External.tryFrom n external defaults
  pure ⟨noSnatDests, externals, RuntimeConfig.from noSnatDests externals addresses⟩

/-- the data plane as `load` finds it: empty config maps, zeroed globals, no bindings or connections -/
def Skel.fresh : Skel P n :=
  ⟨⟨fun _ => none, fun _ => none, IpNetwork.ipAddr (IpNetwork.unspecified : P)⟩, 0, [], [], []⟩

variable (fault : Fault P n) (order : DiffOrder P n)

/-- `InstanceConfig::load`, for one family: the first apply, on a fresh data plane -/
def InstanceConfig.load (self : InstanceConfig P n) : Except MapError (Instance P n) :=
  match (apply fault order self.runtimeConfig none).run Skel.fresh with
  | .ok () skel => .ok ⟨self, skel⟩
  | .error e _ => .error e

/-- `Instance::reconfigure_vX_addresses`: the new config is stored only when the apply succeeds -/
def Instance.reconfigureAddresses (self : Instance P n) (addresses : List (IpNetwork.Addr P)) :
    Except MapError Unit × Instance P n :=
  let new := RuntimeConfig.from self.config.noSnatDests self.config.externals addresses
  match (apply fault order new (some self.config.runtimeConfig)).run self.skel with
  | .ok () skel => (.ok (), ⟨{ self.config with runtimeConfig := new }, skel⟩)
  | .error e skel => (.error e, { self with skel })

/-- reconfigure with each address list in turn, without faults -/
def Instance.reconfigureAll (self : Instance P n) (addressLists : List (List (IpNetwork.Addr P))) : Instance P n :=
  addressLists.foldl (fun inst addresses => (inst.reconfigureAddresses noFault order addresses).2) self

end Model

/-! ## Runs -/

section Runs

variable {P : Type} [IpNetwork P] {n : ℕ} (order : DiffOrder P n)

/-- the kernel maps and scalar hold the stored runtime config -/
def Instance.Agrees (inst : Instance P n) : Prop := inst.skel.maps = configMaps inst.config.runtimeConfig

theorem load_clean (cfg : InstanceConfig P n) :
    ∃ inst, cfg.load noFault order = .ok inst ∧ inst.config = cfg ∧ inst.Agrees ∧
      ∀ e ∈ inst.skel.log, e.failed = false := by
  obtain ⟨a, s', hrun, hmaps, evs, hlog, hok, -⟩ := clean_apply_none order cfg.runtimeConfig _ Skel.fresh rfl
  refine ⟨⟨cfg, s'⟩, by simp [InstanceConfig.load, hrun], rfl, hmaps, ?_⟩
  rw [hlog]
  simpa [Skel.fresh] using hok

theorem reconfigure_clean (inst : Instance P n) (h : inst.Agrees) (addresses : List (IpNetwork.Addr P)) :
    let new : RuntimeConfig P n := .from inst.config.noSnatDests inst.config.externals addresses
    ∃ skel evs, inst.reconfigureAddresses noFault order addresses =
        (.ok (), ⟨{ inst.config with runtimeConfig := new }, skel⟩) ∧
      skel.maps = configMaps new ∧ skel.log = inst.skel.log ++ evs ∧ (∀ e ∈ evs, e.failed = false) ∧
      evs.filterMap SkelEvent.purgeCall =
        (order.external.diff inst.config.runtimeConfig.externalConfig new.externalConfig).flatMap MapChange.purge := by
  intro new
  obtain ⟨a, s', hrun, hmaps, evs, hlog, hok, hcalls⟩ := clean_apply order inst.config.runtimeConfig new inst.skel h
  exact ⟨s', evs, by simp only [Instance.reconfigureAddresses, hrun], hmaps, hlog, hok, hcalls⟩

theorem reconfigureAddresses_cases (fault : Fault P n) (inst : Instance P n) (addresses : List (IpNetwork.Addr P)) :
    (∃ skel, inst.reconfigureAddresses fault order addresses =
      (.ok (), ⟨{ inst.config with runtimeConfig := .from inst.config.noSnatDests inst.config.externals addresses },
        skel⟩)) ∨
    ∃ e skel, inst.reconfigureAddresses fault order addresses = (.error e, { inst with skel }) := by
  simp only [Instance.reconfigureAddresses]
  split
  exacts [.inl ⟨_, rfl⟩, .inr ⟨_, _, rfl⟩]

theorem reconfigureAddresses_of_isStatic (fault : Fault P n) (inst : Instance P n)
    (hs : isStatic inst.config.externals = true) {addresses₀ : List (IpNetwork.Addr P)}
    (h : inst.config.runtimeConfig = .from inst.config.noSnatDests inst.config.externals addresses₀)
    (addresses : List (IpNetwork.Addr P)) : inst.reconfigureAddresses fault order addresses = (.ok (), inst) := by
  obtain ⟨⟨noSnatDests, externals, _⟩, skel⟩ := inst
  dsimp only at hs h
  subst h
  simp only [Instance.reconfigureAddresses, run_apply_self,
    from_eq_of_fromMatches_eq _ _ (loopMatches_of_isStatic hs _ _ : _ = fromMatches externals addresses₀)]

theorem skel_reconfigureAddresses (fault : Fault P n) (inst : Instance P n) (addresses : List (IpNetwork.Addr P)) :
    (inst.reconfigureAddresses fault order addresses).2.skel =
      stateOf ((apply fault order (.from inst.config.noSnatDests inst.config.externals addresses)
        (some inst.config.runtimeConfig)).run inst.skel) := by
  simp only [Instance.reconfigureAddresses]
  split <;> next heq => simp [heq, stateOf]

theorem agrees_reconfigureAll {inst : Instance P n} (h : inst.Agrees) (addressLists : List (List (IpNetwork.Addr P))) :
    (inst.reconfigureAll order addressLists).Agrees := by
  induction addressLists generalizing inst with
  | nil => exact h
  | cons addresses addressLists ih =>
    obtain ⟨skel, evs, hstep, hmaps, -⟩ := reconfigure_clean order inst h addresses
    refine ih (show (inst.reconfigureAddresses noFault order addresses).2.Agrees from ?_)
    rw [hstep]
    exact hmaps

theorem policy_reconfigureAll (inst : Instance P n) (addressLists : List (List (IpNetwork.Addr P))) :
    (inst.reconfigureAll order addressLists).config.noSnatDests = inst.config.noSnatDests ∧
      (inst.reconfigureAll order addressLists).config.externals = inst.config.externals := by
  induction addressLists generalizing inst with
  | nil => exact ⟨rfl, rfl⟩
  | cons addresses addressLists ih =>
    obtain ⟨hdests, hexternals⟩ := ih (inst.reconfigureAddresses noFault order addresses).2
    refine ⟨hdests.trans ?_, hexternals.trans ?_⟩ <;>
      rcases reconfigureAddresses_cases order noFault inst addresses with ⟨_, hs⟩ | ⟨_, _, hs⟩ <;> rw [hs]

/-- **Runs without faults**: `load` and every later reconfigure succeed; each reconfigure stores the runtime config
`from` builds out of the policy and its addresses; after each step, the kernel maps and scalar hold the stored
runtime config; no operation of the run fails (no `NO_EXIST` insert of a present key, no `EXIST` update or delete
of an absent one); and each reconfigure purges, up to order, exactly the addresses of the external prefixes the new
config updates or removes. -/
theorem load_reconfigure_agree (cfg : InstanceConfig P n) (addressLists : List (List (IpNetwork.Addr P))) :
    ∃ inst, cfg.load noFault order = .ok inst ∧ inst.config = cfg ∧ inst.Agrees ∧
      (∀ e ∈ inst.skel.log, e.failed = false) ∧
      ∀ pre addresses post, addressLists = pre ++ addresses :: post →
        let before := inst.reconfigureAll order pre
        let step := before.reconfigureAddresses noFault order addresses
        step.1 = .ok () ∧
          step.2.config = { cfg with runtimeConfig := .from cfg.noSnatDests cfg.externals addresses } ∧
          step.2.Agrees ∧ ∃ evs, step.2.skel.log = before.skel.log ++ evs ∧ (∀ e ∈ evs, e.failed = false) ∧
            (evs.filterMap SkelEvent.purgeCall).Perm
              (((before.config.runtimeConfig.externalConfig.entries.map Prod.fst).filter fun k =>
                step.2.config.runtimeConfig.externalConfig.find? k ≠
                  before.config.runtimeConfig.externalConfig.find? k).map IpNetwork.ipAddr) := by
  obtain ⟨inst, hload, hcfg, hagree, hok⟩ := load_clean order cfg
  refine ⟨inst, hload, hcfg, hagree, hok, fun pre addresses _ _ => ?_⟩
  obtain ⟨skel, evs, hstep, hmaps, hlog, hok, hcalls⟩ :=
    reconfigure_clean order _ (agrees_reconfigureAll order hagree pre) addresses
  obtain ⟨hdests, hexternals⟩ := hcfg ▸ policy_reconfigureAll order inst pre
  dsimp only
  rw [hstep]
  refine ⟨rfl, ?_, hmaps, evs, hlog, hok, hcalls ▸ flatMap_purge_perm (order.external.perm _ _)⟩
  simp only [hdests, hexternals]

/-- **A failed reconfigure keeps the baseline**: whatever faults, a reconfigure that succeeds stores the config
`from` builds out of the policy and the new addresses, and one that returns an error keeps the stored config; from
a state where the kernel holds the stored config, a reconfigure without faults succeeds, stores the new config and
leaves the kernel holding it. -/
theorem reconfigure_keeps_baseline (inst : Instance P n) (fault : Fault P n) (addresses : List (IpNetwork.Addr P)) :
    let new : InstanceConfig P n :=
      { inst.config with runtimeConfig := .from inst.config.noSnatDests inst.config.externals addresses }
    ((inst.reconfigureAddresses fault order addresses).1 = .ok () →
      (inst.reconfigureAddresses fault order addresses).2.config = new) ∧
    ((inst.reconfigureAddresses fault order addresses).1 ≠ .ok () →
      (inst.reconfigureAddresses fault order addresses).2.config = inst.config) ∧
    (inst.Agrees → (inst.reconfigureAddresses noFault order addresses).1 = .ok () ∧
      (inst.reconfigureAddresses noFault order addresses).2.config = new ∧
      (inst.reconfigureAddresses noFault order addresses).2.Agrees) := by
  intro new
  refine ⟨?_, ?_, fun h => ?_⟩
  · rcases reconfigureAddresses_cases order fault inst addresses with ⟨_, hs⟩ | ⟨_, _, hs⟩ <;> rw [hs]
    exacts [fun _ => rfl, fun h => nomatch h]
  · rcases reconfigureAddresses_cases order fault inst addresses with ⟨_, hs⟩ | ⟨_, _, hs⟩ <;> rw [hs]
    exacts [fun h => absurd rfl h, fun _ => rfl]
  · obtain ⟨skel, evs, hstep, hmaps, -⟩ := reconfigure_clean order inst h addresses
    rw [hstep]
    exact ⟨rfl, rfl, hmaps⟩

/-- **Reconfigures touch only the changed addresses**: for a fixed policy, the configs built from two address
lists agree at every prefix that is not the host prefix of an address in one list only, and are equal when the lists
hold the same addresses. So, whatever faults, a reconfigure from the config of one list to the other names in its
map operations and purges only host prefixes of added or withdrawn addresses, and when only the order or the
repetitions changed it does nothing at all. -/
theorem reconfigure_touches_delta (noSnatDests : List P) (externals : List External)
    (addresses addresses' : List (IpNetwork.Addr P)) :
    let cfg : RuntimeConfig P n := .from noSnatDests externals addresses
    let cfg' : RuntimeConfig P n := .from noSnatDests externals addresses'
    let delta : P → Prop := fun p =>
      ∃ a, (a ∈ addresses ∧ a ∉ addresses' ∨ a ∈ addresses' ∧ a ∉ addresses) ∧ IpNetwork.fromAddr a = p
    (∀ p, ¬ delta p → cfg.destConfig.find? p = cfg'.destConfig.find? p ∧
      cfg.externalConfig.find? p = cfg'.externalConfig.find? p) ∧
    ((∀ a, a ∈ addresses ↔ a ∈ addresses') → cfg = cfg') ∧
    ∀ (skel : Skel P n) (fault : Fault P n),
      let inst : Instance P n := ⟨⟨noSnatDests, externals, cfg⟩, skel⟩
      (∃ evs, (inst.reconfigureAddresses fault order addresses').2.skel.log = skel.log ++ evs ∧
        ∀ e ∈ evs, TouchesOnly delta e) ∧
      ((∀ a, a ∈ addresses ↔ a ∈ addresses') → inst.reconfigureAddresses fault order addresses' = (.ok (), inst)) := by
  intro cfg cfg' delta
  have hagree : ∀ p, ¬ delta p → cfg.destConfig.find? p = cfg'.destConfig.find? p ∧
      cfg.externalConfig.find? p = cfg'.externalConfig.find? p :=
    fun p hp => from_agree noSnatDests externals addresses addresses' p fun a ha hpa => hp ⟨a, ha, hpa⟩
  refine ⟨hagree, from_eq_of_same_set noSnatDests externals, fun skel fault => ⟨?_, fun h => ?_⟩⟩
  · obtain ⟨-, evs, hlog, hevs⟩ := logs_apply fault order cfg cfg' skel trivial
    refine ⟨evs, by rw [skel_reconfigureAddresses]; exact hlog, fun e he => (hevs e he).mono fun p hp => ?_⟩
    exact by_contra fun hd => hp.elim (· (hagree p hd).1) (· (hagree p hd).2)
  · simp only [Instance.reconfigureAddresses, ← from_eq_of_same_set noSnatDests externals h, run_apply_self]

end Runs

/-! ## A failed reconfigure and the next one -/

/-- the diffs in the order `prefixMapDiff` lists them -/
def DiffOrder.canonical {P : Type} [LinearOrder P] {n : ℕ} : DiffOrder P n :=
  ⟨⟨prefixMapDiff, fun _ _ => .refl _⟩, ⟨prefixMapDiff, fun _ _ => .refl _⟩⟩

/-- an external entry whose matcher, 0.0.0.0/0, takes every IPv4 address -/
def matchAllEntry : ConfigExternal :=
  ⟨.matcher (.v4 ⟨0, 0, by decide⟩), false, false, none, none, none, none, none⟩

/-- a data plane that fails the `NO_EXIST` insert of 0.0.0.6/32 into the external config map, and nothing else -/
def failInsertSix : Fault Ipv4Net 1 := fun _ op => match op with
  | .externalUpdate k _ .noExist => k.addr.val == 6
  | _ => false

/-- a data plane that fails the delete of 0.0.0.5/32 from the external config map, and nothing else -/
def failDeleteFive : Fault Ipv4Net 1 := fun _ op => match op with
  | .externalDelete k => k.addr.val == 5
  | _ => false

/-- **A failed reconfigure is not repaired by the next.** After a failed insert: the reconfigure from no addresses
to 0.0.0.5 and 0.0.0.6 inserts 0.0.0.5/32 and fails on 0.0.0.6/32, keeping the empty config as its baseline; the
next, without faults, inserts 0.0.0.5/32 again with `NO_EXIST` and fails on `EEXIST`. After a failed delete: the
reconfigure from 0.0.0.5 to no addresses deletes the destination entry 0.0.0.5/32 and fails on the external one,
keeping the config of 0.0.0.5 as its baseline; the next, without faults, deletes the destination entry again and
fails on `ENOENT`, and one back to 0.0.0.5 has nothing to do and succeeds while the kernel lacks that entry. -/
theorem reconfigure_after_failed_apply :
    (∃ (cfg : InstanceConfig Ipv4Net 1) (inst : Instance Ipv4Net 1),
      InstanceConfig.tryFrom [matchAllEntry] noDefaults [] [] = .ok cfg ∧
      cfg.load noFault DiffOrder.canonical = .ok inst ∧
      let failed := inst.reconfigureAddresses failInsertSix DiffOrder.canonical ([5, 6] : List (Fin (2 ^ 32)))
      failed.1 = .error .other ∧
        (failed.2.reconfigureAddresses noFault DiffOrder.canonical ([5, 6] : List (Fin (2 ^ 32)))).1 =
          .error .alreadyExists) ∧
    ∃ (cfg : InstanceConfig Ipv4Net 1) (inst : Instance Ipv4Net 1),
      InstanceConfig.tryFrom [matchAllEntry] noDefaults [] ([5] : List (Fin (2 ^ 32))) = .ok cfg ∧
      cfg.load noFault DiffOrder.canonical = .ok inst ∧
      let failed := inst.reconfigureAddresses failDeleteFive DiffOrder.canonical ([] : List (Fin (2 ^ 32)))
      let back := failed.2.reconfigureAddresses noFault DiffOrder.canonical ([5] : List (Fin (2 ^ 32)))
      failed.1 = .error .other ∧
        (failed.2.reconfigureAddresses noFault DiffOrder.canonical ([] : List (Fin (2 ^ 32)))).1 = .error .notFound ∧
        back.1 = .ok () ∧ ¬ back.2.Agrees :=
  ⟨⟨_, _, rfl, rfl, rfl, rfl⟩, _, _, rfl, rfl, rfl, rfl, rfl,
    fun h => nomatch congrFun (congrArg ConfigMaps.destConfig h) ⟨5, 32, le_rfl⟩⟩

/-! ## What a reconfigure purges -/

section Sweeps

variable {P : Type} [IpNetwork P] {n : ℕ} (order : DiffOrder P n)

/-- **What a reconfigure purges.** Without faults, from a data plane holding the stored config, whatever the data
plane put in its binding and CT maps, a reconfigure stores the config `from` builds out of the new addresses and
deletes exactly the entries of the addresses of the external prefixes whose entry that config changes or drops: an
entry survives exactly when no purge of such an address deletes it. -/
theorem reconfigure_sweeps (inst : Instance P n) (h : inst.Agrees) (hb : inst.skel.Bounded)
    (addresses : List (IpNetwork.Addr P)) :
    let new : RuntimeConfig P n := .from inst.config.noSnatDests inst.config.externals addresses
    let step := (inst.reconfigureAddresses noFault order addresses).2
    let old := inst.config.runtimeConfig.externalConfig
    let stale := ((old.entries.map Prod.fst).filter fun k =>
      new.externalConfig.find? k ≠ old.find? k).map IpNetwork.ipAddr
    step.config.runtimeConfig = new ∧
      step.skel.binding = inst.skel.binding.filter (fun e => stale.all fun a => !bindingPurged a e) ∧
      step.skel.ct = inst.skel.ct.filter fun ctKey => stale.all fun a => !ctPurged a ctKey := by
  intro new step old stale
  obtain ⟨a, s', hrun, -, evs, hlog, -, hcalls⟩ := clean_apply order inst.config.runtimeConfig new inst.skel h
  obtain ⟨evs', hlog', hbinding, hct⟩ := sweeps_apply noFault order _ _ inst.skel a s' hb hrun
  have hskel : step.skel = s' := by simp only [step, Instance.reconfigureAddresses, hrun]
  obtain rfl : evs = evs' := List.append_cancel_left (hlog.symm.trans hlog')
  have hmem : ∀ a, a ∈ evs.filterMap SkelEvent.purgeCall ↔ a ∈ stale := fun a => by
    rw [hcalls, (flatMap_purge_perm (order.external.perm _ _)).mem_iff]
  rw [hskel]
  exact ⟨by simp only [step, Instance.reconfigureAddresses, hrun], hbinding.trans (sweepBinding_congr hmem _),
    hct.trans (sweepCt_congr hmem _)⟩

/-- the `External` of `matchAllEntry` -/
def matchAllExternal : External :=
  ⟨.matcher (.v4 ⟨0, 0, by decide⟩), false, false, ⟨[]⟩, ⟨[]⟩, ⟨[]⟩, ⟨[]⟩, ⟨[]⟩⟩

/-- an instance for 0.0.0.5 under `matchAllExternal`, its data plane holding the stored config, an outbound binding
to 0.0.0.5 and one to 0.0.0.6, and a CT entry of each -/
def sweepInstance : Instance Ipv4Net 1 :=
  let cfg : InstanceConfig Ipv4Net 1 :=
    ⟨[], [matchAllExternal], .from [] [matchAllExternal] ([5] : List (Fin (2 ^ 32)))⟩
  ⟨cfg, ⟨configMaps cfg.runtimeConfig, 0,
    [(⟨⟨true, true, false⟩, ⟨1⟩⟩, ⟨⟨false, true, false⟩, (IpAddr.v4 5).toInetAddr⟩),
      (⟨⟨true, true, false⟩, ⟨2⟩⟩, ⟨⟨false, true, false⟩, (IpAddr.v4 6).toInetAddr⟩)],
    [⟨⟨false, true, false⟩, (IpAddr.v4 5).toInetAddr⟩, ⟨⟨false, true, false⟩, (IpAddr.v4 6).toInetAddr⟩],
    []⟩⟩

/-- moving from 0.0.0.5 to 0.0.0.6 drops 0.0.0.5/32 from the config; the binding and CT entries left are those the
purges of the stale addresses spare -/
theorem reconfigure_sweeps_sweepInstance :
    (sweepInstance.Agrees ∧ sweepInstance.skel.Bounded) ∧ ∃ (new : RuntimeConfig Ipv4Net 1) (stale : List IpAddr),
      (sweepInstance.reconfigureAddresses noFault DiffOrder.canonical ([6] : List (Fin (2 ^ 32)))).2.config.runtimeConfig =
        new ∧
      (sweepInstance.reconfigureAddresses noFault DiffOrder.canonical ([6] : List (Fin (2 ^ 32)))).2.skel.binding =
        sweepInstance.skel.binding.filter (fun e => stale.all fun a => !bindingPurged a e) ∧
      (sweepInstance.reconfigureAddresses noFault DiffOrder.canonical ([6] : List (Fin (2 ^ 32)))).2.skel.ct =
        sweepInstance.skel.ct.filter fun ctKey => stale.all fun a => !ctPurged a ctKey :=
  have hb : sweepInstance.skel.Bounded := ⟨by decide, by decide, by decide⟩
  ⟨⟨rfl, hb⟩, _, _, reconfigure_sweeps DiffOrder.canonical sweepInstance rfl hb ([6] : List (Fin (2 ^ 32)))⟩

end Sweeps

end Einat.Lifecycle
