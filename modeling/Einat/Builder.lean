/-
The runtime configuration builder: `RuntimeConfig::init` and `RuntimeV4Config::from` / `RuntimeV6Config::from`,
generic over the address family as the `RuntimeConfig` trait is.

`init` is modelled as the code runs it: seed `dest_config` with the no-SNAT destinations, build `addresses_set`, then
fold `initStep` over the `External`s, each computing its `matches`, removing them from `addresses_set`, perhaps
choosing `external_addr`, and writing each matched prefix's entries through `entry(network).or_default()`.
`DestConfig`, `ExternalConfig` and their flags are the data plane's structs with the bits the code sets; the port
arrays have `n` (`MAX_PORT_RANGES`) slots.

Per prefix the loop is a small machine of its own (`keyStep`): whether the prefix is still in `addresses_set`, and its
two entries. `at_foldl_initStep` says the whole-map loop, read at any prefix `p`, is that machine run over the
`External`s; everything below is proved through it. An `External` claims `p` (`claims`) when `p` is its static address,
or `p` is still in `addresses_set` and its matcher covers `p`; only the first matcher to cover an address claims it, but
a static address is claimed by every `External` naming it, and each claim rewrites the entries.

Results:
- `externalConfig_from`: each prefix of `external_config` takes `NO_SNAT` and `HAIRPIN` (in `dest_config`) from the
  last `External` whose match set contains it, and its five port-range groups from the last such `External` without
  `no_snat` (zero when there is none).
- `externalAddr_from`: `external_addr` is unspecified exactly when no `External` without `no_snat` matches anything;
  otherwise it is a key of `external_config`, whose `NO_SNAT` is that of the last `External` claiming it.
- `from_agree` / `from_eq_of_same_set`: two address lists give the same entries at every prefix that is not the host
  prefix of an address in one list only, and the same configuration when they hold the same addresses.
- `from_static`: when every `External` is static, the configuration does not depend on the addresses.
- `keys_from`: the keys of `external_config` are host prefixes of static or matched addresses; those of
  `dest_config` are the no-SNAT destinations and the keys of `external_config`, with `NO_SNAT` exactly on the first
  and `HAIRPIN` only on the second.
- `externalConfig_complete`: conversely, every such prefix is a key of `external_config`.
- `hairpinDests_spec`: `hairpin_dests` lists each `HAIRPIN` key once, `external_addr` first and the others in map
  order, the comparator being a weak order on distinct keys.
-/
import Mathlib.Data.Fintype.Basic
import Einat.Policy
import Einat.Trie

namespace Einat.Builder

open Einat.PortRanges Einat.Network Einat.Policy Einat.Trie

/-! ## The data plane's configuration values -/

/-- `skel::DestFlags`, the bits `instance.rs` sets -/
structure DestFlags where
  noSnat : Bool
  hairpin : Bool
deriving DecidableEq

/-- `skel::DestConfig` -/
structure DestConfig where
  flags : DestFlags
deriving DecidableEq

/-- the zeroed `DestConfig` of `or_default()` -/
instance : Inhabited DestConfig := ⟨⟨⟨false, false⟩⟩⟩

/-- `skel::ExternalFlags`, the bit `instance.rs` sets -/
structure ExternalFlags where
  noSnat : Bool
deriving DecidableEq

/-- `skel::ExternalConfig` with `n` slots per port-range array -/
structure ExternalConfig (n : ℕ) where
  flags : ExternalFlags
  tcpRange : Fin n → RawPortRange
  tcpRangeLen : ℕ
  udpRange : Fin n → RawPortRange
  udpRangeLen : ℕ
  icmpRange : Fin n → RawPortRange
  icmpRangeLen : ℕ
  icmpInRange : Fin n → RawPortRange
  icmpInRangeLen : ℕ
  icmpOutRange : Fin n → RawPortRange
  icmpOutRangeLen : ℕ
deriving DecidableEq

/-- the zeroed `ExternalConfig` of `or_default()` -/
instance {n : ℕ} : Inhabited (ExternalConfig n) :=
  ⟨⟨⟨false⟩, fun _ => ⟨0, 0⟩, 0, fun _ => ⟨0, 0⟩, 0, fun _ => ⟨0, 0⟩, 0, fun _ => ⟨0, 0⟩, 0, fun _ => ⟨0, 0⟩, 0⟩⟩

/-- `RuntimeV4Config` / `RuntimeV6Config` -/
@[ext]
structure RuntimeConfig (P : Type) [IpNetwork P] (n : ℕ) where
  externalAddr : P
  destConfig : PrefixMap P DestConfig
  externalConfig : PrefixMap P (ExternalConfig n)

/-! ## Model -/

section Model

variable {P : Type} [IpNetwork P] {n : ℕ}

/-- `dest_value.flags.insert(DestFlags::NO_SNAT)` -/
def setNoSnat (v : DestConfig) : DestConfig := { v with flags := { v.flags with noSnat := true } }

/-- `dest_value.flags.set(DestFlags::HAIRPIN, !external.no_hairpin)` -/
def setHairpin (external : External) (v : DestConfig) : DestConfig :=
  { v with flags := { v.flags with hairpin := !external.noHairpin } }

/-- what one `External` writes to `external_config[network]`: the `NO_SNAT` bit, then, unless `no_snat`
(`continue`), the five `apply_raw`s -/
def writeExternal (external : External) (v : ExternalConfig n) : ExternalConfig n :=
  let v := { v with flags := { v.flags with noSnat := external.noSnat } }
  if external.noSnat then v
  else { v with
    tcpRange := (ExternalRanges.applyRaw external.tcpRanges n).1
    tcpRangeLen := (ExternalRanges.applyRaw external.tcpRanges n).2
    udpRange := (ExternalRanges.applyRaw external.udpRanges n).1
    udpRangeLen := (ExternalRanges.applyRaw external.udpRanges n).2
    icmpRange := (ExternalRanges.applyRaw external.icmpRanges n).1
    icmpRangeLen := (ExternalRanges.applyRaw external.icmpRanges n).2
    icmpInRange := (ExternalRanges.applyRaw external.icmpInRanges n).1
    icmpInRangeLen := (ExternalRanges.applyRaw external.icmpInRanges n).2
    icmpOutRange := (ExternalRanges.applyRaw external.icmpOutRanges n).1
    icmpOutRangeLen := (ExternalRanges.applyRaw external.icmpOutRanges n).2 }

/-- the `matches` of one `External`, given `addresses_set` -/
def externalMatches (external : External) (addressesSet : PrefixMap P Unit) : List P :=
  match external.address with
  | .static address =>
    match IpNetwork.fromIpAddr address with
    | some address => if !IpNetwork.isUnspecified address then [address] else []
    | none => []
  | .matcher matchAddress =>
    (addressesSet.entries.map Prod.fst).filter fun address =>
      matchAddress.contains (IpNetwork.ipAddr address) && !IpNetwork.isUnspecified address

/-- the state of `init`'s loop over the `External`s -/
structure InitState (P : Type) [IpNetwork P] (n : ℕ) where
  externalAddr : Option P
  addressesSet : PrefixMap P Unit
  destConfig : PrefixMap P DestConfig
  externalConfig : PrefixMap P (ExternalConfig n)

/-- one iteration of `for external in externals` -/
def initStep (st : InitState P n) (external : External) : InitState P n :=
  let matched := externalMatches external st.addressesSet
  let addressesSet := matched.foldl (fun s address => s.remove address) st.addressesSet
  let externalAddr :=
    if st.externalAddr.isNone && !external.noSnat then
      match matched.head? with
      | some first => some first
      | none => st.externalAddr
    else st.externalAddr
  let maps := matched.foldl (fun (maps : PrefixMap P DestConfig × PrefixMap P (ExternalConfig n)) network =>
      (maps.1.modify network (setHairpin external), maps.2.modify network (writeExternal external)))
    (st.destConfig, st.externalConfig)
  { externalAddr, addressesSet, destConfig := maps.1, externalConfig := maps.2 }

/-- the loop state before the first `External` -/
def initStart (self : RuntimeConfig P n) (noSnatDests addresses : List P) : InitState P n :=
  ⟨none, PrefixMap.fromIter addresses, noSnatDests.foldl (fun d network => d.modify network setNoSnat)
    self.destConfig, self.externalConfig⟩

/-- `RuntimeConfig::init` -/
def RuntimeConfig.init (self : RuntimeConfig P n) (noSnatDests : List P) (externals : List External)
    (addresses : List P) : RuntimeConfig P n :=
  let st := externals.foldl initStep (initStart self noSnatDests addresses)
  { externalAddr := st.externalAddr.getD IpNetwork.unspecified, destConfig := st.destConfig,
    externalConfig := st.externalConfig }

/-- `RuntimeV4Config::from` / `RuntimeV6Config::from` -/
def RuntimeConfig.from (noSnatDests : List P) (externals : List External) (addresses : List (IpNetwork.Addr P)) :
    RuntimeConfig P n :=
  RuntimeConfig.init ⟨IpNetwork.unspecified, .empty, .empty⟩ noSnatDests externals
    (addresses.map IpNetwork.fromAddr)

/-- the `matches` of each `External` in turn, from the given `addresses_set` -/
def loopMatches (addressesSet : PrefixMap P Unit) : List External → List (External × List P)
  | [] => []
  | external :: externals =>
    let matched := externalMatches external addressesSet
    (external, matched) :: loopMatches (matched.foldl (fun s address => s.remove address) addressesSet) externals

/-- the `matches` of each `External` when `from` builds a configuration -/
def fromMatches (externals : List External) (addresses : List (IpNetwork.Addr P)) : List (External × List P) :=
  loopMatches (PrefixMap.fromIter (addresses.map IpNetwork.fromAddr)) externals

/-- the `External`s whose `matches` contain `p`, in order -/
def claimedBy (ms : List (External × List P)) (p : P) : List External :=
  (ms.filter fun m => decide (p ∈ m.2)).map Prod.fst

/-- `InstanceConfig::is_static` on the `External`s -/
def isStatic (externals : List External) : Bool :=
  externals.all fun external => match external.address with
    | .static _ => true
    | .matcher _ => false

/-- the comparator of `hairpin_dests`' `sort_by`: `external_addr` before every other prefix, all others equal -/
def hairpinCmp (external a b : P) : Ordering :=
  if a = external then .lt else if b = external then .gt else .eq

/-- the order `sort_by` sorts with: `a` may stand before `b` unless the comparator puts `b` first -/
def hairpinLe (external a b : P) : Bool :=
  match hairpinCmp external a b with
  | .gt => false
  | _ => true

/-- `RuntimeConfig::hairpin_dests`: the `HAIRPIN` keys of `dest_config` in its order, then `sort_by` with
`hairpinCmp`. `slice::sort_by` is a stable sort; for a comparator that orders the slice consistently every stable
sort returns the same list, here `List.mergeSort` by `hairpinLe`. -/
def RuntimeConfig.hairpinDests (self : RuntimeConfig P n) : List P :=
  let res := self.destConfig.entries.filterMap fun (p, config) => if config.flags.hairpin then some p else none
  let external := self.externalAddr
  res.mergeSort (hairpinLe external)

end Model

/-! ## The loop at one prefix -/

section Keys

variable {P : Type} [IpNetwork P] {n : ℕ}

/-- whether `external` puts `p` in its `matches`, when `p` is (`remaining`) or is not in `addresses_set` -/
def claims (external : External) (p : P) (remaining : Bool) : Bool :=
  match external.address with
  | .static address => decide (IpNetwork.fromIpAddr address = some p) && !IpNetwork.isUnspecified p
  | .matcher matchAddress =>
    remaining && matchAddress.contains (IpNetwork.ipAddr p) && !IpNetwork.isUnspecified p

/-- `init`'s loop state read at one prefix: whether it is in `addresses_set`, and its two entries -/
structure KeyState (n : ℕ) where
  remaining : Bool
  dest : Option DestConfig
  ext : Option (ExternalConfig n)

/-- the loop state read at prefix `p` -/
def InitState.at (st : InitState P n) (p : P) : KeyState n :=
  ⟨(st.addressesSet.find? p).isSome, st.destConfig.find? p, st.externalConfig.find? p⟩

/-- a claim of the prefix: out of `addresses_set`, both entries rewritten through `or_default()` -/
def claimStep (ks : KeyState n) (external : External) : KeyState n :=
  ⟨false, some (setHairpin external (ks.dest.getD default)), some (writeExternal external (ks.ext.getD default))⟩

/-- one `External` at prefix `p` -/
def keyStep (p : P) (ks : KeyState n) (external : External) : KeyState n :=
  if claims external p ks.remaining then claimStep ks external else ks

/-- the `External`s that claim `p`, in order, from `remaining` on -/
def claimants (p : P) (remaining : Bool) : List External → List External
  | [] => []
  | external :: externals =>
    if claims external p remaining then external :: claimants p false externals
    else claimants p remaining externals

theorem mem_externalMatches (external : External) (s : PrefixMap P Unit) (p : P) :
    p ∈ externalMatches external s ↔ claims external p (s.find? p).isSome = true := by
  rcases external with ⟨address | m, _⟩ <;> simp only [externalMatches, claims]
  · cases hf : (IpNetwork.fromIpAddr address : Option P) with
    | none => simp
    | some q =>
      by_cases hpq : q = p
      · subst hpq; cases hq : IpNetwork.isUnspecified q <;> simp [hq]
      · simp [hpq, Ne.symm hpq]
  ·
    rw [List.mem_filter, PrefixMap.mem_keys_iff]
    cases h : s.find? p <;> simp [and_assoc]

theorem setNoSnat_idem (v : DestConfig) : setNoSnat (setNoSnat v) = setNoSnat v := rfl

theorem setHairpin_idem (external : External) (v : DestConfig) :
    setHairpin external (setHairpin external v) = setHairpin external v := rfl

theorem writeExternal_idem (external : External) (v : ExternalConfig n) :
    writeExternal external (writeExternal external v) = writeExternal external v := by
  cases h : external.noSnat <;> simp [writeExternal, h]

theorem at_initStep (st : InitState P n) (external : External) (p : P) :
    (initStep st external).at p = keyStep p (st.at p) external := by
  have hsplit : ∀ (l : List P) a b, l.foldl (fun (maps : PrefixMap P DestConfig × PrefixMap P (ExternalConfig n))
      network => (maps.1.modify network (setHairpin external), maps.2.modify network (writeExternal external)))
      (a, b) = (l.foldl (fun d network => d.modify network (setHairpin external)) a,
        l.foldl (fun e network => e.modify network (writeExternal external)) b) := by
    intro l; induction l with
    | nil => intro a b; rfl
    | cons q t ih => intro a b; exact ih _ _
  have hm := mem_externalMatches external st.addressesSet p
  simp only [initStep, InitState.at, keyStep, claimStep, hsplit, PrefixMap.find?_foldl_remove,
    PrefixMap.find?_foldl_modify _ (setHairpin_idem external), PrefixMap.find?_foldl_modify _ (writeExternal_idem external)]
  by_cases h : claims external p (st.addressesSet.find? p).isSome
  · simp [h, hm.2 h]
  · simp [h, mt hm.1 h]

/-- the whole loop, read at `p`, is the one-prefix machine run over the `External`s -/
theorem at_foldl_initStep (externals : List External) (st : InitState P n) (p : P) :
    (externals.foldl initStep st).at p = externals.foldl (keyStep p) (st.at p) :=
  (List.foldl_hom (InitState.at · p) initStep (keyStep p) externals st fun st e => (at_initStep st e p).symm).symm

theorem foldl_keyStep (p : P) (externals : List External) (ks : KeyState n) :
    externals.foldl (keyStep p) ks = (claimants p ks.remaining externals).foldl claimStep ks := by
  induction externals generalizing ks with
  | nil => rfl
  | cons external externals ih =>
    by_cases h : claims external p ks.remaining
    · simp only [List.foldl_cons, keyStep, claimants, h, if_true, ih]; rfl
    · simp only [List.foldl_cons, keyStep, claimants, h, ih]; rfl

theorem claimants_eq_claimedBy (addressesSet : PrefixMap P Unit) (externals : List External) (p : P) :
    claimants p (addressesSet.find? p).isSome externals = claimedBy (loopMatches addressesSet externals) p := by
  induction externals generalizing addressesSet with
  | nil => rfl
  | cons external externals ih =>
    have hm := mem_externalMatches external addressesSet p
    by_cases h : claims external p (addressesSet.find? p).isSome
    · have := ih ((externalMatches external addressesSet).foldl (fun s address => s.remove address) addressesSet)
      simp only [PrefixMap.find?_foldl_remove, hm.2 h, if_true, Option.isSome_none] at this
      simp [claimants, loopMatches, claimedBy, h, hm.2 h, this]
    · have := ih ((externalMatches external addressesSet).foldl (fun s address => s.remove address) addressesSet)
      simp only [PrefixMap.find?_foldl_remove, mt hm.1 h, if_false] at this
      simp [claimants, loopMatches, claimedBy, h, mt hm.1 h, this]

end Keys

/-! ## What `from` builds at one prefix -/

section From

variable {P : Type} [IpNetwork P] {n : ℕ}

/-- an (array, length byte) group holds `ranges` exactly: the length byte is the list's length, the slots below it
hold the ranges in order, the slots above it are zero -/
def GroupHolds (raw : Fin n → RawPortRange) (len : ℕ) (ranges : List PortRange) : Prop :=
  len = ranges.length ∧ ∀ idx : Fin n,
    (∀ h : idx.val < ranges.length, raw idx = ⟨ranges[idx.val].start, ranges[idx.val].«end»⟩) ∧
    (ranges.length ≤ idx.val → raw idx = ⟨0, 0⟩)

/-- the five groups of `v` hold the port ranges of `external`, or no ranges when there is none -/
def ExternalConfig.Holds (v : ExternalConfig n) (external : Option External) : Prop :=
  let ranges (group : External → ExternalRanges) := (external.map fun e => (group e).ranges).getD []
  GroupHolds v.tcpRange v.tcpRangeLen (ranges External.tcpRanges) ∧
    GroupHolds v.udpRange v.udpRangeLen (ranges External.udpRanges) ∧
    GroupHolds v.icmpRange v.icmpRangeLen (ranges External.icmpRanges) ∧
    GroupHolds v.icmpInRange v.icmpInRangeLen (ranges External.icmpInRanges) ∧
    GroupHolds v.icmpOutRange v.icmpOutRangeLen (ranges External.icmpOutRanges)

/-- the prefix `init` takes for `external_addr`: the first match of the first `External` without `no_snat` that
has one -/
def firstAddr : List (External × List P) → Option P
  | [] => none
  | (external, matched) :: ms => if !external.noSnat then matched.head?.or (firstAddr ms) else firstAddr ms

theorem groupHolds_applyRaw (r : ExternalRanges) (h : r.ranges.length < 256) :
    GroupHolds (ExternalRanges.applyRaw r n).1 (ExternalRanges.applyRaw r n).2 r.ranges := by
  refine ⟨Nat.mod_eq_of_lt h, fun idx => ⟨fun hi => ?_, fun hi => ?_⟩⟩
  · simp [ExternalRanges.applyRaw, List.getElem?_eq_getElem hi]
  · simp [ExternalRanges.applyRaw, List.getElem?_eq_none hi]

theorem holds_default : (default : ExternalConfig n).Holds none := by
  have h : GroupHolds (fun _ => ⟨0, 0⟩ : Fin n → RawPortRange) 0 [] := ⟨rfl, fun _ => ⟨nofun, fun _ => rfl⟩⟩
  exact ⟨h, h, h, h, h⟩

@[simp]
theorem writeExternal_noSnat (external : External) (v : ExternalConfig n) :
    (writeExternal external v).flags.noSnat = external.noSnat := by
  unfold writeExternal; split <;> rfl

theorem holds_writeExternal {external : External} (h : external.noSnat = false) (hfit : external.Fits n)
    (hn : n < 256) (v : ExternalConfig n) : (writeExternal external v).Holds (some external) := by
  simp only [writeExternal, h, Bool.false_eq_true, if_false]
  exact ⟨groupHolds_applyRaw _ (hfit.tcp.trans_lt hn), groupHolds_applyRaw _ (hfit.udp.trans_lt hn),
    groupHolds_applyRaw _ (hfit.icmp.trans_lt hn), groupHolds_applyRaw _ (hfit.icmpIn.trans_lt hn),
    groupHolds_applyRaw _ (hfit.icmpOut.trans_lt hn)⟩

theorem holds_writeExternal_of_noSnat {external : External} (h : external.noSnat = true) (v : ExternalConfig n)
    (o : Option External) : (writeExternal external v).Holds o ↔ v.Holds o := by
  simp only [writeExternal, h, if_true]; rfl

/-- a run of `or_default()` writes ends with the last writer's -/
theorem foldl_write_of_getLast? {α β : Type} [Inhabited α] (write : β → α → α) {l : List β} {last : β}
    (h : l.getLast? = some last) (o : Option α) :
    ∃ v, l.foldl (fun o b => some (write b (o.getD default))) o = some (write last v) := by
  obtain ⟨front, rfl⟩ := List.getLast?_eq_some_iff.mp h
  exact ⟨(front.foldl (fun o b => some (write b (o.getD default))) o).getD default, by simp⟩

/-- the port ranges of a prefix are those of its last claimant without `no_snat` -/
theorem holds_foldl_writeExternal (hn : n < 256) (l : List External) (hl : ∀ e ∈ l, e.Fits n) :
    ((l.foldl (fun (v : Option (ExternalConfig n)) e => some (writeExternal e (v.getD default))) none).getD
      default).Holds
      (l.filter fun e => !e.noSnat).getLast? := by
  induction l using List.reverseRecOn with
  | nil => exact holds_default
  | append_singleton l e ih =>
    rw [List.foldl_append, List.foldl_cons, List.foldl_nil, Option.getD_some, List.filter_append]
    cases h : e.noSnat
    · simpa [h] using holds_writeExternal h (hl e (by simp)) hn _
    · simpa [h, holds_writeExternal_of_noSnat h] using ih fun e he => hl e (by simp [he])

theorem at_initStart (noSnatDests addresses : List P) (p : P) :
    (initStart (⟨IpNetwork.unspecified, .empty, .empty⟩ : RuntimeConfig P n) noSnatDests addresses).at p =
      ⟨decide (p ∈ addresses), if p ∈ noSnatDests then some (setNoSnat default) else none, none⟩ := by
  simp only [initStart, InitState.at, PrefixMap.isSome_find?_fromIter, PrefixMap.find?_empty,
    PrefixMap.find?_foldl_modify _ setNoSnat_idem, Option.getD_none]

/-- `from`, read at `p`: the claims of `p`, in order, over its seed entries -/
theorem at_foldl_from (noSnatDests : List P) (externals : List External) (addresses : List (IpNetwork.Addr P))
    (p : P) :
    (externals.foldl initStep (initStart (⟨IpNetwork.unspecified, .empty, .empty⟩ : RuntimeConfig P n)
      noSnatDests (addresses.map IpNetwork.fromAddr))).at p =
    (claimedBy (fromMatches externals addresses) p).foldl claimStep
      ⟨decide (p ∈ addresses.map IpNetwork.fromAddr), if p ∈ noSnatDests then some (setNoSnat default) else none,
        none⟩ := by
  rw [at_foldl_initStep, foldl_keyStep, at_initStart, fromMatches, ← claimants_eq_claimedBy,
    PrefixMap.isSome_find?_fromIter]

theorem find?_from_externalConfig (noSnatDests : List P) (externals : List External)
    (addresses : List (IpNetwork.Addr P)) (p : P) :
    (RuntimeConfig.from noSnatDests externals addresses : RuntimeConfig P n).externalConfig.find? p =
      (claimedBy (fromMatches externals addresses) p).foldl
        (fun v external => some (writeExternal external (v.getD default))) none := by
  have h := congrArg KeyState.ext (at_foldl_from (n := n) noSnatDests externals addresses p)
  rw [← List.foldl_hom KeyState.ext claimStep (fun v external => some (writeExternal external (v.getD default)))
    _ _ fun _ _ => rfl] at h
  exact h

theorem find?_from_destConfig (noSnatDests : List P) (externals : List External)
    (addresses : List (IpNetwork.Addr P)) (p : P) :
    (RuntimeConfig.from noSnatDests externals addresses : RuntimeConfig P n).destConfig.find? p =
      (claimedBy (fromMatches externals addresses) p).foldl
        (fun d external => some (setHairpin external (d.getD default)))
        (if p ∈ noSnatDests then some (setNoSnat default) else none) := by
  have h := congrArg KeyState.dest (at_foldl_from (n := n) noSnatDests externals addresses p)
  rw [← List.foldl_hom KeyState.dest claimStep (fun d external => some (setHairpin external (d.getD default)))
    _ _ fun _ _ => rfl] at h
  exact h

end From

/-! ## The configuration `from` builds -/

section Results

variable {P : Type} [IpNetwork P] {n : ℕ}

theorem map_fst_loopMatches (s : PrefixMap P Unit) (externals : List External) :
    (loopMatches s externals).map Prod.fst = externals := by
  induction externals generalizing s with
  | nil => rfl
  | cons e es ih => simp [loopMatches, ih]

theorem mem_of_mem_claimedBy {s : PrefixMap P Unit} {externals : List External} {p : P} {e : External}
    (h : e ∈ claimedBy (loopMatches s externals) p) : e ∈ externals :=
  map_fst_loopMatches s externals ▸ ((List.filter_sublist _).map _).subset h

theorem isUnspecified_of_mem_loopMatches {s : PrefixMap P Unit} {externals : List External}
    {m : External × List P} (hm : m ∈ loopMatches s externals) {p : P} (hp : p ∈ m.2) :
    IpNetwork.isUnspecified p = false := by
  induction externals generalizing s with
  | nil => simp [loopMatches] at hm
  | cons e es ih =>
    rcases List.mem_cons.1 hm with rfl | hm
    · have := (mem_externalMatches e s p).1 hp
      unfold claims at this; split at this <;> simp_all
    · exact ih hm

omit [IpNetwork P] in
theorem firstAddr_eq_none_iff (ms : List (External × List P)) :
    firstAddr ms = none ↔ ∀ m ∈ ms, m.1.noSnat = false → m.2 = [] := by
  induction ms with
  | nil => simp [firstAddr]
  | cons m ms ih =>
    obtain ⟨e, _ | ⟨a, t⟩⟩ := m <;> cases h : e.noSnat <;> simp [firstAddr, h, ih]

omit [IpNetwork P] in
theorem firstAddr_spec {ms : List (External × List P)} {a : P} (h : firstAddr ms = some a) :
    ∃ m ∈ ms, m.1.noSnat = false ∧ a ∈ m.2 := by
  induction ms with
  | nil => simp [firstAddr] at h
  | cons m ms ih =>
    obtain ⟨e, matched⟩ := m
    have tail : firstAddr ms = some a → ∃ m ∈ (e, matched) :: ms, m.1.noSnat = false ∧ a ∈ m.2 := fun h =>
      let ⟨m, hm, hm'⟩ := ih h
      ⟨m, List.mem_cons_of_mem _ hm, hm'⟩
    cases he : e.noSnat
    · cases matched with
      | nil => exact tail (by simpa [firstAddr, he] using h)
      | cons b t =>
        simp only [firstAddr, he, Bool.not_false, if_true, List.head?_cons, Option.or_some, Option.some.injEq] at h
        exact ⟨_, List.mem_cons_self _ _, he, by simp [h]⟩
    · exact tail (by simpa [firstAddr, he] using h)

/-- `external_addr` is set once, by the first `External` without `no_snat` that matches anything -/
theorem externalAddr_foldl_initStep (externals : List External) (st : InitState P n) :
    (externals.foldl initStep st).externalAddr =
      st.externalAddr.or (firstAddr (loopMatches st.addressesSet externals)) := by
  induction externals generalizing st with
  | nil => simp [loopMatches, firstAddr, Option.or_none]
  | cons e es ih =>
    rw [List.foldl_cons, ih]
    cases hst : st.externalAddr <;> cases he : e.noSnat <;>
      cases hm : (externalMatches e st.addressesSet).head? <;> simp [initStep, loopMatches, firstAddr, hst, he, hm]

theorem externalAddr_from_eq (noSnatDests : List P) (externals : List External)
    (addresses : List (IpNetwork.Addr P)) :
    (RuntimeConfig.from noSnatDests externals addresses : RuntimeConfig P n).externalAddr =
      (firstAddr (fromMatches externals addresses)).getD IpNetwork.unspecified := by
  simp only [RuntimeConfig.from, RuntimeConfig.init, externalAddr_foldl_initStep]; rfl

/-- a static entry for 1.2.3.4 with no port ranges of its own -/
def staticEntry (noSnat : Bool) : ConfigExternal :=
  ⟨.static (.v4 16909060), noSnat, false, none, none, none, none, none⟩

/-- no default port ranges -/
def noDefaults : ConfigDefaults := ⟨[], [], [], [], []⟩

/-- what `External::try_from` makes of `staticEntry` -/
def staticExternal (noSnat : Bool) : External :=
  ⟨.static (.v4 16909060), noSnat, false, ⟨[]⟩, ⟨[]⟩, ⟨[]⟩, ⟨[]⟩, ⟨[]⟩⟩

/-- the host prefix 1.2.3.4/32 -/
def host1234 : Ipv4Net := ⟨16909060, 32, le_rfl⟩

/-- each key of `external_config` is in the `matches` of some `External`s: the last of them sets its `NO_SNAT` and
the prefix's `HAIRPIN`, the last of them without `no_snat` its port ranges (none when there is none) -/
theorem externalConfig_from (hn : n < 256) (noSnatDests : List P) (externals : List External)
    (addresses : List (IpNetwork.Addr P))
    (hext : ∀ external ∈ externals, ∃ config defaults, External.tryFrom n config defaults = .ok external) (p : P) :
    let cfg : RuntimeConfig P n := .from noSnatDests externals addresses
    let claimed := claimedBy (fromMatches externals addresses) p
    match claimed.getLast? with
    | none => cfg.externalConfig.find? p = none
    | some last => ∃ v d, cfg.externalConfig.find? p = some v ∧ cfg.destConfig.find? p = some d ∧
        v.flags.noSnat = last.noSnat ∧ d.flags.hairpin = !last.noHairpin ∧
        v.Holds (claimed.filter fun external => !external.noSnat).getLast? := by
  dsimp only
  have hfit : ∀ e ∈ claimedBy (fromMatches externals addresses) p, e.Fits n := fun e he =>
    let ⟨_, _, h⟩ := hext e (mem_of_mem_claimedBy he)
    fits_of_tryFrom h
  rw [find?_from_externalConfig, find?_from_destConfig]
  split
  · next hl => rw [List.getLast?_eq_none_iff.mp hl]; rfl
  · next last hl =>
    obtain ⟨v, hv⟩ := foldl_write_of_getLast? writeExternal hl none
    obtain ⟨d, hd⟩ := foldl_write_of_getLast? setHairpin hl (if p ∈ noSnatDests then some (setNoSnat default) else none)
    have hr := holds_foldl_writeExternal hn _ hfit
    rw [hv] at hr
    exact ⟨_, _, hv, hd, writeExternal_noSnat _ _, rfl, hr⟩

theorem externalConfig_from_staticTwice :
    (1 < 256 ∧ ∀ e ∈ [staticExternal false, staticExternal true], ∃ config defaults,
      External.tryFrom 1 config defaults = .ok e) ∧
    let cfg : RuntimeConfig Ipv4Net 1 := .from [] [staticExternal false, staticExternal true] []
    let claimed := claimedBy (fromMatches [staticExternal false, staticExternal true] []) host1234
    match claimed.getLast? with
    | none => cfg.externalConfig.find? host1234 = none
    | some last => ∃ v d, cfg.externalConfig.find? host1234 = some v ∧ cfg.destConfig.find? host1234 = some d ∧
        v.flags.noSnat = last.noSnat ∧ d.flags.hairpin = !last.noHairpin ∧
        v.Holds (claimed.filter fun external => !external.noSnat).getLast? :=
  have hext : ∀ e ∈ [staticExternal false, staticExternal true], ∃ config defaults,
      External.tryFrom 1 config defaults = .ok e := by
    simp only [List.mem_cons, List.mem_singleton, List.not_mem_nil, or_false]
    rintro e (rfl | rfl)
    exacts [⟨staticEntry false, noDefaults, rfl⟩, ⟨staticEntry true, noDefaults, rfl⟩]
  ⟨⟨by decide, hext⟩, externalConfig_from (by decide) [] _ [] hext host1234⟩

/-- both entries put 1.2.3.4 in their `matches`, and the second's `no_snat` is the one written, not the first's -/
theorem externalConfig_from_static_twice :
    External.tryFrom 1 (staticEntry false) noDefaults = .ok (staticExternal false) ∧
    External.tryFrom 1 (staticEntry true) noDefaults = .ok (staticExternal true) ∧
    claimedBy (fromMatches [staticExternal false, staticExternal true] []) host1234 =
      [staticExternal false, staticExternal true] ∧
    ((RuntimeConfig.from [] [staticExternal false, staticExternal true] [] : RuntimeConfig Ipv4Net 1).externalConfig.find?
      host1234).map (·.flags.noSnat) = some true :=
  ⟨rfl, rfl, by decide, by decide⟩

/-- `external_addr` is unspecified exactly when no `External` without `no_snat` matches anything; otherwise it is a
key of `external_config`, whose `NO_SNAT` is that of the last `External` whose `matches` contain it -/
theorem externalAddr_from (noSnatDests : List P) (externals : List External)
    (addresses : List (IpNetwork.Addr P)) :
    let cfg : RuntimeConfig P n := .from noSnatDests externals addresses
    let ms : List (External × List P) := fromMatches externals addresses
    (cfg.externalAddr = IpNetwork.unspecified ↔ ∀ m ∈ ms, m.1.noSnat = false → m.2 = []) ∧
    (cfg.externalAddr ≠ IpNetwork.unspecified → ∃ v last, cfg.externalConfig.find? cfg.externalAddr = some v ∧
      (claimedBy ms cfg.externalAddr).getLast? = some last ∧ v.flags.noSnat = last.noSnat) := by
  dsimp only
  rw [externalAddr_from_eq, ← firstAddr_eq_none_iff]
  cases hf : firstAddr (fromMatches externals addresses : List (External × List P)) with
  | none => simp
  | some a =>
    simp only [Option.getD_some]
    obtain ⟨m, hm, -, ham⟩ := firstAddr_spec hf
    have hne : a ≠ IpNetwork.unspecified := fun h => by
      have := isUnspecified_of_mem_loopMatches hm ham
      rw [h, IpNetwork.isUnspecified_unspecified] at this
      exact Bool.noConfusion this
    have hclaimed : m.1 ∈ claimedBy (fromMatches externals addresses) a :=
      List.mem_map_of_mem _ (List.mem_filter.2 ⟨hm, by simpa using ham⟩)
    cases hl : (claimedBy (fromMatches externals addresses) a).getLast? with
    | none => simp [List.getLast?_eq_none_iff.mp hl] at hclaimed
    | some last =>
      obtain ⟨v, hv⟩ := foldl_write_of_getLast? writeExternal hl (none : Option (ExternalConfig n))
      refine ⟨by simp [hne], fun _ => ⟨writeExternal last v, last, ?_, rfl, writeExternal_noSnat _ _⟩⟩
      rw [find?_from_externalConfig, hv]

/-- the first entry makes 1.2.3.4 `external_addr`, and the second sets its `NO_SNAT` -/
theorem externalAddr_from_static_twice :
    External.tryFrom 1 (staticEntry false) noDefaults = .ok (staticExternal false) ∧
    External.tryFrom 1 (staticEntry true) noDefaults = .ok (staticExternal true) ∧
    let cfg : RuntimeConfig Ipv4Net 1 := .from [] [staticExternal false, staticExternal true] []
    cfg.externalAddr = host1234 ∧ host1234 ≠ IpNetwork.unspecified ∧
      (cfg.externalConfig.find? cfg.externalAddr).map (·.flags.noSnat) = some true :=
  ⟨rfl, rfl, by decide, by decide, by decide⟩

theorem claimedBy_fromMatches (externals : List External) (addresses : List (IpNetwork.Addr P)) (p : P) :
    claimedBy (fromMatches externals addresses) p =
      claimants p (decide (p ∈ addresses.map IpNetwork.fromAddr)) externals := by
  rw [fromMatches, ← claimants_eq_claimedBy, PrefixMap.isSome_find?_fromIter]

/-- `from` sees the addresses only through the `matches` of the loop -/
theorem from_eq_of_fromMatches_eq (noSnatDests : List P) (externals : List External)
    {addresses addresses' : List (IpNetwork.Addr P)}
    (h : (fromMatches externals addresses : List (External × List P)) = fromMatches externals addresses') :
    (RuntimeConfig.from noSnatDests externals addresses : RuntimeConfig P n) =
      RuntimeConfig.from noSnatDests externals addresses' :=
  RuntimeConfig.ext (by rw [externalAddr_from_eq, externalAddr_from_eq, h])
    (PrefixMap.ext fun p => by rw [find?_from_destConfig, find?_from_destConfig, h])
    (PrefixMap.ext fun p => by rw [find?_from_externalConfig, find?_from_externalConfig, h])

/-- two address lists give the same entries at every prefix that is not the host prefix of an address in only one
of them -/
theorem from_agree (noSnatDests : List P) (externals : List External) (addresses addresses' : List (IpNetwork.Addr P))
    (p : P) (hp : ∀ a, a ∈ addresses ∧ a ∉ addresses' ∨ a ∈ addresses' ∧ a ∉ addresses → IpNetwork.fromAddr a ≠ p) :
    (RuntimeConfig.from noSnatDests externals addresses : RuntimeConfig P n).destConfig.find? p =
        (RuntimeConfig.from noSnatDests externals addresses' : RuntimeConfig P n).destConfig.find? p ∧
      (RuntimeConfig.from noSnatDests externals addresses : RuntimeConfig P n).externalConfig.find? p =
        (RuntimeConfig.from noSnatDests externals addresses' : RuntimeConfig P n).externalConfig.find? p := by
  have hmem : p ∈ addresses.map IpNetwork.fromAddr ↔ p ∈ addresses'.map IpNetwork.fromAddr := by
    simp only [List.mem_map]
    exact ⟨fun ⟨a, ha, hpa⟩ => ⟨a, by_contra fun h => hp a (.inl ⟨ha, h⟩) hpa, hpa⟩,
      fun ⟨a, ha, hpa⟩ => ⟨a, by_contra fun h => hp a (.inr ⟨ha, h⟩) hpa, hpa⟩⟩
  simp only [find?_from_destConfig, find?_from_externalConfig, claimedBy_fromMatches, hmem, and_self]

/-- the same addresses, in any order and number, give the same configuration -/
theorem from_eq_of_same_set (noSnatDests : List P) (externals : List External)
    {addresses addresses' : List (IpNetwork.Addr P)} (h : ∀ a, a ∈ addresses ↔ a ∈ addresses') :
    (RuntimeConfig.from noSnatDests externals addresses : RuntimeConfig P n) =
      RuntimeConfig.from noSnatDests externals addresses' := by
  have hset : PrefixMap.fromIter (addresses.map IpNetwork.fromAddr) =
      PrefixMap.fromIter (addresses'.map (IpNetwork.fromAddr : IpNetwork.Addr P → P)) :=
    PrefixMap.ext fun p => by simp only [PrefixMap.find?_fromIter, List.mem_map, h]
  exact from_eq_of_fromMatches_eq _ _ (by rw [fromMatches, fromMatches, hset])

theorem loopMatches_of_isStatic {externals : List External} (h : isStatic externals = true)
    (s s' : PrefixMap P Unit) : loopMatches s externals = loopMatches s' externals := by
  induction externals generalizing s s' with
  | nil => rfl
  | cons e es ih =>
    simp only [isStatic, List.all_cons, Bool.and_eq_true] at h
    obtain ⟨he, hes⟩ := h
    rcases e with ⟨address | m, _⟩
    · exact congrArg _ (ih hes _ _)
    · exact absurd he Bool.false_ne_true

/-- with only static entries the configuration does not depend on the addresses -/
theorem from_static (noSnatDests : List P) (externals : List External) (h : isStatic externals = true)
    (addresses addresses' : List (IpNetwork.Addr P)) :
    (RuntimeConfig.from noSnatDests externals addresses : RuntimeConfig P n) =
      RuntimeConfig.from noSnatDests externals addresses' :=
  from_eq_of_fromMatches_eq _ _ (loopMatches_of_isStatic h _ _)

theorem from_static_staticTwice :
    isStatic [staticExternal false, staticExternal true] = true ∧
      (RuntimeConfig.from [] [staticExternal false, staticExternal true] [] : RuntimeConfig Ipv4Net 1) =
        RuntimeConfig.from [] [staticExternal false, staticExternal true] ([16909060, 167772165] : List (Fin (2 ^ 32))) :=
  ⟨rfl, from_static [] [staticExternal false, staticExternal true] rfl _ _⟩

/-! ## The keys `from` writes -/

omit [IpNetwork P] in
theorem isSome_foldl_write {α β : Type} [Inhabited α] (write : β → α → α) (l : List β) (o : Option α) :
    (l.foldl (fun o b => some (write b (o.getD default))) o).isSome ↔ l ≠ [] ∨ o.isSome := by
  induction l generalizing o with
  | nil => simp
  | cons b l ih => simp [ih]

omit [IpNetwork P] in
/-- a field no write touches keeps its seed value -/
theorem foldl_write_keeps {α β γ : Type} [Inhabited α] (write : β → α → α) (f : α → γ)
    (hf : ∀ b a, f (write b a) = f a) (l : List β) (o : Option α) :
    f ((l.foldl (fun o b => some (write b (o.getD default))) o).getD default) = f (o.getD default) := by
  induction l generalizing o with
  | nil => rfl
  | cons b l ih => rw [List.foldl_cons, ih, Option.getD_some, hf]

theorem claims_mono {external : External} {p : P} {remaining : Bool} (h : claims external p remaining = true) :
    claims external p true = true := by
  unfold claims at h ⊢
  split at h <;> simp_all

/-- an `External` that puts `p` in its `matches` claims `p` from the set it started from -/
theorem claims_of_mem_loopMatches {s : PrefixMap P Unit} {externals : List External} {m : External × List P}
    (hm : m ∈ loopMatches s externals) {p : P} (hp : p ∈ m.2) :
    m.1 ∈ externals ∧ claims m.1 p (s.find? p).isSome = true := by
  induction externals generalizing s with
  | nil => simp [loopMatches] at hm
  | cons e es ih =>
    rcases List.mem_cons.1 hm with rfl | hm
    · exact ⟨List.mem_cons_self _ _, (mem_externalMatches _ s p).1 hp⟩
    · obtain ⟨hmem, hclaims⟩ := ih hm
      refine ⟨List.mem_cons_of_mem _ hmem, ?_⟩
      rw [PrefixMap.find?_foldl_remove] at hclaims
      split at hclaims
      · cases (s.find? p).isSome
        exacts [hclaims, claims_mono hclaims]
      · exact hclaims

/-- **The keys of the configuration.** Every key of `external_config` is the host prefix, never the unspecified
one, of a static address of an `External` or of an input address that a matcher covers; the keys of `dest_config`
are the no-SNAT destinations and the keys of `external_config`; a `dest_config` entry has `NO_SNAT` exactly for the
no-SNAT destinations, and `HAIRPIN` only on keys of `external_config`. -/
theorem keys_from (noSnatDests : List P) (externals : List External) (addresses : List (IpNetwork.Addr P)) :
    let cfg : RuntimeConfig P n := .from noSnatDests externals addresses
    (∀ p, (cfg.externalConfig.find? p).isSome →
      IpNetwork.isUnspecified p = false ∧ ∃ external ∈ externals,
        (∃ address, external.address = .static address ∧ IpNetwork.fromIpAddr address = some p) ∨
        (∃ matchAddress, external.address = .matcher matchAddress ∧
          matchAddress.contains (IpNetwork.ipAddr p) = true ∧ ∃ a ∈ addresses, IpNetwork.fromAddr a = p)) ∧
    (∀ p, (cfg.destConfig.find? p).isSome ↔ p ∈ noSnatDests ∨ (cfg.externalConfig.find? p).isSome) ∧
    (∀ p d, cfg.destConfig.find? p = some d → (d.flags.noSnat = true ↔ p ∈ noSnatDests)) ∧
    (∀ p d, cfg.destConfig.find? p = some d → d.flags.hairpin = true → (cfg.externalConfig.find? p).isSome) := by
  intro cfg
  have hext : ∀ p, (cfg.externalConfig.find? p).isSome ↔ claimedBy (fromMatches externals addresses) p ≠ [] :=
    fun p => by
      simp only [cfg, find?_from_externalConfig, isSome_foldl_write, Option.isSome_none, Bool.false_eq_true,
        or_false]
  have hseed : ∀ p, ((if p ∈ noSnatDests then some (setNoSnat default) else none) : Option DestConfig).getD default =
      ⟨⟨decide (p ∈ noSnatDests), false⟩⟩ := fun p => by split <;> simp_all [setNoSnat] <;> rfl
  refine ⟨fun p hp => ?_, fun p => ?_, fun p d hd => ?_, fun p d hd hh => ?_⟩
  · obtain ⟨external, he⟩ := List.exists_mem_of_ne_nil _ ((hext p).1 hp)
    obtain ⟨m, hmf, rfl⟩ := List.mem_map.1 he
    obtain ⟨hm, hpm⟩ := List.mem_filter.1 hmf
    obtain ⟨hmem, hclaims⟩ := claims_of_mem_loopMatches hm (of_decide_eq_true hpm)
    rw [PrefixMap.isSome_find?_fromIter] at hclaims
    unfold claims at hclaims
    split at hclaims <;> simp only [Bool.and_eq_true, decide_eq_true_eq, Bool.not_eq_true'] at hclaims
    · exact ⟨hclaims.2, m.1, hmem, .inl ⟨_, ‹_›, hclaims.1⟩⟩
    · obtain ⟨⟨hin, hc⟩, hu⟩ := hclaims
      obtain ⟨a, ha, rfl⟩ := List.mem_map.1 hin
      exact ⟨hu, m.1, hmem, .inr ⟨_, ‹_›, hc, a, ha, rfl⟩⟩
  · rw [hext, find?_from_destConfig, isSome_foldl_write]
    split <;> simp_all
  · have := foldl_write_keeps setHairpin (fun d : DestConfig => d.flags.noSnat) (fun _ _ => rfl)
      (claimedBy (fromMatches externals addresses) p) (if p ∈ noSnatDests then some (setNoSnat default) else none)
    rw [← find?_from_destConfig, hd, Option.getD_some, hseed] at this
    simp [this]
  · rw [hext]
    intro hnil
    rw [find?_from_destConfig, hnil, List.foldl_nil] at hd
    have hseedp := hseed p
    rw [hd, Option.getD_some] at hseedp
    rw [hseedp] at hh
    cases hh

theorem claimants_ne_nil {p : P} {remaining : Bool} {external : External}
    (hc : claims external p remaining = true) {externals : List External} (he : external ∈ externals) :
    claimants p remaining externals ≠ [] := by
  induction externals with
  | nil => cases he
  | cons e externals ih =>
    unfold claimants
    split
    · exact List.cons_ne_nil _ _
    · exact ih ((List.mem_cons.1 he).resolve_left fun h => by subst h; contradiction)

/-- an `External` that claims `p` at the start of the loop puts `p` in `external_config` -/
theorem isSome_find?_from_of_claims (noSnatDests : List P) {externals : List External}
    {addresses : List (IpNetwork.Addr P)} {p : P} {external : External} (he : external ∈ externals)
    (hc : claims external p (decide (p ∈ addresses.map IpNetwork.fromAddr)) = true) :
    ((RuntimeConfig.from noSnatDests externals addresses : RuntimeConfig P n).externalConfig.find? p).isSome := by
  rw [find?_from_externalConfig, isSome_foldl_write, claimedBy_fromMatches]
  exact .inl (claimants_ne_nil hc he)

/-- **Every claimable prefix is a key.** A prefix other than the unspecified one is a key of the `external_config`
that `from` builds when an `External` names it: a static one with it as its address, or a matcher that contains it
when it is the host prefix of an input address. With `keys_from`, the keys are exactly these prefixes. -/
theorem externalConfig_complete (noSnatDests : List P) (externals : List External)
    (addresses : List (IpNetwork.Addr P)) (p : P) (hp : IpNetwork.isUnspecified p = false) (external : External)
    (he : external ∈ externals)
    (h : (∃ address, external.address = .static address ∧ IpNetwork.fromIpAddr address = some p) ∨
      (∃ matchAddress, external.address = .matcher matchAddress ∧
        matchAddress.contains (IpNetwork.ipAddr p) = true ∧ ∃ a ∈ addresses, IpNetwork.fromAddr a = p)) :
    ((RuntimeConfig.from noSnatDests externals addresses : RuntimeConfig P n).externalConfig.find? p).isSome := by
  refine isSome_find?_from_of_claims noSnatDests he ?_
  rcases h with ⟨address, hs, hf⟩ | ⟨matchAddress, hm, hc, a, ha, rfl⟩
  · simp [claims, hs, hf, hp]
  · simp only [claims, hm, hc, hp, Bool.not_false, Bool.and_true, decide_eq_true_eq]
    exact List.mem_map_of_mem _ ha

theorem externalConfig_complete_staticExternal :
    IpNetwork.isUnspecified host1234 = false ∧ staticExternal false ∈ [staticExternal false] ∧
      ((∃ address, (staticExternal false).address = .static address ∧ IpNetwork.fromIpAddr address = some host1234) ∨
        (∃ matchAddress, (staticExternal false).address = .matcher matchAddress ∧
          matchAddress.contains (IpNetwork.ipAddr host1234) = true ∧
            ∃ a ∈ ([] : List (Fin (2 ^ 32))), IpNetwork.fromAddr a = host1234)) ∧
      ((RuntimeConfig.from [] [staticExternal false] ([] : List (Fin (2 ^ 32))) : RuntimeConfig Ipv4Net 1
        ).externalConfig.find? host1234).isSome :=
  ⟨rfl, List.mem_singleton_self _, .inl ⟨_, rfl, rfl⟩,
    externalConfig_complete [] [staticExternal false] [] host1234 rfl _ (List.mem_singleton_self _)
      (.inl ⟨_, rfl, rfl⟩)⟩

/-! ## `hairpin_dests` -/

section Hairpin

variable (external : P)

theorem hairpinCmp_swap {a b : P} (h : a ≠ b) : hairpinCmp external b a = (hairpinCmp external a b).swap := by
  unfold hairpinCmp
  by_cases ha : a = external <;> by_cases hb : b = external <;> simp_all [Ordering.swap]

theorem hairpinCmp_ne_gt {a b : P} : hairpinCmp external a b ≠ .gt ↔ a = external ∨ b ≠ external := by
  unfold hairpinCmp
  by_cases ha : a = external <;> by_cases hb : b = external <;> simp_all

theorem hairpinCmp_trans {a b c : P} (hab : hairpinCmp external a b ≠ .gt) (hbc : hairpinCmp external b c ≠ .gt) :
    hairpinCmp external a c ≠ .gt := by
  rw [hairpinCmp_ne_gt] at hab hbc ⊢
  by_cases ha : a = external
  · exact .inl ha
  · exact .inr fun hc => (hab.resolve_left ha) (hbc.resolve_right (not_not.2 hc))

theorem hairpinLe_iff {a b : P} : hairpinLe external a b = true ↔ a = external ∨ b ≠ external := by
  rw [← hairpinCmp_ne_gt, hairpinLe]
  split <;> simp_all

theorem hairpinLe_trans (a b c : P) (hab : hairpinLe external a b = true) (hbc : hairpinLe external b c = true) :
    hairpinLe external a c = true := by
  rw [hairpinLe_iff] at hab hbc ⊢
  rw [← hairpinCmp_ne_gt] at hab hbc ⊢
  exact hairpinCmp_trans external hab hbc

theorem hairpinLe_total (a b : P) : (hairpinLe external a b || hairpinLe external b a) = true := by
  simp only [Bool.or_eq_true, hairpinLe_iff]
  by_cases ha : a = external <;> simp [ha]

/-- a list without repeats, ordered by `hairpinLe`, is `external`, if it is there, and then the rest -/
theorem eq_of_pairwise_hairpinLe {r : List P} (hnd : r.Nodup)
    (hs : r.Pairwise fun a b => hairpinLe external a b = true) :
    r = (if external ∈ r then [external] else []) ++ r.filter (· ≠ external) := by
  cases r with
  | nil => simp
  | cons x t =>
    obtain ⟨hx, -⟩ := List.nodup_cons.1 hnd
    have hfilt : external ∉ t → t.filter (· ≠ external) = t :=
      fun h => List.filter_eq_self.2 fun y hy => decide_eq_true fun hye => h (hye ▸ hy)
    by_cases hxe : x = external
    · subst hxe
      rw [if_pos (List.mem_cons_self _ _), List.filter_cons_of_neg (by simp), hfilt hx, List.singleton_append]
    · have hnot : external ∉ t := fun h =>
        hxe (((hairpinLe_iff external).1 (List.rel_of_pairwise_cons hs h)).resolve_right fun h => h rfl)
      rw [if_neg (List.not_mem_cons_of_ne_of_not_mem (Ne.symm hxe) hnot),
        List.filter_cons_of_pos (p := fun y => decide (y ≠ external)) (decide_eq_true hxe), hfilt hnot,
        List.nil_append]

/-- the stable sort puts `external` first, if it is there, and keeps the order of the rest -/
theorem mergeSort_hairpinLe {l : List P} (hl : l.Nodup) :
    l.mergeSort (hairpinLe external) =
      (if external ∈ l then [external] else []) ++ l.filter (· ≠ external) := by
  have hperm := List.mergeSort_perm l (hairpinLe external)
  have hsorted := List.sorted_mergeSort (hairpinLe_trans external) (hairpinLe_total external) l
  have hc : (l.filter (· ≠ external)).Pairwise fun a b => hairpinLe external a b = true :=
    List.pairwise_of_forall_mem_list fun _ _ b hb =>
      (hairpinLe_iff external).2 (.inr (by simpa using (List.mem_filter.1 hb).2))
  have hrest := (List.sublist_mergeSort (hairpinLe_trans external) (hairpinLe_total external) hc
    (List.filter_sublist l)).filter (· ≠ external)
  rw [List.filter_filter, List.filter_congr (q := fun x => decide (x ≠ external)) (by simp)] at hrest
  have hfilter := (hrest.eq_of_length (hperm.filter _).length_eq.symm).symm
  rw [eq_of_pairwise_hairpinLe external (hperm.nodup_iff.2 hl) hsorted, hfilter]
  simp only [hperm.mem_iff]

/-- **`hairpin_dests`.** It returns `external_addr` first when it is a `HAIRPIN` key of `dest_config`, then the other
`HAIRPIN` keys in `dest_config`'s order: every `HAIRPIN` key once and nothing else. Its comparator orders any two
distinct keys consistently both ways round and transitively, so the stable sort is determined. -/
theorem hairpinDests_spec (self : RuntimeConfig P n) :
    let hairpins := (self.destConfig.entries.filter fun e => e.2.flags.hairpin).map Prod.fst
    self.hairpinDests =
        (if self.externalAddr ∈ hairpins then [self.externalAddr] else []) ++
          hairpins.filter (· ≠ self.externalAddr) ∧
      (∀ p, p ∈ self.hairpinDests ↔ ∃ d, self.destConfig.find? p = some d ∧ d.flags.hairpin = true) ∧
      self.hairpinDests.Nodup ∧
      (∀ a b, a ≠ b → hairpinCmp self.externalAddr b a = (hairpinCmp self.externalAddr a b).swap) ∧
      (∀ a b c, hairpinCmp self.externalAddr a b ≠ .gt → hairpinCmp self.externalAddr b c ≠ .gt →
        hairpinCmp self.externalAddr a c ≠ .gt) := by
  intro hairpins
  have hres : self.destConfig.entries.filterMap
      (fun (p, config) => if config.flags.hairpin then some p else none) = hairpins := by
    simp only [hairpins]
    rw [← List.filterMap_eq_map, List.filterMap_filter]
    rfl
  have hnd : hairpins.Nodup := self.destConfig.sorted.nodup.sublist ((List.filter_sublist _).map _)
  have hperm : self.hairpinDests.Perm hairpins := hres ▸ List.mergeSort_perm _ _
  refine ⟨by rw [RuntimeConfig.hairpinDests, hres]; exact mergeSort_hairpinLe _ hnd, fun p => ?_,
    hperm.nodup_iff.2 hnd, fun _ _ => hairpinCmp_swap _, fun _ _ _ => hairpinCmp_trans _⟩
  rw [hperm.mem_iff]
  simp only [hairpins, List.mem_map, List.mem_filter, PrefixMap.find?_eq_some_iff]
  exact ⟨fun ⟨⟨q, d⟩, ⟨hq, hh⟩, hqp⟩ => ⟨d, hqp ▸ hq, hh⟩, fun ⟨d, hd, hh⟩ => ⟨(p, d), ⟨hd, hh⟩, rfl⟩⟩

end Hairpin

end Results

end Einat.Builder
