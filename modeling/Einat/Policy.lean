/-
External policy entries: `ExternalRanges::try_from`, `External::try_from` and `ExternalRanges::apply_raw`.

The configuration records (`ProtoRange`, `AddressOrMatcher`, `ConfigExternal`, `ConfigDefaults`) come from
`crate::config`, which is not among the sources; they keep the fields `External::try_from` reads. An error is the
value its `anyhow!` message is formatted from; the outbound ICMP message prints the inbound ranges, as the code does.

`MAX_PORT_RANGES` is a constant of the generated skeleton, not among the sources: here it is the parameter
`maxPortRanges`, the number of slots of each port-range array of the data plane. `apply_raw` rewrites every slot and
the length byte (`as u8`, so modulo 256). Its `assert!` that the list fits the slots is not modelled as a panic:
`External` is private to `instance.rs` and built only by `External::try_from`, whose lists fit
(`length_le_of_tryFrom`).

Results:
- `built_of_tryFrom`: what `External::try_from` did to return an entry (`External.Built`), the inversion every later
  fact about the entry is read from.
- `tryFrom_guarantees`: the entry's five lists are normalised and fit the slots, TCP and UDP cover no port 0, the
  inbound and outbound ICMP ports are ICMP ports and are empty without ICMP; and an uncovered inbound or outbound
  port is an error.
-/
import Einat.PortRanges
import Einat.Network

namespace Einat.Policy

open Einat.PortRanges Einat.Network

/-! ## Configuration records -/

/-- `config::ProtoRange` -/
structure ProtoRange where
  inner : PortRange
deriving DecidableEq

/-- `config::AddressOrMatcher` -/
inductive AddressOrMatcher where
  | static (address : IpAddr)
  | matcher (matchAddress : IpNet)
deriving DecidableEq

/-- `config::ConfigExternal`: an external entry as configured -/
structure ConfigExternal where
  address : AddressOrMatcher
  noSnat : Bool
  noHairpin : Bool
  tcpRanges : Option (List ProtoRange)
  udpRanges : Option (List ProtoRange)
  icmpRanges : Option (List ProtoRange)
  icmpInRanges : Option (List ProtoRange)
  icmpOutRanges : Option (List ProtoRange)

/-- `config::ConfigDefaults`: the default port ranges -/
structure ConfigDefaults where
  tcpRanges : List ProtoRange
  udpRanges : List ProtoRange
  icmpRanges : List ProtoRange
  icmpInRanges : List ProtoRange
  icmpOutRanges : List ProtoRange

/-- the errors of `External::try_from` -/
inductive Error where
  /-- "Port range {} contains zero, which is not allowed in this type of port range" -/
  | zeroPort (range : ProtoRange)
  /-- "exceed limit of max {} ranges in port ranges list" -/
  | tooManyRanges (max : ℕ)
  /-- "ICMP ranges {:?} not fully include ICMP inbound ranges {:?}" -/
  | icmpInNotIncluded (icmp icmpIn : ExternalRanges)
  /-- "ICMP ranges {:?} not fully include ICMP outbound ranges {:?}", formatted with the inbound ranges -/
  | icmpOutNotIncluded (icmp icmpIn : ExternalRanges)
deriving DecidableEq

/-! ## Model -/

section Model

variable (maxPortRanges : ℕ)

/-- `ExternalRanges::try_from` -/
def ExternalRanges.tryFrom (ranges : List ProtoRange) (allowZero : Bool) : Except Error ExternalRanges := do
  let ranges ← ranges.mapM fun range =>
    if !allowZero && range.inner.start == 0 then throw (.zeroPort range) else pure range.inner
  let ranges := sortAndMergeRanges ranges
  if ranges.length > maxPortRanges then throw (.tooManyRanges maxPortRanges)
  pure ⟨ranges⟩

/-- `External`: a validated external entry -/
structure External where
  address : AddressOrMatcher
  noSnat : Bool
  noHairpin : Bool
  tcpRanges : ExternalRanges
  udpRanges : ExternalRanges
  icmpRanges : ExternalRanges
  icmpInRanges : ExternalRanges
  icmpOutRanges : ExternalRanges
deriving DecidableEq

/-- `External::try_from` -/
def External.tryFrom (external : ConfigExternal) (defaults : ConfigDefaults) : Except Error External := do
  let tcpRanges ← ExternalRanges.tryFrom maxPortRanges (external.tcpRanges.getD defaults.tcpRanges) false
  let udpRanges ← ExternalRanges.tryFrom maxPortRanges (external.udpRanges.getD defaults.udpRanges) false
  let icmpRanges ← ExternalRanges.tryFrom maxPortRanges (external.icmpRanges.getD defaults.icmpRanges) true
  let icmpInRanges ← (if icmpRanges.ranges.isEmpty then pure ⟨[]⟩
    else ExternalRanges.tryFrom maxPortRanges (external.icmpInRanges.getD defaults.icmpInRanges) true)
  let icmpOutRanges ← (if icmpRanges.ranges.isEmpty then pure ⟨[]⟩
    else ExternalRanges.tryFrom maxPortRanges (external.icmpOutRanges.getD defaults.icmpOutRanges) true)
  if !icmpRanges.contains icmpInRanges then throw (.icmpInNotIncluded icmpRanges icmpInRanges)
  if !icmpRanges.contains icmpOutRanges then throw (.icmpOutNotIncluded icmpRanges icmpInRanges)
  pure { address := external.address, noSnat := external.noSnat, noHairpin := external.noHairpin,
         tcpRanges, udpRanges, icmpRanges, icmpInRanges, icmpOutRanges }

end Model

/-- `skel::PortRange`: one slot of a port-range array of the data plane -/
structure RawPortRange where
  startPort : ℕ
  endPort : ℕ
deriving DecidableEq

/-- `ExternalRanges::apply_raw` on an array of `n` slots: every slot rewritten, then the `u8` length -/
def ExternalRanges.applyRaw (self : ExternalRanges) (n : ℕ) : (Fin n → RawPortRange) × ℕ :=
  (fun idx => match self.ranges[idx.val]? with
    | some range => ⟨range.start, range.«end»⟩
    | none => ⟨0, 0⟩,
   self.ranges.length % 256)

/-! ## What `try_from` guarantees -/

theorem bind_eq_ok {ε α β : Type} {x : Except ε α} {f : α → Except ε β} {b : β} :
    x >>= f = .ok b ↔ ∃ a, x = .ok a ∧ f a = .ok b := by
  cases x <;> simp [bind, Except.bind]

theorem mapM_zeroCheck {allowZero : Bool} : ∀ {ranges : List ProtoRange} {l : List PortRange},
    ranges.mapM (fun range => if !allowZero && range.inner.start == 0 then throw (Error.zeroPort range)
      else (pure range.inner : Except Error PortRange)) = .ok l →
    l = ranges.map (·.inner) ∧ (allowZero = false → ∀ range ∈ ranges, range.inner.start ≠ 0)
  | [], _, h => by cases h; simp
  | range :: ranges, l, h => by
    rw [List.mapM_cons] at h
    obtain ⟨x, hx, h⟩ := bind_eq_ok.1 h
    obtain ⟨xs, hxs, h⟩ := bind_eq_ok.1 h
    cases h
    obtain ⟨rfl, hz⟩ := mapM_zeroCheck hxs
    split_ifs at hx with h0
    cases hx
    refine ⟨rfl, fun ha r hr => ?_⟩
    rcases List.mem_cons.1 hr with rfl | hr
    · simpa [ha] using h0
    · exact hz ha r hr

variable {maxPortRanges : ℕ}

theorem ranges_of_tryFrom {ranges : List ProtoRange} {allowZero : Bool} {r : ExternalRanges}
    (h : ExternalRanges.tryFrom maxPortRanges ranges allowZero = .ok r) :
    r.ranges = sortAndMergeRanges (ranges.map (·.inner)) ∧ r.ranges.length ≤ maxPortRanges ∧
      (allowZero = false → ∀ range ∈ ranges, range.inner.start ≠ 0) := by
  unfold ExternalRanges.tryFrom at h
  obtain ⟨l, hl, h⟩ := bind_eq_ok.1 h
  obtain ⟨rfl, hz⟩ := mapM_zeroCheck hl
  dsimp only at h
  split_ifs at h with hlen <;> cases h
  exact ⟨rfl, Nat.le_of_not_lt hlen, hz⟩

theorem length_le_of_tryFrom {ranges : List ProtoRange} {allowZero : Bool} {r : ExternalRanges}
    (h : ExternalRanges.tryFrom maxPortRanges ranges allowZero = .ok r) : r.ranges.length ≤ maxPortRanges :=
  (ranges_of_tryFrom h).2.1

theorem normal_of_tryFrom {ranges : List ProtoRange} {allowZero : Bool} {r : ExternalRanges}
    (h : ExternalRanges.tryFrom maxPortRanges ranges allowZero = .ok r) :
    sortAndMergeRanges r.ranges = r.ranges ∧ r.ranges.length ≤ maxPortRanges ∧
      (maxPortRanges < 256 → (ExternalRanges.applyRaw r maxPortRanges).2 = r.ranges.length) := by
  obtain ⟨hr, hlen, -⟩ := ranges_of_tryFrom h
  exact ⟨hr ▸ sortAndMergeRanges_idem _, hlen, fun hn => Nat.mod_eq_of_lt (hlen.trans_lt hn)⟩

theorem normal_of_tryFrom_if {c : Bool} {ranges : List ProtoRange} {r : ExternalRanges}
    (h : (if c then pure ⟨[]⟩ else ExternalRanges.tryFrom maxPortRanges ranges true) = .ok r) :
    sortAndMergeRanges r.ranges = r.ranges ∧ r.ranges.length ≤ maxPortRanges ∧
      (maxPortRanges < 256 → (ExternalRanges.applyRaw r maxPortRanges).2 = r.ranges.length) := by
  split at h
  · cases h
    exact ⟨rfl, Nat.zero_le _, fun _ => rfl⟩
  · exact normal_of_tryFrom h

theorem not_contains_zero_of_tryFrom {ranges : List ProtoRange} {r : ExternalRanges}
    (h : ExternalRanges.tryFrom maxPortRanges ranges false = .ok r) : ∀ x ∈ r.ranges, ¬ x.Contains 0 := by
  obtain ⟨hr, -, hz⟩ := ranges_of_tryFrom h
  intro x hx h0
  obtain ⟨y, hy, hy0⟩ := (covers_sortAndMergeRanges _ 0).1 (by rw [← hr]; exact ⟨x, hx, h0⟩)
  obtain ⟨range, hrange, rfl⟩ := List.mem_map.1 hy
  exact hz rfl range hrange (Nat.le_zero.1 hy0.1)

/-- what `External::try_from` did to return `e`: each list is `ExternalRanges::try_from` of the configured or
default ranges, the inbound and outbound ICMP lists are empty when the ICMP list is, and both passed `contains` -/
structure External.Built (maxPortRanges : ℕ) (external : ConfigExternal) (defaults : ConfigDefaults) (e : External) :
    Prop where
  tcp : ExternalRanges.tryFrom maxPortRanges (external.tcpRanges.getD defaults.tcpRanges) false = .ok e.tcpRanges
  udp : ExternalRanges.tryFrom maxPortRanges (external.udpRanges.getD defaults.udpRanges) false = .ok e.udpRanges
  icmp : ExternalRanges.tryFrom maxPortRanges (external.icmpRanges.getD defaults.icmpRanges) true = .ok e.icmpRanges
  icmpIn : (if e.icmpRanges.ranges.isEmpty then pure ⟨[]⟩ else ExternalRanges.tryFrom maxPortRanges
    (external.icmpInRanges.getD defaults.icmpInRanges) true) = .ok e.icmpInRanges
  icmpOut : (if e.icmpRanges.ranges.isEmpty then pure ⟨[]⟩ else ExternalRanges.tryFrom maxPortRanges
    (external.icmpOutRanges.getD defaults.icmpOutRanges) true) = .ok e.icmpOutRanges
  containsIn : e.icmpRanges.contains e.icmpInRanges = true
  containsOut : e.icmpRanges.contains e.icmpOutRanges = true

theorem built_of_tryFrom {external : ConfigExternal} {defaults : ConfigDefaults} {e : External}
    (h : External.tryFrom maxPortRanges external defaults = .ok e) : e.Built maxPortRanges external defaults := by
  unfold External.tryFrom at h
  obtain ⟨tcp, htcp, h⟩ := bind_eq_ok.1 h
  obtain ⟨udp, hudp, h⟩ := bind_eq_ok.1 h
  obtain ⟨icmp, hicmp, h⟩ := bind_eq_ok.1 h
  obtain ⟨icmpIn, hin, h⟩ := bind_eq_ok.1 h
  obtain ⟨icmpOut, hout, h⟩ := bind_eq_ok.1 h
  dsimp only at h
  split_ifs at h with hin' hout' <;> cases h
  exact ⟨htcp, hudp, hicmp, hin, hout, by simpa using hin', by simpa using ‹¬(!icmp.contains icmpOut) = true›⟩

theorem address_of_tryFrom {external : ConfigExternal} {defaults : ConfigDefaults} {e : External}
    (h : External.tryFrom maxPortRanges external defaults = .ok e) : e.address = external.address := by
  unfold External.tryFrom at h
  obtain ⟨_, -, h⟩ := bind_eq_ok.1 h
  obtain ⟨_, -, h⟩ := bind_eq_ok.1 h
  obtain ⟨_, -, h⟩ := bind_eq_ok.1 h
  obtain ⟨_, -, h⟩ := bind_eq_ok.1 h
  obtain ⟨_, -, h⟩ := bind_eq_ok.1 h
  dsimp only at h
  split_ifs at h <;> cases h
  rfl

/-- every range list of an `External` built by `External::try_from` fits the `maxPortRanges` slots -/
structure External.Fits (maxPortRanges : ℕ) (e : External) : Prop where
  tcp : e.tcpRanges.ranges.length ≤ maxPortRanges
  udp : e.udpRanges.ranges.length ≤ maxPortRanges
  icmp : e.icmpRanges.ranges.length ≤ maxPortRanges
  icmpIn : e.icmpInRanges.ranges.length ≤ maxPortRanges
  icmpOut : e.icmpOutRanges.ranges.length ≤ maxPortRanges

theorem fits_of_tryFrom {external : ConfigExternal} {defaults : ConfigDefaults} {e : External}
    (h : External.tryFrom maxPortRanges external defaults = .ok e) : e.Fits maxPortRanges :=
  have hb := built_of_tryFrom h
  ⟨length_le_of_tryFrom hb.tcp, length_le_of_tryFrom hb.udp, length_le_of_tryFrom hb.icmp,
    (normal_of_tryFrom_if hb.icmpIn).2.1, (normal_of_tryFrom_if hb.icmpOut).2.1⟩

/-- **What `External::try_from` guarantees.** An entry it returns has five range lists that the normalisation leaves
as they are and that fit the `MAX_PORT_RANGES` slots, their length bytes exact when fewer than 256 slots; its TCP and
UDP lists cover no port 0; its inbound and outbound ICMP ports are ICMP ports; and the inbound and outbound lists are
empty when the ICMP list is. Conversely, when the normalised ICMP list is not empty and misses a port of the
normalised inbound or outbound list, it returns an error. -/
theorem tryFrom_guarantees (maxPortRanges : ℕ) :
    (∀ (external : ConfigExternal) (defaults : ConfigDefaults) (e : External),
      External.tryFrom maxPortRanges external defaults = .ok e →
        (∀ r ∈ [e.tcpRanges, e.udpRanges, e.icmpRanges, e.icmpInRanges, e.icmpOutRanges],
          sortAndMergeRanges r.ranges = r.ranges ∧ r.ranges.length ≤ maxPortRanges ∧
            (maxPortRanges < 256 → (ExternalRanges.applyRaw r maxPortRanges).2 = r.ranges.length)) ∧
        (∀ r ∈ e.tcpRanges.ranges ++ e.udpRanges.ranges, ¬ r.Contains 0) ∧
        (∀ p, Covers e.icmpInRanges.ranges p → Covers e.icmpRanges.ranges p) ∧
        (∀ p, Covers e.icmpOutRanges.ranges p → Covers e.icmpRanges.ranges p) ∧
        (e.icmpRanges.ranges = [] → e.icmpInRanges.ranges = [] ∧ e.icmpOutRanges.ranges = [])) ∧
    ∀ (external : ConfigExternal) (defaults : ConfigDefaults),
      let normalized (ranges : List ProtoRange) := sortAndMergeRanges (ranges.map (·.inner))
      let icmp := normalized (external.icmpRanges.getD defaults.icmpRanges)
      icmp ≠ [] →
        (¬ (∀ p, Covers (normalized (external.icmpInRanges.getD defaults.icmpInRanges)) p → Covers icmp p) ∨
          ¬ (∀ p, Covers (normalized (external.icmpOutRanges.getD defaults.icmpOutRanges)) p → Covers icmp p)) →
        ∃ err, External.tryFrom maxPortRanges external defaults = .error err := by
  have covers {a b : ExternalRanges} (h : a.contains b = true) : ∀ p, Covers b.ranges p → Covers a.ranges p :=
    (forRanges_sortAndMergeRanges_eq_nil_iff _ _).1 ((contains_eq_true_iff_forRanges _ _).1 h)
  refine ⟨fun external defaults e h => ?_, ?_⟩
  · have hb := built_of_tryFrom h
    refine ⟨?_, ?_, covers hb.containsIn, covers hb.containsOut, fun hnil => ?_⟩
    · simp only [List.mem_cons, List.not_mem_nil, or_false]
      rintro r (rfl | rfl | rfl | rfl | rfl)
      exacts [normal_of_tryFrom hb.tcp, normal_of_tryFrom hb.udp, normal_of_tryFrom hb.icmp,
        normal_of_tryFrom_if hb.icmpIn, normal_of_tryFrom_if hb.icmpOut]
    · simp only [List.mem_append]
      rintro r (hr | hr)
      exacts [not_contains_zero_of_tryFrom hb.tcp r hr, not_contains_zero_of_tryFrom hb.udp r hr]
    · have hin := hb.icmpIn
      have hout := hb.icmpOut
      simp only [hnil, List.isEmpty_nil, if_true, pure, Except.pure, Except.ok.injEq] at hin hout
      exact ⟨by rw [← hin], by rw [← hout]⟩
  · intro external defaults normalized icmp hicmp hmiss
    cases h : External.tryFrom maxPortRanges external defaults with
    | error err => exact ⟨err, rfl⟩
    | ok e =>
      have hb := built_of_tryFrom h
      have he : e.icmpRanges.ranges = icmp := (ranges_of_tryFrom hb.icmp).1
      have hne : e.icmpRanges.ranges.isEmpty = false := by simpa [he] using hicmp
      have hin := hb.icmpIn
      have hout := hb.icmpOut
      rw [hne, if_neg Bool.false_ne_true] at hin hout
      have hcin := covers hb.containsIn
      have hcout := covers hb.containsOut
      rw [he, (ranges_of_tryFrom hin).1] at hcin
      rw [he, (ranges_of_tryFrom hout).1] at hcout
      exact (hmiss.elim (· hcin) (· hcout)).elim

end Einat.Policy
