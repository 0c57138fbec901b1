/-
Addresses and prefixes, as the runtime configuration builder uses them.

`IpAddr` and `IpNet` follow `std::net` and `ipnet`; a network `contains` an address of its own family that agrees
with it on the first `prefix_len` bits. `IpNetwork` is the trait of `crate::utils` (utils.rs is not among the sources)
that `RuntimeConfig` asks of its `Prefix` type: the host prefix of an address, the prefix of an `IpAddr` of the
family, the address of a prefix, and the unspecified prefix. Its order is the iteration order of `prefix_trie`
maps and sets, a linear order on prefixes: lexicographic on (address, prefix length), which for host prefixes is
the order of the addresses. `Ipv4Net` and `Ipv6Net` are its two instances.

`InetAddr` is the data plane's 16-byte address of the binding and connection-tracking maps (generated skeleton code,
not among the sources); an IPv4 address fills its first four bytes.
-/
import Mathlib.Algebra.Group.Nat.Basic
import Mathlib.Order.Basic
import Mathlib.Data.Prod.Lex

namespace Einat.Network

/-! ## Addresses and networks -/

/-- `std::net::IpAddr`, the address as a number -/
inductive IpAddr where
  | v4 (addr : Fin (2 ^ 32))
  | v6 (addr : Fin (2 ^ 128))
deriving DecidableEq

/-- `IpAddr::is_ipv4` -/
def IpAddr.isIpv4 : IpAddr → Bool
  | .v4 _ => true
  | .v6 _ => false

/-- `ipnet::Ipv4Net` -/
structure Ipv4Net where
  addr : Fin (2 ^ 32)
  prefixLen : ℕ
  prefixLen_le : prefixLen ≤ 32
deriving DecidableEq

/-- `ipnet::Ipv6Net` -/
structure Ipv6Net where
  addr : Fin (2 ^ 128)
  prefixLen : ℕ
  prefixLen_le : prefixLen ≤ 128
deriving DecidableEq

/-- `ipnet::IpNet` -/
inductive IpNet where
  | v4 (net : Ipv4Net)
  | v6 (net : Ipv6Net)
deriving DecidableEq

/-- `Ipv4Net::contains`: the first `prefix_len` bits agree -/
def Ipv4Net.contains (net : Ipv4Net) (a : Fin (2 ^ 32)) : Bool :=
  a.val / 2 ^ (32 - net.prefixLen) == net.addr.val / 2 ^ (32 - net.prefixLen)

/-- `Ipv6Net::contains` -/
def Ipv6Net.contains (net : Ipv6Net) (a : Fin (2 ^ 128)) : Bool :=
  a.val / 2 ^ (128 - net.prefixLen) == net.addr.val / 2 ^ (128 - net.prefixLen)

/-- `IpNet::contains(&IpAddr)`: never across families -/
def IpNet.contains : IpNet → IpAddr → Bool
  | .v4 net, .v4 a => net.contains a
  | .v6 net, .v6 a => net.contains a
  | _, _ => false

/-- `skel::InetAddr`, the 16 address bytes of the binding and CT maps, read as one number -/
structure InetAddr where
  bytes : Fin (2 ^ 128)
deriving DecidableEq

/-- `InetAddr::from(IpAddr)` (generated skeleton code): an IPv4 address fills the first four bytes, zeros after -/
def IpAddr.toInetAddr : IpAddr → InetAddr
  | .v4 a => ⟨⟨a.val * 2 ^ 96, by have := a.isLt; omega⟩⟩
  | .v6 a => ⟨a⟩

/-! ## The address family of a runtime configuration -/

/-- what `RuntimeConfig` asks of its `Prefix` type (`IpNetwork` of `crate::utils`); the order is the iteration
order of `PrefixMap` and `PrefixSet` -/
class IpNetwork (P : Type) extends LinearOrder P where
  /-- the family's address type, `Ipv4Addr` or `Ipv6Addr` -/
  Addr : Type
  /-- `Ipv4Net::from_addr`: the host prefix of an address -/
  fromAddr : Addr → P
  /-- `from_ip_addr`: the host prefix of an `IpAddr` of this family -/
  fromIpAddr : IpAddr → Option P
  /-- `ip_addr`: the address of a prefix -/
  ipAddr : P → IpAddr
  isUnspecified : P → Bool
  unspecified : P
  isUnspecified_unspecified : isUnspecified unspecified = true

/-- the order of a `prefix_trie` over IPv4 prefixes -/
instance : LinearOrder Ipv4Net :=
  LinearOrder.lift' (fun n => toLex (n.addr.val, n.prefixLen)) fun a b h => by
    cases a; cases b; simp only [toLex_inj, Prod.mk.injEq] at h; simp [Fin.ext_iff, h.1, h.2]

/-- the order of a `prefix_trie` over IPv6 prefixes -/
instance : LinearOrder Ipv6Net :=
  LinearOrder.lift' (fun n => toLex (n.addr.val, n.prefixLen)) fun a b h => by
    cases a; cases b; simp only [toLex_inj, Prod.mk.injEq] at h; simp [Fin.ext_iff, h.1, h.2]

instance : IpNetwork Ipv4Net where
  Addr := Fin (2 ^ 32)
  fromAddr a := ⟨a, 32, le_rfl⟩
  fromIpAddr
    | .v4 a => some ⟨a, 32, le_rfl⟩
    | .v6 _ => none
  ipAddr n := .v4 n.addr
  isUnspecified n := n.addr.val == 0
  unspecified := ⟨0, 32, le_rfl⟩
  isUnspecified_unspecified := rfl

instance : IpNetwork Ipv6Net where
  Addr := Fin (2 ^ 128)
  fromAddr a := ⟨a, 128, le_rfl⟩
  fromIpAddr
    | .v4 _ => none
    | .v6 a => some ⟨a, 128, le_rfl⟩
  ipAddr n := .v6 n.addr
  isUnspecified n := n.addr.val == 0
  unspecified := ⟨0, 128, le_rfl⟩
  isUnspecified_unspecified := rfl

end Einat.Network
