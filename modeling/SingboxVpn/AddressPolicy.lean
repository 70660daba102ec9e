import SingboxVpn.Deployment
import SingboxVpn.Server.Blocks

/-!
# Which addresses may be dialled

Three classifiers decide about addresses: the guard of the agent's prober
(`apps/provisioning-agent/src/ssrf_guard.rs`), the check of declared relay destinations
(`crates/compat-config/src/deployment.rs`) and the check of resolvers and handshake servers
(`crates/compat-config/src/static_revision.rs`).  The ranges that no tunnel user may reach
(`C16_DENY_IPV4_CIDRS`, `C16_DENY_IPV6_CIDRS`) are written as CIDR texts.

* `guard_v4`, `relay_v4`, `isPublic_v4`, `guard_v6`, `relay_v6`, `isPublic_v6` — what each refuses.
* `c16Denied_v4`, `c16Denied_v6` — the ranges in the same terms.
-/

namespace SingboxVpn

/-! ### Library predicates on addresses -/

namespace Net

def octet (a : BitVec 32) (i : Nat) : Nat := (IpAddr.octets a).getD i 0

def segment (a : BitVec 128) (i : Nat) : Nat := (IpAddr.groupsOf a).getD i 0

def isLoopback (a : BitVec 32) : Bool := octet a 0 = 127

def isUnspecified (a : BitVec 32) : Bool := IpAddr.octets a = [0, 0, 0, 0]

def isBroadcast (a : BitVec 32) : Bool := IpAddr.octets a = [255, 255, 255, 255]

def isPrivate (a : BitVec 32) : Bool :=
  octet a 0 = 10 ∨ (octet a 0 = 172 ∧ 16 ≤ octet a 1 ∧ octet a 1 ≤ 31) ∨
    (octet a 0 = 192 ∧ octet a 1 = 168)

def isLinkLocal (a : BitVec 32) : Bool := octet a 0 = 169 ∧ octet a 1 = 254

def isMulticast (a : BitVec 32) : Bool := 224 ≤ octet a 0 ∧ octet a 0 ≤ 239

def isDocumentation (a : BitVec 32) : Bool :=
  (octet a 0 = 192 ∧ octet a 1 = 0 ∧ octet a 2 = 2) ∨
    (octet a 0 = 198 ∧ octet a 1 = 51 ∧ octet a 2 = 100) ∨
    (octet a 0 = 203 ∧ octet a 1 = 0 ∧ octet a 2 = 113)

def isLoopback6 (a : BitVec 128) : Bool := a = 1#128

def isUnspecified6 (a : BitVec 128) : Bool := a = 0#128

def isMulticast6 (a : BitVec 128) : Bool := segment a 0 &&& 0xff00 = 0xff00

/-- The address that an IPv4-mapped address (`::ffff:a.b.c.d`) embeds. -/
def toIpv4Mapped (a : BitVec 128) : Option (BitVec 32) :=
  if IpAddr.isMapped (IpAddr.groupsOf a) then some (BitVec.ofNat 32 a.toNat) else none

end Net

open Net

/-! ### The guard of the prober -/

namespace SsrfGuard

/-- Why a destination is refused. -/
inductive DenyReason where
  | loopback
  | linkLocal
  | privateUseIpv4
  | carrierGradeNat
  | uniqueLocalIpv6
  | multicast
  | unspecified
  | broadcast
  | documentation
  | benchmarking
  | metadataService
  | ipv4MappedDenied
  | reserved
deriving DecidableEq, Repr

/-- The name of a reason in logs and reports. -/
def DenyReason.asStr : DenyReason → String
  | .loopback => "loopback"
  | .linkLocal => "link_local"
  | .privateUseIpv4 => "private_use_ipv4"
  | .carrierGradeNat => "carrier_grade_nat"
  | .uniqueLocalIpv6 => "unique_local_ipv6"
  | .multicast => "multicast"
  | .unspecified => "unspecified"
  | .broadcast => "broadcast"
  | .documentation => "documentation"
  | .benchmarking => "benchmarking"
  | .metadataService => "metadata_service"
  | .ipv4MappedDenied => "ipv4_mapped_denied"
  | .reserved => "reserved"

/-- The metadata address of cloud providers. -/
def METADATA_V4 : BitVec 32 := 0xa9fea9fe#32

/-- The first reason against an IPv4 address. -/
def classifyV4 (a : BitVec 32) : Option DenyReason :=
  if a = METADATA_V4 then some .metadataService
  else if isLoopback a then some .loopback
  else if isUnspecified a then some .unspecified
  else if isBroadcast a then some .broadcast
  else if isPrivate a then some .privateUseIpv4
  else if isLinkLocal a then some .linkLocal
  else if isMulticast a then some .multicast
  else if isDocumentation a then some .documentation
  else if octet a 0 = 100 ∧ 64 ≤ octet a 1 ∧ octet a 1 ≤ 127 then some .carrierGradeNat
  else if octet a 0 = 198 ∧ (octet a 1 = 18 ∨ octet a 1 = 19) then some .benchmarking
  else if octet a 0 = 0 then some .reserved
  else none

/-- The first reason against an IPv6 address. -/
def classifyV6 (a : BitVec 128) : Option DenyReason :=
  if isLoopback6 a then some .loopback
  else if isUnspecified6 a then some .unspecified
  else if isMulticast6 a then some .multicast
  else if segment a 0 &&& 0xffc0 = 0xfe80 then some .linkLocal
  else if segment a 0 &&& 0xfe00 = 0xfc00 then some .uniqueLocalIpv6
  else if segment a 0 = 0x2001 ∧ segment a 1 = 0x0db8 then some .documentation
  else none

/-- Why an address must not be dialled by a probe, if it must not. -/
def classifyDenied : IpAddr → Option DenyReason
  | .v4 a => classifyV4 a
  | .v6 a =>
    match toIpv4Mapped a with
    | some mapped => (classifyV4 mapped).map fun _ => .ipv4MappedDenied
    | none => classifyV6 a

/-- A destination with the addresses that were judged. -/
structure ResolvedTarget where
  ip : IpAddr
  port : Nat
deriving DecidableEq, Repr

/-- Resolve a destination once and judge every address it has. -/
def resolveAndValidate (toSocketAddrs : String → Nat → Except String (List IpAddr)) (host : String)
    (port : Nat) : Except String ResolvedTarget :=
  if host.isEmpty then .error "empty host"
  else
    match IpAddr.parse host with
    | some ip =>
      match classifyDenied ip with
      | some reason => .error ("denied destination (" ++ reason.asStr ++ ")")
      | none => .ok ⟨ip, port⟩
    | none => do
      let addrs ← (toSocketAddrs host port).mapError ("resolution failed: " ++ ·)
      match addrs with
      | [] => .error "no addresses resolved"
      | first :: _ => do
        Check.each
          (fun addr => Check.onSome
            (fun reason => .error ("denied destination (hostname resolved to " ++ addr.text ++
              ": " ++ reason.asStr ++ ")"))
            (classifyDenied addr))
          addrs
        .ok ⟨first, port⟩

theorem resolveAndValidate_ok {toSocketAddrs : String → Nat → Except String (List IpAddr)}
    {host : String} {port : Nat} {t : ResolvedTarget}
    (h : resolveAndValidate toSocketAddrs host port = .ok t) :
    t.port = port ∧ classifyDenied t.ip = none ∧
      (IpAddr.parse host = some t.ip ∨
        ∃ addrs, toSocketAddrs host port = .ok addrs ∧ t.ip ∈ addrs ∧
          ∀ addr ∈ addrs, classifyDenied addr = none) := by
  unfold resolveAndValidate at h
  split at h
  · cases h
  split at h
  · next ip hparse =>
    split at h
    · cases h
    · next hnone =>
      cases h
      exact ⟨rfl, hnone, .inl hparse⟩
  · obtain ⟨addrs, haddrs, h⟩ := Check.bind_eq_ok.mp h
    split at h
    · cases h
    · next first rest =>
      simp only [Check.bind_ok, Check.each_ok, Check.onSome_ok, reduceCtorEq, imp_false,
        Except.ok.injEq] at h
      obtain ⟨hall, rfl⟩ := h
      have hnone : ∀ addr ∈ first :: rest, classifyDenied addr = none := fun addr haddr =>
        Option.eq_none_iff_forall_ne_some.mpr fun r hr => hall addr haddr r hr
      exact ⟨rfl, hnone first (by simp), .inr ⟨_, Check.mapError_eq_ok.mp haddrs, by simp, hnone⟩⟩

end SsrfGuard

/-! ### Resolvers and handshake servers -/

def isPublicV4 (a : BitVec 32) : Bool :=
  !(isLoopback a || isPrivate a || isLinkLocal a || isUnspecified a || isBroadcast a ||
    isMulticast a || isDocumentation a || octet a 0 = 0 ||
    (octet a 0 = 100 ∧ 64 ≤ octet a 1 ∧ octet a 1 ≤ 127) ||
    (octet a 0 = 198 ∧ (octet a 1 = 18 ∨ octet a 1 = 19)) || 240 ≤ octet a 0)

/-- Whether a resolver's answer is a public address. -/
def isPublicResolverAddress : IpAddr → Bool
  | .v4 a => isPublicV4 a
  | .v6 a =>
    match toIpv4Mapped a with
    | some mapped => isPublicV4 mapped
    | none =>
      !(isLoopback6 a || isUnspecified6 a || isMulticast6 a ||
        segment a 0 &&& 0xfe00 = 0xfc00 || segment a 0 &&& 0xffc0 = 0xfe80 ||
        (segment a 0 = 0x2001 ∧ segment a 1 = 0x0db8))

/-- Every address of the handshake server's name is public. -/
def validateHandshakeServerAddresses (host : String) (answers : List IpAddr) :
    Except CompatError Unit := do
  Check.refuseIf answers.isEmpty
    (.configValidationFailed ("static revision rejected: reality.handshake_server " ++
      Text.debug host ++ " resolved to no addresses"))
  Check.onSome
    (fun ip => .error (.configValidationFailed ("static revision rejected: " ++
      "reality.handshake_server " ++ Text.debug host ++ " resolved to forbidden address " ++
      ip.text)))
    (answers.find? fun address => !isPublicResolverAddress address)

theorem validateHandshakeServerAddresses_ok {host : String} {answers : List IpAddr} :
    validateHandshakeServerAddresses host answers = .ok () ↔
      answers ≠ [] ∧ ∀ a ∈ answers, isPublicResolverAddress a = true := by
  simp only [validateHandshakeServerAddresses, Check.bind_ok, Check.refuseIf_ok,
    Check.onSome_ok, reduceCtorEq, imp_false, List.isEmpty_eq_false_iff]
  refine and_congr_right fun _ => ?_
  rw [← Option.eq_none_iff_forall_not_mem, List.find?_eq_none]
  simp

/-! ### Ranges as arithmetic -/

theorem and_shiftLeft (x mask k : Nat) : x &&& mask <<< k = ((x >>> k) &&& mask) <<< k := by
  refine Nat.eq_of_testBit_eq fun i => ?_
  simp only [Nat.testBit_and, Nat.testBit_shiftLeft, Nat.testBit_shiftRight]
  by_cases hi : k ≤ i
  · simp [hi]
  · simp [hi]

theorem leading_bits {x v k w : Nat} (hx : x < 2 ^ (k + w)) :
    x &&& (2 ^ w - 1) <<< k = v <<< k ↔ x / 2 ^ k = v := by
  have hlt : x / 2 ^ k < 2 ^ w := Nat.div_lt_of_lt_mul (by rwa [← pow_add])
  rw [and_shiftLeft, Nat.and_two_pow_sub_one_eq_mod, Nat.shiftRight_eq_div_pow,
    Nat.mod_eq_of_lt hlt, Nat.shiftLeft_eq, Nat.shiftLeft_eq, Nat.mul_left_inj (by positivity)]

theorem segment_lt (a : BitVec 128) : segment a 0 < 2 ^ 16 := by
  have hlt := a.isLt
  simp only [Net.segment, IpAddr.groupsOf, List.getD_cons_zero]
  omega

theorem anyTextContains (texts : List String) (a : IpAddr) :
    texts.any (Cidr.textContains · a) = (texts.filterMap Cidr.parse).any (Cidr.contains · a) := by
  rw [List.any_filterMap]
  congr 1
  funext s
  unfold Cidr.textContains
  cases Cidr.parse s <;> rfl

@[simp] theorem contains_v4 (b a : BitVec 32) (k : Nat) :
    Cidr.contains ⟨.v4 b, k⟩ (.v4 a) = (b.toNat / 2 ^ (32 - k) == a.toNat / 2 ^ (32 - k)) := by
  simp [Cidr.contains, IpAddr.isV6, IpAddr.width, IpAddr.toNat]

@[simp] theorem contains_v6 (b a : BitVec 128) (k : Nat) :
    Cidr.contains ⟨.v6 b, k⟩ (.v6 a) = (b.toNat / 2 ^ (128 - k) == a.toNat / 2 ^ (128 - k)) := by
  simp [Cidr.contains, IpAddr.isV6, IpAddr.width, IpAddr.toNat]

@[simp] theorem contains_v6_v4 (b : BitVec 128) (a : BitVec 32) (k : Nat) :
    Cidr.contains ⟨.v6 b, k⟩ (.v4 a) = false := rfl

@[simp] theorem contains_v4_v6 (b : BitVec 32) (a : BitVec 128) (k : Nat) :
    Cidr.contains ⟨.v4 b, k⟩ (.v6 a) = false := rfl

theorem c16_ipv4_blocks : C16_DENY_IPV4_CIDRS.filterMap Cidr.parse =
    [⟨.v4 0x00000000#32, 8⟩, ⟨.v4 0x0a000000#32, 8⟩, ⟨.v4 0x64400000#32, 10⟩,
      ⟨.v4 0x7f000000#32, 8⟩, ⟨.v4 0xa9fe0000#32, 16⟩, ⟨.v4 0xac100000#32, 12⟩,
      ⟨.v4 0xc0000000#32, 24⟩, ⟨.v4 0xc0000200#32, 24⟩, ⟨.v4 0xc0a80000#32, 16⟩,
      ⟨.v4 0xc6120000#32, 15⟩, ⟨.v4 0xc6336400#32, 24⟩, ⟨.v4 0xcb007100#32, 24⟩,
      ⟨.v4 0xe0000000#32, 4⟩, ⟨.v4 0xf0000000#32, 4⟩] := by
  decide +kernel

theorem c16_ipv6_blocks : C16_DENY_IPV6_CIDRS.filterMap Cidr.parse =
    [⟨.v6 0#128, 128⟩, ⟨.v6 1#128, 128⟩, ⟨.v6 0xffff00000000#128, 96⟩,
      ⟨.v6 0x0064ff9b000000000000000000000000#128, 96⟩,
      ⟨.v6 0x01000000000000000000000000000000#128, 64⟩,
      ⟨.v6 0x20010db8000000000000000000000000#128, 32⟩,
      ⟨.v6 0xfc000000000000000000000000000000#128, 7⟩,
      ⟨.v6 0xfe800000000000000000000000000000#128, 10⟩,
      ⟨.v6 0xff000000000000000000000000000000#128, 8⟩,
      ⟨.v6 0xfd000ec2000000000000000000000254#128, 128⟩] := by
  decide +kernel

/-- The ranges that tunnel users may not reach and that a classifier misses. -/
def UNCOVERED_CIDRS : List String := ["192.0.0.0/24", "240.0.0.0/4", "64:ff9b::/96", "100::/64"]

def missed (a : IpAddr) : Bool := UNCOVERED_CIDRS.any (Cidr.textContains · a)

theorem uncovered_blocks : UNCOVERED_CIDRS.filterMap Cidr.parse =
    [⟨.v4 0xc0000000#32, 24⟩, ⟨.v4 0xf0000000#32, 4⟩,
      ⟨.v6 0x0064ff9b000000000000000000000000#128, 96⟩,
      ⟨.v6 0x01000000000000000000000000000000#128, 64⟩] := by
  decide +kernel

theorem isSome_ite_some {α : Type} {c : Prop} [Decidable c] {x : α} {r : Option α} :
    (if c then some x else r).isSome = true ↔ c ∨ r.isSome = true := by
  split
  · next hc => simp [hc]
  · next hc => simp [hc]

/-! ### IPv4 -/

structure HasOctets (a : BitVec 32) (o0 o1 o2 o3 : Nat) : Prop where
  octets : IpAddr.octets a = [o0, o1, o2, o3]
  bits : a.toNat = ((o0 * 256 + o1) * 256 + o2) * 256 + o3
  lt0 : o0 < 256
  lt1 : o1 < 256
  lt2 : o2 < 256
  lt3 : o3 < 256

theorem exists_octets (a : BitVec 32) : ∃ o0 o1 o2 o3, HasOctets a o0 o1 o2 o3 := by
  have hlt := a.isLt
  exact ⟨_, _, _, _, rfl, by omega, by omega, by omega, by omega, by omega⟩

def NamedOctets (o0 o1 o2 : Nat) : Prop :=
  o0 = 0 ∨ o0 = 10 ∨ (o0 = 100 ∧ 64 ≤ o1 ∧ o1 ≤ 127) ∨ o0 = 127 ∨ (o0 = 169 ∧ o1 = 254) ∨
    (o0 = 172 ∧ 16 ≤ o1 ∧ o1 ≤ 31) ∨ (o0 = 192 ∧ o1 = 0 ∧ o2 = 2) ∨ (o0 = 192 ∧ o1 = 168) ∨
    (o0 = 198 ∧ (o1 = 18 ∨ o1 = 19)) ∨ (o0 = 198 ∧ o1 = 51 ∧ o2 = 100) ∨
    (o0 = 203 ∧ o1 = 0 ∧ o2 = 113) ∨ (224 ≤ o0 ∧ o0 ≤ 239)

section V4

variable {a : BitVec 32} {o0 o1 o2 o3 : Nat}

theorem c16Denied_v4 (h : HasOctets a o0 o1 o2 o3) : c16Denied (.v4 a) = true ↔
    NamedOctets o0 o1 o2 ∨ (o0 = 192 ∧ o1 = 0 ∧ o2 = 0) ∨ 240 ≤ o0 := by
  obtain ⟨-, hbits, h0, h1, h2, h3⟩ := h
  have hblocks : c16Denied (.v4 a) = true ↔
      o0 = 0 ∨ o0 = 10 ∨ (o0 = 100 ∧ 64 ≤ o1 ∧ o1 ≤ 127) ∨ o0 = 127 ∨ (o0 = 169 ∧ o1 = 254) ∨
      (o0 = 172 ∧ 16 ≤ o1 ∧ o1 ≤ 31) ∨ (o0 = 192 ∧ o1 = 0 ∧ o2 = 0) ∨
      (o0 = 192 ∧ o1 = 0 ∧ o2 = 2) ∨ (o0 = 192 ∧ o1 = 168) ∨ (o0 = 198 ∧ (o1 = 18 ∨ o1 = 19)) ∨
      (o0 = 198 ∧ o1 = 51 ∧ o2 = 100) ∨ (o0 = 203 ∧ o1 = 0 ∧ o2 = 113) ∨
      (224 ≤ o0 ∧ o0 ≤ 239) ∨ 240 ≤ o0 := by
    simp only [c16Denied, anyTextContains, c16_ipv4_blocks, c16_ipv6_blocks, List.any_cons,
      List.any_nil, contains_v4, contains_v6_v4, Bool.or_false, Bool.or_eq_true, beq_iff_eq, hbits,
      BitVec.toNat_ofNat]
    -- the blocks in their order, each with its octets
    repeat' first | refine or_congr (by omega) ?_ | omega
  rw [hblocks]
  exact iff_of_eq (by unfold NamedOctets; ac_rfl)

theorem missed_v4 (h : HasOctets a o0 o1 o2 o3) :
    missed (.v4 a) = true ↔ (o0 = 192 ∧ o1 = 0 ∧ o2 = 0) ∨ 240 ≤ o0 := by
  obtain ⟨-, hbits, h0, h1, h2, h3⟩ := h
  simp only [missed, anyTextContains, uncovered_blocks, List.any_cons, List.any_nil, contains_v4,
    contains_v6_v4, Bool.or_false, Bool.or_eq_true, beq_iff_eq, hbits, BitVec.toNat_ofNat]
  exact or_congr (by omega) (by omega)

theorem NamedOctets.not_missed (h : NamedOctets o0 o1 o2) :
    ¬ ((o0 = 192 ∧ o1 = 0 ∧ o2 = 0) ∨ 240 ≤ o0) := by
  unfold NamedOctets at h
  omega

theorem broadcast_iff (h : HasOctets a o0 o1 o2 o3) :
    a = 0xffffffff#32 ↔ o0 = 255 ∧ o1 = 255 ∧ o2 = 255 ∧ o3 = 255 := by
  obtain ⟨-, hbits, h0, h1, h2, h3⟩ := h
  rw [← BitVec.toNat_inj, hbits, BitVec.toNat_ofNat]
  omega

theorem guard_v4 (h : HasOctets a o0 o1 o2 o3) : (SsrfGuard.classifyV4 a).isSome = true ↔
    NamedOctets o0 o1 o2 ∨ (o0 = 255 ∧ o1 = 255 ∧ o2 = 255 ∧ o3 = 255) := by
  have hmetadata : a = SsrfGuard.METADATA_V4 → o0 = 169 ∧ o1 = 254 := by
    rintro rfl
    obtain ⟨-, hbits, h0, h1, h2, h3⟩ := h
    have hnat : 0xa9fea9fe = ((o0 * 256 + o1) * 256 + o2) * 256 + o3 := hbits
    omega
  simp only [SsrfGuard.classifyV4, isSome_ite_some, isLoopback, isUnspecified, isBroadcast,
    isPrivate, isLinkLocal, isMulticast, isDocumentation, octet, h.octets, List.getD_cons_zero,
    List.getD_cons_succ, decide_eq_true_eq, List.cons.injEq, and_true, Option.isSome_none,
    Bool.false_eq_true, or_false]
  constructor
  · rintro (h | h | h | h | (h | h | h) | h | h | (h | h | h) | h | h | h)
    · simp [NamedOctets, hmetadata h]
    all_goals simp [NamedOctets, h]
  · rintro ((h | h | h | h | h | h | h | h | h | h | h | h) | h)
    all_goals simp [h]

theorem relay_v4 (h : HasOctets a o0 o1 o2 o3) : (classifyV4 a).isSome = true ↔
    NamedOctets o0 o1 o2 ∨ (o0 = 255 ∧ o1 = 255 ∧ o2 = 255 ∧ o3 = 255) := by
  simp only [classifyV4, isSome_ite_some, h.octets, List.getD_cons_zero, List.getD_cons_succ,
    List.cons.injEq, and_true, Option.isSome_none, Bool.false_eq_true, or_false]
  constructor
  · rintro (h | h | h | h | (h | h | h) | h | h | (h | h | h) | h | h | h)
    all_goals simp [NamedOctets, h]
  · rintro ((h | h | h | h | h | h | h | h | h | h | h | h) | h)
    all_goals simp [h]

theorem isPublic_v4 (h : HasOctets a o0 o1 o2 o3) :
    isPublicV4 a = false ↔ NamedOctets o0 o1 o2 ∨ 240 ≤ o0 := by
  simp only [isPublicV4, isLoopback, isUnspecified, isBroadcast, isPrivate, isLinkLocal,
    isMulticast, isDocumentation, octet, h.octets, List.getD_cons_zero, List.getD_cons_succ,
    Bool.not_eq_false', Bool.or_eq_true, decide_eq_true_eq, List.cons.injEq, and_true, or_assoc]
  constructor
  · rintro (h | h | h | h | h | h | h | h | h | h | h | h | h | h | h)
    all_goals simp [NamedOctets, h]
  · rintro ((h | h | h | h | h | h | h | h | h | h | h | h) | h)
    all_goals simp [h]

end V4

/-! ### IPv6 -/

/-- The ranges of IPv6 that all classifiers name, of an address as a number. -/
def NamedBits (n : Nat) : Prop :=
  n = 0 ∨ n = 1 ∨ n / 2 ^ 120 = 0xff ∨ n / 2 ^ 118 = 0x3fa ∨ n / 2 ^ 121 = 0x7e ∨
    n / 2 ^ 96 = 0x20010db8

theorem mapped_iff (a : BitVec 128) :
    IpAddr.isMapped (IpAddr.groupsOf a) = true ↔ a.toNat / 2 ^ 32 = 0xffff := by
  have hlt := a.isLt
  simp only [IpAddr.isMapped, IpAddr.groupsOf, List.take_succ_cons, List.take_zero,
    decide_eq_true_eq, List.cons.injEq, and_true]
  omega

theorem NamedBits.not_mapped {n : Nat} (h : NamedBits n) : n / 2 ^ 32 ≠ 0xffff := by
  unfold NamedBits at h
  omega

theorem missed_v6 (a : BitVec 128) : missed (.v6 a) = true ↔
    a.toNat / 2 ^ 32 = 0x0064ff9b0000000000000000 ∨ a.toNat / 2 ^ 64 = 0x0100000000000000 := by
  simp only [missed, anyTextContains, uncovered_blocks, List.any_cons, List.any_nil, contains_v6,
    contains_v4_v6, Bool.or_false, Bool.false_or, Bool.or_eq_true, beq_iff_eq, BitVec.toNat_ofNat]
  exact or_congr (by omega) (by omega)

theorem c16Denied_v6 (a : BitVec 128) : c16Denied (.v6 a) = true ↔
    NamedBits a.toNat ∨ a.toNat / 2 ^ 32 = 0xffff ∨ missed (.v6 a) = true := by
  have hblocks : c16Denied (.v6 a) = true ↔
      a.toNat = 0 ∨ a.toNat = 1 ∨ a.toNat / 2 ^ 32 = 0xffff ∨
      a.toNat / 2 ^ 32 = 0x0064ff9b0000000000000000 ∨ a.toNat / 2 ^ 64 = 0x0100000000000000 ∨
      a.toNat / 2 ^ 96 = 0x20010db8 ∨ a.toNat / 2 ^ 121 = 0x7e ∨ a.toNat / 2 ^ 118 = 0x3fa ∨
      a.toNat / 2 ^ 120 = 0xff ∨ a.toNat = 0xfd000ec2000000000000000000000254 := by
    simp only [c16Denied, anyTextContains, c16_ipv4_blocks, c16_ipv6_blocks, List.any_cons,
      List.any_nil, contains_v6, contains_v4_v6, Bool.or_false, Bool.false_or, Bool.or_eq_true,
      beq_iff_eq, BitVec.toNat_ofNat]
    repeat' first | refine or_congr (by omega) ?_ | omega
  rw [hblocks, missed_v6]
  unfold NamedBits
  have hmetadata : a.toNat = 0xfd000ec2000000000000000000000254 → a.toNat / 2 ^ 121 = 0x7e := by
    omega
  constructor
  · rintro (h | h | h | h | h | h | h | h | h | h)
    rotate_right
    · simp only [hmetadata h, true_or, or_true]
    all_goals simp only [h, true_or, or_true]
  · rintro ((h | h | h | h | h | h) | h | h | h)
    all_goals simp only [h, true_or, or_true]

variable {a : BitVec 128} {mapped : BitVec 32}

theorem NamedBits.not_missed (h : NamedBits a.toNat) : missed (.v6 a) = false := by
  rw [← Bool.not_eq_true, missed_v6]
  unfold NamedBits at h
  omega

theorem namedSegments_iff (a : BitVec 128) : NamedBits a.toNat ↔
    a = 0#128 ∨ a = 1#128 ∨ segment a 0 / 256 = 0xff ∨ segment a 0 / 64 = 0x3fa ∨
      segment a 0 / 512 = 0x7e ∨ (segment a 0 = 0x2001 ∧ segment a 1 = 0x0db8) := by
  have hlt := a.isLt
  simp only [NamedBits, Net.segment, IpAddr.groupsOf, List.getD_cons_zero, List.getD_cons_succ,
    ← BitVec.toNat_inj, BitVec.toNat_ofNat]
  refine or_congr (by omega) (or_congr (by omega) (or_congr (by omega) (or_congr (by omega)
    (or_congr (by omega) (by omega)))))

theorem masks_iff (a : BitVec 128) :
    (segment a 0 &&& 0xff00 = 0xff00 ↔ segment a 0 / 256 = 0xff) ∧
      (segment a 0 &&& 0xffc0 = 0xfe80 ↔ segment a 0 / 64 = 0x3fa) ∧
      (segment a 0 &&& 0xfe00 = 0xfc00 ↔ segment a 0 / 512 = 0x7e) :=
  ⟨leading_bits (v := 0xff) (k := 8) (w := 8) (segment_lt a),
    leading_bits (v := 0x3fa) (k := 6) (w := 10) (segment_lt a),
    leading_bits (v := 0x7e) (k := 9) (w := 7) (segment_lt a)⟩

theorem guard_v6 (a : BitVec 128) :
    (SsrfGuard.classifyV6 a).isSome = true ↔ NamedBits a.toNat := by
  obtain ⟨hmulticast, hlink, hlocal⟩ := masks_iff a
  simp only [SsrfGuard.classifyV6, isSome_ite_some, isLoopback6, isUnspecified6, isMulticast6,
    decide_eq_true_eq, hmulticast, hlink, hlocal, Option.isSome_none, Bool.false_eq_true, or_false,
    namedSegments_iff]
  exact or_left_comm

theorem relay_v6 (a : BitVec 128) : (classifyV6 a).isSome = true ↔ NamedBits a.toNat := by
  simp only [classifyV6, isSome_ite_some, Option.isSome_none, Bool.false_eq_true, or_false,
    namedSegments_iff, ← BitVec.toNat_inj]
  rfl

theorem isPublic_v6 (h : toIpv4Mapped a = none) :
    isPublicResolverAddress (.v6 a) = false ↔ NamedBits a.toNat := by
  obtain ⟨hmulticast, hlink, hlocal⟩ := masks_iff a
  simp only [isPublicResolverAddress, h, isLoopback6, isUnspecified6, isMulticast6,
    Bool.not_eq_false', Bool.or_eq_true, decide_eq_true_eq, hmulticast, hlink, hlocal, or_assoc,
    namedSegments_iff]
  exact iff_of_eq (by ac_rfl)

/-! ### The policies compared -/

def judged : IpAddr → IpAddr
  | .v4 a => .v4 a
  | .v6 a => (toIpv4Mapped a).elim (.v6 a) .v4

def RefusedByAll (a : IpAddr) : Prop :=
  (SsrfGuard.classifyDenied a).isSome = true ∧ (classifyRelayTargetDenied a).isSome = true ∧
    isPublicResolverAddress a = false

/-- The two classifiers deny the address or neither does, and if it lies in a range that tunnel
    users may not reach, then it is refused everywhere. -/
def PoliciesAgree (a : IpAddr) : Prop :=
  (SsrfGuard.classifyDenied a).isSome = (classifyRelayTargetDenied a).isSome ∧
    (c16Denied (judged a) = true → RefusedByAll a)

theorem isMapped_of_some (h : toIpv4Mapped a = some mapped) :
    IpAddr.isMapped (IpAddr.groupsOf a) = true ∧ mapped = BitVec.ofNat 32 a.toNat := by
  unfold toIpv4Mapped at h
  split at h
  · next hmapped => exact ⟨hmapped, (Option.some.inj h).symm⟩
  · cases h

/-- A mapped address is in none of the ranges of IPv6 that the classifiers name, so that it does not
    matter whether they are asked, too. -/
theorem relay_mapped (h : toIpv4Mapped a = some mapped) :
    classifyRelayTargetDenied (.v6 a) = classifyV4 mapped := by
  obtain ⟨hmapped, rfl⟩ := isMapped_of_some h
  have hnone : classifyV6 a = none := by
    rw [← Option.not_isSome_iff_eq_none, relay_v6]
    exact fun hnamed => hnamed.not_mapped ((mapped_iff a).mp hmapped)
  rw [classifyRelayTargetDenied, if_pos hmapped, hnone, Option.or_none]

theorem relay_unmapped (h : toIpv4Mapped a = none) :
    classifyRelayTargetDenied (.v6 a) = classifyV6 a := by
  have hmapped : IpAddr.isMapped (IpAddr.groupsOf a) = false := by simpa [toIpv4Mapped] using h
  rw [classifyRelayTargetDenied, hmapped]
  rfl

theorem policies_v4 (a : BitVec 32) :
    PoliciesAgree (.v4 a) ↔ ¬ (missed (.v4 a) = true ∧ a ≠ 0xffffffff#32) := by
  obtain ⟨o0, o1, o2, o3, hoctets⟩ := exists_octets a
  have hagree : (SsrfGuard.classifyV4 a).isSome = (classifyV4 a).isSome :=
    Bool.eq_iff_iff.mpr ((guard_v4 hoctets).trans (relay_v4 hoctets).symm)
  have hc16 := c16Denied_v4 hoctets
  have hmissed := missed_v4 hoctets
  have hbroadcast := broadcast_iff hoctets
  have hrefused : RefusedByAll (.v4 a) ↔ NamedOctets o0 o1 o2 ∨ a = 0xffffffff#32 := by
    constructor
    · rintro ⟨hguard, -, -⟩
      exact ((guard_v4 hoctets).mp hguard).imp_right hbroadcast.mpr
    · intro h
      have hdenied := h.imp_right hbroadcast.mp
      exact ⟨(guard_v4 hoctets).mpr hdenied, (relay_v4 hoctets).mpr hdenied,
        (isPublic_v4 hoctets).mpr (hdenied.imp_right fun hall => by omega)⟩
  constructor
  · rintro ⟨-, hall⟩ ⟨hm, hne⟩
    have hrange := hmissed.mp hm
    rcases hrefused.mp (hall (hc16.mpr (.inr hrange))) with hnamed | heq
    · exact hnamed.not_missed hrange
    · exact hne heq
  · intro hcovered
    refine ⟨hagree, fun hdenied => hrefused.mpr ?_⟩
    rcases hc16.mp hdenied with hnamed | hrange
    · exact .inl hnamed
    · exact .inr (by_contra fun hne => hcovered ⟨hmissed.mpr hrange, hne⟩)

theorem policies_mapped (h : toIpv4Mapped a = some mapped) :
    PoliciesAgree (.v6 a) ↔ PoliciesAgree (.v4 mapped) := by
  have hrelay : classifyRelayTargetDenied (.v6 a) = classifyRelayTargetDenied (.v4 mapped) :=
    relay_mapped h
  simp only [PoliciesAgree, RefusedByAll, hrelay, SsrfGuard.classifyDenied, judged, h,
    Option.isSome_map, isPublicResolverAddress, Option.elim_some]

theorem policies_unmapped (h : toIpv4Mapped a = none) :
    PoliciesAgree (.v6 a) ↔ ¬ missed (.v6 a) = true := by
  have hguard : SsrfGuard.classifyDenied (.v6 a) = SsrfGuard.classifyV6 a := by
    simp only [SsrfGuard.classifyDenied, h]
  have hjudged : judged (.v6 a) = .v6 a := by
    simp only [judged, h, Option.elim_none]
  have hunmapped : a.toNat / 2 ^ 32 ≠ 0xffff := by
    rw [Ne, ← mapped_iff]
    simpa [toIpv4Mapped] using h
  have hrefused : RefusedByAll (.v6 a) ↔ NamedBits a.toNat := by
    rw [RefusedByAll, hguard, relay_unmapped h, guard_v6, relay_v6, isPublic_v6 h, and_self, and_self]
  have hc16 := c16Denied_v6 a
  rw [PoliciesAgree, hguard, relay_unmapped h, hjudged, hrefused]
  constructor
  · rintro ⟨-, hall⟩ hmissed
    have hnot := (hall (hc16.mpr (.inr (.inr hmissed)))).not_missed
    rw [hmissed] at hnot
    cases hnot
  · intro hcovered
    refine ⟨Bool.eq_iff_iff.mpr ((guard_v6 a).trans (relay_v6 a).symm), fun hdenied => ?_⟩
    rcases hc16.mp hdenied with hnamed | hmapped | hmissed
    · exact hnamed
    · exact absurd hmapped hunmapped
    · exact absurd hmissed hcovered

/-- The address is judged by one in a range that a classifier misses, and is not the broadcast
    address. -/
def Uncovered (a : IpAddr) : Prop := missed (judged a) = true ∧ judged a ≠ .v4 0xffffffff#32

/-- **The address policies.**  The two classifiers always agree.  Of the ranges that tunnel users may
    not reach they all refuse every address, except in the four blocks that none or only the third
    of them knows. -/
theorem address_policies (a : IpAddr) : PoliciesAgree a ↔ ¬ Uncovered a := by
  cases a with
  | v4 a => simpa [Uncovered, judged] using policies_v4 a
  | v6 a =>
    cases h : toIpv4Mapped a with
    | some mapped => simpa [Uncovered, judged, h, policies_mapped h] using policies_v4 mapped
    | none => simpa [Uncovered, judged, h] using policies_unmapped h

/-- One address of each of the four blocks: denied to tunnel users, passed by both classifiers, and
    public for a resolver except the second. -/
theorem address_policies_fail :
    ([.v4 0xc0000001#32, .v4 0xf0000001#32, .v6 0x0064ff9b00000000000000000a000001#128,
        .v6 0x01000000000000000000000000000001#128] : List IpAddr).map (fun a =>
      (c16Denied (judged a), SsrfGuard.classifyDenied a, classifyRelayTargetDenied a,
        isPublicResolverAddress a)) =
    [(true, none, none, true), (true, none, none, false), (true, none, none, true),
      (true, none, none, true)] := by
  decide +kernel

end SingboxVpn
