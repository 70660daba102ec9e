import Mathlib.Logic.Relation
import SingboxVpn.Client.Provision

namespace SingboxVpn.DeploymentConfig

/-!
# The routes of a deployment file

The peers of a deployment file refer to each other in two ways: through the first hop of the relay
access path that a peer names, and through the credential that a peer borrows.  Four passes of
`validate` check these references one by one; here they are put together for the whole file.
-/

def FirstHop (d : DeploymentConfig) (peer hop : PeerEndpointSection) : Prop :=
  peer ∈ d.peerEndpoints ∧ hop ∈ d.peerEndpoints ∧
    ∃ path, d.relayPath peer.path = some path ∧ path.viaEndpointId = some hop.id

structure TwoHops (ext : External) (d : DeploymentConfig) : Prop where
  /-- A relayed peer is VLESS+REALITY, and its first hop is the own listener of a relay node or
  another direct VLESS+REALITY peer with its own credential. -/
  relayed : ∀ peer ∈ d.peerEndpoints, ∀ path, d.relayPath peer.path = some path →
    peer.transport = .vlessReality ∧
      ((path.viaEndpointId = some LOCAL_REALITY_ENDPOINT_ID ∧ d.role = .relay) ∨
        ∃ hop ∈ d.peerEndpoints, path.viaEndpointId = some hop.id ∧ hop.id ≠ peer.id ∧
          hop.transport = .vlessReality ∧ hop.path = "direct" ∧ hop.credentialRef = none)
  /-- A first hop has no first hop. -/
  ends : ∀ peer hop, d.FirstHop peer hop → d.relayPath hop.path = none
  acyclic : ∀ peer, ¬ Relation.TransGen d.FirstHop peer peer
  /-- A borrowed credential is that of the one peer with the id, another one on the same server. -/
  borrowed : ∀ peer ∈ d.peerEndpoints, ∀ ref, peer.credentialRef = some ref →
    ∃ target ∈ d.peerEndpoints, (∀ other ∈ d.peerEndpoints, other.id = ref ↔ other = target) ∧
      target ≠ peer ∧ target.path = "direct" ∧ target.credentialRef = none ∧ SameServer target peer
  toldApart : ∀ publicKey shortId obfs served,
    d.servedEndpoints ext publicKey shortId obfs = .ok served →
      (served.map CompatEndpoint.id).Nodup ∧ (served.map CompatEndpoint.label).Nodup

/-- If a relay access path has the id `direct`, the direct peers are VLESS+REALITY and every relay
access path in use goes through the own listener. -/
def DirectUnclaimed (d : DeploymentConfig) : Prop :=
  (d.relayPath "direct").isSome = true → ∀ peer ∈ d.peerEndpoints,
    (peer.path = "direct" → peer.transport = .vlessReality) ∧
      ∀ path, d.relayPath peer.path = some path →
        path.viaEndpointId = some LOCAL_REALITY_ENDPOINT_ID

section
variable {ext : External} {d : DeploymentConfig} {peer hop : PeerEndpointSection}

theorem id_ne_local (hd : d.validate ext = .ok ()) (hpeer : peer ∈ d.peerEndpoints) :
    peer.id ≠ LOCAL_REALITY_ENDPOINT_ID := by
  intro hid
  refine ((peers_of_validate hd).1 peer hpeer).id ?_
  simp [hid, LOCAL_ENDPOINT_IDS, LOCAL_REALITY_ENDPOINT_ID]

theorem relayed_of_validate (hd : d.validate ext = .ok ()) (hdirect : d.DirectUnclaimed)
    (hpeer : peer ∈ d.peerEndpoints) {path : AccessPathSection}
    (hpath : d.relayPath peer.path = some path) :
    peer.transport = .vlessReality ∧
      ((path.viaEndpointId = some LOCAL_REALITY_ENDPOINT_ID ∧ d.role = .relay) ∨
        ∃ hop ∈ d.peerEndpoints, path.viaEndpointId = some hop.id ∧ hop.id ≠ peer.id ∧
          hop.transport = .vlessReality ∧ hop.path = "direct" ∧ hop.credentialRef = none) := by
  by_cases hname : peer.path = "direct"
  · have hclaimed : (d.relayPath "direct").isSome = true := by simp [← hname, hpath]
    obtain ⟨htransport, hvia⟩ := hdirect hclaimed peer hpeer
    rcases firstHop_of_validate hd (mem_of_relayPath hpath) (hvia path hpath) with
      ⟨-, hrole⟩ | ⟨hop, hhop, hid, -⟩
    · exact ⟨htransport hname, .inl ⟨hvia path hpath, hrole⟩⟩
    · exact absurd hid (id_ne_local hd hhop)
  · obtain ⟨htransport, via, hvia, hself⟩ := relayRoute_of_validate hd hpeer hname hpath
    refine ⟨htransport, ?_⟩
    rcases firstHop_of_validate hd (mem_of_relayPath hpath) hvia with
      ⟨rfl, hrole⟩ | ⟨hop, hhop, rfl, hprops⟩
    · exact .inl ⟨hvia, hrole⟩
    · exact .inr ⟨hop, hhop, hvia, hself, hprops⟩

theorem ends_of_validate (hd : d.validate ext = .ok ()) (hdirect : d.DirectUnclaimed)
    (h : d.FirstHop peer hop) : d.relayPath hop.path = none := by
  obtain ⟨hpeer, hhop, path, hpath, hvia⟩ := h
  rw [direct_of_firstHop hd (mem_of_relayPath hpath) hhop hvia]
  cases hclaimed : d.relayPath "direct" with
  | none => rfl
  | some path' =>
    have hown := (hdirect (by simp [hclaimed]) peer hpeer).2 path hpath
    exact absurd (Option.some.inj (hvia.symm.trans hown)) (id_ne_local hd hhop)

theorem acyclic_of_ends (hends : ∀ peer hop, d.FirstHop peer hop → d.relayPath hop.path = none)
    (peer : PeerEndpointSection) : ¬ Relation.TransGen d.FirstHop peer peer := by
  intro hcycle
  obtain ⟨hop, ⟨-, -, path, hpath, -⟩, -⟩ := Relation.TransGen.head'_iff.mp hcycle
  obtain ⟨last, -, hlast⟩ := Relation.TransGen.tail'_iff.mp hcycle
  rw [hends last peer hlast] at hpath
  cases hpath

theorem borrowed_of_validate (hd : d.validate ext = .ok ()) (hpeer : peer ∈ d.peerEndpoints)
    {ref : String} (href : peer.credentialRef = some ref) :
    ∃ target ∈ d.peerEndpoints, (∀ other ∈ d.peerEndpoints, other.id = ref ↔ other = target) ∧
      target ≠ peer ∧ target.path = "direct" ∧ target.credentialRef = none ∧
      SameServer target peer := by
  obtain ⟨hself, target, htarget, rfl, hpath, hown, hsame⟩ := credentialRef_of_validate hd hpeer href
  obtain ⟨-, hids, -⟩ := peers_of_validate hd
  refine ⟨target, htarget, fun other hother => ?_, ?_, hpath, hown, hsame⟩
  · exact ⟨fun hid => List.inj_on_of_nodup_map hids hother htarget hid, fun heq => heq ▸ rfl⟩
  · rintro rfl
    exact hself rfl

theorem directUnclaimed_of_twoHops (h : TwoHops ext d) : d.DirectUnclaimed := by
  intro hclaimed peer hpeer
  obtain ⟨direct, hdirect⟩ := Option.isSome_iff_exists.mp hclaimed
  constructor
  · intro hname
    exact (h.relayed peer hpeer direct (hname ▸ hdirect)).1
  · intro path hpath
    rcases (h.relayed peer hpeer path hpath).2 with ⟨hvia, -⟩ | ⟨hop, hhop, hvia, -, -, hname, -⟩
    · exact hvia
    · have hends := h.ends peer hop ⟨hpeer, hhop, path, hpath, hvia⟩
      rw [hname, hdirect] at hends
      cases hends

end

/-- The routes of an accepted file are bounded exactly if no relay access path claims the name
`direct`, the harmless case apart. -/
theorem twoHops_iff (ext : External) (d : DeploymentConfig) (hd : d.validate ext = .ok ()) :
    TwoHops ext d ↔ d.DirectUnclaimed := by
  refine ⟨directUnclaimed_of_twoHops, fun hdirect => ?_⟩
  have hends : ∀ peer hop, d.FirstHop peer hop → d.relayPath hop.path = none :=
    fun peer hop => ends_of_validate hd hdirect
  exact ⟨fun peer hpeer path => relayed_of_validate hd hdirect hpeer, hends,
    acyclic_of_ends hends, fun peer hpeer ref => borrowed_of_validate hd hpeer,
    fun _ _ _ _ => told_apart_of_validate hd⟩

/-- The routes of the sample relay. -/
theorem twoHops_iff_sampleRelay : TwoHops sampleExternal sampleRelay := by
  refine (twoHops_iff _ _ sampleRelay_valid).mpr fun hclaimed => ?_
  exact absurd hclaimed (by decide)

def claimedExit : DeploymentConfig :=
  { sampleExit with
    googleEgressHairpin := none
    accessPaths := [⟨"direct", "relay", some "entry-1", none, none, none, ["tcp"], []⟩]
    peerEndpoints := [
      { id := "entry-1", tag := "Entry 1", host := "entry.example.net", port := 443,
        transport := .vlessReality, serverName := none, realityPublicKey := some samplePublicKey,
        realityShortId := some "ab", realityFingerprint := "chrome", obfsPassword := none,
        failureDomain := "entry", region := none, provider := none, asn := none,
        path := "direct", credentialRef := none, vlessFlow := .vision, extra := [] },
      { id := "quic-1", tag := "Quic 1", host := "quic.example.net", port := 443,
        transport := .hysteria2, serverName := none, realityPublicKey := none,
        realityShortId := none, realityFingerprint := "chrome", obfsPassword := none,
        failureDomain := "quic", region := none, provider := none, asn := none,
        path := "direct", credentialRef := none, vlessFlow := .vision, extra := [] }] }

/-- The file is accepted; a Hysteria2 peer is on a relay path, and a peer is its own first hop. -/
theorem twoHops_direct_fails :
    claimedExit.validate sampleExternal = .ok () ∧
    (∃ peer ∈ claimedExit.peerEndpoints, peer.transport = .hysteria2 ∧
      (claimedExit.relayPath peer.path).isSome = true) ∧
    (∃ peer, claimedExit.FirstHop peer peer) ∧ ¬ TwoHops sampleExternal claimedExit := by
  have hloop : ∃ peer, claimedExit.FirstHop peer peer :=
    ⟨_, List.mem_cons_self, List.mem_cons_self, _, rfl, rfl⟩
  refine ⟨rfl, ⟨_, List.mem_cons_of_mem _ List.mem_cons_self, rfl, by decide⟩, hloop, fun h => ?_⟩
  obtain ⟨peer, hpeer⟩ := hloop
  exact h.acyclic peer (.single hpeer)

end SingboxVpn.DeploymentConfig
