import SingboxVpn.Contract
import SingboxVpn.Server.Entries
import SingboxVpn.Admin.Users

namespace SingboxVpn

/-!
# Agreement of clients and server

Clients get the secrets of the account, while the server document lists the secrets of the
account's grants.  The two agree as long as the account has no stored grant, and only
`renew-native` ever stores one.
-/

def Accepts (doc : Json) : TransportParams → Prop
  | .vlessReality uuid flow _ => ∃ entry ∈ inboundEntries doc REALITY_INBOUND,
      entry.idx "uuid" = .str uuid ∧ entry.idx "flow" = .str (flow.getD "")
  | .hysteria2 password _ => ∃ entry ∈ inboundEntries doc "hysteria2-in",
      entry.idx "password" = .str password

/-- A renderer gives the user something for each of the listeners that its profile keeps, and
    the document accepts all of it. -/
def ClientAgrees (doc : Json) (user : CompatUser) (own : List CompatEndpoint)
    (r : ClientRenderer) : Prop :=
  ∃ given, r.endpoints user own = .ok given ∧
    given.map Endpoint.id =
      (own.filter fun ep => !(r.isTcpOnly && ep.transport == .hysteria2)).map CompatEndpoint.id ∧
    ∀ b ∈ given, Accepts doc b.params

section Rendered

variable {ext : External} {d : DeploymentConfig} {users : Store} {reality : RealityServerParams}
  {hysteria : Hysteria2ServerParams} {now : Int} {doc : Json}

theorem accepts_vless_iff {uuid : String} {flow : Option String} {params : RealityParams}
    (h : renderServerConfigForDeployment ext d users reality hysteria now = .ok doc) :
    Accepts doc (.vlessReality uuid flow params) ↔
      ∃ ug ∈ authorizedGrants users now, ug.2.vlessUuid = uuid ∧ ug.1.flow = flow.getD "" := by
  simp [Accepts, vlessEntries_rendered h, vlessUser, Json.idx_object, Json.lookup_cons_ite]

theorem accepts_hysteria_iff {password : String} {obfs : Option Hysteria2Obfs}
    (h : renderServerConfigForDeployment ext d users reality hysteria now = .ok doc) :
    Accepts doc (.hysteria2 password obfs) ↔
      ∃ ug ∈ authorizedGrants users now, ug.2.hysteria2Password = password := by
  simp [Accepts, hysteriaEntries_rendered h, hysteriaUser, Json.idx_object]

theorem legacy_listed {u : CompatUser} (hu : u ∈ users) (hnone : u.credentials = [])
    (hactive : u.isActive now = true) (htime : CompatUser.LegacyTime now) :
    (u, u.legacyGrant) ∈ authorizedGrants users now := by
  refine mem_authorizedGrants_iff.mpr ⟨hu, hactive, ?_⟩
  rw [CompatUser.authorizedGrants_legacy hnone hactive htime]
  exact List.mem_singleton_self _

theorem own_accepted {u : CompatUser} {b : Endpoint}
    (h : renderServerConfigForDeployment ext d users reality hysteria now = .ok doc)
    (hu : u ∈ users) (hnone : u.credentials = []) (hactive : u.isActive now = true)
    (htime : CompatUser.LegacyTime now) (hvision : u.visionOffExperiment = false)
    (hb : GivesOwnSecrets u b) : Accepts doc b.params := by
  have hlisted := legacy_listed hu hnone hactive htime
  rcases hb with ⟨params, hb⟩ | ⟨obfs, hb⟩
  · rw [hb, accepts_vless_iff h]
    refine ⟨_, hlisted, rfl, ?_⟩
    simp [CompatUser.flow, hvision, VLESS_FLOW_VISION]
  · rw [hb, accepts_hysteria_iff h]
    exact ⟨_, hlisted, rfl⟩

end Rendered

/-! ### Runs -/

def NoGrants (id : String) (users : Store) : Prop := ∀ u ∈ users, u.id = id → u.credentials = []

def SparesAccount (id : String) (_ : Store) (_ : Env) (cmd : UserCommand) : Prop :=
  cmd ≠ .renewNative id

theorem noGrants_of_reachable {id : String} {users : Store}
    (h : Reachable (SparesAccount id) users) : NoGrants id users := by
  refine h.forall_account (fun new _ => new.credentials) ?_
  intro users env cmd u u' hcond _ edit hinv hid
  rcases edit.credentials with hsame | ⟨hcmd, -⟩
  · rw [hsame]
    exact hinv (edit.id.symm.trans hid)
  · -- only `renew-native` on this very account would store a grant
    rw [← edit.id, hid] at hcmd
    exact absurd hcmd hcond

section Agreement

variable {ext : External} {d : DeploymentConfig} {users : Store} {reality : RealityServerParams}
  {hysteria : Hysteria2ServerParams} {now : Int} {doc : Json}

/-- In every run that never renews an account's native grant, an exit accepts what every
    renderer gives that account for the exit's own listeners, whether they are rendered alone
    or with the declared peers behind them. -/
theorem credentials_agree {u : CompatUser} (hreach : Reachable (SparesAccount u.id) users)
    (hu : u ∈ users) (hrole : d.role = .exit) (hactive : u.isActive now = true)
    (htime : CompatUser.LegacyTime now) (hvision : u.visionOffExperiment = false)
    (h : renderServerConfigForDeployment ext d users reality hysteria now = .ok doc)
    {r : ClientRenderer} (hr : r.isVisionOff = false) (publicKey shortId : String)
    (obfs : Option String) :
    ClientAgrees doc u (d.ownEndpoints publicKey shortId obfs) r ∧
      ∀ served all, d.servedEndpoints ext publicKey shortId obfs = .ok served →
        r.endpoints u served = .ok all →
        ∃ given rest, all = given ++ rest ∧
          r.endpoints u (d.ownEndpoints publicKey shortId obfs) = .ok given := by
  have hnone : u.credentials = [] := noGrants_of_reachable hreach u hu rfl
  constructor
  · have hown : d.ownEndpoints publicKey shortId obfs =
        standardEndpoints d.publicHost d.reality.listenPort d.hysteria2.listenPort publicKey
          shortId d.reality.handshakeServer obfs := by
      simp [DeploymentConfig.ownEndpoints, hrole]
    obtain ⟨given, hgiven, hids, hsecrets⟩ := @standard_given u d.publicHost
      d.reality.handshakeServer publicKey shortId d.reality.listenPort d.hysteria2.listenPort
      obfs r hr
    rw [hown]
    refine ⟨given, hgiven, ?_, ?_⟩
    · rw [hids]
      cases r.isTcpOnly <;> rfl
    · intro b hb
      exact own_accepted h hu hnone hactive htime hvision (hsecrets b hb)
  · intro served all hserved hall
    obtain ⟨peers, -, hok⟩ := Check.bind_eq_ok.mp hserved
    cases hok
    -- the own listeners come first in the served set
    obtain ⟨given, rest, hgiven, -, hsplit⟩ := Check.collect_append_ok.mp hall
    exact ⟨given, rest, hsplit, hgiven⟩

end Agreement

/-! ### One account -/

def sampleExitEnv (draws : Draws) : Env := { sampleEnv with cfg := sampleExit, draws := draws }

def sampleCustomer : CompatUser := newUser (sampleExitEnv sampleEnv.draws) "user_1" "alice" none false

def otherDraws : Draws :=
  ⟨["2"], "00000000-0000-4000-8000-000000000002", "fedcba9876543210", "hash2", "01"⟩

def renewedCustomer : CompatUser :=
  { sampleCustomer with credentials := [mintNative (sampleExitEnv otherDraws)] }

/-- A new account can use the secrets it is given. -/
theorem credentials_agree_created :
    ∃ doc, renderServerConfigForDeployment sampleExternal sampleExit [sampleCustomer]
        sampleReality sampleHysteria 0 = .ok doc ∧
      ClientAgrees doc sampleCustomer (sampleExit.ownEndpoints samplePublicKey "ab" none)
        (.provisioning .none) := by
  obtain ⟨doc, hdoc⟩ := sampleExit_renders [sampleCustomer] sampleReality 0 rfl
  have hcreated : StepsTo (SparesAccount sampleCustomer.id) [] [sampleCustomer] :=
    ⟨sampleExitEnv sampleEnv.draws, .create "alice" none, nofun, rfl⟩
  exact ⟨doc, hdoc, (credentials_agree (.single hcreated) List.mem_cons_self rfl rfl (by decide)
    rfl hdoc rfl samplePublicKey "ab" none).1⟩

/-- After `renew-native` the server knows the new grant's secrets only, and the client is still
    given the account's. -/
theorem renewed_account_locked_out :
    step (sampleExitEnv sampleEnv.draws) [] (.create "alice" none) = .ok [sampleCustomer] ∧
      step (sampleExitEnv otherDraws) [sampleCustomer] (.renewNative "user_1") =
        .ok [renewedCustomer] ∧
      renewedCustomer.isActive 0 = true ∧ renewedCustomer.visionOffExperiment = false ∧
      ∃ doc, renderServerConfigForDeployment sampleExternal sampleExit [renewedCustomer]
          sampleReality sampleHysteria 0 = .ok doc ∧
        (∀ flow params, ¬ Accepts doc (.vlessReality renewedCustomer.vlessUuid flow params)) ∧
        (∀ obfs, ¬ Accepts doc (.hysteria2 renewedCustomer.hysteria2Password obfs)) ∧
        ¬ ClientAgrees doc renewedCustomer (sampleExit.ownEndpoints samplePublicKey "ab" none)
          (.provisioning .none) := by
  obtain ⟨doc, hdoc⟩ := sampleExit_renders [renewedCustomer] sampleReality 0 rfl
  have hvless : ∀ flow params,
      ¬ Accepts doc (.vlessReality renewedCustomer.vlessUuid flow params) := by
    intro flow params haccepts
    obtain ⟨ug, hug, huuid, -⟩ := (accepts_vless_iff hdoc).mp haccepts
    have hne : ∀ ug ∈ authorizedGrants [renewedCustomer] 0,
        ug.2.vlessUuid ≠ renewedCustomer.vlessUuid := by decide
    exact hne ug hug huuid
  have hhysteria : ∀ obfs, ¬ Accepts doc (.hysteria2 renewedCustomer.hysteria2Password obfs) := by
    intro obfs haccepts
    obtain ⟨ug, hug, hpassword⟩ := (accepts_hysteria_iff hdoc).mp haccepts
    have hne : ∀ ug ∈ authorizedGrants [renewedCustomer] 0,
        ug.2.hysteria2Password ≠ renewedCustomer.hysteria2Password := by decide
    exact hne ug hug hpassword
  refine ⟨rfl, rfl, by decide, rfl, doc, hdoc, hvless, hhysteria, ?_⟩
  rintro ⟨given, hgiven, -, haccepted⟩
  cases hgiven
  exact hvless _ _ (haccepted _ List.mem_cons_self)

end SingboxVpn
