import SingboxVpn.Admin.Apply
import SingboxVpn.Server.Entries
import SingboxVpn.Server.Exit

/-!
# vpn-admin: the files of a node and the commands that put a document into force

The commands of `apps/admin/src/main.rs` that end in `render_and_apply_singbox_config`, as programs
on the files of a node.  Each command renders its candidate document from the key files it finds
and hands it to the pipeline of `SingboxVpn.Admin.Apply`.
-/

namespace SingboxVpn.Apply

open Json Killable

inductive KeyFile where
  | privateKey
  | publicKey
  | shortId
  | obfsPassword
  deriving DecidableEq

/-- `applied_revision.json` as `read_applied_revision_state` sees it. -/
inductive RevisionStampState where
  | missing
  | present (revision : Nat)
  | corrupt
  deriving DecidableEq

structure Host where
  node : Node
  /-- what loading users.json gives -/
  users : Except String (List CompatUser)
  keys : KeyFile → Option String
  /-- the `.rotate-bak` siblings -/
  keyBackups : KeyFile → Option String
  revision : RevisionStampState
  /-- the text of deployment.toml -/
  deployment : String
  /-- the text of its `.static-revision.bak` sibling -/
  deploymentBackup : Option String

structure Installation where
  ext : External
  /-- `credentials::hash_token` -/
  hash : String → String
  /-- `serde_json::to_string` -/
  jsonText : Json → String
  hysteriaDir : String
  masqueradeDirExists : Bool
  googleEgressHairpinUuid : FileRead

/-- The stamp of a document: the hash of its text. -/
def Installation.renderedConfigFingerprint (inst : Installation) (doc : Json) : String :=
  inst.hash (inst.jsonText doc)

/-- What the machine answers while a document is put into force, and the clock at rendering. -/
structure Answers where
  now : Int
  outcomes : Outcomes

/-! ### The candidate document -/

def readFile (file : Option String) : FileRead :=
  match file with
  | some text => .ok text
  | none => .error "No such file or directory (os error 2)"

def Host.keyDirectory (inst : Installation) (host : Host) : KeyDirectory where
  privateKey := readFile (host.keys .privateKey)
  publicKey := readFile (host.keys .publicKey)
  shortId := readFile (host.keys .shortId)
  googleEgressHairpinUuid := inst.googleEgressHairpinUuid

/-- A missing or blank obfuscation password means that there is none. -/
def Host.loadHysteriaParams (inst : Installation) (cfg : DeploymentConfig) (host : Host) :
    Hysteria2ServerParams where
  tlsCertPath := inst.hysteriaDir ++ "/cert.pem"
  tlsKeyPath := inst.hysteriaDir ++ "/key.pem"
  obfsPassword := ((host.keys .obfsPassword).map Text.trim).filter (!·.isEmpty)
  masqueradeDirPath :=
    if inst.masqueradeDirExists then some (inst.hysteriaDir ++ "/masquerade") else none
  upMbps := cfg.hysteria2.upMbps
  downMbps := cfg.hysteria2.downMbps

def rendered (inst : Installation) (cfg : DeploymentConfig) (users : List CompatUser)
    (reality : RealityServerParams) (hysteria : Hysteria2ServerParams) (now : Int) :
    Except Unrendered Json :=
  (renderServerConfigForDeployment inst.ext cfg users reality hysteria now).mapError fun _ =>
    .refused "rendering the role-aware sing-box server config"

def candidate (inst : Installation) (cfg : DeploymentConfig) (users : List CompatUser)
    (host : Host) (now : Int) : Except Unrendered Json :=
  match loadRealityParams inst.ext cfg (host.keyDirectory inst) with
  | .error e => .error (.keys e)
  | .ok reality => rendered inst cfg users reality (host.loadHysteriaParams inst cfg) now

/-! ### The commands -/

/-- The first line of a drop-in that `vpn-admin` wrote. -/
def MANAGED_MARKER : String :=
  "# managed by vpn-admin (singbox-vpn): sing-box TLS spoof capabilities. Do not edit; " ++
    "remove [google_egress_tls_spoof] to remove this file."

/-- The capabilities that forged segments need. -/
def CAPABILITIES : String := "CAP_NET_BIND_SERVICE CAP_NET_RAW CAP_NET_ADMIN"

/-- The drop-in that the configuration wants, if any. -/
def desiredTlsSpoofDropin (cfg : DeploymentConfig) : Option String :=
  cfg.googleEgressTlsSpoof.map fun _ =>
    MANAGED_MARKER ++ "\n[Service]\nAmbientCapabilities=" ++ CAPABILITIES ++
      "\nCapabilityBoundingSet=" ++ CAPABILITIES ++ "\n"

def onNode {ε α : Type} (p : Prog ε Node α) : Prog ε Host α :=
  within Host.node (fun node host => { host with node := node }) p

section
variable (inst : Installation) (cfg : DeploymentConfig)

def applyCall (users : List CompatUser) (requireLiveApply : Bool) (host : Host) (a : Answers) :
    Call where
  candidate := candidate inst cfg users host a.now
  requireLiveApply := requireLiveApply
  strictSpoofCapabilities := false
  spoofContentHash := (desiredTlsSpoofDropin cfg).map inst.hash
  outcomes := a.outcomes

/-- Render the document for these accounts and put it into force; says whether it went live. -/
def renderAndApplySingboxConfig (users : List CompatUser) (requireLiveApply : Bool)
    (a : Answers) : Prog ApplyError Host Applied := do
  let host ← read
  onNode (renderAndApplySingboxConfigWith inst.renderedConfigFingerprint
    (applyCall inst cfg users requireLiveApply host a))

theorem wpk_renderAndApply {users : List CompatUser} {requireLiveApply : Bool} {a : Answers}
    {host : Host} {ok : Applied → Host → Prop} {failed : ApplyError → Host → Prop}
    {killed : Host → Prop} (hok : ∀ a node, ok a { host with node := node })
    (hfailed : ∀ e node, failed e { host with node := node })
    (hkilled : ∀ node, killed { host with node := node }) :
    wpk (renderAndApplySingboxConfig inst cfg users requireLiveApply a) host ok failed killed := by
  rw [renderAndApplySingboxConfig, wpk_bind, wpk_read, onNode, wpk_within]
  exact wpk_of_forall hok hfailed hkilled

inductive UsersError where
  | load (e : String)
  | refused (e : String)
  | apply (e : ApplyError)
  | save (rolledBack : Bool)
  deriving DecidableEq

structure SaveAnswers where
  apply : Answers
  saved : Bool
  rollback : Answers

/-- Writes users.json beside itself and renames. -/
def saveUsersAtomic (users : List CompatUser) (saved : Bool) : Prog Unit Host Unit := do
  refuse (!saved) ()
  Killable.step fun host => { host with users := .ok users }

/-- The proposed accounts go live before they are published; if they cannot be, the previous ones
    go live again. -/
def applyUsersAndSave (previousUsers users : List CompatUser) (a : SaveAnswers) :
    Prog UsersError Host Applied := do
  let wentLive ← failingWith .apply (renderAndApplySingboxConfig inst cfg users true a.apply)
  match ← attempt (saveUsersAtomic users a.saved) with
  | .ok _ => pure wentLive
  | .error _ =>
    let rollback ← attempt (renderAndApplySingboxConfig inst cfg previousUsers true a.rollback)
    fail (.save rollback.isOk)

def cmdUserMutation (change : List CompatUser → List CompatUser) (a : SaveAnswers) :
    Prog UsersError Host Applied := do
  let host ← read
  let previousUsers ← require (host.users.mapError .load)
  applyUsersAndSave inst cfg previousUsers (change previousUsers) a

/-- `vpn-admin render-config`, which the expiry timer runs as well. -/
def cmdRenderConfig (a : Answers) : Prog UsersError Host Applied := do
  let host ← read
  let users ← require (host.users.mapError .load)
  failingWith .apply (renderAndApplySingboxConfig inst cfg users false a)

end

/-! ### The same document -/

/-- The same credentials of these accounts are authorized at both times. -/
def AuthorizedAlike (users : List CompatUser) (now now' : Int) : Prop :=
  ∀ u ∈ users, ∀ g, g ∈ u.inForce now ↔ g ∈ u.inForce now'

variable {users : List CompatUser} {now' : Int} {inst : Installation} {cfg : DeploymentConfig}
  {doc : Json}

theorem AuthorizedAlike.same {now : Int} (h : AuthorizedAlike users now now') :
    List.Forall₂ (SameBetween now now') users users := by
  refine List.forall₂_same.mpr fun u hu => ⟨?_, rfl, rfl, rfl, rfl⟩
  have hlists : u.inForce now' = u.inForce now := by
    have hmem := h u hu
    simp only [CompatUser.inForce_filter, List.mem_filter] at hmem ⊢
    refine List.filter_congr fun g hg => ?_
    exact Bool.eq_iff_iff.mpr ⟨fun h' => ((hmem g).mpr ⟨hg, h'⟩).2, fun h' => ((hmem g).mp ⟨hg, h'⟩).2⟩
  rw [hlists]

theorem rendered_ok {reality : RealityServerParams} {hysteria : Hysteria2ServerParams} {now : Int} :
    rendered inst cfg users reality hysteria now = .ok doc ↔
      renderServerConfigForDeployment inst.ext cfg users reality hysteria now = .ok doc :=
  Check.mapError_eq_ok

/-- On the same key files, stores that the renderer reads alike have one document, if each has
    one. -/
theorem candidate_between {users' : List CompatUser} {host : Host} {now : Int} {doc' : Json}
    (h : List.Forall₂ (SameBetween now now') users users')
    (hdoc : candidate inst cfg users host now = .ok doc)
    (hdoc' : candidate inst cfg users' host now' = .ok doc') : doc' = doc := by
  unfold candidate at hdoc hdoc'
  cases hreality : loadRealityParams inst.ext cfg (host.keyDirectory inst) with
  | error e =>
    rw [hreality] at hdoc
    cases hdoc
  | ok reality =>
    rw [hreality] at hdoc hdoc'
    have hrender := rendered_ok.mp hdoc
    have hrender' := rendered_ok.mp hdoc'
    rw [render_congr_between h (render_checks hrender').2 hrender] at hrender'
    exact (Except.ok.inj hrender').symm

/-- On the same store and key files the same document is rendered whenever the same credentials
    are authorized. -/
theorem candidate_congr {host : Host} {now : Int} (h : AuthorizedAlike users now now')
    (hdoc : candidate inst cfg users host now = .ok doc) :
    candidate inst cfg users host now' = .ok doc := by
  unfold candidate at hdoc ⊢
  cases hreality : loadRealityParams inst.ext cfg (host.keyDirectory inst) with
  | error e =>
    rw [hreality] at hdoc
    cases hdoc
  | ok reality =>
    rw [hreality] at hdoc
    have hrender := rendered_ok.mp hdoc
    exact rendered_ok.mpr (render_congr_between h.same (render_checks hrender).2 hrender)

def sampleInstallation : Installation where
  ext := sampleExternal
  hash := id
  jsonText := Json.text
  hysteriaDir := "/etc/vpn/compat/hysteria"
  masqueradeDirExists := false
  googleEgressHairpinUuid := .error "No such file or directory (os error 2)"

def sampleHost : Host where
  node := installed
  users := .ok []
  keys := fun
    | .privateKey => some samplePrivateKey
    | .publicKey => some samplePublicKey
    | .shortId => some "ab"
    | .obfsPassword => none
  keyBackups := fun _ => none
  revision := .missing
  deployment := ""
  deploymentBackup := none

end SingboxVpn.Apply
