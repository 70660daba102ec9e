import SingboxVpn.Authorization
import SingboxVpn.Lib.Run

namespace SingboxVpn.Snapshot

/-!
# Snapshots of external authorizations

The control plane sends the agent snapshots of the external authorizations.  A snapshot is read
strictly (`parseSnapshot`): what breaks the schema refuses it whole, while a single credential
with bad values is left out and named as quarantined.  `adoptSnapshot` then decides whether it may
replace the stored one.

* `adoptSnapshot_cases` — the four things that can happen to a snapshot.
-/

/-! ### Reading a snapshot -/

/-- The largest snapshot that is read. -/
def MAX_EXTERNAL_AUTHORIZATIONS : Nat := 4096

/-- The members of a value that should have certain fields and no others.  An array gives them
    by position. -/
def members (names : List String) : Json → Option (List (String × Json))
  | .obj m => if m.all fun kv => names.contains kv.1 then some m else none
  | .arr items => if items.length ≤ names.length then some (names.zip items) else none
  | _ => none

def field {α : Type} (m : List (String × Json)) (key : String) (read : Json → Option α) :
    Option α :=
  (m.lookup key).bind read

def fieldOr {α : Type} (m : List (String × Json)) (key : String) (default : α)
    (read : Json → Option α) : Option α :=
  match m.lookup key with
  | none => some default
  | some v => read v

def asBool : Json → Option Bool
  | .bool b => some b
  | _ => none

def asOptStr : Json → Option (Option String)
  | .null => some none
  | .str s => some (some s)
  | _ => none

def asU8 (j : Json) : Option Nat := j.asU64.filter (· < 2 ^ 8)

def className : String → Option CredentialClass
  | "native" => some .native
  | "compatibility" => some .compatibility
  | _ => none

def asClass : Json → Option CredentialClass
  | .str s => className s
  | .obj [(s, .null)] => className s
  | _ => none

/-- The secrets of a credential on the wire. -/
structure WireProtocol where
  vlessUuid : Option String
  hysteria2Password : Option String

def asProtocol (j : Json) : Option WireProtocol := do
  let m ← members ["vless_uuid", "hysteria2_password"] j
  return ⟨← fieldOr m "vless_uuid" none asOptStr, ← fieldOr m "hysteria2_password" none asOptStr⟩

structure WireAuthorization where
  principalId : String
  credentialId : String
  cls : CredentialClass
  validFrom : String
  validUntil : String
  revoked : Bool
  protocol : WireProtocol

def asAuthorization (m : List (String × Json)) : Option WireAuthorization := do
  return {
    principalId := ← field m "principal_id" Json.asStr
    credentialId := ← field m "credential_id" Json.asStr
    cls := ← field m "class" asClass
    validFrom := ← field m "valid_from" Json.asStr
    validUntil := ← field m "valid_until" Json.asStr
    revoked := ← fieldOr m "revoked" false asBool
    protocol := ← field m "protocol" asProtocol }

def v2Item (j : Json) : Option WireAuthorization := do
  asAuthorization (← members ["principal_id", "credential_id", "class", "valid_from",
    "valid_until", "revoked", "protocol"] j)

def legacyItem (j : Json) : Option (WireAuthorization × String) := do
  let m ← members ["principal_id", "credential_id", "class", "logical_route_id", "valid_from",
    "valid_until", "revoked", "protocol"] j
  return (← asAuthorization m, ← field m "logical_route_id" Json.asStr)

def isIdChar (c : Char) : Bool := c.isAlphanum || c == '_' || c == '-'

/-- The shape of a route id. -/
def validRouteId (value : String) : Bool :=
  Text.startsWith "route_" value && 7 ≤ Text.len value && Text.len value ≤ 96 &&
    value.toList.all isIdChar

/-- A credential of the wire, with its times read. -/
def convertAuthorization (rfc3339 : Rfc3339) (item : WireAuthorization) :
    Except String Authorization :=
  match rfc3339 item.validFrom, rfc3339 item.validUntil with
  | none, _ => .error "invalid authorization valid_from"
  | some _, none => .error "invalid authorization valid_until"
  | some validFrom, some validUntil => .ok {
      principalId := item.principalId
      credentialId := item.credentialId
      cls := item.cls
      validFrom := unixTimestamp validFrom
      validUntil := unixTimestamp validUntil
      revoked := item.revoked
      vlessUuid := item.protocol.vlessUuid
      hysteria2Password := item.protocol.hysteria2Password }

/-- A snapshot that is too large is refused. -/
def enforceSnapshotSize (size : Nat) : Except String Unit :=
  Check.refuseIf (decide (MAX_EXTERNAL_AUTHORIZATIONS < size))
    ("external authorization response exceeds the " ++ toString MAX_EXTERNAL_AUTHORIZATIONS ++
      " credential limit")

/-- The checks whose failure refuses the whole snapshot. -/
def validateExternalSet (desired : AuthorizationSet) : Except String AuthorizationSet := do
  enforceSnapshotSize desired.authorizations.length
  desired.validate
  Check.refuseIf (desired.authorizations.any (·.cls != .compatibility))
    "external authorization response contains a non-compatibility credential"
  .ok desired

/-- What is logged of a credential that was left out. -/
def quarantineLabel (credentialId : String) : String :=
  if Text.startsWith "cred_" credentialId && Text.len credentialId ≤ 96 &&
    credentialId.toList.all isIdChar then credentialId
  else "<unidentifiable>"

/-- The checks whose failure leaves out one credential only. -/
def finishV2Item (rfc3339 : Rfc3339) (item : WireAuthorization) : Except String Authorization := do
  let authorization ← convertAuthorization rfc3339 item
  authorization.validateItem
  Check.refuseIf (authorization.cls != .compatibility)
    "external authorization item is not a compatibility credential"
  .ok authorization

/-- A snapshot, and the credentials that were left out of it. -/
structure ParsedSnapshot where
  desired : AuthorizationSet
  snapshotRevision : Option Nat
  quarantined : List String
deriving DecidableEq

def sortV2Items (rfc3339 : Rfc3339) :
    List Json → Except String (List Authorization × List String)
  | [] => .ok ([], [])
  | raw :: rest =>
      match v2Item raw with
      | none => .error "invalid v2 authorization item (contents not shown)"
      | some item => do
          let (authorizations, quarantined) ← sortV2Items rfc3339 rest
          match finishV2Item rfc3339 item with
          | .ok authorization => .ok (authorization :: authorizations, quarantined)
          | .error _ => .ok (authorizations, quarantineLabel item.credentialId :: quarantined)

def convertLegacyItems (rfc3339 : Rfc3339) :
    List (WireAuthorization × String) → Except String (List Authorization)
  | [] => .ok []
  | (item, logicalRouteId) :: rest => do
      Check.refuseIf (!validRouteId logicalRouteId)
        "external authorization contains a malformed logical_route_id"
      let authorization ← convertAuthorization rfc3339 item
      .ok (authorization :: (← convertLegacyItems rfc3339 rest))

/-- A snapshot of the second contract. -/
structure V2WireSnapshot where
  schemaVersion : Nat
  snapshotRevision : Nat
  authorizations : List Json

def v2Snapshot (value : Json) : Option V2WireSnapshot := do
  let m ← members ["schema_version", "snapshot_revision", "authorizations"] value
  return ⟨← field m "schema_version" asU8, ← field m "snapshot_revision" Json.asU64,
    ← field m "authorizations" Json.asArray⟩

def legacySnapshot (value : Json) : Option (List (WireAuthorization × String)) := do
  let m ← members ["authorizations"] value
  (← field m "authorizations" Json.asArray).mapM legacyItem

def parseV2 (rfc3339 : Rfc3339) (value : Json) : Except String ParsedSnapshot :=
  match v2Snapshot value with
  | none => .error "invalid v2 external authorization response (contents not shown)"
  | some wire => do
      Check.refuseIf (wire.schemaVersion != 2)
        "unsupported external authorization schema_version"
      enforceSnapshotSize wire.authorizations.length
      let (authorizations, quarantined) ← sortV2Items rfc3339 wire.authorizations
      let desired ← validateExternalSet ⟨authorizations⟩
      .ok ⟨desired, some wire.snapshotRevision, quarantined⟩

def parseLegacy (rfc3339 : Rfc3339) (value : Json) : Except String ParsedSnapshot :=
  match legacySnapshot value with
  | none => .error "invalid legacy external authorization response (contents not shown)"
  | some wire => do
      enforceSnapshotSize wire.length
      let authorizations ← convertLegacyItems rfc3339 wire
      let desired ← validateExternalSet ⟨authorizations⟩
      .ok ⟨desired, none, []⟩

/-- The presence of a version decides between the two contracts. -/
def parseSnapshot (rfc3339 : Rfc3339) (value : Json) : Except String ParsedSnapshot :=
  if (value.get? "schema_version").isSome then parseV2 rfc3339 value else parseLegacy rfc3339 value

theorem validateExternalSet_ok {desired desired' : AuthorizationSet}
    (h : validateExternalSet desired = .ok desired') :
    desired' = desired ∧ desired.authorizations.length ≤ MAX_EXTERNAL_AUTHORIZATIONS ∧
      desired.validate = .ok () ∧ ∀ a ∈ desired.authorizations, a.cls = .compatibility := by
  simp only [validateExternalSet, enforceSnapshotSize, Check.bind_ok, Check.refuseIf_ok,
    decide_eq_false_iff_not, not_lt, List.any_eq_false, Except.ok.injEq] at h
  obtain ⟨hsize, hvalid, hclass, rfl⟩ := h
  exact ⟨rfl, hsize, hvalid, fun a ha => by simpa using hclass a ha⟩

/-- What is accepted is a valid set of compatibility credentials of bounded size. -/
theorem parseSnapshot_ok {rfc3339 : Rfc3339} {value : Json} {parsed : ParsedSnapshot}
    (h : parseSnapshot rfc3339 value = .ok parsed) :
    parsed.desired.authorizations.length ≤ MAX_EXTERNAL_AUTHORIZATIONS ∧
      parsed.desired.validate = .ok () ∧
      ∀ a ∈ parsed.desired.authorizations, a.cls = .compatibility := by
  have hset : ∃ desired, validateExternalSet desired = .ok parsed.desired := by
    unfold parseSnapshot at h
    split at h
    · unfold parseV2 at h
      split at h
      · cases h
      · obtain ⟨-, -, h⟩ := Check.bind_eq_ok.mp h
        obtain ⟨-, -, h⟩ := Check.bind_eq_ok.mp h
        obtain ⟨r, -, h⟩ := Check.bind_eq_ok.mp h
        obtain ⟨desired, hdesired, h⟩ := Check.bind_eq_ok.mp h
        cases h
        exact ⟨_, hdesired⟩
    · unfold parseLegacy at h
      split at h
      · cases h
      · obtain ⟨-, -, h⟩ := Check.bind_eq_ok.mp h
        obtain ⟨r, -, h⟩ := Check.bind_eq_ok.mp h
        obtain ⟨desired, hdesired, h⟩ := Check.bind_eq_ok.mp h
        cases h
        exact ⟨_, hdesired⟩
  obtain ⟨desired, hdesired⟩ := hset
  obtain ⟨heq, hsize, hvalid, hclass⟩ := validateExternalSet_ok hdesired
  rw [heq]
  exact ⟨hsize, hvalid, hclass⟩

/-! ### The stored state -/

/-- What the agent stores of the external authorizations. -/
structure PersistedExternalState where
  desired : AuthorizationSet
  snapshotRevision : Option Nat
  appliedSnapshotRevision : Option Nat
  acknowledgedSnapshotRevision : Option Nat
deriving DecidableEq

def PersistedExternalState.empty : PersistedExternalState := ⟨⟨[]⟩, none, none, none⟩

inductive StateFile where
  | current (state : PersistedExternalState)
  | desiredOnly (desired : AuthorizationSet)
deriving DecidableEq

def StateFile.state : StateFile → PersistedExternalState
  | .current state => state
  | .desiredOnly desired => { PersistedExternalState.empty with desired := desired }

/-- What a process starts with. -/
def loadState : Option StateFile → Except String PersistedExternalState
  | none => .ok .empty
  | some file => do
      file.state.desired.validate
      .ok file.state

/-! ### Adopting a snapshot -/

def sameCredential (a b : Authorization) : Bool :=
  a.principalId == b.principalId && a.credentialId == b.credentialId

/-- Every credential of `next` is held already and at most newly revoked, and none is missing but
    those quarantined. -/
def onlyTightens (current next : AuthorizationSet) (quarantined : List String) : Bool :=
  (current.authorizations.all fun held =>
    next.authorizations.any (sameCredential held) || quarantined.any (· == held.credentialId)) &&
  next.authorizations.all fun incoming =>
    match current.authorizations.find? (sameCredential · incoming) with
    | none => false
    | some held =>
        !(held.revoked && !incoming.revoked) &&
          ({ incoming with revoked := held.revoked } : Authorization) == held

def ParsedSnapshot.state (next : ParsedSnapshot) : PersistedExternalState :=
  ⟨next.desired, next.snapshotRevision, none, none⟩

def replaceState (state : PersistedExternalState) (next : ParsedSnapshot) :
    PersistedExternalState × Except String Bool :=
  if next.desired != state.desired || next.snapshotRevision != state.snapshotRevision then
    (next.state, .ok true)
  else (state, .ok false)

/-- Replace the state by a snapshot that is not older. -/
def adoptSnapshot (state : PersistedExternalState) (next : ParsedSnapshot) :
    PersistedExternalState × Except String Bool :=
  match state.snapshotRevision, next.snapshotRevision with
  | some current, some incoming =>
      if incoming < current then (state, .error "stale external authorization snapshot revision")
      else if incoming = current ∧ next.desired ≠ state.desired ∧
          !onlyTightens state.desired next.desired next.quarantined then
        (state, .error "external authorization revision content changed without a new revision")
      else replaceState state next
  | some _, none => (state, .error "refusing external authorization schema downgrade")
  | none, _ => replaceState state next

/-! ### What a snapshot can do -/

/-- At every instant, the credentials in force under the second set are in force under the
    first one, as they are. -/
def Narrows (old new : AuthorizationSet) : Prop :=
  ∀ t, ∀ a ∈ new.activeAt t, a ∈ old.activeAt t

theorem Narrows.refl (set : AuthorizationSet) : Narrows set set := fun _ _ ha => ha

theorem Narrows.trans {a b c : AuthorizationSet} (h : Narrows a b) (h' : Narrows b c) :
    Narrows a c := fun t x hx => h t x (h' t x hx)

/-- The revision is kept or grows, and while it is the same nothing is added. -/
def Follows (old new : PersistedExternalState) : Prop :=
  ∀ r, old.snapshotRevision = some r →
    ∃ r', new.snapshotRevision = some r' ∧ r ≤ r' ∧ (r' = r → Narrows old.desired new.desired)

theorem Follows.refl (state : PersistedExternalState) : Follows state state :=
  fun r hr => ⟨r, hr, le_rfl, fun _ => Narrows.refl _⟩

theorem Follows.trans {a b c : PersistedExternalState} (h : Follows a b) (h' : Follows b c) :
    Follows a c := by
  intro r hr
  obtain ⟨r', hr', hle, hnarrow⟩ := h r hr
  obtain ⟨r'', hr'', hle', hnarrow'⟩ := h' r' hr'
  refine ⟨r'', hr'', hle.trans hle', fun heq => ?_⟩
  have hsame : r' = r := by omega
  exact (hnarrow hsame).trans (hnarrow' (by omega))

theorem narrows_of_onlyTightens {current new : AuthorizationSet} {quarantined : List String}
    (h : onlyTightens current new quarantined = true) : Narrows current new := by
  intro t a ha
  obtain ⟨hmem, hactive⟩ := AuthorizationSet.mem_activeAt.mp ha
  have hincoming := List.all_eq_true.mp (Bool.and_eq_true_iff.mp h).2 a hmem
  split at hincoming
  · cases hincoming
  · next held hheld =>
    obtain ⟨hkept, hsame⟩ := Bool.and_eq_true_iff.mp hincoming
    have hrevoked : a.revoked = false := by
      simp only [Authorization.isActiveAt, Bool.and_eq_true, Bool.not_eq_true'] at hactive
      exact hactive.1.1
    -- a credential in force is not revoked, so neither was the one held
    have hheldRevoked : held.revoked = false := by
      rw [hrevoked] at hkept
      simpa using hkept
    have heq : a = held := by
      rw [← beq_iff_eq.mp hsame, hheldRevoked, ← hrevoked]
    rw [heq]
    exact AuthorizationSet.mem_activeAt.mpr
      ⟨List.mem_of_find?_eq_some hheld, heq ▸ hactive⟩

theorem replaceState_cases (state : PersistedExternalState) (next : ParsedSnapshot) :
    (replaceState state next = (state, .ok false) ∧ next.desired = state.desired ∧
        next.snapshotRevision = state.snapshotRevision) ∨
      replaceState state next = (next.state, .ok true) := by
  unfold replaceState
  split
  · exact .inr rfl
  · next hsame =>
    have hboth : next.desired = state.desired ∧
        next.snapshotRevision = state.snapshotRevision := by simpa using hsame
    exact .inl ⟨rfl, hboth⟩

theorem adoptSnapshot_cases (state : PersistedExternalState) (next : ParsedSnapshot) :
    (∃ e, adoptSnapshot state next = (state, .error e)) ∨
      (adoptSnapshot state next = (state, .ok false) ∧ next.desired = state.desired ∧
        next.snapshotRevision = state.snapshotRevision) ∨
      (adoptSnapshot state next = (next.state, .ok true) ∧ Follows state next.state) := by
  have haccepted := fun hfollows : Follows state next.state =>
    (replaceState_cases state next).imp_right fun h => And.intro h hfollows
  unfold adoptSnapshot
  split
  · next current incoming hcurrent hincoming =>
    split
    · exact .inl ⟨_, rfl⟩
    · next hstale =>
      split
      · exact .inl ⟨_, rfl⟩
      · next htight =>
        refine .inr (haccepted ?_)
        intro c hc
        have hsame : current = c := Option.some.inj (hcurrent.symm.trans hc)
        subst hsame
        refine ⟨incoming, hincoming, not_lt.mp hstale, fun heq => ?_⟩
        by_cases hdesired : next.desired = state.desired
        · show Narrows state.desired next.desired
          rw [hdesired]
          exact Narrows.refl _
        · have htightens : onlyTightens state.desired next.desired next.quarantined = true := by
            by_contra hnot
            exact htight ⟨heq, hdesired, by simpa using hnot⟩
          exact narrows_of_onlyTightens htightens
  · exact .inl ⟨_, rfl⟩
  · next hnone =>
    refine .inr (haccepted fun c hc => ?_)
    rw [hnone] at hc
    cases hc

/-! ### Sequences of snapshots -/

structure Holder where
  state : PersistedExternalState
  file : Option StateFile

inductive Event where
  | snapshot (next : ParsedSnapshot)
  | restart

def step (h : Holder) : Event → Option Holder
  | .snapshot next =>
      match adoptSnapshot h.state next with
      | (state, .ok true) => some ⟨state, some (.current state)⟩
      | (state, _) => some { h with state := state }
  | .restart => (loadState h.file).toOption.map fun state => { h with state := state }

def Synced (h : Holder) : Prop := ∀ state, loadState h.file = .ok state → state = h.state

theorem loaded_of_toOption {file : Option StateFile} {state : PersistedExternalState}
    (h : (loadState file).toOption = some state) : loadState file = .ok state := by
  cases hload : loadState file with
  | ok s =>
    rw [hload] at h
    cases h
    rfl
  | error e =>
    rw [hload] at h
    cases h

theorem step_follows {h h' : Holder} {e : Event} (hstep : step h e = some h') (hsynced : Synced h) :
    Synced h' ∧ Follows h.state h'.state := by
  cases e with
  | snapshot next =>
    simp only [step] at hstep
    rcases adoptSnapshot_cases h.state next with ⟨e, heq⟩ | ⟨heq, -⟩ | ⟨heq, hkeep⟩
    · rw [heq] at hstep
      cases hstep
      exact ⟨hsynced, Follows.refl _⟩
    · rw [heq] at hstep
      cases hstep
      exact ⟨hsynced, Follows.refl _⟩
    · rw [heq] at hstep
      cases hstep
      refine ⟨?_, hkeep⟩
      intro state hload
      obtain ⟨-, -, hok⟩ := Check.bind_eq_ok.mp hload
      cases hok
      rfl
  | restart =>
    obtain ⟨state, hload, rfl⟩ := Option.map_eq_some_iff.mp hstep
    have hsame := hsynced state (loaded_of_toOption hload)
    subst hsame
    exact ⟨hsynced, Follows.refl _⟩

theorem run_follows {h h' : Holder} (hrun : Runs.Leads step (fun _ _ => True) h h')
    (hsynced : Synced h) : Synced h' ∧ Follows h.state h'.state :=
  hrun.related (fun h h' => Synced h → Synced h' ∧ Follows h.state h'.state)
    (fun _ hs => ⟨hs, Follows.refl _⟩)
    (fun _ _ _ h₁ h₂ hs => ⟨(h₂ (h₁ hs).1).1, (h₁ hs).2.trans (h₂ (h₁ hs).1).2⟩)
    (fun _ _ _ _ hstep hs => step_follows hstep hs) hsynced

/-- Between any two points of a run, whatever snapshots come and however often the process
    restarts: a stored revision never decreases or disappears, and while it is the same no
    credential comes into force that was not.  A refused snapshot changes nothing, and a change
    clears what was applied and acknowledged. -/
theorem revision_never_widens {h₀ h h' : Holder} (hsynced : Synced h₀)
    (hbefore : Runs.Leads step (fun _ _ => True) h₀ h)
    (hrun : Runs.Leads step (fun _ _ => True) h h') :
    (∀ r, h.state.snapshotRevision = some r →
      ∃ r', h'.state.snapshotRevision = some r' ∧ r ≤ r' ∧
        (r' = r → ∀ t, ∀ a ∈ h'.state.desired.activeAt t, a ∈ h.state.desired.activeAt t)) ∧
    ∀ next,
      (∀ e, (adoptSnapshot h'.state next).2 = .error e →
        (adoptSnapshot h'.state next).1 = h'.state) ∧
      ((adoptSnapshot h'.state next).1.desired ≠ h'.state.desired ∨
          (adoptSnapshot h'.state next).1.snapshotRevision ≠ h'.state.snapshotRevision →
        (adoptSnapshot h'.state next).1.appliedSnapshotRevision = none ∧
          (adoptSnapshot h'.state next).1.acknowledgedSnapshotRevision = none) := by
  constructor
  · exact (run_follows hrun (run_follows hbefore hsynced).1).2
  · intro next
    rcases adoptSnapshot_cases h'.state next with ⟨e, heq⟩ | ⟨heq, -⟩ | ⟨heq, -⟩
    · rw [heq]
      exact ⟨fun _ _ => rfl, fun hne => by simp at hne⟩
    · rw [heq]
      exact ⟨fun _ _ => rfl, fun hne => by simp at hne⟩
    · rw [heq]
      exact ⟨nofun, fun _ => ⟨rfl, rfl⟩⟩

/-! ### Snapshots without a revision -/

def sampleCredential : Authorization where
  principalId := "ext_principal001"
  credentialId := "cred_aaaa0001"
  cls := .compatibility
  validFrom := 0
  validUntil := 86400
  revoked := false
  vlessUuid := some "00000000-0000-4000-8000-00000000000a"
  hysteria2Password := some "0123456789abcdef"

def sampleHolder (revision : Option Nat) : Holder :=
  ⟨⟨⟨[sampleCredential]⟩, revision, revision, revision⟩,
    some (.current ⟨⟨[sampleCredential]⟩, revision, revision, revision⟩)⟩

def sampleRevocation : ParsedSnapshot :=
  ⟨⟨[{ sampleCredential with revoked := true }]⟩, some 10, []⟩

/-- After a revocation and a restart the credential is not in force. -/
theorem revision_never_widens_revoked :
    ∃ h, Runs.Leads step (fun _ _ => True) (sampleHolder (some 10)) h ∧
      h.state.desired = sampleRevocation.desired ∧
      ∀ t, ∀ a ∈ h.state.desired.activeAt t, a ∈ (sampleHolder (some 10)).state.desired.activeAt t := by
  have hsynced : Synced (sampleHolder (some 10)) := by
    intro state hload
    obtain ⟨-, -, hok⟩ := Check.bind_eq_ok.mp hload
    cases hok
    rfl
  have hrun : Runs.Leads step (fun _ _ => True) (sampleHolder (some 10))
      ⟨sampleRevocation.state, some (.current sampleRevocation.state)⟩ :=
    Runs.Leads.of_after [.snapshot sampleRevocation, .restart] rfl
  refine ⟨_, hrun, rfl, ?_⟩
  obtain ⟨r', hr', -, hnarrow⟩ := (revision_never_widens hsynced (Runs.Leads.refl _) hrun).1 10 rfl
  exact hnarrow (Option.some.inj hr').symm

/-- Where no revision is stored, a snapshot without one may add credentials. -/
theorem legacy_snapshot_widens :
    adoptSnapshot .empty ⟨⟨[sampleCredential]⟩, none, []⟩ =
        (⟨⟨[sampleCredential]⟩, none, none, none⟩, .ok true) ∧
      (PersistedExternalState.empty).snapshotRevision = none ∧
      sampleCredential ∈ (AuthorizationSet.mk [sampleCredential]).activeAt 0 ∧
      sampleCredential ∉ PersistedExternalState.empty.desired.activeAt 0 := by
  refine ⟨rfl, rfl, ?_, ?_⟩
  · decide
  · exact List.not_mem_nil

end SingboxVpn.Snapshot
