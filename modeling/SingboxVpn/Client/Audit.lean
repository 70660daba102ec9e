import SingboxVpn.Client.Agreement
import SingboxVpn.Lib.Mention

/-!
# The audits of a document

Two audits keep server-side material from a client: one searches the serialized document for
forbidden texts, the other walks the embedded configuration.  Both look at the parts of a value one
by one, so that what passes in one document passes in every document built from the same parts.

* `IsClean`, `auditSerialized_ok` — the search, as a condition on keys and scalars.
* `passes_outbound`, `passes_allOutbounds` — the outbounds of dialable endpoints pass.
-/

namespace SingboxVpn

open Json (object strs)

/-! ### Forbidden texts -/

def forbiddenTexts : List (List Char) := FORBIDDEN_CONTENT.map fun p => p.1.toList.map Char.toLower

theorem forbiddenTexts_plain : ∀ needle ∈ forbiddenTexts,
    needle ≠ [] ∧ ∀ c ∈ Json.separators, c ∉ needle := by
  have hall : (forbiddenTexts.all fun needle =>
      !needle.isEmpty && Json.separators.all fun c => !needle.contains c) = true := by
    decide +kernel
  intro needle hneedle
  simpa using List.all_eq_true.mp hall needle hneedle

/-- Nothing forbidden occurs in a key or in a scalar of the value. -/
def IsClean (j : Json) : Prop := ∀ needle ∈ forbiddenTexts, ¬ j.Mentions needle

theorem isClean_iff {j : Json} :
    IsClean j ↔ ∀ p ∈ FORBIDDEN_CONTENT,
      Text.occurs (p.1.toList.map Char.toLower) (j.chars.map Char.toLower) = false := by
  simp only [IsClean, forbiddenTexts, List.forall_mem_map]
  refine forall₂_congr fun p hp => ?_
  have hplain := forbiddenTexts_plain _ (List.mem_map_of_mem hp)
  rw [← Json.infix_chars hplain.1 hplain.2 j, ← Text.occurs_iff, Bool.not_eq_true]

theorem auditSerialized_ok {doc : ProvisioningDocument} :
    doc.auditSerialized = .ok () ↔ IsClean (doc.toValue.remove "singbox_config") := by
  rw [isClean_iff, ProvisioningDocument.auditSerialized]
  simp only [Check.each_ok, Check.refuseIf_ok]

section IsClean

@[simp] theorem isClean_arr {items : List Json} :
    IsClean (.arr items) ↔ ∀ j ∈ items, IsClean j := by
  simp only [IsClean, Json.mentions_arr, not_exists, not_and]
  exact ⟨fun h j hj needle hn => h needle hn j hj, fun h needle hn j hj => h j hj needle hn⟩

@[simp] theorem isClean_strs {ss : List String} : IsClean (strs ss) ↔ ∀ s ∈ ss, IsClean (.str s) := by
  simp [strs]

theorem isClean_fields {j : Json} (hobj : j.isObject = true) :
    IsClean j ↔ ∀ p ∈ j.fields, IsClean (.str p.1) ∧ IsClean p.2 := by
  cases j with
  | obj m =>
    simp only [IsClean, Json.mentions_obj, Json.mentions_str, not_exists, not_and, not_or]
    constructor
    · exact fun h p hp => ⟨fun needle hn => (h needle hn p hp).1, fun needle hn => (h needle hn p hp).2⟩
    · exact fun h needle hn p hp => ⟨(h p hp).1 needle hn, (h p hp).2 needle hn⟩
  | _ => cases hobj

theorem isClean_object {kvs : List (String × Json)} (h : (kvs.map Prod.fst).Nodup) :
    IsClean (object kvs) ↔ ∀ p ∈ kvs, IsClean (.str p.1) ∧ IsClean p.2 := by
  rw [isClean_fields (Json.isObject_object kvs)]
  simp only [Json.mem_fields_object h]

theorem isClean_contract : ∀ s ∈ ["schema_version", "server", "capabilities",
    "experimental_capabilities", "endpoints", "access_paths", "product", "version",
    "minimum_client_version", PRODUCT, SERVER_VERSION, MINIMUM_CLIENT_VERSION, "vless-reality",
    "hysteria2", "diag-tcp-only", "diag-vision-off"], IsClean (.str s) := by
  simp only [isClean_iff]
  decide +kernel

end IsClean

/-! ### Documents of this server -/

theorem mem_capabilitiesOf {eps : List Endpoint} {cap : Capability} :
    cap ∈ capabilitiesOf eps ↔ ∃ ep ∈ eps, Capability.forTransport ep.transport = cap := by
  have hfold : ∀ (eps : List Endpoint) (found : List Capability),
      cap ∈ eps.foldl (fun capabilities ep =>
        if capabilities.contains (Capability.forTransport ep.transport) then capabilities
        else capabilities ++ [Capability.forTransport ep.transport]) found ↔
      cap ∈ found ∨ ∃ ep ∈ eps, Capability.forTransport ep.transport = cap := by
    intro eps
    induction eps with
    | nil => simp
    | cons ep eps ih =>
      intro found
      rw [List.foldl_cons, ih, List.exists_mem_cons_iff, ← or_assoc]
      refine or_congr ?_ Iff.rfl
      split
      · next hmem =>
        refine ⟨.inl, ?_⟩
        rintro (h | rfl)
        · exact h
        · exact List.contains_iff_mem.mp hmem
      · simp [eq_comm]
  simpa [capabilitiesOf] using hfold eps []

def assembled (user : CompatUser) (served : List CompatEndpoint) (accessPaths : List AccessPath)
    (catalog : List Endpoint) (config : Json) : ProvisioningDocument where
  schemaVersion := SCHEMA_VERSION
  server := .current SERVER_VERSION
  capabilities := capabilitiesOf catalog
  experimentalCapabilities := experimentalCapabilitiesOf user served
  accessPaths := accessPaths
  endpoints := catalog
  singboxConfig := some config

def assembledMembers (user : CompatUser) (served : List CompatEndpoint)
    (accessPaths : List AccessPath) (catalog : List Endpoint) (config : Json) :
    List (String × Json) :=
  [("schema_version", .num 1),
    ("server", object [("product", .str PRODUCT), ("version", .str SERVER_VERSION),
      ("minimum_client_version", .str MINIMUM_CLIENT_VERSION)]),
    ("capabilities", strs ((capabilitiesOf catalog).map Capability.asStr)),
    ("experimental_capabilities", strs ((experimentalCapabilitiesOf user served).map (·.name))),
    ("endpoints", .arr (catalog.map Endpoint.toValue))] ++
  (if accessPaths.isEmpty then []
    else [("access_paths", .arr (accessPaths.map AccessPath.toValue))]) ++
  [("singbox_config", config)]

section Assembled

variable {user : CompatUser} {served : List CompatEndpoint} {accessPaths : List AccessPath}
  {catalog : List Endpoint} {config : Json}

theorem capability_name (ep : Endpoint) :
    (Capability.forTransport ep.transport).asStr ∈ ["vless-reality", "hysteria2"] := by
  unfold Endpoint.transport
  cases ep.params <;> simp [Capability.forTransport, Capability.asStr]

theorem mem_experimental {cap : ExperimentalCapability}
    (h : cap ∈ experimentalCapabilitiesOf user served) :
    cap.name ∈ ["diag-tcp-only", "diag-vision-off"] := by
  unfold experimentalCapabilitiesOf at h
  split at h
  · rcases List.mem_cons.mp h with rfl | h
    · decide
    · split at h
      · rw [List.mem_singleton.mp h]
        decide
      · cases h
  · cases h

theorem auditSerialized_assembled :
    (assembled user served accessPaths catalog config).auditSerialized = .ok () ↔
      (∀ ep ∈ catalog, IsClean ep.toValue) ∧ ∀ path ∈ accessPaths, IsClean path.toValue := by
  have hfixed := isClean_contract
  have hone : IsClean (.num 1) := isClean_iff.mpr (by decide +kernel)
  have hserver : IsClean (object [("product", .str PRODUCT), ("version", .str SERVER_VERSION),
      ("minimum_client_version", .str MINIMUM_CLIENT_VERSION)]) := by
    rw [isClean_object (by decide)]
    simp only [List.forall_mem_cons]
    exact ⟨⟨hfixed _ (by decide), hfixed _ (by decide)⟩, ⟨hfixed _ (by decide), hfixed _ (by decide)⟩,
      ⟨hfixed _ (by decide), hfixed _ (by decide)⟩, by simp⟩
  have hcaps : IsClean (strs ((capabilitiesOf catalog).map Capability.asStr)) := by
    rw [isClean_strs, List.forall_mem_map]
    intro cap hcap
    obtain ⟨ep, -, rfl⟩ := mem_capabilitiesOf.mp hcap
    have hname := capability_name ep
    simp only [List.mem_cons, List.not_mem_nil, or_false] at hname
    rcases hname with h | h <;> rw [h] <;> exact hfixed _ (by decide)
  have hexperimental : IsClean (strs ((experimentalCapabilitiesOf user served).map (·.name))) := by
    rw [isClean_strs, List.forall_mem_map]
    intro cap hcap
    have hname := mem_experimental hcap
    simp only [List.mem_cons, List.not_mem_nil, or_false] at hname
    rcases hname with h | h <;> rw [h] <;> exact hfixed _ (by decide)
  have hvalue : (assembled user served accessPaths catalog config).toValue =
      object (assembledMembers user served accessPaths catalog config) := rfl
  have hkeys : ((assembledMembers user served accessPaths catalog config).map Prod.fst).Nodup := by
    unfold assembledMembers
    split <;> simp
  rw [auditSerialized_ok, hvalue, isClean_fields rfl]
  simp only [Json.mem_fields_remove, Json.mem_fields_object hkeys]
  constructor
  · intro hclean
    refine ⟨fun ep hep => ?_, fun path hpath => ?_⟩
    · have harr := (hclean ("endpoints", .arr (catalog.map Endpoint.toValue))
        ⟨by simp [assembledMembers], by simp⟩).2
      exact isClean_arr.mp harr _ (List.mem_map_of_mem hep)
    · have hne : accessPaths.isEmpty = false :=
        List.isEmpty_eq_false_iff.mpr (List.ne_nil_of_mem hpath)
      have harr := (hclean ("access_paths", .arr (accessPaths.map AccessPath.toValue))
        ⟨by simp [assembledMembers, hne], by simp⟩).2
      exact isClean_arr.mp harr _ (List.mem_map_of_mem hpath)
  · rintro ⟨hendpoints, hpaths⟩ p ⟨hp, hne⟩
    simp only [assembledMembers, List.mem_append, List.mem_cons, List.not_mem_nil, or_false] at hp
    rcases hp with ((rfl | rfl | rfl | rfl | rfl) | hp) | rfl
    · exact ⟨hfixed _ (by simp), hone⟩
    · exact ⟨hfixed _ (by simp), hserver⟩
    · exact ⟨hfixed _ (by simp), hcaps⟩
    · exact ⟨hfixed _ (by simp), hexperimental⟩
    · refine ⟨hfixed _ (by simp), isClean_arr.mpr ?_⟩
      rw [List.forall_mem_map]
      exact hendpoints
    · split at hp
      · cases hp
      · rw [List.mem_singleton.mp hp]
        refine ⟨hfixed _ (by simp), isClean_arr.mpr ?_⟩
        rw [List.forall_mem_map]
        exact hpaths
    · exact absurd rfl hne

end Assembled

/-! ### The walk over the configuration -/

def Passes (j : Json) : Prop := auditEmbeddedValue j = .ok ()

instance : DecidablePred Passes := fun j => inferInstanceAs (Decidable (auditEmbeddedValue j = .ok ()))

def isPlainKey (key : String) : Bool :=
  let lowered := Text.toAsciiLowercase key
  !(EMBEDDED_CONFIG_FORBIDDEN_KEYS.any fun k => Text.contains k lowered) && lowered != "insecure"

theorem member_of_plainKey {key : String} (h : isPlainKey key = true) (child : Json) :
    auditEmbeddedMember key child = .ok () := by
  simp only [isPlainKey, Bool.and_eq_true, Bool.not_eq_true', bne_iff_ne] at h
  simp only [auditEmbeddedMember, Check.bind_ok, Check.refuseIf_ok]
  exact ⟨h.1, by simp [h.2]⟩

section Passes

variable {j v : Json} {k : String}

theorem auditEmbeddedItems_ok {items : List Json} :
    auditEmbeddedItems items = .ok () ↔ ∀ j ∈ items, Passes j := by
  induction items with
  | nil => simp [auditEmbeddedItems]
  | cons item items ih => simp [auditEmbeddedItems, Passes, ih]

theorem auditEmbeddedFields_ok {fields : List (String × Json)} :
    auditEmbeddedFields fields = .ok () ↔
      ∀ p ∈ fields, auditEmbeddedMember p.1 p.2 = .ok () ∧ Passes p.2 := by
  induction fields with
  | nil => simp [auditEmbeddedFields]
  | cons p fields ih => simp [auditEmbeddedFields, Passes, ih, and_assoc]

@[simp] theorem passes_arr {items : List Json} : Passes (.arr items) ↔ ∀ j ∈ items, Passes j := by
  rw [Passes, auditEmbeddedValue, auditEmbeddedItems_ok]

@[simp] theorem passes_strs {ss : List String} : Passes (strs ss) ↔ ∀ s ∈ ss, Passes (.str s) := by
  simp [strs]

@[simp] theorem passes_num {n : Int} : Passes (.num n) := rfl

@[simp] theorem passes_bool {b : Bool} : Passes (.bool b) := rfl

theorem passes_fields (hobj : j.isObject = true) :
    Passes j ↔ ∀ p ∈ j.fields, auditEmbeddedMember p.1 p.2 = .ok () ∧ Passes p.2 := by
  cases j with
  | obj m => rw [Passes, auditEmbeddedValue, auditEmbeddedFields_ok, Json.fields_obj]
  | _ => cases hobj

theorem passes_object {kvs : List (String × Json)}
    (h : ∀ p ∈ kvs, auditEmbeddedMember p.1 p.2 = .ok () ∧ Passes p.2) : Passes (object kvs) := by
  rw [passes_fields (Json.isObject_object kvs)]
  exact fun p hp => h p (Json.mem_of_mem_object hp)

theorem Passes.set (h : Passes j) (hobj : j.isObject = true) (hk : isPlainKey k = true)
    (hv : Passes v) : Passes (j.set k v) := by
  rw [passes_fields (by simp [hobj])]
  intro p hp
  rcases Json.mem_fields_set hp with rfl | hp
  · exact ⟨member_of_plainKey hk v, hv⟩
  · exact (passes_fields hobj).mp h p hp

theorem Passes.get? (h : Passes j) (hget : j.get? k = some v) : Passes v := by
  cases j with
  | obj m => exact ((passes_fields rfl).mp h _ (Json.mem_of_get? hget)).2
  | _ => cases hget

theorem Passes.idx (h : Passes j) : Passes (j.idx k) := by
  unfold Json.idx
  cases hget : j.get? k with
  | none => rfl
  | some v => exact h.get? hget

end Passes

/-! ### Endpoints that can be dialled -/

def Endpoint.dialTexts (ep : Endpoint) : List String :=
  [ep.tag, ep.host, ep.serverName] ++
    match ep.params with
    | .vlessReality uuid flow reality =>
      [uuid, reality.publicKey, reality.shortId, reality.fingerprint] ++ flow.toList
    | .hysteria2 password obfs => password :: obfs.toList.flatMap fun o => [o.obfsType, o.password]

def Dialable (ep : Endpoint) : Prop := ∀ s ∈ ep.dialTexts, Passes (.str s)

def configKeys : List String :=
  ["type", "tag", "server", "server_port", "uuid", "password", "tls", "enabled", "server_name",
    "utls", "fingerprint", "reality", "public_key", "short_id", "flow", "network", "obfs", "detour",
    "outbounds", "url", "interval", "default", "route"]

theorem isPlainKey_config : ∀ k ∈ configKeys, isPlainKey k = true := by
  decide +kernel

theorem passes_fixed : ∀ s ∈ ["vless", "hysteria2", "tcp", "urltest", "selector", "direct", "auto",
    "select", "https://www.gstatic.com/generate_204", "1m"], Passes (.str s) := by
  decide +kernel

theorem member_insecure : auditEmbeddedMember "insecure" (.bool false) = .ok () := by
  decide +kernel

theorem passes_literal (kvs : List (String × Json)) (hkeys : ∀ p ∈ kvs, p.1 ∈ configKeys)
    (h : ∀ p ∈ kvs, Passes p.2) : Passes (object kvs) :=
  passes_object fun p hp => ⟨member_of_plainKey (isPlainKey_config _ (hkeys p hp)) p.2, h p hp⟩

theorem Passes.assign {j v : Json} {k : String} (h : Passes j) (hobj : j.isObject = true)
    (hk : k ∈ configKeys) (hv : Passes v) : Passes (j.set k v) :=
  h.set hobj (isPlainKey_config k hk) hv

section Dialable

variable {compat : CompatibilityMode} {ep via : Endpoint} {ob : Json}

theorem Dialable.tag (h : Dialable ep) : Passes (.str ep.tag) := h _ (by simp [Endpoint.dialTexts])

theorem passes_endpointOutbound (h : Dialable ep) : Passes (endpointOutbound compat ep) := by
  have htag := h.tag
  have hhost : Passes (.str ep.host) := h _ (by simp [Endpoint.dialTexts])
  have hname : Passes (.str ep.serverName) := h _ (by simp [Endpoint.dialTexts])
  unfold endpointOutbound
  cases hparams : ep.params with
  | vlessReality uuid flow reality =>
    have htext : ∀ s ∈ [uuid, reality.publicKey, reality.shortId, reality.fingerprint] ++
        flow.toList, Passes (.str s) := by
      intro s hs
      apply h s
      rw [Endpoint.dialTexts, hparams]
      exact List.mem_append_right _ hs
    simp only [List.forall_mem_append, List.forall_mem_cons, Option.mem_toList] at htext
    obtain ⟨⟨huuid, hpublic, hshort, hfingerprint, -⟩, hflow⟩ := htext
    have htls := passes_literal ([("enabled", .bool true),
        ("server_name", .str ep.serverName),
        ("utls", object [("enabled", .bool true), ("fingerprint", .str reality.fingerprint)]),
        ("reality", object [("enabled", .bool true), ("public_key", .str reality.publicKey),
          ("short_id", .str reality.shortId)])]) (by simp [configKeys]) (by
      simp only [List.forall_mem_cons]
      refine ⟨passes_bool, hname, passes_literal _ ?_ ?_, passes_literal _ ?_ ?_, by simp⟩
      · simp [configKeys]
      · simp [hfingerprint]
      · simp [configKeys]
      · simp [hpublic, hshort])
    have hplain := passes_literal ([("type", .str "vless"), ("tag", .str ep.tag),
        ("server", .str ep.host), ("server_port", .num ep.port), ("uuid", .str uuid),
        ("tls", _)]) (by simp [configKeys]) (by
      simp only [List.forall_mem_cons]
      exact ⟨passes_fixed _ (by decide), htag, hhost, passes_num, huuid, htls, by simp⟩)
    have hnetwork : Passes (.str "tcp") := passes_fixed _ (by decide)
    cases flow with
    | none =>
      dsimp only
      split
      · exact hplain.assign rfl (by decide) hnetwork
      · exact hplain
    | some flow =>
      have hwith := hplain.assign rfl (by decide : "flow" ∈ configKeys) (hflow flow rfl)
      dsimp only
      split
      · exact hwith.assign (by simp) (by decide) hnetwork
      · exact hwith
  | hysteria2 password obfs =>
    have htext : ∀ s ∈ password :: obfs.toList.flatMap fun o => [o.obfsType, o.password],
        Passes (.str s) := by
      intro s hs
      apply h s
      rw [Endpoint.dialTexts, hparams]
      exact List.mem_append_right _ hs
    have htls : Passes (object [("enabled", .bool true), ("server_name", .str ep.serverName),
        ("insecure", .bool false)]) := by
      apply passes_object
      simp only [List.forall_mem_cons]
      exact ⟨⟨member_of_plainKey (isPlainKey_config _ (by decide)) _, passes_bool⟩,
        ⟨member_of_plainKey (isPlainKey_config _ (by decide)) _, hname⟩,
        ⟨member_insecure, passes_bool⟩, by simp⟩
    have hplain := passes_literal ([("type", .str "hysteria2"), ("tag", .str ep.tag),
        ("server", .str ep.host), ("server_port", .num ep.port), ("password", .str password),
        ("tls", _)]) (by simp [configKeys]) (by
      simp only [List.forall_mem_cons]
      exact ⟨passes_fixed _ (by decide), htag, hhost, passes_num, htext _ (by simp), htls, by simp⟩)
    cases obfs with
    | none => exact hplain
    | some o =>
      refine hplain.assign rfl (by decide) (passes_literal _ (by simp [configKeys]) ?_)
      simp only [List.forall_mem_cons]
      exact ⟨htext _ (by simp), htext _ (by simp), by simp⟩

theorem passes_outbound {r : Route} (h : Dialable r.endpoint)
    (hhop : ∀ via ∈ r.hop, Passes (.str via.tag)) : Passes (r.outbound compat) := by
  obtain ⟨ep, hop⟩ := r
  have hobj : (endpointOutbound compat ep).isObject = true := isObject_endpointOutbound compat ep
  have hplain : Passes (endpointOutbound compat ep) := passes_endpointOutbound h
  cases hop with
  | none => exact hplain
  | some via =>
    have hnetwork : Passes (.str "tcp") := passes_fixed _ (by decide)
    have htcp := hplain.assign hobj (by decide : "network" ∈ configKeys) hnetwork
    exact htcp.assign (by simp [hobj]) (by decide : "detour" ∈ configKeys) (hhop via rfl)

theorem dialable_of_passes (h : Passes ob) (hagrees : AgreesWith ob ep)
    (htag : tagOf ob = some ep.tag) : Dialable ep := by
  have htagPasses : Passes (.str ep.tag) := by
    obtain ⟨v, hget, hstr⟩ := Option.bind_eq_some_iff.mp htag
    cases v with
    | str s =>
      cases hstr
      exact h.get? hget
    | _ => cases hstr
  have htls : Passes (ob.idx "tls") := h.idx
  intro s hs
  rw [Endpoint.dialTexts, List.mem_append] at hs
  rcases hs with hs | hs
  · simp only [List.mem_cons, List.not_mem_nil, or_false] at hs
    rcases hs with rfl | rfl | rfl
    · exact htagPasses
    · exact h.get? hagrees.server
    · exact htls.get? hagrees.serverName
  · cases hparams : ep.params with
    | vlessReality uuid flow reality =>
      obtain ⟨-, huuid, hflow, hpublic, hshort, hfingerprint⟩ := hagrees.vless _ _ _ hparams
      simp only [hparams, List.mem_append, List.mem_cons, List.not_mem_nil, or_false,
        Option.mem_toList] at hs
      rcases hs with (rfl | rfl | rfl | rfl) | rfl
      · exact h.get? huuid
      · exact htls.idx.get? hpublic
      · exact htls.idx.get? hshort
      · exact htls.idx.get? hfingerprint
      · exact h.get? hflow
    | hysteria2 password obfs =>
      obtain ⟨-, hpassword, -, hobfs⟩ := hagrees.hysteria2 _ _ hparams
      simp only [hparams, List.mem_cons, List.mem_flatMap, Option.mem_toList, List.not_mem_nil,
        or_false] at hs
      rcases hs with rfl | ⟨o, ho, rfl | rfl⟩
      · exact h.get? hpassword
      · exact h.idx.get? (hobfs o ho).1
      · exact h.idx.get? (hobfs o ho).2

end Dialable

/-! ### The configuration -/

theorem passes_clientRoute (compat : CompatibilityMode) : Passes (clientRoute compat) := by
  cases compat <;> decide +kernel

theorem auditRoute_clientRoute (compat : CompatibilityMode) :
    ProvisioningDocument.auditRoute (clientRoute compat) = .ok () := by
  cases compat <;> decide +kernel

theorem auditEmbeddedConfig_ok {doc : ProvisioningDocument} {set : RouteSet}
    {compat : CompatibilityMode} (hc : doc.singboxConfig = some (set.config compat)) :
    doc.auditEmbeddedConfig = .ok () ↔ ∀ ob ∈ set.allOutbounds, Passes ob := by
  have hnodup : ([("outbounds", .arr set.allOutbounds), ("route", clientRoute compat)].map
      (Prod.fst : String × Json → String)).Nodup := by simp
  -- the two members of a configuration are both permitted
  have hallowed : ∀ key ∈ (set.config compat).fields.map Prod.fst,
      (!EMBEDDED_CONFIG_TOP_LEVEL_ALLOWED.contains key) = false := by
    intro key hkey
    obtain ⟨p, hp, rfl⟩ := List.mem_map.mp hkey
    have hmem := (Json.mem_fields_object hnodup).mp hp
    simp only [List.mem_cons, List.not_mem_nil, or_false] at hmem
    rcases hmem with rfl | rfl <;> simp [EMBEDDED_CONFIG_TOP_LEVEL_ALLOWED]
  have hroute : (set.config compat).fields.lookup "route" = some (clientRoute compat) := by
    have hget := Json.get?_object
      [("outbounds", .arr set.allOutbounds), ("route", clientRoute compat)] "route"
    rw [show [("outbounds", Json.arr set.allOutbounds), ("route", clientRoute compat)].reverse.lookup
      "route" = some (clientRoute compat) from rfl] at hget
    exact hget
  have hwalk : auditEmbeddedValue (.obj (set.config compat).fields) = .ok () ↔
      ∀ ob ∈ set.allOutbounds, Passes ob := by
    rw [auditEmbeddedValue, auditEmbeddedFields_ok]
    have hkey : ∀ k ∈ configKeys, ∀ v, auditEmbeddedMember k v = .ok () := fun k hk v =>
      member_of_plainKey (isPlainKey_config k hk) v
    constructor
    · intro h
      have houtbounds := (h ("outbounds", .arr set.allOutbounds)
        ((Json.mem_fields_object hnodup).mpr (by simp))).2
      exact passes_arr.mp houtbounds
    · intro h p hp
      have hmem := (Json.mem_fields_object hnodup).mp hp
      simp only [List.mem_cons, List.not_mem_nil, or_false] at hmem
      rcases hmem with rfl | rfl
      · exact ⟨hkey "outbounds" (by decide) _, passes_arr.mpr h⟩
      · exact ⟨hkey "route" (by decide) _, passes_clientRoute compat⟩
  rw [ProvisioningDocument.auditEmbeddedConfig, hc,
    show set.config compat = .obj (set.config compat).fields from rfl]
  simp only [Check.bind_ok, Check.each_ok, Check.refuseIf_ok, Check.onSome_ok,
    hroute, Option.mem_def, Option.some.injEq, forall_eq', auditRoute_clientRoute, true_and, hwalk]
  exact ⟨fun h => h.2, fun h => ⟨hallowed, h⟩⟩

theorem passes_allOutbounds {set : RouteSet} (hroutes : ∀ ob ∈ set.outbounds, Passes ob)
    (htags : ∀ tag ∈ set.tags, Passes (.str tag))
    (hauto : ∀ tag ∈ set.autoMembers, Passes (.str tag)) (hdefault : Passes (.str set.defaultTag)) :
    ∀ ob ∈ set.allOutbounds, Passes ob := by
  have hfixed := passes_fixed
  intro ob hob
  rcases mem_allOutbounds.mp hob with hob | rfl | rfl | rfl
  · exact hroutes ob hob
  · refine passes_literal _ (by simp [configKeys]) ?_
    simp only [List.forall_mem_cons]
    exact ⟨hfixed _ (by decide), hfixed _ (by decide), passes_strs.mpr hauto,
      hfixed _ (by decide), hfixed _ (by decide), by simp⟩
  · refine passes_literal _ (by simp [configKeys]) ?_
    simp only [List.forall_mem_cons]
    refine ⟨hfixed _ (by decide), hfixed _ (by decide), passes_strs.mpr ?_, hdefault, by simp⟩
    rw [List.forall_mem_append]
    exact ⟨htags, by simpa using hfixed "auto" (by decide)⟩
  · refine passes_literal _ (by simp [configKeys]) ?_
    simp only [List.forall_mem_cons]
    exact ⟨hfixed _ (by decide), hfixed _ (by decide), by simp⟩

end SingboxVpn
