import SingboxVpn.Client.Audit

/-!
# Reading a provisioning document

`ProvisioningDocument::from_json` of `crates/provisioning-contract/src/lib.rs`, on the syntax tree
of a text: an object is the list of its members as they are written, a key twice if it is there
twice.
-/

namespace SingboxVpn

/-! ### Reading a struct -/

/-- The members of a struct by their names, which may be left out: the values are then in the order
    of the declaration. -/
def entries (keys : List String) : Json → Option (List (String × Json))
  | .obj m => some m
  | .arr l => if l.length ≤ keys.length then some (keys.zip l) else none
  | _ => none

/-- No member that the struct knows is there twice; others are skipped. -/
def noRepeats (keys : List String) (m : List (String × Json)) : Bool :=
  decide ((m.map Prod.fst).filter keys.contains).Nodup

def members (keys : List String) (j : Json) : Option (String → Option Json) := do
  let m ← entries keys j
  if noRepeats keys m then some fun k => m.lookup k else none

section Fields

variable {α : Type} (parse : Json → Option α)

def required (value : Option Json) : Option α := value.bind parse

def optional : Option Json → Option (Option α)
  | none | some .null => some none
  | some v => (parse v).map some

def defaulted (d : α) : Option Json → Option α
  | none => some d
  | some v => parse v

def listOf : Json → Option (List α)
  | .arr l => l.mapM parse
  | _ => none

end Fields

def unsigned (bound : Nat) : Json → Option Nat
  | .num n => if 0 ≤ n ∧ n < bound then some n.toNat else none
  | _ => none

/-! ### The types of the contract -/

/-- A capability from its name. -/
def Capability.fromWire (s : String) : Capability :=
  if s = "vless-reality" then .vlessReality
  else if s = "hysteria2" then .hysteria2
  else .other s

def serverKeys : List String := ["product", "version", "minimum_client_version"]

def parseServerInfo (j : Json) : Option ServerInfo := do
  let get ← members serverKeys j
  let product ← required Json.asStr (get "product")
  let version ← required Json.asStr (get "version")
  let minimumClientVersion ← required Json.asStr (get "minimum_client_version")
  some ⟨product, version, minimumClientVersion⟩

def accessPathKeys : List String :=
  ["id", "kind", "via_endpoint_id", "failure_domain", "region", "provider", "capabilities"]

def parseAccessPath (j : Json) : Option AccessPath := do
  let get ← members accessPathKeys j
  let id ← required Json.asStr (get "id")
  let kind ← required Json.asStr (get "kind")
  let viaEndpointId ← optional Json.asStr (get "via_endpoint_id")
  let failureDomain ← optional Json.asStr (get "failure_domain")
  let region ← optional Json.asStr (get "region")
  let provider ← optional Json.asStr (get "provider")
  let capabilities ← defaulted (listOf Json.asStr) [] (get "capabilities")
  some ⟨id, .fromWire kind, viaEndpointId, failureDomain, region, provider, capabilities⟩

def realityKeys : List String := ["public_key", "short_id", "fingerprint"]

def parseReality (j : Json) : Option RealityParams := do
  let get ← members realityKeys j
  let publicKey ← required Json.asStr (get "public_key")
  let shortId ← required Json.asStr (get "short_id")
  let fingerprint ← required Json.asStr (get "fingerprint")
  some ⟨publicKey, shortId, fingerprint⟩

def obfsKeys : List String := ["type", "password"]

def parseObfs (j : Json) : Option Hysteria2Obfs := do
  let get ← members obfsKeys j
  let obfsType ← required Json.asStr (get "type")
  let password ← required Json.asStr (get "password")
  some ⟨obfsType, password⟩

/-- The variant that the tag of the union names, or counts.  There is no other variant. -/
def transportTag : Json → Option CompatTransport
  | .str s =>
    if s = "vless-reality" then some .vlessReality
    else if s = "hysteria2" then some .hysteria2
    else none
  | .num n => if n = 0 then some .vlessReality else if n = 1 then some .hysteria2 else none
  | _ => none

def vlessKeys : List String := ["uuid", "flow", "reality"]

def hysteria2Keys : List String := ["password", "obfs"]

def parseVless (j : Json) : Option TransportParams := do
  let get ← members vlessKeys j
  let uuid ← required Json.asStr (get "uuid")
  let flow ← optional Json.asStr (get "flow")
  let reality ← required parseReality (get "reality")
  some (.vlessReality uuid flow reality)

def parseHysteria2 (j : Json) : Option TransportParams := do
  let get ← members hysteria2Keys j
  let password ← required Json.asStr (get "password")
  let obfs ← optional parseObfs (get "obfs")
  some (.hysteria2 password obfs)

/-- The tagged union, read from the members of the endpoint that it is part of. -/
def parseParams (j : Json) : Option TransportParams := do
  let get ← members ["transport"] j
  match ← required transportTag (get "transport") with
  | .vlessReality => parseVless j
  | .hysteria2 => parseHysteria2 j

def ownEndpointKeys : List String :=
  ["id", "tag", "host", "port", "server_name", "failure_domain", "region", "provider", "asn", "path"]

/-- An endpoint has a flattened part, so that its members always have names. -/
def parseEndpoint (j : Json) : Option Endpoint :=
  if j.isObject then do
    let get ← members ownEndpointKeys j
    let id ← required Json.asStr (get "id")
    let tag ← required Json.asStr (get "tag")
    let host ← required Json.asStr (get "host")
    let port ← required (unsigned (2 ^ 16)) (get "port")
    let serverName ← required Json.asStr (get "server_name")
    let failureDomain ← optional Json.asStr (get "failure_domain")
    let region ← optional Json.asStr (get "region")
    let provider ← optional Json.asStr (get "provider")
    let asn ← optional Json.asStr (get "asn")
    let path ← optional Json.asStr (get "path")
    let params ← parseParams j
    some ⟨id, tag, host, port, serverName, failureDomain, region, provider, asn,
      path.map .fromWire, params⟩
  else none

mutual

/-- A value as it is held: of a key that is there twice the last one counts. -/
def held : Json → Json
  | .arr l => .arr (heldItems l)
  | .obj m => Json.object (heldFields m)
  | v => v

def heldItems : List Json → List Json
  | [] => []
  | v :: l => held v :: heldItems l

def heldFields : List (String × Json) → List (String × Json)
  | [] => []
  | (k, v) :: m => (k, held v) :: heldFields m

end

def documentKeys : List String :=
  ["schema_version", "server", "capabilities", "experimental_capabilities", "access_paths",
    "endpoints", "singbox_config"]

def parseDocument (j : Json) : Option ProvisioningDocument := do
  let get ← members documentKeys j
  let schemaVersion ← required (unsigned (2 ^ 32)) (get "schema_version")
  let server ← required parseServerInfo (get "server")
  let capabilities ← required (listOf Json.asStr) (get "capabilities")
  let experimental ← defaulted (listOf Json.asStr) [] (get "experimental_capabilities")
  let accessPaths ← defaulted (listOf parseAccessPath) [] (get "access_paths")
  let endpoints ← required (listOf parseEndpoint) (get "endpoints")
  let singboxConfig ← optional (fun v => some (held v)) (get "singbox_config")
  some ⟨schemaVersion, server, capabilities.map .fromWire, experimental.map .mk, accessPaths,
    endpoints, singboxConfig⟩

/-- Parse and validate; what the deserializer says about a text it refuses is a parameter. -/
def fromJson (explain : Json → String) (j : Json) : Except ContractError ProvisioningDocument :=
  match parseDocument j with
  | none => .error (.invalid "document" ("could not be parsed: " ++ explain j))
  | some doc => do
    doc.validate
    .ok doc

variable {j j' : Json} {α : Type} {change : α → α → Prop} {added : α → Prop} {known : List String}

theorem fromJson_ok {explain : Json → String} {doc : ProvisioningDocument} :
    fromJson explain j = .ok doc ↔ parseDocument j = some doc ∧ doc.validate = .ok () := by
  unfold fromJson
  cases parseDocument j with
  | none => simp
  | some doc' =>
    simp only [Check.bind_ok, Except.ok.injEq, Option.some.injEq]
    constructor
    · rintro ⟨hvalid, rfl⟩
      exact ⟨rfl, hvalid⟩
    · rintro ⟨rfl, hvalid⟩
      exact ⟨hvalid, rfl⟩

/-! ### Adding to a document -/

/-- A list with elements changed in one way and others put in between. -/
inductive Inserts {α : Type} (change : α → α → Prop) (added : α → Prop) : List α → List α → Prop
  | nil : Inserts change added [] []
  | keep {a b : α} {l l' : List α} :
    change a b → Inserts change added l l' → Inserts change added (a :: l) (b :: l')
  | add {b : α} {l l' : List α} :
    added b → Inserts change added l l' → Inserts change added l (b :: l')

/-- A member that the contract does not know, without forbidden content. -/
def UnknownMember (known : List String) (p : String × Json) : Prop :=
  p.1 ∉ known ∧ IsClean (.str p.1) ∧ IsClean p.2

/-- The members of an object with the values changed and unknown ones added. -/
def MembersExtend (known : List String) (change : String → Json → Json → Prop) :
    List (String × Json) → List (String × Json) → Prop :=
  Inserts (fun p q => p.1 = q.1 ∧ change p.1 p.2 q.2) (UnknownMember known)

def ObjectExtends (known : List String) (change : String → Json → Json → Prop) (j j' : Json) :
    Prop :=
  match j, j' with
  | .obj m, .obj m' => MembersExtend known change m m'
  | .arr l, .arr l' =>
    l.length = l'.length ∧ MembersExtend known change (known.zip l) (known.zip l')
  | _, _ => j = j'

def ListExtends (change : Json → Json → Prop) (added : Json → Prop) (j j' : Json) : Prop :=
  match j, j' with
  | .arr l, .arr l' => Inserts change added l l'
  | _, _ => j = j'

def Unchanged (_ : String) (v v' : Json) : Prop := v = v'

def endpointKeys : List String := ownEndpointKeys ++ "transport" :: (vlessKeys ++ hysteria2Keys)

def EndpointMember (key : String) (v v' : Json) : Prop :=
  if key = "reality" then ObjectExtends realityKeys Unchanged v v'
  else if key = "obfs" then ObjectExtends obfsKeys Unchanged v v'
  else v = v'

def EndpointExtends : Json → Json → Prop := ObjectExtends endpointKeys EndpointMember

def DocumentMember (capability endpoint : Json → Prop) (key : String) (v v' : Json) : Prop :=
  if key = "server" then ObjectExtends serverKeys Unchanged v v'
  else if key = "capabilities" then ListExtends Eq capability v v'
  else if key = "access_paths" then
    ListExtends (ObjectExtends accessPathKeys Unchanged) (fun _ => False) v v'
  else if key = "endpoints" then ListExtends EndpointExtends endpoint v v'
  else v = v'

/-- Additions to a document outside its embedded configuration, with these capabilities and
    endpoints. -/
def Extends (capability endpoint : Json → Prop) : Json → Json → Prop :=
  ObjectExtends documentKeys (DocumentMember capability endpoint)

def transportNames : List String := ["vless-reality", "hysteria2"]

def UnknownCapability (j : Json) : Prop :=
  ∃ name, j = .str name ∧ name ∉ transportNames ∧
    Text.startsWith EXPERIMENTAL_CAPABILITY_PREFIX name = false ∧ IsClean j

def UnknownEndpoint (document j : Json) : Prop :=
  ∃ name, j.get? "transport" = some (.str name) ∧ name ∉ transportNames ∧ IsClean j ∧
    ∃ get, members documentKeys document = some get ∧
      ∃ capabilities, get "capabilities" = some (.arr capabilities) ∧ .str name ∈ capabilities

/-! ### Reading what was extended -/

theorem Inserts.imp {change' : α → α → Prop} {added' : α → Prop} {l l' : List α}
    (h : Inserts change added l l') (hchange : ∀ a, ∀ b ∈ l', change a b → change' a b)
    (hadded : ∀ b ∈ l', added b → added' b) : Inserts change' added' l l' := by
  induction h with
  | nil => exact .nil
  | keep hab _ ih =>
    exact .keep (hchange _ _ (by simp) hab)
      (ih (fun a b hb => hchange a b (by simp [hb])) fun b hb => hadded b (by simp [hb]))
  | add hb _ ih =>
    exact .add (hadded _ (by simp) hb)
      (ih (fun a b hb => hchange a b (by simp [hb])) fun b hb => hadded b (by simp [hb]))

section Members

variable {known keys : List String} {change : String → Json → Json → Prop}
  {m m' : List (String × Json)} {j j' : Json}

theorem lookup_extends {k : String} (hk : k ∈ known) (h : MembersExtend known change m m') :
    Option.Rel (change k) (m.lookup k) (m'.lookup k) := by
  unfold MembersExtend at h
  induction h with
  | nil => exact .none
  | @keep p q l l' hpq _ ih =>
    obtain ⟨hkey, hchange⟩ := hpq
    by_cases hp : k = p.1
    · rw [List.lookup_cons, List.lookup_cons, ← hkey, ← hp, beq_self_eq_true]
      exact .some (hp ▸ hchange)
    · rw [List.lookup_cons, List.lookup_cons, ← hkey, beq_false_of_ne hp]
      exact ih
  | @add q l l' hq _ ih =>
    have hne : k ≠ q.1 := fun heq => hq.1 (heq ▸ hk)
    rw [List.lookup_cons, beq_false_of_ne hne]
    exact ih

theorem knownKeys_extends (hkeys : ∀ k ∈ keys, k ∈ known) (h : MembersExtend known change m m') :
    (m'.map Prod.fst).filter keys.contains = (m.map Prod.fst).filter keys.contains := by
  unfold MembersExtend at h
  induction h with
  | nil => rfl
  | keep hpq _ ih => rw [List.map_cons, List.map_cons, List.filter_cons, List.filter_cons, hpq.1, ih]
  | @add q l l' hq _ ih =>
    have hnot : keys.contains q.1 = false := by
      rw [List.contains_eq_mem, decide_eq_false_iff_not]
      exact fun hmem => hq.1 (hkeys _ hmem)
    rw [List.map_cons, List.filter_cons, hnot]
    exact ih

theorem lookup_of_noRepeats {p : String × Json} (h : noRepeats keys m = true) (hp : p ∈ m)
    (hk : p.1 ∈ keys) : m.lookup p.1 = some p.2 := by
  induction m with
  | nil => cases hp
  | cons q m ih =>
    simp only [noRepeats, decide_eq_true_eq, List.map_cons, List.filter_cons] at h
    rcases List.mem_cons.mp hp with rfl | hmem
    · exact List.lookup_cons_self
    · have hne : p.1 ≠ q.1 := by
        intro heq
        rw [← heq, if_pos (by simpa using hk), List.nodup_cons] at h
        exact h.1 (List.mem_filter.mpr ⟨List.mem_map_of_mem hmem, by simpa using hk⟩)
      rw [List.lookup_cons, beq_false_of_ne hne]
      refine ih (decide_eq_true ?_) hmem
      split at h
      · exact (List.nodup_cons.mp h).2
      · exact h

/-- Two readers of a struct, of which the second sees the members of the first, changed. -/
def GetsExtend (known : List String) (change : String → Json → Json → Prop)
    (get get' : String → Option Json) : Prop :=
  ∀ k ∈ known, Option.Rel (change k) (get k) (get' k)

/-- A struct that is not written as an object is read by the position of its members, so that the
    reader has to know them all. -/
theorem entries_extends (hshape : j.isObject = true ∨ keys = known)
    (h : ObjectExtends known change j j') :
    Option.Rel (MembersExtend known change) (entries keys j) (entries keys j') := by
  unfold ObjectExtends at h
  split at h
  · exact .some h
  · obtain rfl : keys = known := hshape.resolve_left (by simp [Json.isObject])
    obtain ⟨hlength, hmembers⟩ := h
    simp only [entries, ← hlength]
    split
    · exact .some hmembers
    · exact .none
  · next hnotObj hnotArr =>
    subst h
    cases j with
    | obj m => exact absurd rfl (hnotObj m m rfl)
    | arr l => exact absurd rfl (hnotArr l l rfl)
    | null | bool | num | str => exact .none

theorem members_extends (hkeys : ∀ k ∈ keys, k ∈ known)
    (hshape : j.isObject = true ∨ keys = known) (h : ObjectExtends known change j j') :
    Option.Rel (GetsExtend known change) (members keys j) (members keys j') := by
  have hrel := entries_extends hshape h
  unfold members
  generalize entries keys j = e at hrel
  generalize entries keys j' = e' at hrel
  cases hrel with
  | none => exact .none
  | @some m m' hext =>
    have hsame : noRepeats keys m' = noRepeats keys m := by
      rw [noRepeats, noRepeats, knownKeys_extends hkeys hext]
    simp only [Option.bind_eq_bind, Option.bind_some, hsame]
    split
    · exact .some fun k hk => lookup_extends hk hext
    · exact .none

/-- A function of the members alone that does not tell the changes apart. -/
theorem read_extends {α : Type} {read : (String → Option Json) → Option α}
    (hkeys : ∀ k ∈ keys, k ∈ known) (hshape : j.isObject = true ∨ keys = known)
    (h : ObjectExtends known change j j')
    (hread : ∀ get get', GetsExtend known change get get' → read get' = read get) :
    (members keys j').bind read = (members keys j).bind read := by
  have hrel := members_extends hkeys hshape h
  generalize members keys j = g at hrel
  generalize members keys j' = g' at hrel
  cases hrel with
  | none => rfl
  | some hget => exact hread _ _ hget

end Members

section Parsers

variable {α : Type} {parse : Json → Option α} {change : Json → Json → Prop} {v v' : Option Json}
  {j j' : Json}

theorem required_extends (h : Option.Rel change v v')
    (hparse : ∀ w w', change w w' → parse w' = parse w) :
    required parse v' = required parse v := by
  cases h with
  | none => rfl
  | some hchange => exact hparse _ _ hchange

theorem defaulted_extends {d : α} (h : Option.Rel change v v')
    (hparse : ∀ w w', change w w' → parse w' = parse w) :
    defaulted parse d v' = defaulted parse d v := by
  cases h with
  | none => rfl
  | some hchange => exact hparse _ _ hchange

theorem listOf_extends (h : ListExtends change (fun _ => False) j j')
    (hparse : ∀ w w', change w w' → parse w' = parse w) : listOf parse j' = listOf parse j := by
  unfold ListExtends at h
  split at h
  · next l l' =>
    unfold listOf
    induction h with
    | nil => rfl
    | keep hab _ ih => simp only [List.mapM_cons, hparse _ _ hab, ih]
    | add hfalse => exact hfalse.elim
  · rw [h]

variable {known : List String}

theorem optional_extends {fields : String → Json → Json → Prop}
    (h : Option.Rel (ObjectExtends known fields) v v')
    (hparse : ∀ w w', ObjectExtends known fields w w' → parse w' = parse w) :
    optional parse v' = optional parse v := by
  cases h with
  | none => rfl
  | @some w w' hext =>
    have hsame := hparse w w' hext
    unfold ObjectExtends at hext
    split at hext
    · simp only [optional, hsame]
    · simp only [optional, hsame]
    · rw [hext]

theorem eq_of_rel (h : Option.Rel Eq v v') : v' = v := by
  cases h with
  | none => rfl
  | some heq => rw [heq]

theorem GetsExtend.eq {get get' : String → Option Json} (h : GetsExtend known Unchanged get get')
    {k : String} (hk : k ∈ known) : get' k = get k :=
  eq_of_rel (h k hk)

end Parsers

theorem parseServerInfo_extends (h : ObjectExtends serverKeys Unchanged j j') :
    parseServerInfo j' = parseServerInfo j := by
  refine read_extends (fun _ hk => hk) (.inr rfl) h fun get get' hget => ?_
  have hsame : ∀ k ∈ serverKeys, get' k = get k := fun _ => hget.eq
  simp only [serverKeys, List.forall_mem_cons] at hsame
  simp only [hsame]

theorem parseAccessPath_extends (h : ObjectExtends accessPathKeys Unchanged j j') :
    parseAccessPath j' = parseAccessPath j := by
  refine read_extends (fun _ hk => hk) (.inr rfl) h fun get get' hget => ?_
  have hsame : ∀ k ∈ accessPathKeys, get' k = get k := fun _ => hget.eq
  simp only [accessPathKeys, List.forall_mem_cons] at hsame
  simp only [hsame]

theorem parseReality_extends (h : ObjectExtends realityKeys Unchanged j j') :
    parseReality j' = parseReality j := by
  refine read_extends (fun _ hk => hk) (.inr rfl) h fun get get' hget => ?_
  have hsame : ∀ k ∈ realityKeys, get' k = get k := fun _ => hget.eq
  simp only [realityKeys, List.forall_mem_cons] at hsame
  simp only [hsame]

theorem parseObfs_extends (h : ObjectExtends obfsKeys Unchanged j j') :
    parseObfs j' = parseObfs j := by
  refine read_extends (fun _ hk => hk) (.inr rfl) h fun get get' hget => ?_
  have hsame : ∀ k ∈ obfsKeys, get' k = get k := fun _ => hget.eq
  simp only [obfsKeys, List.forall_mem_cons] at hsame
  simp only [hsame]

theorem isObject_extends {change : String → Json → Json → Prop}
    (h : ObjectExtends known change j j') : j'.isObject = j.isObject := by
  unfold ObjectExtends at h
  split at h
  · rfl
  · rfl
  · rw [h]

section Endpoint

variable {get get' : String → Option Json} {j j' : Json}

theorem endpointMember_eq (hget : GetsExtend endpointKeys EndpointMember get get') {k : String}
    (hk : k ∈ endpointKeys) (hreality : k ≠ "reality") (hobfs : k ≠ "obfs") : get' k = get k := by
  have hrel := hget k hk
  have heq : EndpointMember k = Eq := by
    funext v v'
    simp [EndpointMember, hreality, hobfs]
  exact eq_of_rel (heq ▸ hrel)

theorem parseVless_extends (hobj : j.isObject = true) (h : EndpointExtends j j') :
    parseVless j' = parseVless j := by
  refine read_extends (by decide) (.inl hobj) h fun get more hget => ?_
  have hsame := fun k hk => endpointMember_eq (k := k) hget hk
  have hreality : Option.Rel (ObjectExtends realityKeys Unchanged) (get "reality")
      (more "reality") := hget "reality" (by decide)
  rw [required_extends hreality fun _ _ => parseReality_extends, hsame "uuid" (by decide),
    hsame "flow" (by decide)]
  all_goals decide

theorem parseHysteria2_extends (hobj : j.isObject = true) (h : EndpointExtends j j') :
    parseHysteria2 j' = parseHysteria2 j := by
  refine read_extends (by decide) (.inl hobj) h fun get more hget => ?_
  have hobfs : Option.Rel (ObjectExtends obfsKeys Unchanged) (get "obfs") (more "obfs") :=
    hget "obfs" (by decide)
  rw [optional_extends hobfs fun _ _ => parseObfs_extends,
    endpointMember_eq hget (k := "password") (by decide) (by decide) (by decide)]

theorem parseParams_extends (hobj : j.isObject = true) (h : EndpointExtends j j') :
    parseParams j' = parseParams j := by
  unfold parseParams
  rw [parseVless_extends hobj h, parseHysteria2_extends hobj h]
  refine read_extends (by decide) (.inl hobj) h fun get more hget => ?_
  rw [endpointMember_eq hget (k := "transport") (by decide) (by decide) (by decide)]

theorem parseEndpoint_extends (h : EndpointExtends j j') : parseEndpoint j' = parseEndpoint j := by
  unfold parseEndpoint
  rw [isObject_extends h]
  split
  · next hobj =>
    rw [parseParams_extends hobj h]
    refine read_extends (by decide) (.inl hobj) h fun get more hget => ?_
    have hsame : ∀ k ∈ ownEndpointKeys, more k = get k := fun k hk =>
      endpointMember_eq hget (List.mem_append_left _ hk) (ne_of_mem_of_not_mem hk (by decide))
        (ne_of_mem_of_not_mem hk (by decide))
    simp only [ownEndpointKeys, List.forall_mem_cons] at hsame
    simp only [hsame]
  · rfl

end Endpoint

section Document

variable {j j' : Json} {doc : ProvisioningDocument}

theorem parseDocument_extends (h : Extends (fun _ => False) (fun _ => False) j j') :
    parseDocument j' = parseDocument j := by
  refine read_extends (fun _ hk => hk) (.inr rfl) h fun get more hget => ?_
  have hplain : ∀ k ∈ ["schema_version", "experimental_capabilities", "singbox_config"],
      more k = get k := by
    intro k hk
    have hmem : k ∈ documentKeys := by
      revert k
      decide
    have heq : DocumentMember (fun _ => False) (fun _ => False) k = Eq := by
      funext v v'
      rw [DocumentMember, if_neg (ne_of_mem_of_not_mem hk (by decide)),
        if_neg (ne_of_mem_of_not_mem hk (by decide)), if_neg (ne_of_mem_of_not_mem hk (by decide)),
        if_neg (ne_of_mem_of_not_mem hk (by decide))]
    exact eq_of_rel (heq ▸ hget k hmem)
  have hserver : Option.Rel (ObjectExtends serverKeys Unchanged) (get "server") (more "server") :=
    hget "server" (by decide)
  have hcaps : Option.Rel (ListExtends Eq fun _ => False) (get "capabilities")
      (more "capabilities") := hget "capabilities" (by decide)
  have hpaths : Option.Rel (ListExtends (ObjectExtends accessPathKeys Unchanged) fun _ => False)
      (get "access_paths") (more "access_paths") := hget "access_paths" (by decide)
  have heps : Option.Rel (ListExtends EndpointExtends fun _ => False) (get "endpoints")
      (more "endpoints") := hget "endpoints" (by decide)
  rw [hplain "schema_version" (by simp), hplain "experimental_capabilities" (by simp),
    hplain "singbox_config" (by simp), required_extends hserver fun _ _ => parseServerInfo_extends,
    required_extends hcaps fun _ _ hext => listOf_extends hext fun _ _ heq => by rw [heq],
    defaulted_extends hpaths fun _ _ hext => listOf_extends hext fun _ _ => parseAccessPath_extends,
    required_extends heps fun _ _ hext => listOf_extends hext fun _ _ => parseEndpoint_extends]

/-! ### What was added to a document that is accepted -/

variable {v : Json}

theorem mem_of_listOf {α : Type} {parse : Json → Option α} {l : List Json} {xs : List α}
    (h : listOf parse (.arr l) = some xs) (hv : v ∈ l) : ∃ x ∈ xs, parse v = some x := by
  have hmap : l.mapM parse = some xs := h
  clear h
  induction l generalizing xs with
  | nil => cases hv
  | cons w l ih =>
    simp only [List.mapM_cons, Option.bind_eq_bind, Option.bind_eq_some_iff, Option.pure_def,
      Option.some.injEq] at hmap
    obtain ⟨x, hx, xs', hxs', rfl⟩ := hmap
    rcases List.mem_cons.mp hv with rfl | hmem
    · exact ⟨x, by simp, hx⟩
    · obtain ⟨y, hy, hparse⟩ := ih hmem hxs'
      exact ⟨y, by simp [hy], hparse⟩

def Capability.isKnown : Capability → Bool
  | .other _ => false
  | _ => true

theorem isKnown_transport (ep : Endpoint) :
    (Capability.forTransport ep.transport).isKnown = true := by
  unfold Endpoint.transport
  split
  · rfl
  · rfl

theorem isKnown_of_validate (h : doc.validate = .ok ()) {cap : Capability}
    (hcap : cap ∈ doc.capabilities) : cap.isKnown = true := by
  simp only [ProvisioningDocument.validate, Check.bind_ok, Check.each_ok, Check.refuseIf_ok,
    Bool.not_eq_false', List.any_eq_true, beq_iff_eq] at h
  obtain ⟨-, -, -, -, -, -, -, hserved, -⟩ := h
  obtain ⟨ep, -, rfl⟩ := hserved cap hcap
  exact isKnown_transport ep

theorem parseDocument_some (h : parseDocument j = some doc) :
    ∃ m caps, entries documentKeys j = some m ∧ noRepeats documentKeys m = true ∧
      required (listOf Json.asStr) (m.lookup "capabilities") = some caps ∧
      doc.capabilities = caps.map .fromWire ∧
      required (listOf parseEndpoint) (m.lookup "endpoints") = some doc.endpoints := by
  simp only [parseDocument, members, Option.bind_eq_bind, Option.bind_eq_some_iff,
    Option.some.injEq, Option.ite_none_right_eq_some] at h
  obtain ⟨_, ⟨m, hm, hrepeats, rfl⟩, _, -, _, -, caps, hcaps, _, -, _, -, eps, heps, _, -, rfl⟩ := h
  exact ⟨m, caps, hm, hrepeats, hcaps, rfl, heps⟩

theorem parseParams_unknown {name : String} (hobj : v.isObject = true)
    (hget : v.get? "transport" = some (.str name)) (hname : name ∉ transportNames) :
    parseParams v = none := by
  have htag : transportTag (.str name) = none := by
    simp only [transportNames, List.mem_cons, List.not_mem_nil, or_false, not_or] at hname
    simp [transportTag, hname]
  cases v with
  | obj m =>
    have hlookup : m.lookup "transport" = some (.str name) := hget
    simp only [parseParams, members, entries, Option.bind_eq_bind, Option.bind_some]
    split
    · simp only [Option.bind_some, hlookup, required, htag, Option.bind_none]
    · rfl
  | null | bool | num | str | arr => cases hobj

theorem parseEndpoint_unknown {document : Json} (h : UnknownEndpoint document v) :
    parseEndpoint v = none := by
  obtain ⟨name, hget, hname, -⟩ := h
  unfold parseEndpoint
  split
  · next hobj => simp [parseParams_unknown hobj hget hname]
  · rfl

theorem ListExtends.imp {change : Json → Json → Prop} {added added' : Json → Prop}
    (h : ListExtends change added j j')
    (hadded : ∀ l, j' = .arr l → ∀ v ∈ l, added v → added' v) : ListExtends change added' j j' := by
  unfold ListExtends at h ⊢
  split at h
  · next l l' => exact Inserts.imp h (fun _ _ _ hab => hab) (hadded l' rfl)
  · exact h

theorem ObjectExtends.imp {known : List String} {change change' : String → Json → Json → Prop}
    {m : List (String × Json)} (h : ObjectExtends known change j j')
    (hentries : entries known j' = some m)
    (hchange : ∀ p ∈ m, ∀ v, change p.1 v p.2 → change' p.1 v p.2) :
    ObjectExtends known change' j j' := by
  have hmembers : ∀ {l}, MembersExtend known change l m → MembersExtend known change' l m :=
    fun hext => hext.imp (fun p q hq hpq => ⟨hpq.1, hpq.1 ▸ hchange q hq p.2 (hpq.1 ▸ hpq.2)⟩)
      fun _ _ hunknown => hunknown
  unfold ObjectExtends at h ⊢
  split at h
  · obtain rfl := Option.some.inj hentries
    exact hmembers h
  · simp only [entries, Option.ite_none_right_eq_some, Option.some.injEq] at hentries
    obtain ⟨-, rfl⟩ := hentries
    exact ⟨h.1, hmembers h.2⟩
  · exact h

def KnownUnchanged (doc doc' : ProvisioningDocument) : Prop :=
  doc'.endpoints.filter (fun ep => (Capability.forTransport ep.transport).isKnown) =
      doc.endpoints.filter (fun ep => (Capability.forTransport ep.transport).isKnown) ∧
    doc'.capabilities.filter Capability.isKnown = doc.capabilities.filter Capability.isKnown ∧
    doc'.singboxConfig = doc.singboxConfig

/-- An accepted document got neither capabilities nor endpoints that the contract does not know. -/
theorem extends_of_accepted (hparse : parseDocument j' = some doc) (hvalid : doc.validate = .ok ())
    (h : Extends UnknownCapability (UnknownEndpoint j') j j') :
    Extends (fun _ => False) (fun _ => False) j j' := by
  obtain ⟨m, caps, hm, hrepeats, hcaps, hcapsDoc, heps⟩ := parseDocument_some hparse
  refine ObjectExtends.imp h hm fun p hp v hchange => ?_
  have hlookup : p.1 ∈ documentKeys → m.lookup p.1 = some p.2 := lookup_of_noRepeats hrepeats hp
  unfold DocumentMember at hchange ⊢
  split_ifs at hchange ⊢ with hserver hcap hpath hep
  · exact hchange
  · rw [← hcap, hlookup (hcap ▸ by decide)] at hcaps
    refine ListExtends.imp hchange fun l hl b hb hunknown => ?_
    obtain ⟨name, rfl, hname, -⟩ := hunknown
    obtain ⟨s, hs, hstr⟩ := mem_of_listOf (hl ▸ hcaps) hb
    obtain rfl : name = s := Option.some.inj hstr
    have hknown := isKnown_of_validate hvalid (hcapsDoc ▸ List.mem_map_of_mem hs)
    simp only [transportNames, List.mem_cons, List.not_mem_nil, or_false, not_or] at hname
    simp [Capability.fromWire, hname, Capability.isKnown] at hknown
  · exact hchange
  · rw [← hep, hlookup (hep ▸ by decide)] at heps
    refine ListExtends.imp hchange fun l hl b hb hunknown => ?_
    obtain ⟨ep, -, hsome⟩ := mem_of_listOf (hl ▸ heps) hb
    rw [parseEndpoint_unknown hunknown] at hsome
    cases hsome
  · exact hchange

/-- **Forward compatibility.**  Members are skipped, but the transports are a closed enumeration and
    every capability needs an endpoint of it: a document that was accepted stays so exactly when no
    capability and no endpoint was added. -/
theorem forward_compatible {explain : Json → String} (hread : fromJson explain j = .ok doc)
    (h : Extends UnknownCapability (UnknownEndpoint j') j j') :
    (∃ doc', fromJson explain j' = .ok doc' ∧ KnownUnchanged doc doc') ↔
      Extends (fun _ => False) (fun _ => False) j j' := by
  constructor
  · rintro ⟨doc', hread', -⟩
    obtain ⟨hparse, hvalid⟩ := fromJson_ok.mp hread'
    exact extends_of_accepted hparse hvalid h
  · intro hfields
    obtain ⟨hparse, hvalid⟩ := fromJson_ok.mp hread
    rw [← parseDocument_extends hfields] at hparse
    exact ⟨doc, fromJson_ok.mpr ⟨hparse, hvalid⟩, rfl, rfl, rfl⟩

end Document

/-! ### A document with one endpoint -/

def sampleMembers (capabilities endpoints : List Json) : List (String × Json) :=
  [("schema_version", .num 1),
    ("server", .obj [("product", .str "singbox-vpn"), ("version", .str "0.1.0"),
      ("minimum_client_version", .str "0.1.0")]),
    ("capabilities", .arr capabilities),
    ("endpoints", .arr endpoints)]

def sampleEndpointText : Json :=
  .obj [("id", .str "h1"), ("tag", .str "h1"), ("host", .str "a.example"), ("port", .num 443),
    ("server_name", .str "a.example"), ("transport", .str "hysteria2"), ("password", .str "pw")]

def sampleText : Json := .obj (sampleMembers [.str "hysteria2"] [sampleEndpointText])

def sampleRead : ProvisioningDocument where
  schemaVersion := 1
  server := ⟨"singbox-vpn", "0.1.0", "0.1.0"⟩
  capabilities := [.hysteria2]
  experimentalCapabilities := []
  accessPaths := []
  endpoints := [⟨"h1", "h1", "a.example", 443, "a.example", none, none, none, none, none,
    .hysteria2 "pw" none⟩]
  singboxConfig := none

theorem sampleText_read : fromJson (fun _ => "") sampleText = .ok sampleRead :=
  fromJson_ok.mpr ⟨by rfl, by decide +kernel⟩

theorem Inserts.refl (hchange : ∀ a, change a a) (l : List α) : Inserts change added l l := by
  induction l with
  | nil => exact .nil
  | cons a l ih => exact .keep (hchange a) ih

theorem ObjectExtends.refl {change : String → Json → Json → Prop}
    (hchange : ∀ key v, change key v v) (j : Json) : ObjectExtends known change j j := by
  have hmember : ∀ p : String × Json, p.1 = p.1 ∧ change p.1 p.2 p.2 := fun p => ⟨rfl, hchange _ _⟩
  cases j with
  | obj m => exact Inserts.refl hmember m
  | arr l => exact ⟨rfl, Inserts.refl hmember _⟩
  | null | bool | num | str => rfl

theorem EndpointExtends.refl (j : Json) : EndpointExtends j j := by
  refine ObjectExtends.refl (fun key v => ?_) j
  unfold EndpointMember
  split_ifs
  · exact .refl (fun _ _ => rfl) v
  · exact .refl (fun _ _ => rfl) v
  · rfl

section Samples

variable {capability endpoint : Json → Prop} {caps caps' eps eps' : List Json}

theorem sampleMembers_extends (hcaps : Inserts Eq capability caps caps')
    (heps : Inserts EndpointExtends endpoint eps eps') :
    MembersExtend documentKeys (DocumentMember capability endpoint) (sampleMembers caps eps)
      (sampleMembers caps' eps') := by
  refine .keep ⟨rfl, rfl⟩ (.keep ⟨rfl, ?_⟩ (.keep ⟨rfl, hcaps⟩ (.keep ⟨rfl, heps⟩ .nil)))
  rw [DocumentMember, if_pos rfl]
  exact .refl (fun _ _ => rfl) _

end Samples

def sampleDated : Json :=
  .obj (("issued_at", .num 1700000000) :: sampleMembers [.str "hysteria2"] [sampleEndpointText])

theorem sampleDated_extends (capability endpoint : Json → Prop) :
    Extends capability endpoint sampleText sampleDated := by
  have hkey : IsClean (.str "issued_at") := isClean_iff.mpr (by decide +kernel)
  have hvalue : IsClean (.num 1700000000) := isClean_iff.mpr (by decide +kernel)
  refine Inserts.add ⟨by decide, hkey, hvalue⟩ ?_
  exact sampleMembers_extends (.refl (fun _ => rfl) _) (.refl EndpointExtends.refl _)

/-- A document with a field more reads as before. -/
theorem forward_compatible_sampleDated :
    ∃ doc', fromJson (fun _ => "") sampleDated = .ok doc' ∧ KnownUnchanged sampleRead doc' :=
  (forward_compatible sampleText_read (sampleDated_extends _ _)).mpr (sampleDated_extends _ _)

def sampleCapability : Json :=
  .obj (sampleMembers [.str "hysteria2", .str "tuic"] [sampleEndpointText])

def sampleTuic : Json :=
  .obj [("id", .str "t1"), ("tag", .str "t1"), ("host", .str "t.example"), ("port", .num 443),
    ("server_name", .str "t.example"), ("transport", .str "tuic"), ("password", .str "pw")]

def sampleTransport : Json :=
  .obj (sampleMembers [.str "hysteria2", .str "tuic"] [sampleEndpointText, sampleTuic])

theorem unknownCapability_tuic : UnknownCapability (.str "tuic") :=
  ⟨"tuic", rfl, by decide, by decide +kernel, isClean_iff.mpr (by decide +kernel)⟩

theorem unknownEndpoint_tuic : UnknownEndpoint sampleTransport sampleTuic :=
  ⟨"tuic", rfl, by decide, isClean_iff.mpr (by decide +kernel), _, rfl, _, rfl, by simp⟩

/-- Both additions that the contract asks its readers to skip are refused. -/
theorem forward_compatible_fails :
    fromJson (fun _ => "") sampleText = .ok sampleRead ∧
      Extends UnknownCapability (UnknownEndpoint sampleCapability) sampleText sampleCapability ∧
      fromJson (fun _ => "") sampleCapability = .error (.capabilityWithoutEndpoint "tuic") ∧
      Extends UnknownCapability (UnknownEndpoint sampleTransport) sampleText sampleTransport ∧
      fromJson (fun _ => "") sampleTransport =
        .error (.invalid "document" "could not be parsed: ") := by
  have hcaps : Inserts Eq UnknownCapability [.str "hysteria2"] [.str "hysteria2", .str "tuic"] :=
    .keep rfl (.add unknownCapability_tuic .nil)
  refine ⟨sampleText_read, ?_, by rfl, ?_, by rfl⟩
  · exact sampleMembers_extends hcaps (.refl EndpointExtends.refl _)
  · exact sampleMembers_extends hcaps
      (.keep (EndpointExtends.refl _) (.add unknownEndpoint_tuic .nil))

end SingboxVpn
