import SingboxVpn.Server.Shape

namespace SingboxVpn

/-!
# The credentials in a rendered document

Whatever the role of the node, both inbounds of a rendered document list one entry for each
grant authorized at the time of rendering, in the order of the store.

* `vlessEntries_rendered`, `hysteriaEntries_rendered` — what they are.
-/

def inboundEntries (doc : Json) (tag : String) : List Json :=
  ((doc.idx "inbounds").asArray.getD []).flatMap fun inbound =>
    if (inbound.idx "tag").asStr = some tag then (inbound.idx "users").asArray.getD [] else []

section Rendered

variable {ext : External} {d : DeploymentConfig} {users : List CompatUser}
  {reality : RealityServerParams} {hysteria : Hysteria2ServerParams} {now : Int} {doc : Json}

theorem rendered_inbounds
    (h : renderServerConfigForDeployment ext d users reality hysteria now = .ok doc) :
    doc.idx "inbounds" = .arr (baseInbounds users reality hysteria (.forDeployment d) now) := by
  cases hrole : d.role with
  | exit => exact (exit_document hrole h).2.2.2
  | relay => exact (relay_document hrole h).2.2.2

theorem users_vlessInbound (reality : RealityServerParams) (port : Nat) (us : List Json) :
    (vlessInbound reality port us).idx "users" = .arr us := by
  simp [vlessInbound, Json.idx_object, Json.lookup_cons_ite]

theorem users_hysteriaInbound (hysteria : Hysteria2ServerParams) (port : Nat) (us : List Json) :
    (hysteriaInbound hysteria port us).idx "users" = .arr us := by
  unfold hysteriaInbound
  cases hysteria.masqueradeDirPath <;> cases hysteria.obfsPassword <;>
    cases hysteria.upMbps <;> cases hysteria.downMbps <;>
    simp [Json.set_object, Json.idx_object, Json.lookup_cons_ite]

theorem vlessEntries_rendered
    (h : renderServerConfigForDeployment ext d users reality hysteria now = .ok doc) :
    inboundEntries doc REALITY_INBOUND = (authorizedGrants users now).map vlessUser := by
  rw [inboundEntries, rendered_inbounds h]
  simp [baseInbounds, tag_vlessInbound, tag_hysteriaInbound, users_vlessInbound, REALITY_INBOUND]

theorem hysteriaEntries_rendered
    (h : renderServerConfigForDeployment ext d users reality hysteria now = .ok doc) :
    inboundEntries doc "hysteria2-in" = (authorizedGrants users now).map hysteriaUser := by
  rw [inboundEntries, rendered_inbounds h]
  simp [baseInbounds, tag_vlessInbound, tag_hysteriaInbound, users_hysteriaInbound,
    REALITY_INBOUND]

end Rendered

/-! ### Accounts that render alike -/

def CredentialGrant.material (g : CredentialGrant) : String × String × String :=
  (g.principalId, g.vlessUuid, g.hysteria2Password)

def CompatUser.inForce (u : CompatUser) (now : Int) : List CredentialGrant :=
  if u.isActive now then u.authorizedGrants now else []

theorem CompatUser.inForce_filter (u : CompatUser) (now : Int) :
    u.inForce now =
      u.effectiveGrants.filter fun g => u.isActive now && grantIsAuthorized g now := by
  unfold CompatUser.inForce CompatUser.authorizedGrants
  by_cases hon : u.isActive now = true <;> simp [hon]

/-- Two accounts of which the renderer reads the same at an instant. -/
structure SameAt (now : Int) (u u' : CompatUser) : Prop where
  active : u'.isActive now = u.isActive now
  grants : u.isActive now = true → (u'.authorizedGrants now).map CredentialGrant.material =
    (u.authorizedGrants now).map CredentialGrant.material
  vision : u'.visionOffExperiment = u.visionOffExperiment
  probe : u'.isReservedProbe = u.isReservedProbe
  hairpin : u'.googleEgressHairpin = u.googleEgressHairpin
  exit : u'.exitPrincipal = u.exitPrincipal

/-- Two accounts of which the renderer reads the same, each at its instant. -/
structure SameBetween (now now' : Int) (u u' : CompatUser) : Prop where
  grants : (u'.inForce now').map CredentialGrant.material =
    (u.inForce now).map CredentialGrant.material
  vision : u'.visionOffExperiment = u.visionOffExperiment
  probe : u'.isReservedProbe = u.isReservedProbe
  hairpin : u'.googleEgressHairpin = u.googleEgressHairpin
  exit : u'.exitPrincipal = u.exitPrincipal

section Alike

variable {now now' : Int} {users users' : List CompatUser} {u u' : CompatUser}

theorem SameAt.refl (now : Int) (u : CompatUser) : SameAt now u u :=
  ⟨rfl, fun _ => rfl, rfl, rfl, rfl, rfl⟩

theorem SameAt.between (h : SameAt now u u') : SameBetween now now u u' := by
  refine ⟨?_, h.vision, h.probe, h.hairpin, h.exit⟩
  unfold CompatUser.inForce
  rw [h.active]
  by_cases hon : u.isActive now = true
  · rw [if_pos hon, if_pos hon]
    exact h.grants hon
  · rw [if_neg hon, if_neg hon]

theorem activePrincipalIds_inForce (u : CompatUser) (now : Int) :
    u.activePrincipalIds now = (u.inForce now).map CredentialGrant.principalId := by
  unfold CompatUser.activePrincipalIds CompatUser.inForce
  by_cases hon : u.isActive now = true <;> simp [hon]

theorem SameBetween.activePrincipalIds (h : SameBetween now now' u u') :
    u'.activePrincipalIds now' = u.activePrincipalIds now := by
  have hids := congrArg (List.map Prod.fst) h.grants
  rw [List.map_map, List.map_map] at hids
  rw [activePrincipalIds_inForce, activePrincipalIds_inForce]
  exact hids

theorem authorizedGrants_cons (u : CompatUser) (users : List CompatUser) (now : Int) :
    authorizedGrants (u :: users) now = (u.inForce now).map (u, ·) ++ authorizedGrants users now := by
  unfold authorizedGrants CompatUser.inForce
  by_cases hon : u.isActive now = true <;> simp [hon]

theorem principalsOf_cons (sel : CompatUser → Bool) (u : CompatUser) (users : List CompatUser)
    (now : Int) :
    principalsOf sel (u :: users) now =
      (if sel u then u.activePrincipalIds now else []) ++ principalsOf sel users now := by
  unfold principalsOf
  by_cases hon : u.isActive now = true <;> by_cases hsel : sel u = true <;>
    simp [hon, hsel, CompatUser.activePrincipalIds]

theorem map_authorizedGrants_congr (entry : CompatUser × CredentialGrant → Json)
    (build : String → String × String × String → Json)
    (hentry : ∀ ug, entry ug = build ug.1.flow ug.2.material)
    (h : List.Forall₂ (SameBetween now now') users users') :
    (authorizedGrants users' now').map entry = (authorizedGrants users now).map entry := by
  -- one account after the other
  induction h with
  | nil => rfl
  | @cons u u' us us' hu _ ih =>
    have hmap : ∀ (v : CompatUser) (t : Int), ((v.inForce t).map (v, ·)).map entry =
        ((v.inForce t).map CredentialGrant.material).map (build v.flow) := by
      intro v t
      simp [hentry, Function.comp_def]
    have hflow : u'.flow = u.flow := by
      unfold CompatUser.flow
      rw [hu.vision]
    rw [authorizedGrants_cons, authorizedGrants_cons, List.map_append, List.map_append, hmap, hmap,
      ih, hu.grants, hflow]

theorem principalsOf_congr {sel : CompatUser → Bool}
    (hsel : ∀ u u', SameBetween now now' u u' → sel u' = sel u)
    (h : List.Forall₂ (SameBetween now now') users users') :
    principalsOf sel users' now' = principalsOf sel users now := by
  induction h with
  | nil => rfl
  | @cons u u' us us' hu _ ih =>
    rw [principalsOf_cons, principalsOf_cons, ih, hsel u u' hu, hu.activePrincipalIds]

variable {ext : External} {d : DeploymentConfig} {reality : RealityServerParams}
  {hysteria : Hysteria2ServerParams} {doc : Json}

/-- Stores that the renderer reads alike, each at its instant, have the same document, if both
    pass its checks. -/
theorem render_congr_between (h : List.Forall₂ (SameBetween now now') users users')
    (hset : (projectedSet users').validate = .ok ())
    (hdoc : renderServerConfigForDeployment ext d users reality hysteria now = .ok doc) :
    renderServerConfigForDeployment ext d users' reality hysteria now' = .ok doc := by
  obtain ⟨hd, hset₀⟩ := render_checks hdoc
  have hvless := map_authorizedGrants_congr vlessUser
    (fun flow m => .object [("name", .str m.1), ("uuid", .str m.2.1), ("flow", .str flow)])
    (fun _ => rfl) h
  have hhysteria := map_authorizedGrants_congr hysteriaUser
    (fun _ m => .object [("name", .str m.1), ("password", .str m.2.2)])
    (fun _ => rfl) h
  have hprobe : probeIds users' now' = probeIds users now :=
    principalsOf_congr (fun _ _ hu => hu.probe) h
  have hhairpin : hairpinPrincipals users' now' = hairpinPrincipals users now :=
    principalsOf_congr (fun _ _ hu => hu.hairpin) h
  have hexit : exitPrincipalIds d users' now' = exitPrincipalIds d users now := by
    unfold exitPrincipalIds
    rw [principalsOf_congr (fun _ _ hu => by rw [hu.exit, hu.hairpin, hu.probe]) h]
  have hbase : renderSingboxServerConfig users' reality hysteria (.forDeployment d) now' =
      renderSingboxServerConfig users reality hysteria (.forDeployment d) now := by
    simp only [renderSingboxServerConfig, hvless, hhysteria]
  -- past the checks, the rest of the document goes by these lists alone
  simp only [renderServerConfigForDeployment, Check.bind_ok, Check.mapError_ok, hd, hset, hset₀,
    true_and, hbase, renderExit, applyExitLoopbackSelftestException, applyProbeUserConfinement,
    renderRelay, relayRules, hprobe, hhairpin, hexit] at hdoc ⊢
  exact hdoc

/-- Stores that the renderer reads alike have the same document, if both pass its checks. -/
theorem render_congr (h : List.Forall₂ (SameAt now) users users')
    (hset : (projectedSet users').validate = .ok ())
    (hdoc : renderServerConfigForDeployment ext d users reality hysteria now = .ok doc) :
    renderServerConfigForDeployment ext d users' reality hysteria now = .ok doc :=
  render_congr_between (h.imp fun _ _ hu => hu.between) hset hdoc

end Alike

/-! ### Times -/

def CredentialGrant.SameButTimes (g g' : CredentialGrant) : Prop :=
  g' = { g with
    validFrom := g'.validFrom, validUntil := g'.validUntil, revokedAt := g'.revokedAt }

structure CompatUser.SameButTimes (u u' : CompatUser) : Prop where
  account : u' = { u with
    createdAt := u'.createdAt, expiresAt := u'.expiresAt, credentials := u'.credentials }
  credentials : List.Forall₂ CredentialGrant.SameButTimes u.credentials u'.credentials

def CompatUser.AuthorizesAlike (now : Int) (u u' : CompatUser) : Prop :=
  List.Forall₂ (fun g g' => (u'.isActive now && grantIsAuthorized g' now) =
    (u.isActive now && grantIsAuthorized g now)) u.effectiveGrants u'.effectiveGrants

namespace CompatUser.SameButTimes

variable {now : Int} {u u' : CompatUser}

theorem effectiveGrants (h : u.SameButTimes u') :
    List.Forall₂ (fun g g' => CredentialGrant.material g' = g.material) u.effectiveGrants
      u'.effectiveGrants := by
  have hmaterial : List.Forall₂ (fun g g' => CredentialGrant.material g' = g.material) u.credentials
      u'.credentials := h.credentials.imp fun g g' hg => by
    rw [hg]
    rfl
  unfold CompatUser.effectiveGrants
  cases hgrants : u.credentials with
  | nil =>
    rw [hgrants] at hmaterial
    rw [List.forall₂_nil_left_iff.mp hmaterial]
    -- neither has stored grants: the one they stand for goes by the account
    refine .cons ?_ .nil
    rw [h.account]
    rfl
  | cons g gs =>
    rw [hgrants] at hmaterial
    obtain ⟨g', gs', -, -, hgrants'⟩ := List.forall₂_cons_left_iff.mp hmaterial
    rw [hgrants'] at hmaterial ⊢
    exact hmaterial

theorem material_filter {l l' : List CredentialGrant} {p p' : CredentialGrant → Bool}
    (hmaterial : List.Forall₂ (fun g g' => CredentialGrant.material g' = g.material) l l')
    (hkeep : List.Forall₂ (fun g g' => p' g' = p g) l l') :
    (l'.filter p').map CredentialGrant.material = (l.filter p).map CredentialGrant.material := by
  induction hmaterial with
  | nil => rfl
  | @cons g g' l l' hg _ ih =>
    obtain ⟨hkeep₁, hkeep₂⟩ := List.forall₂_cons.mp hkeep
    rw [List.filter_cons, List.filter_cons, hkeep₁]
    split
    · rw [List.map_cons, List.map_cons, hg, ih hkeep₂]
    · exact ih hkeep₂

theorem between (h : u.SameButTimes u') (hauthorized : u.AuthorizesAlike now u') :
    SameBetween now now u u' := by
  have hflags := h.account
  refine ⟨?_, ?_, ?_, ?_, ?_⟩
  · rw [inForce_filter, inForce_filter]
    exact material_filter h.effectiveGrants hauthorized
  all_goals
    rw [hflags]

end CompatUser.SameButTimes

/-- **Rendering leaks no times.**  Stores that differ only in times and of which the same grants are
    authorized have the same document. -/
theorem render_timeless {ext : External} {d : DeploymentConfig} {reality : RealityServerParams}
    {hysteria : Hysteria2ServerParams} {now : Int} {users users' : List CompatUser}
    {doc doc' : Json} (htimes : List.Forall₂ CompatUser.SameButTimes users users')
    (hauthorized : List.Forall₂ (CompatUser.AuthorizesAlike now) users users')
    (hdoc : renderServerConfigForDeployment ext d users reality hysteria now = .ok doc)
    (hdoc' : renderServerConfigForDeployment ext d users' reality hysteria now = .ok doc') :
    doc = doc' := by
  have hbetween : List.Forall₂ (SameBetween now now) users users' := by
    clear hdoc hdoc'
    induction htimes with
    | nil => exact .nil
    | cons hu _ ih =>
      obtain ⟨hauthorized₁, hauthorized₂⟩ := List.forall₂_cons.mp hauthorized
      exact .cons (hu.between hauthorized₁) (ih hauthorized₂)
  have hsame := render_congr_between hbetween (render_checks hdoc').2 hdoc
  exact Except.ok.inj (hsame.symm.trans hdoc')

def sampleExpiring (expiresAt : Int) : CompatUser := { sampleUser with expiresAt := some expiresAt }

/-- Two ends in the future give the same document. -/
theorem render_timeless_sampleExpiring : ∃ doc,
    renderServerConfigForDeployment sampleExternal sampleRelay [sampleExpiring 1000] sampleReality
      sampleHysteria 10 = .ok doc ∧
    renderServerConfigForDeployment sampleExternal sampleRelay [sampleExpiring 5000] sampleReality
      sampleHysteria 10 = .ok doc := by
  have hrenders : ∀ t ∈ [1000, 5000], ∃ doc, renderServerConfigForDeployment sampleExternal
      sampleRelay [sampleExpiring t] sampleReality sampleHysteria 10 = .ok doc := by
    intro t ht
    have hok : (renderServerConfigForDeployment sampleExternal sampleRelay [sampleExpiring t]
        sampleReality sampleHysteria 10).isOk = true := by
      revert t
      decide +kernel
    revert hok
    cases renderServerConfigForDeployment sampleExternal sampleRelay [sampleExpiring t]
        sampleReality sampleHysteria 10 with
    | ok doc => exact fun _ => ⟨doc, rfl⟩
    | error e => nofun
  obtain ⟨doc, hdoc⟩ := hrenders 1000 (by decide)
  obtain ⟨doc', hdoc'⟩ := hrenders 5000 (by decide)
  have hauthorized : (sampleExpiring 1000).AuthorizesAlike 10 (sampleExpiring 5000) :=
    .cons (by decide +kernel) .nil
  have hsame := render_timeless (.cons ⟨rfl, .nil⟩ .nil) (.cons hauthorized .nil) hdoc hdoc'
  exact ⟨doc, hdoc, hsame ▸ hdoc'⟩

end SingboxVpn
