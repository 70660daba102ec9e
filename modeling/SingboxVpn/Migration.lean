import SingboxVpn.Client.Subscription
import SingboxVpn.Lib.Lines
import SingboxVpn.StaticRevision

namespace SingboxVpn

open Json
open Text (debug)
open Lines

/-!
# The migration of deployment.toml

`migrate_deployment_toml` of `crates/compat-config/src/deployment.rs`.  The file is patched as a
text, line by line, and read as a configuration before and after, so that two notions of what a file
says meet: the scan of its lines, and the parser.

* `stampLines_eq` — the patched lines: some of the file's lines, the header, and the rest.
* `MeaningKept` — what a migration should come to; `meaningKept_iff` says when it does.
-/

/-! ### Node identities -/

/-- The documented default identity: the first label of the host, with other characters replaced,
    trimmed and cut off. -/
def defaultNodeIdForHost (publicHost : String) : String :=
  let first := publicHost.toList.takeWhile (· != '.')
  let mapped := first.map fun c => if c.isAlphanum || c == '-' || c == '_' then c else '-'
  let id := (trimMatches (!·.isAlphanum) mapped).take NODE_ID_MAX_LEN
  let id := (id.reverse.dropWhile fun c => c == '-' || c == '_').reverse
  if id.isEmpty then "legacy-node" else String.ofList id

/-! ### The patch -/

/-- The line opens a table, as far as the scan can tell. -/
def startsTable (line : List Char) : Bool := (trimStart line).head? == some '['

/-- The bare key that a line assigns. -/
def topLevelKey (line : List Char) : Option (List Char) :=
  let trimmed := trimStart line
  if trimmed.head? == some '#' || trimmed.head? == some '[' then none
  else (splitOnce '=' trimmed).map fun p => trim p.1

def topLevel (ls : List (List Char)) : List (List Char) := ls.takeWhile (!startsTable ·)

def valueOf (ls : List (List Char)) (wanted : String) : Option (List Char) :=
  (topLevel ls).findSome? fun line =>
    if topLevelKey line = some wanted.toList then (splitOnce '=' line).map fun p => trim p.2
    else none

/-- The text has the current version, an identity and a role already. -/
def upToDate (ls : List (List Char)) : Bool :=
  (valueOf ls "schema_version").bind (fun value => parseU32 (String.ofList value)) ==
      some DEPLOYMENT_SCHEMA_VERSION &&
    (valueOf ls "node_id").isSome && (valueOf ls "role").isSome

def versionLine : List Char := ("schema_version = " ++ toString DEPLOYMENT_SCHEMA_VERSION).toList

def nodeIdLine (id : String) : List Char := ("node_id = " ++ debug id).toList

def roleLine : List Char := "role = \"exit\"".toList

/-- The identity that the patch gives to a file: that of the host as it is written in the text. -/
def scannedNodeId (ls : List (List Char)) : String :=
  defaultNodeIdForHost
    (String.ofList (((valueOf ls "public_host").map (trimMatches (· == '"'))).getD []))

def identityLines (ls : List (List Char)) : List (List Char) :=
  (if (valueOf ls "node_id").isSome then [] else [nodeIdLine (scannedNodeId ls)]) ++
    if (valueOf ls "role").isSome then [] else [roleLine]

def isVersion (line : List Char) : Bool := topLevelKey line == some "schema_version".toList

/-- The loop over the lines.  The header takes the place of the first version line, other version
    lines are left out; the result says whether the header was written. -/
def stampLines (header : List (List Char)) :
    Bool → Bool → List (List Char) → List (List Char) × Bool
  | wroteHeader, _, [] => ([], wroteHeader)
  | wroteHeader, inTopLevel, line :: rest =>
    let inTopLevel := inTopLevel && !startsTable line
    if inTopLevel && isVersion line then
      let (body, wrote) := stampLines header true inTopLevel rest
      (if wroteHeader then body else header ++ body, wrote)
    else
      let (body, wrote) := stampLines header wroteHeader inTopLevel rest
      (line :: body, wrote)

def stamped (header ls : List (List Char)) : List (List Char) :=
  let (body, wroteHeader) := stampLines header false true ls
  if wroteHeader then body else header ++ body

def textOf (ls : List (List Char)) : String := String.ofList (unlines ls)

/-- The text with schema version, identity and role stamped, unless they are there. -/
def migrateDeploymentTomlText (original : String) : Option String :=
  let ls := lines original.toList
  if upToDate ls then none else some (textOf (stamped (versionLine :: identityLines ls) ls))

/-! ### The migration of a file -/

/-- What a migration did. -/
inductive DeploymentMigrationOutcome where
  | missing
  | alreadyCurrent
  | migrated (backupPath : String)
deriving DecidableEq, Repr

structure MigrationAnswers where
  read : Except String Unit := .ok ()
  backup : Except String String := .ok "deployment.toml.pre-migration-0.bak"
  write : Except String Unit := .ok ()

/-- Parse a text and decode the configuration. -/
def Toml.fromStr (toml : Toml) (text : String) : Except String DeploymentFile :=
  toml.parse text >>= toml.decode

/-- The configuration as the migration compares it. -/
def DeploymentFile.normalized (file : DeploymentFile) (withNodeId : Bool) : DeploymentFile :=
  { file with config := { file.config with
      schemaVersion := 0
      nodeId := if withNodeId then file.config.nodeId else "" } }

/-- The outcome for a file, and the file afterwards.  A migration that fails leaves it as it was. -/
def migrateDeploymentToml (toml : Toml) (ext : External) (path : String) (a : MigrationAnswers) :
    Option String → Except CompatError (DeploymentMigrationOutcome × Option String)
  | none => .ok (.missing, none)
  | some original => do
    a.read.mapError .io
    let originalCfg ← (toml.fromStr original).mapError fun e =>
      .parse ("cannot migrate " ++ debug path ++ ": existing file does not parse (" ++ e ++
        "); no changes made")
    originalCfg.config.validate ext
    match migrateDeploymentTomlText original with
    | none => .ok (.alreadyCurrent, some original)
    | some patched => do
      let migratedCfg ← (toml.fromStr patched).mapError fun e =>
        .parse ("migrated deployment.toml failed to reparse (" ++ e ++
          ") — this is a bug, not applying")
      migratedCfg.config.validate ext
      Check.refuseIf (migratedCfg.config.schemaVersion != DEPLOYMENT_SCHEMA_VERSION)
        (.parse ("migration produced schema_version " ++
          toString migratedCfg.config.schemaVersion ++ " (expected " ++
          toString DEPLOYMENT_SCHEMA_VERSION ++ ") — refusing to apply"))
      Check.refuseIf (migratedCfg.config.role != originalCfg.config.role)
        (.parse ("migration would change role from " ++ debug originalCfg.config.role.asStr ++
          " to " ++ debug migratedCfg.config.role.asStr ++ " — refusing to apply"))
      let withNodeId := !originalCfg.config.nodeId.isEmpty
      Check.refuseIf
        (decide (originalCfg.normalized withNodeId ≠ migratedCfg.normalized withNodeId))
        (.parse ("migration would change an operator value other than schema_version/new node " ++
          "identity — refusing to apply (this is a bug in migrate_deployment_toml_text)"))
      let backupPath ← a.backup.mapError .io
      a.write.mapError .io
      .ok (.migrated backupPath, some patched)

/-! ### The patched lines -/

def beforeHeader (ls : List (List Char)) : List (List Char) :=
  if (topLevel ls).any isVersion then (topLevel ls).takeWhile (!isVersion ·) else []

def afterHeader (ls : List (List Char)) : List (List Char) :=
  if (topLevel ls).any isVersion then
    ((topLevel ls).dropWhile (!isVersion ·)).filter (!isVersion ·) ++
      ls.dropWhile (!startsTable ·)
  else ls

section Patched
variable {line : List Char} {header ls : List (List Char)}

theorem topLevel_cons_table (h : startsTable line = true) : topLevel (line :: ls) = [] := by
  simp [topLevel, h]

theorem topLevel_cons (h : startsTable line = false) :
    topLevel (line :: ls) = line :: topLevel ls := by
  simp [topLevel, h]

theorem stampLines_table (header : List (List Char)) (wroteHeader : Bool) :
    stampLines header wroteHeader false ls = (ls, wroteHeader) := by
  induction ls with
  | nil => rfl
  | cons line rest ih => simp [stampLines, ih]

theorem stampLines_wrote :
    stampLines header true true ls =
      ((topLevel ls).filter (!isVersion ·) ++ ls.dropWhile (!startsTable ·), true) := by
  induction ls with
  | nil => rfl
  | cons line rest ih =>
    cases htable : startsTable line with
    | true => simp [stampLines, htable, stampLines_table, topLevel_cons_table htable]
    | false =>
      rw [topLevel_cons htable]
      cases hversion : isVersion line with
      | true => simp [stampLines, htable, hversion, ih]
      | false => simp [stampLines, htable, hversion, ih]

theorem stampLines_eq :
    stampLines header false true ls =
      (if (topLevel ls).any isVersion then beforeHeader ls ++ header ++ afterHeader ls else ls,
        (topLevel ls).any isVersion) := by
  induction ls with
  | nil => rfl
  | cons line rest ih =>
    cases htable : startsTable line with
    | true => simp [stampLines, htable, stampLines_table, topLevel_cons_table htable]
    | false =>
      cases hversion : isVersion line with
      | true =>
        simp [stampLines, htable, hversion, stampLines_wrote, beforeHeader, afterHeader,
          topLevel_cons htable]
      | false =>
        -- the line goes before the header if one is written further down
        simp only [stampLines, htable, hversion, ih, topLevel_cons htable, List.any_cons,
          Bool.false_or, Bool.not_false, Bool.and_true, Bool.and_false, Bool.false_eq_true,
          if_false]
        by_cases hany : (topLevel rest).any isVersion = true
        · simp [hany, beforeHeader, afterHeader, topLevel_cons htable, htable, hversion]
        · simp [hany]

theorem stamped_eq (header ls : List (List Char)) :
    stamped header ls = beforeHeader ls ++ header ++ afterHeader ls := by
  unfold stamped
  rw [stampLines_eq]
  by_cases hany : (topLevel ls).any isVersion = true
  · simp [hany]
  · simp [hany, beforeHeader, afterHeader]

theorem of_mem_topLevel (h : line ∈ topLevel ls) : line ∈ ls ∧ startsTable line = false := by
  refine ⟨(List.takeWhile_sublist _).subset h, ?_⟩
  simpa using List.mem_takeWhile_imp h

theorem of_mem_beforeHeader (h : line ∈ beforeHeader ls) :
    line ∈ topLevel ls ∧ isVersion line = false := by
  unfold beforeHeader at h
  split at h
  · refine ⟨(List.takeWhile_sublist _).subset h, ?_⟩
    simpa using List.mem_takeWhile_imp h
  · cases h

theorem mem_of_mem_afterHeader (h : line ∈ afterHeader ls) : line ∈ ls := by
  unfold afterHeader at h
  split at h
  · rcases List.mem_append.mp h with h | h
    · have hmem := (List.dropWhile_sublist _).subset (List.mem_filter.mp h).1
      exact (of_mem_topLevel hmem).1
    · exact (List.dropWhile_sublist _).subset h
  · exact h

theorem topLevel_stamped (hheader : ∀ l ∈ header, startsTable l = false) :
    topLevel (stamped header ls) = beforeHeader ls ++ header ++ topLevel (afterHeader ls) := by
  have hplain : ∀ l ∈ beforeHeader ls ++ header, (!startsTable l) = true := by
    intro l hl
    rcases List.mem_append.mp hl with hl | hl
    · simp [(of_mem_topLevel (of_mem_beforeHeader hl).1).2]
    · simp [hheader l hl]
  rw [stamped_eq, topLevel, List.takeWhile_append_of_pos hplain, topLevel]

theorem mem_topLevel_stamped (hheader : ∀ l ∈ header, startsTable l = false)
    (h : line ∈ topLevel ls) (hversion : isVersion line = false) :
    line ∈ topLevel (stamped header ls) := by
  rw [topLevel_stamped hheader]
  by_cases hany : (topLevel ls).any isVersion = true
  · rw [← List.takeWhile_append_dropWhile (p := (!isVersion ·)) (l := topLevel ls)] at h
    rcases List.mem_append.mp h with h | h
    · refine List.mem_append_left _ (List.mem_append_left _ ?_)
      rwa [beforeHeader, if_pos hany]
    · refine List.mem_append_right _ ?_
      have hkept : ∀ l ∈ ((topLevel ls).dropWhile (!isVersion ·)).filter (!isVersion ·),
          (!startsTable l) = true := by
        intro l hl
        have hmem := (List.dropWhile_sublist _).subset (List.mem_filter.mp hl).1
        simp [(of_mem_topLevel hmem).2]
      rw [afterHeader, if_pos hany, topLevel, List.takeWhile_append_of_pos hkept]
      refine List.mem_append_left _ (List.mem_filter.mpr ⟨h, ?_⟩)
      simp [hversion]
  · refine List.mem_append_right _ ?_
    rw [afterHeader, if_neg hany]
    exact h

end Patched

/-! ### Patching twice -/

section Again
variable {line : List Char} {ls : List (List Char)} {wanted : String}

theorem startsTable_chomp (l : List Char) : startsTable (chomp l) = startsTable l := by
  refine apply_chomp (fun l => ?_) l
  rw [startsTable, head_trimStart_concat (by decide), startsTable]

theorem topLevelKey_chomp (l : List Char) : topLevelKey (chomp l) = topLevelKey l := by
  refine apply_chomp (fun l => ?_) l
  have hsplit : (splitOnce '=' (trimStart (l ++ ['\r']))).map (fun p => trim p.1) =
      (splitOnce '=' (trimStart l)).map fun p => trim p.1 := by
    unfold trimStart
    rw [dropWhile_concat (by decide)]
    split
    · next h => rw [h]
    · rw [splitOnce_concat (by decide), Option.map_map]
      rfl
  simp only [topLevelKey, head_trimStart_concat (l := l) (c := '\r') (by decide), hsplit]

theorem value_chomp (l : List Char) :
    ((splitOnce '=' (chomp l)).map fun p => trim p.2) =
      (splitOnce '=' l).map fun p => trim p.2 := by
  refine apply_chomp (f := fun l => (splitOnce '=' l).map fun p => trim p.2) (fun l => ?_) l
  rw [splitOnce_concat (by decide), Option.map_map]
  refine congrArg (Option.map · _) (funext fun p => ?_)
  exact trimMatches_concat (by decide)

theorem valueOf_map_chomp (ls : List (List Char)) (wanted : String) :
    valueOf (ls.map chomp) wanted = valueOf ls wanted := by
  have htop : topLevel (ls.map chomp) = (topLevel ls).map chomp := by
    unfold topLevel
    rw [List.takeWhile_map]
    simp only [Function.comp_def, startsTable_chomp]
  unfold valueOf
  rw [htop, List.findSome?_map]
  simp only [Function.comp_def, topLevelKey_chomp, value_chomp]

theorem upToDate_map_chomp (ls : List (List Char)) : upToDate (ls.map chomp) = upToDate ls := by
  simp only [upToDate, valueOf_map_chomp]

theorem isSome_valueOf :
    (valueOf ls wanted).isSome = true ↔
      ∃ line ∈ topLevel ls, topLevelKey line = some wanted.toList := by
  unfold valueOf
  rw [List.findSome?_isSome_iff]
  refine exists_congr fun line => and_congr_right fun _ => ?_
  constructor
  · intro h
    split at h
    · next hkey => exact hkey
    · cases h
  · intro hkey
    have hsign : '=' ∈ line := by
      unfold topLevelKey at hkey
      dsimp only at hkey
      split at hkey
      · cases hkey
      · obtain ⟨p, hp, -⟩ := Option.map_eq_some_iff.mp hkey
        unfold splitOnce at hp
        split at hp
        · next hmem => exact (List.dropWhile_sublist _).subset hmem
        · cases hp
    rw [if_pos hkey, splitOnce, if_pos hsign]
    rfl

theorem valueOf_versionLine {pre : List (List Char)}
    (hpre : ∀ l ∈ pre, startsTable l = false ∧ isVersion l = false) (post : List (List Char)) :
    valueOf (pre ++ versionLine :: post) "schema_version" = some ['2'] := by
  have hplain : ∀ l ∈ pre, (!startsTable l) = true := fun l hl => by simp [(hpre l hl).1]
  have hnone : pre.findSome? (fun line =>
      if topLevelKey line = some "schema_version".toList then
        (splitOnce '=' line).map fun p => trim p.2
      else none) = none := by
    rw [List.findSome?_eq_none_iff]
    intro l hl
    have hkey : topLevelKey l ≠ some "schema_version".toList := by
      simpa [isVersion] using (hpre l hl).2
    rw [if_neg hkey]
  have hversion : (if topLevelKey versionLine = some "schema_version".toList then
      (splitOnce '=' versionLine).map fun p => trim p.2 else none) = some ['2'] := by
    decide +kernel
  unfold valueOf topLevel
  rw [List.takeWhile_append_of_pos hplain, List.takeWhile_cons_of_pos (by decide +kernel),
    List.findSome?_append, hnone, List.findSome?_cons, hversion]
  rfl

def PlainId (id : String) : Prop := ∀ c ∈ id.toList, (c.isAlphanum || c == '-' || c == '_') = true

theorem plain_defaultNodeIdForHost (host : String) : PlainId (defaultNodeIdForHost host) := by
  intro c hc
  unfold defaultNodeIdForHost at hc
  dsimp only at hc
  split at hc
  · have hlegacy : ("legacy-node".toList.all fun c =>
        c.isAlphanum || c == '-' || c == '_') = true := by decide +kernel
    exact List.all_eq_true.mp hlegacy c hc
  · rw [String.toList_ofList, List.mem_reverse] at hc
    have htaken := List.mem_reverse.mp ((List.dropWhile_sublist _).subset hc)
    have htrimmed := List.mem_reverse.mp
      ((List.dropWhile_sublist _).subset (List.mem_reverse.mp (List.mem_of_mem_take htaken)))
    obtain ⟨a, -, rfl⟩ := List.mem_map.mp ((List.dropWhile_sublist _).subset htrimmed)
    split
    · next h => exact h
    · decide

theorem debugChar_plain {c : Char} (h : (c.isAlphanum || c == '-' || c == '_') = true) :
    Text.debugChar c = [c] := by
  have hne : ∀ d : Char, (d.isAlphanum || d == '-' || d == '_') = false → c ≠ d := by
    rintro d hd rfl
    rw [h] at hd
    cases hd
  have hcontrol : Text.isControl c = false := by
    simp only [Bool.or_eq_true, beq_iff_eq] at h
    simp only [Text.isControl, Bool.or_eq_false_iff, Bool.and_eq_false_iff, decide_eq_false_iff_not]
    rcases h with (h | rfl) | rfl
    · have := Text.toNat_of_isAlphanum h
      omega
    · decide
    · decide
  rw [Text.debugChar, if_neg (hne _ (by decide)), if_neg (hne _ (by decide)),
    if_neg (hne _ (by decide)), if_neg (hne _ (by decide)), if_neg (hne _ (by decide)),
    if_neg (hne _ (by decide)), hcontrol, if_neg Bool.false_ne_true]

theorem nodeIdLine_plain {id : String} (h : PlainId id) :
    nodeIdLine id = "node_id ".toList ++ '=' :: ' ' :: '"' :: (id.toList ++ ['"']) := by
  have hdebug : id.toList.flatMap Text.debugChar = id.toList := by
    rw [List.flatMap_congr fun c hc => debugChar_plain (h c hc)]
    exact List.flatMap_singleton' _
  simp [nodeIdLine, debug, String.toList_append, hdebug]

/-- What the patch needs of a line that it writes: it is one line, opens no table, and assigns its
    key. -/
structure Assigns (line : List Char) (key : String) : Prop where
  newline : '\n' ∉ line
  table : startsTable line = false
  key : topLevelKey line = some key.toList

theorem assigns_versionLine : Assigns versionLine "schema_version" := by
  constructor <;> decide +kernel

theorem assigns_roleLine : Assigns roleLine "role" := by
  constructor <;> decide +kernel

theorem assigns_nodeIdLine {id : String} (h : PlainId id) : Assigns (nodeIdLine id) "node_id" := by
  rw [nodeIdLine_plain h]
  have hstart : trimStart ("node_id ".toList ++ '=' :: ' ' :: '"' :: (id.toList ++ ['"'])) =
      "node_id ".toList ++ '=' :: ' ' :: '"' :: (id.toList ++ ['"']) := rfl
  refine ⟨?_, ?_, ?_⟩
  · have hid : '\n' ∉ id.toList := fun hmem => absurd (h _ hmem) (by decide)
    simpa using hid
  · rw [startsTable, hstart]
    rfl
  · have hsplit : splitOnce '=' ("node_id ".toList ++ '=' :: ' ' :: '"' :: (id.toList ++ ['"'])) =
        some ("node_id ".toList, ' ' :: '"' :: (id.toList ++ ['"'])) :=
      splitOnce_append (by decide) _
    simp only [topLevelKey, hstart, hsplit]
    rfl

theorem assigns_identityLines : ∀ l ∈ identityLines ls, ∃ key, Assigns l key := by
  intro l hl
  rcases List.mem_append.mp hl with hl | hl
  · split at hl
    · cases hl
    · rw [List.mem_singleton.mp hl]
      exact ⟨_, assigns_nodeIdLine (plain_defaultNodeIdForHost _)⟩
  · split at hl
    · cases hl
    · rw [List.mem_singleton.mp hl]
      exact ⟨_, assigns_roleLine⟩

theorem assigns_header : ∀ l ∈ versionLine :: identityLines ls, ∃ key, Assigns l key := by
  intro l hl
  rcases List.mem_cons.mp hl with rfl | hl
  · exact ⟨_, assigns_versionLine⟩
  · exact assigns_identityLines l hl

theorem upToDate_stamped (ls : List (List Char)) :
    upToDate (stamped (versionLine :: identityLines ls) ls) = true := by
  have htable : ∀ l ∈ versionLine :: identityLines ls, startsTable l = false := by
    intro l hl
    obtain ⟨_, hassigns⟩ := assigns_header l hl
    exact hassigns.table
  have hadded : ∀ line key, line ∈ versionLine :: identityLines ls → Assigns line key →
      (valueOf (stamped (versionLine :: identityLines ls) ls) key).isSome = true := by
    intro line key hline hassigns
    refine isSome_valueOf.mpr ⟨line, ?_, hassigns.key⟩
    rw [topLevel_stamped htable]
    exact List.mem_append_left _ (List.mem_append_right _ hline)
  have hkept : ∀ key : String, key.toList ≠ "schema_version".toList →
      (valueOf ls key).isSome = true →
      (valueOf (stamped (versionLine :: identityLines ls) ls) key).isSome = true := by
    intro key hkey hsome
    obtain ⟨line, hline, hassigned⟩ := isSome_valueOf.mp hsome
    refine isSome_valueOf.mpr ⟨line, mem_topLevel_stamped htable hline ?_, hassigned⟩
    simpa [isVersion, hassigned] using hkey
  have hversion : valueOf (stamped (versionLine :: identityLines ls) ls) "schema_version" =
      some ['2'] := by
    rw [stamped_eq, List.append_assoc, List.cons_append]
    refine valueOf_versionLine (fun l hl => ?_) _
    obtain ⟨htop, hversion⟩ := of_mem_beforeHeader hl
    exact ⟨(of_mem_topLevel htop).2, hversion⟩
  have hnode :
      (valueOf (stamped (versionLine :: identityLines ls) ls) "node_id").isSome = true := by
    cases h : (valueOf ls "node_id").isSome with
    | true => exact hkept _ (by decide) h
    | false =>
      refine hadded (nodeIdLine (scannedNodeId ls)) _ ?_
        (assigns_nodeIdLine (plain_defaultNodeIdForHost _))
      simp [identityLines, h]
  have hrole : (valueOf (stamped (versionLine :: identityLines ls) ls) "role").isSome = true := by
    cases h : (valueOf ls "role").isSome with
    | true => exact hkept _ (by decide) h
    | false =>
      refine hadded roleLine _ ?_ assigns_roleLine
      simp [identityLines, h]
  rw [upToDate, hversion, hnode, hrole]
  decide +kernel

theorem lines_textOf (h : ∀ l ∈ ls, '\n' ∉ l) : lines (textOf ls).toList = ls.map chomp := by
  rw [textOf, String.toList_ofList, lines_unlines h]

/-- **A patched text is current.**  Whatever the text, the scan finds nothing to do in the text that
    the patch has made of it. -/
theorem migrateText_again {original patched : String}
    (h : migrateDeploymentTomlText original = some patched) :
    migrateDeploymentTomlText patched = none := by
  unfold migrateDeploymentTomlText at h
  dsimp only at h
  split at h
  · cases h
  · cases h
    have hnewline : ∀ l ∈ stamped (versionLine :: identityLines (lines original.toList))
        (lines original.toList), '\n' ∉ l := by
      intro l hl
      rw [stamped_eq] at hl
      rcases List.mem_append.mp hl with hl | hl
      · rcases List.mem_append.mp hl with hl | hl
        · exact not_mem_lines l (of_mem_topLevel (of_mem_beforeHeader hl).1).1
        · obtain ⟨_, hassigns⟩ := assigns_header l hl
          exact hassigns.newline
      · exact not_mem_lines l (mem_of_mem_afterHeader hl)
    unfold migrateDeploymentTomlText
    rw [lines_textOf hnewline]
    exact if_pos ((upToDate_map_chomp _).trans (upToDate_stamped _))

end Again

/-! ### Hosts in quotes -/

section Label
variable {c : Char} {l : List Char}

def hostLabel (host : List Char) : List Char :=
  trimMatches (!·.isAlphanum) ((host.takeWhile (· != '.')).map fun c =>
    if c.isAlphanum || c == '-' || c == '_' then c else '-')

theorem defaultNodeId_congr {host host' : List Char} (h : hostLabel host = hostLabel host') :
    defaultNodeIdForHost (String.ofList host) = defaultNodeIdForHost (String.ofList host') := by
  unfold hostLabel at h
  simp only [defaultNodeIdForHost, String.toList_ofList, h]

theorem not_alphanum_mapped (hc : c.isAlphanum = false) :
    (!(if c.isAlphanum || c == '-' || c == '_' then c else '-').isAlphanum) = true := by
  split
  · rw [hc]
    rfl
  · rfl

theorem hostLabel_cons (hc : c.isAlphanum = false) (hdot : c ≠ '.') :
    hostLabel (c :: l) = hostLabel l := by
  have hne : (c != '.') = true := by simpa using hdot
  rw [hostLabel, List.takeWhile_cons_of_pos (p := (· != '.')) hne, List.map_cons,
    trimMatches_cons (not_alphanum_mapped hc), hostLabel]

theorem hostLabel_append (h : '.' ∈ l) (rest : List Char) :
    hostLabel (l ++ rest) = hostLabel l := by
  obtain ⟨first, others, rfl, hfirst⟩ := List.eq_append_cons_of_mem h
  have hplain : ∀ c ∈ first, (c != '.') = true := by
    intro c hc
    have hne : c ≠ '.' := fun e => hfirst (e ▸ hc)
    simpa using hne
  unfold hostLabel
  rw [List.append_assoc, List.cons_append, List.takeWhile_append_of_pos hplain,
    List.takeWhile_append_of_pos hplain]
  simp

theorem hostLabel_concat (hc : c.isAlphanum = false) (hdot : c ≠ '.') :
    hostLabel (l ++ [c]) = hostLabel l := by
  by_cases h : '.' ∈ l
  · exact hostLabel_append h [c]
  · have hplain : ∀ a ∈ l, (a != '.') = true := by
      intro a ha
      have hne : a ≠ '.' := fun e => h (e ▸ ha)
      simpa using hne
    have hne : (c != '.') = true := by simpa using hdot
    have hself : l.takeWhile (· != '.') = l := List.takeWhile_eq_self_iff.mpr hplain
    rw [hostLabel, List.takeWhile_append_of_pos hplain,
      List.takeWhile_cons_of_pos (p := (· != '.')) hne, List.takeWhile_nil, List.map_append,
      List.map_singleton,
      trimMatches_concat (not_alphanum_mapped hc), hostLabel, hself]

theorem hostLabel_trimQuotes (l : List Char) :
    hostLabel (trimMatches (· == '"') l) = hostLabel l := by
  have hstart : ∀ l : List Char, hostLabel (l.dropWhile (· == '"')) = hostLabel l := by
    intro l
    induction l with
    | nil => rfl
    | cons c l ih =>
      by_cases hc : c = '"'
      · subst hc
        rw [List.dropWhile_cons_of_pos (by decide), ih, hostLabel_cons (by decide) (by decide)]
      · rw [List.dropWhile_cons_of_neg (by simpa using hc)]
  have hend : ∀ l : List Char,
      hostLabel (l.reverse.dropWhile (· == '"')).reverse = hostLabel l := by
    intro l
    induction l using List.reverseRecOn with
    | nil => rfl
    | append_singleton l c ih =>
      rw [List.reverse_append, List.reverse_singleton, List.singleton_append]
      by_cases hc : c = '"'
      · subst hc
        rw [List.dropWhile_cons_of_pos (by decide), ih, hostLabel_concat (by decide) (by decide)]
      · rw [List.dropWhile_cons_of_neg (by simpa using hc), List.reverse_cons, List.reverse_reverse]
  rw [trimMatches, hend, hstart]

/-- The quotes that the patch takes off make no difference to the identity. -/
theorem scannedNodeId_eq (ls : List (List Char)) :
    scannedNodeId ls =
      defaultNodeIdForHost (String.ofList ((valueOf ls "public_host").getD [])) := by
  unfold scannedNodeId
  cases valueOf ls "public_host" with
  | none => rfl
  | some value => exact defaultNodeId_congr (hostLabel_trimQuotes value)

/-- A host between quotes of any kind names the node as it does by itself if it has a dot, whatever
    follows it in the line, or if nothing follows it. -/
theorem defaultNodeId_quoted {q q' : Char} {host rest : List Char} (hq : q.isAlphanum = false)
    (hq' : q'.isAlphanum = false) (hdot : q ≠ '.') (hdot' : q' ≠ '.')
    (h : '.' ∈ host ∨ rest = []) :
    defaultNodeIdForHost (String.ofList (q :: (host ++ q' :: rest))) =
      defaultNodeIdForHost (String.ofList host) := by
  refine defaultNodeId_congr ?_
  rw [hostLabel_cons hq hdot]
  rcases h with h | rfl
  · exact hostLabel_append h _
  · exact hostLabel_concat hq' hdot'

end Label

/-! ### The parser and the lines -/

/-- What is assumed of the parser about a header that stands between the lines of a file. -/
structure Toml.ReadsLines (toml : Toml) : Prop where
  /-- Lines that are a file by themselves end between two statements.  If none of them opens a
      table, an assignment that follows is one of the top level. -/
  statement : ∀ {pre more post : List (List Char)} {id : String} {t₀ t : Table},
    (∀ l ∈ pre ++ post, '\n' ∉ l) → (∀ l ∈ pre, startsTable l = false) → PlainId id →
    (∀ l ∈ more, l = roleLine) → toml.parse (textOf pre) = .ok t₀ →
    toml.parse (textOf (pre ++ versionLine :: nodeIdLine id :: more ++ post)) = .ok t →
    t.lookup "node_id" = some (.str id)
  /-- Lines that are not end inside a value.  An assignment that follows is then part of a string,
      and of an identity only if that is not a valid one. -/
  swallowed : ∀ {pre more post : List (List Char)} {id n e : String} {t : Table},
    (∀ l ∈ pre ++ post, '\n' ∉ l) → (∀ l ∈ pre, startsTable l = false) → PlainId id →
    (∀ l ∈ more, l = roleLine) → toml.parse (textOf pre) = .error e →
    toml.parse (textOf (pre ++ versionLine :: nodeIdLine id :: more ++ post)) = .ok t →
    t.lookup "node_id" = some (.str n) → validateNodeId n = .ok () →
    ∃ t', toml.parse (textOf (pre ++ versionLine :: post)) = .ok t' ∧
      t'.lookup "node_id" = some (.str n)

def Toml.ReadsNodeId (toml : Toml) : Prop :=
  ∀ view base, toml.others view = .ok base →
    view ["node_id"] = none ∧ base.config.nodeId = "" ∨
      view ["node_id"] = some (.str base.config.nodeId)

/-! ### What a migration comes to -/

/-- The meaning of a file that was migrated: the text of the file afterwards is valid, has the
    original's values, the version and an identity that was added apart, and is not migrated
    again. -/
structure MeaningKept (toml : Toml) (ext : External) (path original : String)
    (originalCfg : DeploymentFile) (text : String) (migratedCfg : DeploymentFile) : Prop where
  loads : toml.load ext text = .ok migratedCfg
  rest : migratedCfg.normalized false = originalCfg.normalized false
  nodeId : migratedCfg.config.nodeId = originalCfg.config.nodeId ∨
    valueOf (lines original.toList) "node_id" = none ∧ originalCfg.config.nodeId = "" ∧
      migratedCfg.config.nodeId = defaultNodeIdForHost originalCfg.config.publicHost
  again : ∀ a : MigrationAnswers, a.read = .ok () →
    migrateDeploymentToml toml ext path a (some text) = .ok (.alreadyCurrent, some text)

/-- The lines of the text with the current version in place of its version lines. -/
def restamped (ls : List (List Char)) : List (List Char) :=
  beforeHeader ls ++ versionLine :: afterHeader ls

/-- The scan of the lines and the parser agree on the host.  What is written after the sign in the
    first line for `public_host` names the node as the host does; if the version line that the scan
    finds is in the middle of a value, the file has the identity elsewhere. -/
def HostLegible (toml : Toml) (original : String) (originalCfg : DeploymentFile) : Prop :=
  let ls := lines original.toList
  let id := defaultNodeIdForHost originalCfg.config.publicHost
  upToDate ls = true ∨ originalCfg.config.nodeId ≠ "" ∨
    valueOf ls "node_id" = none ∧
      match toml.parse (textOf (beforeHeader ls)) with
      | .ok _ => defaultNodeIdForHost (String.ofList ((valueOf ls "public_host").getD [])) = id
      | .error _ => ∃ t, toml.parse (textOf (restamped ls)) = .ok t ∧
          t.lookup "node_id" = some (.str id)

section Meaning
variable {toml : Toml} {ext : External} {path original text : String} {a : MigrationAnswers}
  {originalCfg migratedCfg : DeploymentFile}

variable {file : DeploymentFile}

theorem Toml.load_iff :
    toml.load ext text = .ok file ↔
      toml.fromStr text = .ok file ∧ file.config.validate ext = .ok () := by
  simp only [Toml.load, Toml.fromStr, Check.bind_eq_ok, Check.mapError_eq_ok, Except.ok.injEq]
  constructor
  · rintro ⟨t, ht, _, hfile, _, hvalid, rfl⟩
    exact ⟨⟨t, ht, hfile⟩, hvalid⟩
  · rintro ⟨⟨t, ht, hfile⟩, hvalid⟩
    exact ⟨t, ht, file, hfile, (), hvalid, rfl⟩

theorem nodeId_of_validate {d : DeploymentConfig} (h : d.validate ext = .ok ())
    (hversion : d.schemaVersion = DEPLOYMENT_SCHEMA_VERSION) :
    d.nodeId ≠ "" ∧ validateNodeId d.nodeId = .ok () := by
  simp only [DeploymentConfig.validate, DeploymentConfig.validateIdentity, Check.bind_ok] at h
  obtain ⟨⟨-, hblank, hnode⟩, -⟩ := h
  have hne : d.nodeId ≠ "" := by
    intro hempty
    rw [Check.refuseIf_ok, hversion, hempty] at hblank
    revert hblank
    decide +kernel
  refine ⟨hne, ?_⟩
  rw [if_pos (by simpa using hne)] at hnode
  exact (Check.bind_ok.mp hnode).1

theorem nodeId_of_fromStr (hnode : toml.ReadsNodeId) (h : toml.fromStr text = .ok file) :
    ∃ t, toml.parse text = .ok t ∧
      (t.lookup "node_id" = none ∧ file.config.nodeId = "" ∨
        t.lookup "node_id" = some (.str file.config.nodeId)) := by
  obtain ⟨t, ht, hdecode⟩ := Check.bind_eq_ok.mp h
  obtain ⟨base, hbase, _, _, _, _, _, _, _, _, rfl⟩ := Toml.decode_ok.mp hdecode
  have hview : restView t ["node_id"] = t.lookup "node_id" := by
    rw [restView, if_neg (by decide)]
  refine ⟨t, ht, ?_⟩
  rw [← hview]
  exact hnode _ base hbase

theorem migrate_ok {outcome : DeploymentMigrationOutcome} {file : Option String}
    (h : migrateDeploymentToml toml ext path a (some original) = .ok (outcome, file)) :
    ∃ originalCfg, toml.load ext original = .ok originalCfg ∧
      (migrateDeploymentTomlText original = none ∧ file = some original ∨
        ∃ patched migratedCfg, migrateDeploymentTomlText original = some patched ∧
          file = some patched ∧ toml.load ext patched = .ok migratedCfg ∧
          migratedCfg.config.schemaVersion = DEPLOYMENT_SCHEMA_VERSION ∧
          originalCfg.normalized (!originalCfg.config.nodeId.isEmpty) =
            migratedCfg.normalized (!originalCfg.config.nodeId.isEmpty)) := by
  simp only [migrateDeploymentToml, Check.bind_eq_ok, Check.mapError_eq_ok] at h
  obtain ⟨_, -, originalCfg, horiginal, _, hvalid, h⟩ := h
  refine ⟨originalCfg, Toml.load_iff.mpr ⟨horiginal, hvalid⟩, ?_⟩
  cases hpatch : migrateDeploymentTomlText original with
  | none =>
    simp only [hpatch] at h
    cases h
    exact .inl ⟨rfl, rfl⟩
  | some patched =>
    simp only [hpatch, Check.bind_eq_ok, Check.mapError_eq_ok, Check.refuseIf_ok] at h
    obtain ⟨migratedCfg, hmigrated, _, hvalid', _, hversion, _, -, _, hsame, _, -, _, -, ⟨⟩⟩ := h
    exact .inr ⟨patched, migratedCfg, rfl, rfl, Toml.load_iff.mpr ⟨hmigrated, hvalid'⟩,
      by simpa using hversion, by simpa using hsame⟩

theorem migrate_current (hload : toml.load ext text = .ok file)
    (hcurrent : migrateDeploymentTomlText text = none) (hread : a.read = .ok ()) :
    migrateDeploymentToml toml ext path a (some text) = .ok (.alreadyCurrent, some text) := by
  obtain ⟨hfile, hvalid⟩ := Toml.load_iff.mp hload
  simp only [migrateDeploymentToml, hread, hfile, hcurrent]
  show (file.config.validate ext >>= fun _ => _) = _
  rw [hvalid]
  rfl

theorem migrate_patched {patched : String} (hload : toml.load ext original = .ok originalCfg)
    (hpatch : migrateDeploymentTomlText original = some patched)
    (hmigrated : toml.load ext patched = .ok migratedCfg)
    (hversion : migratedCfg.config.schemaVersion = DEPLOYMENT_SCHEMA_VERSION)
    (hrole : migratedCfg.config.role = originalCfg.config.role)
    (hsame : originalCfg.normalized (!originalCfg.config.nodeId.isEmpty) =
      migratedCfg.normalized (!originalCfg.config.nodeId.isEmpty)) :
    migrateDeploymentToml toml ext path {} (some original) =
      .ok (.migrated "deployment.toml.pre-migration-0.bak", some patched) := by
  obtain ⟨hfile, hvalid⟩ := Toml.load_iff.mp hload
  obtain ⟨hfile', hvalid'⟩ := Toml.load_iff.mp hmigrated
  simp only [migrateDeploymentToml, hfile, hpatch, hfile', Except.mapError, Check.bind_eq_ok,
    Check.refuseIf_ok]
  simpa [hvalid, hvalid'] using ⟨hversion, hrole, hsame⟩

theorem migrateText_eq_none :
    migrateDeploymentTomlText original = none ↔ upToDate (lines original.toList) = true := by
  unfold migrateDeploymentTomlText
  simp

theorem lines_around_header (ls : List (List Char)) (hnewline : ∀ l ∈ ls, '\n' ∉ l) :
    (∀ l ∈ beforeHeader ls ++ afterHeader ls, '\n' ∉ l) ∧
      ∀ l ∈ beforeHeader ls, startsTable l = false := by
  constructor
  · intro l hl
    rcases List.mem_append.mp hl with hl | hl
    · exact hnewline l (of_mem_topLevel (of_mem_beforeHeader hl).1).1
    · exact hnewline l (mem_of_mem_afterHeader hl)
  · intro l hl
    exact (of_mem_topLevel (of_mem_beforeHeader hl).1).2

theorem addedNodeId_iff (hlines : toml.ReadsLines) (hnode : toml.ReadsNodeId) {patched : String}
    (hpatch : migrateDeploymentTomlText original = some patched)
    (hload : toml.load ext patched = .ok migratedCfg)
    (hversion : migratedCfg.config.schemaVersion = DEPLOYMENT_SCHEMA_VERSION)
    (hempty : originalCfg.config.nodeId = "") :
    (valueOf (lines original.toList) "node_id" = none ∧
        migratedCfg.config.nodeId = defaultNodeIdForHost originalCfg.config.publicHost) ↔
      HostLegible toml original originalCfg := by
  have hold : ¬ upToDate (lines original.toList) = true := by
    rw [← migrateText_eq_none, hpatch]
    exact Option.some_ne_none _
  have htext : patched = textOf (stamped (versionLine :: identityLines (lines original.toList))
      (lines original.toList)) := by
    unfold migrateDeploymentTomlText at hpatch
    rw [if_neg hold] at hpatch
    exact (Option.some.inj hpatch).symm
  obtain ⟨hfile, hvalid⟩ := Toml.load_iff.mp hload
  obtain ⟨hne, hid⟩ := nodeId_of_validate hvalid hversion
  obtain ⟨t, ht, hlookup⟩ := nodeId_of_fromStr hnode hfile
  replace hlookup : t.lookup "node_id" = some (.str migratedCfg.config.nodeId) :=
    hlookup.resolve_left fun h => hne h.2
  have hsplit := lines_around_header (lines original.toList) not_mem_lines
  simp only [HostLegible, hold, hempty, ne_eq, not_true_eq_false, Bool.false_eq_true, false_or]
  generalize lines original.toList = ls at *
  refine and_congr_right fun hnone => ?_
  -- without a line for the identity, the header has one
  have hidentity : identityLines ls = nodeIdLine (scannedNodeId ls) ::
      if (valueOf ls "role").isSome then [] else [roleLine] := by
    simp [identityLines, hnone]
  have hmore : ∀ l ∈ (if (valueOf ls "role").isSome then [] else [roleLine]), l = roleLine := by
    intro l hl
    split at hl
    · cases hl
    · exact List.mem_singleton.mp hl
  rw [htext, stamped_eq, hidentity] at ht
  have hplain : PlainId (scannedNodeId ls) := plain_defaultNodeIdForHost _
  cases hparse : toml.parse (textOf (beforeHeader ls)) with
  | ok t₀ =>
    have hadded := hlines.statement hsplit.1 hsplit.2 hplain hmore hparse ht
    have hscanned := Json.str.inj (Option.some.inj (hlookup.symm.trans hadded))
    rw [hscanned, scannedNodeId_eq]
  | error e =>
    obtain ⟨t', ht', hlookup'⟩ :=
      hlines.swallowed hsplit.1 hsplit.2 hplain hmore hparse ht hlookup hid
    constructor
    · intro heq
      exact ⟨t', ht', heq ▸ hlookup'⟩
    · rintro ⟨t'', ht'', hlookup''⟩
      rw [← Except.ok.inj (ht'.symm.trans ht'')] at hlookup''
      exact Json.str.inj (Option.some.inj (hlookup'.symm.trans hlookup''))

theorem DeploymentFile.normalized_false (file : DeploymentFile) (withNodeId : Bool) :
    (file.normalized withNodeId).normalized false = file.normalized false := rfl

/-- **When a migration keeps the meaning of a file.**  After a migration that succeeds the file is
    valid, has its values, and is current, whatever it looks like.  An identity that was added is
    that of the host exactly if the scan of the lines reads the host as the parser does. -/
theorem meaningKept_iff (hlines : toml.ReadsLines) (hnode : toml.ReadsNodeId)
    {outcome : DeploymentMigrationOutcome} (hload : toml.load ext original = .ok originalCfg)
    (hsuccess : migrateDeploymentToml toml ext path a (some original) = .ok (outcome, some text)) :
    (∃ migratedCfg, MeaningKept toml ext path original originalCfg text migratedCfg) ↔
      HostLegible toml original originalCfg := by
  obtain ⟨cfg, hload', hcases⟩ := migrate_ok hsuccess
  cases Except.ok.inj (hload.symm.trans hload')
  rcases hcases with ⟨hcurrent, hfile⟩ | ⟨patched, migratedCfg, hpatch, hfile, hmigrated, hversion,
    hsame⟩
  · cases hfile
    refine iff_of_true ⟨originalCfg, hload, rfl, .inl rfl, fun a hread => ?_⟩
      (.inl (migrateText_eq_none.mp hcurrent))
    exact migrate_current hload hcurrent hread
  · cases hfile
    have hrest : migratedCfg.normalized false = originalCfg.normalized false := by
      have := congrArg (·.normalized false) hsame
      simpa only [DeploymentFile.normalized_false] using this.symm
    have hagain : ∀ a : MigrationAnswers, a.read = .ok () →
        migrateDeploymentToml toml ext path a (some text) = .ok (.alreadyCurrent, some text) :=
      fun a hread => migrate_current hmigrated (migrateText_again hpatch) hread
    by_cases hempty : originalCfg.config.nodeId = ""
    · rw [← addedNodeId_iff hlines hnode hpatch hmigrated hversion hempty]
      constructor
      · rintro ⟨cfg, hkept⟩
        cases Except.ok.inj (hmigrated.symm.trans hkept.loads)
        obtain ⟨hvalid, -⟩ := nodeId_of_validate (Toml.load_iff.mp hmigrated).2 hversion
        rcases hkept.nodeId with hsameId | ⟨hnone, -, hadded⟩
        · exact absurd (hsameId.trans hempty) hvalid
        · exact ⟨hnone, hadded⟩
      · rintro ⟨hnone, hadded⟩
        exact ⟨migratedCfg, hmigrated, hrest, .inr ⟨hnone, hempty, hadded⟩, hagain⟩
    · -- an identity that is there is compared with the rest
      have hnodeId : migratedCfg.config.nodeId = originalCfg.config.nodeId := by
        have := congrArg (·.config.nodeId) hsame
        simpa [DeploymentFile.normalized, hempty] using this.symm
      exact iff_of_true ⟨migratedCfg, hmigrated, hrest, .inl hnodeId, hagain⟩ (.inr (.inl hempty))

end Meaning

/-! ### Two files -/

/-- A number, or a string without escapes that a comment may follow. -/
def readSampleValue (value : List Char) : Option Json :=
  match trim value with
  | '"' :: rest =>
    (splitOnce '"' rest).bind fun p =>
      if '\\' ∉ p.1 ∧ ((trimStart p.2).head? = none ∨ (trimStart p.2).head? = some '#') then
        some (.str (String.ofList p.1))
      else none
  | digits => (parseU32 (String.ofList digits)).map fun n => .num n

def sampleRealityLine : List Char :=
  "reality = \x7b handshake_server = \"www.example.org\" \x7d".toList

def readSampleLine (line : List Char) : Option Table :=
  if line = sampleRealityLine then
    some [("reality", .obj [("handshake_server", .str "www.example.org")])]
  else if trimStart line = [] ∨ (trimStart line).head? = some '#' then some []
  else
    (splitOnce '=' line).bind fun p =>
      (readSampleValue p.2).map fun value => [(String.ofList (trim p.1), value)]

def sampleAssignments (ls : List (List Char)) : Table :=
  ls.flatMap fun line => (readSampleLine line).getD []

/-- The part of the format whose statements are single lines of these forms. -/
def sampleReader : Toml where
  parse text :=
    let ls := lines text.toList
    if (∀ line ∈ ls, (readSampleLine line).isSome = true) ∧
        ((sampleAssignments ls).map Prod.fst).Nodup then
      .ok (sampleAssignments ls)
    else .error "invalid document"
  print _ := .error "unsupported table"
  others view := do
    let schemaVersion ← readOr (readUnsigned 32) 0 (view ["schema_version"])
    let nodeId ← readOr readStr "" (view ["node_id"])
    let publicHost ← readRequired readStr "public_host" (view ["public_host"])
    .ok ⟨{ sampleExit with schemaVersion, nodeId, publicHost }, none, .null⟩

theorem sampleReader_readsNodeId : sampleReader.ReadsNodeId := by
  intro view base h
  simp only [sampleReader, Check.bind_eq_ok, Except.ok.injEq] at h
  obtain ⟨_, -, nodeId, hnodeId, _, -, rfl⟩ := h
  cases hview : view ["node_id"] with
  | none =>
    rw [hview] at hnodeId
    cases hnodeId
    exact .inl ⟨rfl, rfl⟩
  | some j =>
    rw [hview] at hnodeId
    cases j with
    | str n =>
      cases hnodeId
      exact .inr rfl
    | null => cases hnodeId
    | bool b => cases hnodeId
    | num n => cases hnodeId
    | arr items => cases hnodeId
    | obj m => cases hnodeId

variable {ls : List (List Char)}

theorem sampleReader_parse (hnewline : ∀ l ∈ ls, '\n' ∉ l) {t : Table} :
    sampleReader.parse (textOf ls) = .ok t ↔
      (∀ line ∈ ls.map chomp, (readSampleLine line).isSome = true) ∧
      ((sampleAssignments (ls.map chomp)).map Prod.fst).Nodup ∧
      sampleAssignments (ls.map chomp) = t := by
  simp only [sampleReader, lines_textOf hnewline]
  split
  · next h =>
    rw [Except.ok.injEq]
    exact ⟨fun heq => ⟨h.1, h.2, heq⟩, fun h' => h'.2.2⟩
  · next h => exact iff_of_false nofun fun h' => h ⟨h'.1, h'.2.1⟩

theorem readSampleLine_nodeIdLine {id : String} (h : PlainId id) :
    readSampleLine (chomp (nodeIdLine id)) = some [("node_id", .str id)] := by
  have hquote : '"' ∉ id.toList := fun hmem => absurd (h _ hmem) (by decide)
  have hslash : '\\' ∉ id.toList := fun hmem => absurd (h _ hmem) (by decide)
  have hlast : (nodeIdLine id).getLast? = some '"' := by
    rw [nodeIdLine_plain h, ← List.cons_append, ← List.cons_append, ← List.cons_append,
      ← List.append_assoc, List.getLast?_concat]
  have hchomp : chomp (nodeIdLine id) = nodeIdLine id := by
    rw [chomp, hlast, if_neg (by decide)]
  have htrim : trim (' ' :: '"' :: (id.toList ++ ['"'])) = '"' :: (id.toList ++ ['"']) := by
    rw [trim, trimMatches_cons (by decide), ← trim]
    refine trim_self ?_ ?_
    · rintro c ⟨⟩
      decide
    · rw [← List.cons_append, List.getLast?_concat]
      rintro c ⟨⟩
      decide
  have hvalue : readSampleValue (' ' :: '"' :: (id.toList ++ ['"'])) = some (.str id) := by
    simp only [readSampleValue, htrim, splitOnce_append hquote []]
    simp [hslash, trimStart]
  have hstart : trimStart ("node_id ".toList ++ '=' :: ' ' :: '"' :: (id.toList ++ ['"'])) =
      "node_id ".toList ++ '=' :: ' ' :: '"' :: (id.toList ++ ['"']) := rfl
  have hreality : "node_id ".toList ++ '=' :: ' ' :: '"' :: (id.toList ++ ['"']) ≠
      sampleRealityLine := by
    intro heq
    have hhead : some 'n' = some 'r' := congrArg List.head? heq
    revert hhead
    decide
  have hsplit : splitOnce '=' ("node_id ".toList ++ '=' :: ' ' :: '"' :: (id.toList ++ ['"'])) =
      some ("node_id ".toList, ' ' :: '"' :: (id.toList ++ ['"'])) :=
    splitOnce_append (by decide) _
  rw [hchomp, nodeIdLine_plain h, readSampleLine, if_neg hreality, hstart, hsplit,
    if_neg (by simp)]
  simp only [Option.bind_some, hvalue, Option.map_some]
  rfl

theorem newline_around_header {pre more post : List (List Char)} {id : String}
    (hnewline : ∀ l ∈ pre ++ post, '\n' ∉ l) (hid : PlainId id)
    (hmore : ∀ l ∈ more, l = roleLine) :
    ∀ l ∈ pre ++ versionLine :: nodeIdLine id :: more ++ post, '\n' ∉ l := by
  intro l hl
  simp only [List.mem_append, List.mem_cons] at hl hnewline
  rcases hl with (hl | rfl | rfl | hl) | hl
  · exact hnewline l (.inl hl)
  · exact assigns_versionLine.newline
  · exact (assigns_nodeIdLine hid).newline
  · exact hmore l hl ▸ assigns_roleLine.newline
  · exact hnewline l (.inr hl)

theorem sampleReader_readsLines : sampleReader.ReadsLines where
  statement := by
    intro pre more post id t₀ t hnewline _ hid hmore _ hparse
    have hall := newline_around_header hnewline hid hmore
    obtain ⟨-, hkeys, rfl⟩ := (sampleReader_parse hall).mp hparse
    refine lookup_of_mem hkeys (List.mem_flatMap.mpr ⟨chomp (nodeIdLine id), ?_, ?_⟩)
    · exact List.mem_map_of_mem (by simp)
    · rw [readSampleLine_nodeIdLine hid]
      exact List.mem_singleton_self _
  swallowed := by
    intro pre more post id n e t hnewline _ hid hmore hpre hparse _ _
    have hall := newline_around_header hnewline hid hmore
    -- the first lines of a file are a file
    obtain ⟨hread, hkeys, -⟩ := (sampleReader_parse hall).mp hparse
    rw [List.append_assoc, List.map_append] at hread hkeys
    rw [sampleAssignments, List.flatMap_append, List.map_append] at hkeys
    have hok := (sampleReader_parse fun l hl => hnewline l (List.mem_append_left _ hl)).mpr
      ⟨fun l hl => hread l (List.mem_append_left _ hl), hkeys.of_append_left, rfl⟩
    rw [hok] at hpre
    cases hpre

theorem sampleReader_load (ts : List Table) {cfg : DeploymentFile} (hnewline : ∀ l ∈ ls, '\n' ∉ l)
    (hread : (ls.map chomp).map readSampleLine = ts.map some)
    (hkeys : (ts.flatten.map Prod.fst).Nodup) (hdecode : sampleReader.decode ts.flatten = .ok cfg)
    (hvalid : cfg.config.validate sampleExternal = .ok ()) :
    sampleReader.load sampleExternal (textOf ls) = .ok cfg := by
  have hsome : ∀ line ∈ ls.map chomp, (readSampleLine line).isSome = true := by
    intro line hline
    have hmem : readSampleLine line ∈ ts.map some := hread ▸ List.mem_map_of_mem hline
    obtain ⟨t, -, ht⟩ := List.mem_map.mp hmem
    rw [← ht]
    rfl
  have hassigned : sampleAssignments (ls.map chomp) = ts.flatten := by
    have hflat := congrArg (fun l : List (Option Table) => (l.map (·.getD [])).flatten) hread
    simpa [sampleAssignments, List.flatMap_def, Function.comp_def] using hflat
  refine Toml.load_iff.mpr ⟨?_, hvalid⟩
  exact Check.bind_eq_ok.mpr
    ⟨_, (sampleReader_parse hnewline).mpr ⟨hsome, hassigned ▸ hkeys, hassigned⟩, hdecode⟩

def legacyLines (hostLine : String) : List (List Char) := [hostLine.toList, sampleRealityLine]

/-- The file with a header that gives it an identity. -/
def migratedLines (id hostLine : String) : List (List Char) :=
  [versionLine, nodeIdLine id, roleLine] ++ legacyLines hostLine

def legacyTables (host : String) : List Table :=
  [[("public_host", .str host)],
    [("reality", .obj [("handshake_server", .str "www.example.org")])]]

def migratedTables (id host : String) : List Table :=
  [[("schema_version", .num 2)], [("node_id", .str id)], [("role", .str "exit")]] ++
    legacyTables host

def legacyCfg (schemaVersion : Nat) (nodeId publicHost : String) : DeploymentFile :=
  ⟨{ sampleExit with schemaVersion, nodeId, publicHost }, none, .null⟩

theorem migrateText_legacyLines (id : String) {hostLine : String}
    (hnewline : ∀ l ∈ legacyLines hostLine, '\n' ∉ l)
    (hold : upToDate ((legacyLines hostLine).map chomp) = false)
    (hstamped : stamped (versionLine :: identityLines ((legacyLines hostLine).map chomp))
      ((legacyLines hostLine).map chomp) = migratedLines id hostLine) :
    migrateDeploymentTomlText (textOf (legacyLines hostLine)) =
      some (textOf (migratedLines id hostLine)) := by
  simp only [migrateDeploymentTomlText, lines_textOf hnewline, hold, hstamped]
  rfl

/-- A host with a dot that a comment follows. -/
theorem meaningKept_iff_dotted :
    let hostLine := "public_host = \"vpn.example.org\" # front node"
    ∃ migratedCfg, MeaningKept sampleReader sampleExternal "deployment.toml"
      (textOf (legacyLines hostLine)) (legacyCfg 0 "" "vpn.example.org")
      (textOf (migratedLines "vpn" hostLine)) migratedCfg := by
  intro hostLine
  have hnewline : ∀ l ∈ legacyLines hostLine, '\n' ∉ l := by decide +kernel
  have hload : sampleReader.load sampleExternal (textOf (legacyLines hostLine)) =
      .ok (legacyCfg 0 "" "vpn.example.org") :=
    sampleReader_load (legacyTables "vpn.example.org") hnewline (by decide +kernel)
      (by decide +kernel) (by decide +kernel) rfl
  have hmigrated : sampleReader.load sampleExternal (textOf (migratedLines "vpn" hostLine)) =
      .ok (legacyCfg 2 "vpn" "vpn.example.org") :=
    sampleReader_load (migratedTables "vpn" "vpn.example.org") (by decide +kernel)
      (by decide +kernel) (by decide +kernel) (by decide +kernel) rfl
  have hpatch := migrateText_legacyLines "vpn" hnewline (by decide +kernel)
    (by decide +kernel)
  refine (meaningKept_iff sampleReader_readsLines sampleReader_readsNodeId hload
    (migrate_patched hload hpatch hmigrated rfl rfl rfl)).mpr (.inr (.inr ?_))
  rw [lines_textOf hnewline]
  refine ⟨by decide +kernel, ?_⟩
  have hvalue : valueOf ((legacyLines hostLine).map chomp) "public_host" =
      some ('"' :: ("vpn.example.org".toList ++ '"' :: " # front node".toList)) := by
    decide +kernel
  have hparse : sampleReader.parse (textOf (beforeHeader ((legacyLines hostLine).map chomp))) =
      .ok [] := by decide +kernel
  rw [hparse, hvalue]
  exact defaultNodeId_quoted (by decide) (by decide) (by decide) (by decide) (.inl (by decide))

/-- A host without a dot and a comment: the comment becomes part of the identity. -/
theorem meaningKept_comment_fails :
    let hostLine := "public_host = \"vpn\" # front node"
    let original := textOf (legacyLines hostLine)
    let text := textOf (migratedLines "vpn----front-node" hostLine)
    sampleReader.ReadsLines ∧ sampleReader.ReadsNodeId ∧
    sampleReader.load sampleExternal original = .ok (legacyCfg 0 "" "vpn") ∧
    migrateDeploymentToml sampleReader sampleExternal "deployment.toml" {} (some original) =
      .ok (.migrated "deployment.toml.pre-migration-0.bak", some text) ∧
    defaultNodeIdForHost "vpn" = "vpn" ∧
    sampleReader.load sampleExternal text = .ok (legacyCfg 2 "vpn----front-node" "vpn") ∧
    ¬ ∃ migratedCfg, MeaningKept sampleReader sampleExternal "deployment.toml" original
      (legacyCfg 0 "" "vpn") text migratedCfg := by
  intro hostLine original text
  have hnewline : ∀ l ∈ legacyLines hostLine, '\n' ∉ l := by decide +kernel
  have hload : sampleReader.load sampleExternal original = .ok (legacyCfg 0 "" "vpn") :=
    sampleReader_load (legacyTables "vpn") hnewline (by decide +kernel) (by decide +kernel)
      (by decide +kernel) rfl
  have hmigrated : sampleReader.load sampleExternal text =
      .ok (legacyCfg 2 "vpn----front-node" "vpn") :=
    sampleReader_load (migratedTables "vpn----front-node" "vpn") (by decide +kernel)
      (by decide +kernel) (by decide +kernel) (by decide +kernel) rfl
  have hpatch := migrateText_legacyLines "vpn----front-node" hnewline (by decide +kernel)
    (by decide +kernel)
  have hhost : defaultNodeIdForHost "vpn" = "vpn" := by decide +kernel
  refine ⟨sampleReader_readsLines, sampleReader_readsNodeId, hload,
    migrate_patched hload hpatch hmigrated rfl rfl rfl, hhost, hmigrated, ?_⟩
  rintro ⟨migratedCfg, hkept⟩
  have hright := hkept.nodeId
  rw [← Except.ok.inj (hmigrated.symm.trans hkept.loads)] at hright
  have hwrong : "vpn----front-node" = "" ∨ "vpn----front-node" = defaultNodeIdForHost "vpn" :=
    hright.imp_right fun h => h.2.2
  rw [hhost] at hwrong
  revert hwrong
  decide

end SingboxVpn
