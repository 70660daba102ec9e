import Mathlib.Data.List.Nodup
import Mathlib.Logic.Function.Basic
import SingboxVpn.Lib.Killable

/-!
# vpn-admin: replacing files with backups beside them

`cmd_restore`, `cmd_reality_rotate` and `cmd_hysteria_obfs_rotate` (`apps/admin/src/main.rs`) as
transactions on files: each copies the files it is about to replace to their `.rotate-bak` siblings,
replaces them, applies the config file and restarts the services, and on a failure puts the copies
back.  Every operation on a file and every restart may fail, and a failed copy may leave anything
behind; the texts themselves are opaque.

* `wp_rotation`, `wp_cmdRestore` — what a failed command leaves behind.
-/

namespace SingboxVpn.Restore

open Killable

inductive File where
  | users
  | privateKey
  | publicKey
  | shortId
  | cert
  | tlsKey
  | obfsPassword
  | config
  deriving DecidableEq

/-- The text of every file and of its sibling backup, `none` where there is no such file.  The
    sibling is `config.json.bak` for the config file and `.rotate-bak` for the others. -/
structure Disk (β : Type) where
  live : File → Option β
  backup : File → Option β

/-- How a copy onto another file went; a failed one leaves anything in its place. -/
inductive Copied (β : Type) where
  | done
  | failed (left : Option β)

structure Regenerated (β : Type) where
  ok : Bool
  config : Option β
  backup : Option β

structure Outcomes (β : Type) where
  /-- everything before the first backup: the archive or the candidate is accepted, both services
      can be controlled, the directories are there -/
  ready : Bool
  backedUp : File → Copied β
  discarded : File → Bool
  /-- writing the new text beside the file and renaming it; with `restore`, reading it before -/
  installed : File → Bool
  /-- `apply_restored_file_policy` -/
  ownerSet : File → Bool
  /-- writing the candidate config beside the live one and its check -/
  staged : Bool
  regenerated : Regenerated β
  /-- the restarts, and the handshake with the new keys; also true if they are left out -/
  singboxReloaded : Bool
  subscriptionRestarted : Bool
  handshakeAccepted : Bool
  /-- renaming the backup back, or removing the file -/
  restored : File → Bool
  configRestored : Copied β
  regeneratedBack : Regenerated β
  singboxRecovered : Bool
  subscriptionRecovered : Bool

inductive Failure where
  | notReady
  | staleBackup (file : File)
  | backup (file : File)
  /-- the new obfuscation password; “live state was not changed” -/
  | install (file : File)
  /-- a failure after the backups, and whether the report says that the previous state is back -/
  | rolledBack (restored : Bool)
  deriving DecidableEq

variable {β : Type}

namespace Disk

def setLive (file : File) (text : Option β) (disk : Disk β) : Disk β :=
  { disk with live := Function.update disk.live file text }

def setBackup (file : File) (text : Option β) (disk : Disk β) : Disk β :=
  { disk with backup := Function.update disk.backup file text }

end Disk

/-! ### The backups -/

section
variable (o : Outcomes β)

/-- Copy a file aside; says whether there was one. -/
def backupForRotate (file : File) : Prog Failure (Disk β) Bool := do
  let disk ← read
  refuse (disk.backup file).isSome (.staleBackup file)
  match disk.live file with
  | none => pure false
  | some text =>
    match o.backedUp file with
    | .done =>
      Killable.step (Disk.setBackup file (some text))
      pure true
    | .failed left =>
      Killable.step (Disk.setBackup file left)
      fail (.backup file)

/-- Removes a backup if that works; nobody looks whether it did. -/
def removeRotateBackup (file : File) : Prog Failure (Disk β) Unit :=
  runIf (o.discarded file) (Killable.step (Disk.setBackup file none))

def removeRotateBackups : List File → Prog Failure (Disk β) Unit
  | [] => pure ()
  | file :: files => do
    removeRotateBackup o file
    removeRotateBackups files

/-- Backs up the whole set, or drops the backups made so far. -/
def prepareBackups (prepared : List File) :
    List File → Prog Failure (Disk β) (List (File × Bool))
  | [] => pure []
  | file :: files => do
    match ← attempt (backupForRotate o file) with
    | .error e =>
      removeRotateBackups o prepared
      fail e
    | .ok existed =>
      let rest ← prepareBackups (if existed then prepared ++ [file] else prepared) files
      pure ((file, existed) :: rest)

def restoreFile (file : File) (existed : Bool) : Prog Failure (Disk β) Bool := do
  let disk ← read
  if existed then
    match disk.backup file with
    | none => pure true
    | some text =>
      runIf (o.restored file)
        (Killable.step fun disk => (disk.setLive file (some text)).setBackup file none)
      pure (o.restored file)
  else if (disk.live file).isNone then pure true
  else
    runIf (o.restored file) (Killable.step (Disk.setLive file none))
    pure (o.restored file)

def restoreFiles : List (File × Bool) → Prog Failure (Disk β) Bool
  | [] => pure true
  | (file, existed) :: files => do
    let first ← restoreFile o file existed
    let rest ← restoreFiles files
    pure (first && rest)

/-! ### The config file and the installation of new texts -/

/-- The backup is written only over a config file that is there, and never removed. -/
def applyConfigAtomically (text : β) : Prog Unit (Disk β) Unit := do
  refuse (!o.staged) ()
  let disk ← read
  match disk.live .config with
  | none => pure ()
  | some previous =>
    match o.backedUp .config with
    | .done => Killable.step (Disk.setBackup .config (some previous))
    | .failed left =>
      Killable.step (Disk.setBackup .config left)
      fail ()
  refuse (!o.installed .config) ()
  Killable.step (Disk.setLive .config (some text))

/-- The config file comes back from its backup, whatever that holds. -/
def restoreConfig : Prog Failure (Disk β) Bool := do
  let disk ← read
  match disk.backup .config with
  | none => pure false
  | some text =>
    match o.configRestored with
    | .done =>
      Killable.step (Disk.setLive .config (some text))
      pure true
    | .failed left =>
      Killable.step (Disk.setLive .config left)
      pure false

/-- Render and apply for the stored accounts; may leave another file and backup. -/
def regenerateSingboxConfig (r : Regenerated β) : Prog Unit (Disk β) Unit := do
  Killable.step fun disk => (disk.setLive .config r.config).setBackup .config r.backup
  refuse (!r.ok) ()

/-- Overwrite a key file that is installed. -/
def installRotatedKeyFile (file : File) (text : β) : Prog Unit (Disk β) Unit := do
  refuse (!o.installed file) ()
  Killable.step (Disk.setLive file (some text))

def installRotatedKeyFiles : List (File × β) → Prog Unit (Disk β) Unit
  | [] => pure ()
  | (file, text) :: files => do
    installRotatedKeyFile o file text
    installRotatedKeyFiles files

def installRestoredFiles : List (File × β) → Prog Unit (Disk β) Unit
  | [] => pure ()
  | (file, text) :: files => do
    installRotatedKeyFile o file text
    refuse (!o.ownerSet file) ()
    installRestoredFiles files

/-! ### The commands -/

/-- Goes on after a success, and after a failure reports how the way back went. -/
def orRollback {α : Type} (rollback : Prog Failure (Disk β) Bool) (p : Prog Unit (Disk β) α) :
    Prog Failure (Disk β) α := do
  match ← attempt p with
  | .ok a => pure a
  | .error _ =>
    let restored ← rollback
    fail (.rolledBack restored)

/-- The way back of both rotations. -/
def rollbackRotation (existed : List (File × Bool)) (configApplied : Bool) :
    Prog Failure (Disk β) Bool := do
  let filesRestored ← restoreFiles o existed
  let configRestored ← if configApplied then restoreConfig o else pure true
  pure (filesRestored && configRestored && o.singboxRecovered && o.subscriptionRecovered)

def realityFiles : List File := [.privateKey, .publicKey, .shortId]

/-- Back up, install the new keys, apply, and restore the old ones on failure. -/
def cmdRealityRotate (privateKey publicKey shortId config : β) : Prog Failure (Disk β) Unit := do
  refuse (!o.ready) .notReady
  let existed ← prepareBackups o [] realityFiles
  orRollback (rollbackRotation o existed false) do
    installRotatedKeyFiles o
      [(.privateKey, privateKey), (.publicKey, publicKey), (.shortId, shortId)]
    applyConfigAtomically o config
  orRollback (rollbackRotation o existed true) do
    refuse (!o.singboxReloaded) ()
    refuse (!o.subscriptionRestarted) ()
    refuse (!o.handshakeAccepted) ()
  removeRotateBackups o realityFiles

/-- A password that cannot be installed is not rolled back: the file is as it was, and its backup
    is dropped. -/
def cmdHysteriaObfsRotate (password config : β) : Prog Failure (Disk β) Unit := do
  refuse (!o.ready) .notReady
  let existed ← backupForRotate o .obfsPassword
  match ← attempt (installRotatedKeyFile o .obfsPassword password) with
  | .error _ =>
    runIf existed (removeRotateBackup o .obfsPassword)
    fail (.install .obfsPassword)
  | .ok _ =>
    orRollback (rollbackRotation o [(.obfsPassword, existed)] false) do
      refuse (!existed && !o.ownerSet .obfsPassword) ()
      applyConfigAtomically o config
    orRollback (rollbackRotation o [(.obfsPassword, existed)] true) do
      refuse (!o.singboxReloaded) ()
      refuse (!o.subscriptionRestarted) ()
    removeRotateBackup o .obfsPassword

/-- What an archive that passes validation holds: the users and the REALITY files, both Hysteria2
    files or neither, and a password if there was one. -/
structure Archive (β : Type) where
  users : β
  privateKey : β
  publicKey : β
  shortId : β
  tls : Option (β × β)
  obfsPassword : Option β

/-- `BACKUP_MANIFEST` without the users, who are restored first and put back last. -/
def restoreTargets : List File :=
  [.privateKey, .publicKey, .shortId, .cert, .tlsKey, .obfsPassword]

def Archive.entries (archive : Archive β) : List (File × β) :=
  [(.users, archive.users), (.privateKey, archive.privateKey), (.publicKey, archive.publicKey),
    (.shortId, archive.shortId)] ++
  (archive.tls.elim [] fun pair => [(.cert, pair.1), (.tlsKey, pair.2)]) ++
  (archive.obfsPassword.elim [] fun password => [(.obfsPassword, password)])

/-- The way back of a restore: the config file is rendered again from the previous state. -/
def rollbackRestore (existed : List (File × Bool)) : Prog Failure (Disk β) Bool := do
  let filesRestored ← restoreFiles o existed
  let regenerated ← attempt (regenerateSingboxConfig o.regeneratedBack)
  pure (filesRestored && regenerated.isOk && o.subscriptionRecovered)

def cmdRestore (archive : Archive β) : Prog Failure (Disk β) Unit := do
  refuse (!o.ready) .notReady
  let usersExisted ← backupForRotate o .users
  let existed ← prepareBackups o (if usersExisted then [.users] else []) restoreTargets
  orRollback (rollbackRestore o (existed ++ [(.users, usersExisted)])) do
    installRestoredFiles o archive.entries
    regenerateSingboxConfig o.regenerated
    refuse (!o.subscriptionRestarted) ()
  removeRotateBackups o ((existed.filter (·.2)).map (·.1))
  runIf usersExisted (removeRotateBackup o .users)

end

inductive Command (β : Type) where
  | restore (archive : Archive β)
  | realityRotate (privateKey publicKey shortId config : β)
  | obfsRotate (password config : β)

namespace Command

/-- The program of a command. -/
def run (o : Outcomes β) : Command β → Prog Failure (Disk β) Unit
  | restore archive => cmdRestore o archive
  | realityRotate privateKey publicKey shortId config =>
    cmdRealityRotate o privateKey publicKey shortId config
  | obfsRotate password config => cmdHysteriaObfsRotate o password config

def replaces : Command β → List File
  | restore _ => .users :: restoreTargets
  | realityRotate .. => realityFiles
  | obfsRotate .. => [.obfsPassword]

def isRotation : Command β → Bool
  | restore _ => false
  | _ => true

/-- The users and every key, certificate and password file are as they were, after a rotation the
    config file too, and the command has left no backup. -/
structure PutsBack (c : Command β) (before after : Disk β) : Prop where
  live : ∀ file, file ≠ .config → after.live file = before.live file
  config : c.isRotation → after.live .config = before.live .config
  backup : ∀ file ∈ c.replaces, after.backup file = none

end Command

/-- Whichever command and whichever of its steps fails: if it reports that the previous state is
    back, it is. -/
def Atomic (before : Disk β) : Prop :=
  ∀ (c : Command β) (o : Outcomes β), result (c.run o) before = .error (.rolledBack true) →
    c.PutsBack before (final (c.run o) before)

/-! ### The backups hold what was there -/

namespace Disk

variable {disk : Disk β} {file : File}

theorem setBackup_eq_self {text : Option β} (h : disk.backup file = text) :
    disk.setBackup file text = disk := by
  subst h
  unfold setBackup
  rw [Function.update_eq_self]

def backUp (files : List File) (disk : Disk β) : Disk β :=
  { disk with backup := fun file => if file ∈ files then disk.live file else disk.backup file }

theorem backUp_setBackup (files : List File) :
    (disk.setBackup file (disk.live file)).backUp files = disk.backUp (file :: files) := by
  have hbackup : ∀ f, (if f ∈ files then disk.live f
      else Function.update disk.backup file (disk.live file) f) =
      if f ∈ file :: files then disk.live f else disk.backup f := by
    intro f
    by_cases hf : f = file
    · subst hf
      simp
    · simp [hf]
  unfold backUp setBackup
  exact congrArg (Disk.mk disk.live) (funext hbackup)

def existing (disk : Disk β) (file : File) : File × Bool := (file, (disk.live file).isSome)

end Disk

section
variable {o : Outcomes β} {disk : Disk β}

variable {file : File} {failed : Failure → Disk β → Prop}

theorem wp_backupForRotate {ok : Bool → Disk β → Prop}
    (hok : disk.backup file = none → ok (disk.live file).isSome (disk.setBackup file (disk.live
      file)))
    (hfailed : disk.backup file ≠ none ∨ o.backedUp file ≠ .done → ∀ e after, e ≠ .rolledBack true →
      failed e after) :
    wp (backupForRotate o file) disk ok failed := by
  unfold backupForRotate
  rw [wp_bind, wp_read, wp_bind, wp_refuse]
  cases hbackup : disk.backup file with
  | some stale => exact hfailed (.inl (by simp [hbackup])) _ _ (by simp)
  | none =>
    specialize hok hbackup
    rw [if_neg (by simp)]
    cases hlive : disk.live file with
    | none =>
      rw [hlive, Disk.setBackup_eq_self hbackup] at hok
      exact hok
    | some text =>
      rw [hlive] at hok
      cases hcopy : o.backedUp file with
      | done => exact hok
      | failed left => exact hfailed (.inr (by simp [hcopy])) _ _ (by simp)

theorem wp_removeRotateBackup {ok : Unit → Disk β → Prop} (hok : ∀ after, ok () after) :
    wp (removeRotateBackup o file) disk ok failed := by
  unfold removeRotateBackup
  rw [wp_runIf]
  split
  · exact hok _
  · exact hok _

theorem wp_removeRotateBackups (files : List File) :
    wp (removeRotateBackups o files) disk (fun _ _ => True) failed := by
  induction files generalizing disk with
  | nil => trivial
  | cons file files ih =>
    unfold removeRotateBackups
    rw [wp_bind]
    exact wp_removeRotateBackup fun _ => ih

/-- If the whole set could be backed up, there was no stale backup, and the answer says which
    files were there. -/
theorem wp_prepareBackups {files : List File} (hnodup : files.Nodup)
    {ok : List (File × Bool) → Disk β → Prop} (prepared : List File)
    (hok : (∀ file ∈ files, disk.backup file = none) →
      ok (files.map disk.existing) (disk.backUp files))
    (hfailed : (∃ file ∈ files, disk.backup file ≠ none ∨ o.backedUp file ≠ .done) →
      ∀ e after, e ≠ .rolledBack true → failed e after) :
    wp (prepareBackups o prepared files) disk ok failed := by
  induction files generalizing disk prepared ok with
  | nil =>
    have hsame : disk.backUp [] = disk := by simp [Disk.backUp]
    rw [hsame] at hok
    exact hok (by simp)
  | cons file files ih =>
    obtain ⟨hfile, hnodup⟩ := List.nodup_cons.mp hnodup
    unfold prepareBackups
    rw [wp_bind, wp_attempt]
    have hother : ∀ g ∈ files, (disk.setBackup file (disk.live file)).backup g = disk.backup g := by
      intro g hg
      exact Function.update_of_ne (ne_of_mem_of_not_mem hg hfile) _ _
    refine wp_backupForRotate (fun hnone => ?_) fun hstale e after he => ?_
    · show wp (prepareBackups o _ files >>= _) _ ok failed
      rw [wp_bind]
      refine ih hnodup _ (fun hnones => ?_) fun ⟨g, hg, h⟩ => ?_
      · rw [wp_pure, Disk.backUp_setBackup]
        refine hok (List.forall_mem_cons.mpr ⟨hnone, fun g hg => ?_⟩)
        rw [← hother g hg]
        exact hnones g hg
      · rw [hother g hg] at h
        exact hfailed ⟨g, List.mem_cons_of_mem _ hg, h⟩
    · show wp (removeRotateBackups o prepared >>= fun _ => fail e) after ok failed
      rw [wp_bind]
      exact (wp_removeRotateBackups prepared).mono
        (fun _ t _ => hfailed ⟨file, List.mem_cons_self, hstale⟩ e t he) fun _ _ h => h

end

/-! ### The way back -/

structure FilesBack (o : Outcomes β) (before : Disk β) (files : List File) (disk : Disk β)
    (restored : Bool) (after : Disk β) : Prop where
  live : restored → ∀ file ∈ files, after.live file = before.live file
  backup : restored → ∀ file ∈ files, after.backup file = none
  other : ∀ file ∉ files, after.live file = disk.live file ∧ after.backup file = disk.backup file
  complete : (∀ file, o.restored file) → restored

section
variable {o : Outcomes β} {before disk : Disk β}

variable {file : File} {failed : Failure → Disk β → Prop} {files : List File}

theorem wp_restoreFile (hheld : disk.backup file = before.live file) :
    wp (restoreFile o file (before.live file).isSome) disk (FilesBack o before [file] disk)
      failed := by
  have hunrestored : o.restored file = false → FilesBack o before [file] disk false disk :=
    fun h => ⟨nofun, nofun, fun _ _ => ⟨rfl, rfl⟩, fun hall => by simpa [h] using hall file⟩
  unfold restoreFile
  rw [wp_bind, wp_read]
  cases hlive : before.live file with
  | some text =>
    rw [hlive] at hheld
    rw [if_pos (by rfl), hheld]
    show wp (runIf _ _ >>= _) _ _ _
    rw [wp_bind, wp_runIf]
    cases hrestored : o.restored file with
    | false => exact hunrestored hrestored
    | true =>
      refine ⟨fun _ => ?_, fun _ => ?_, fun g hg => ?_, fun _ => rfl⟩
      · simp [Disk.setLive, Disk.setBackup, hlive]
      · simp [Disk.setLive, Disk.setBackup]
      · rw [List.mem_singleton] at hg
        simp [Disk.setLive, Disk.setBackup, hg]
  | none =>
    rw [hlive] at hheld
    rw [if_neg (by simp)]
    cases hnow : disk.live file with
    | none =>
      rw [if_pos (by rfl)]
      exact ⟨by simp [hnow, hlive], by simp [hheld], fun _ _ => ⟨rfl, rfl⟩, fun _ => rfl⟩
    | some text =>
      rw [if_neg (by simp), wp_bind, wp_runIf]
      cases hrestored : o.restored file with
      | false => exact hunrestored hrestored
      | true =>
        refine ⟨fun _ => ?_, fun _ => ?_, fun g hg => ?_, fun _ => rfl⟩
        · simp [Disk.setLive, hlive]
        · simp [Disk.setLive, hheld]
        · rw [List.mem_singleton] at hg
          simp [Disk.setLive, hg]

theorem FilesBack.cons (hfile : file ∉ files) {first rest : Bool} {mid after : Disk β}
    (hfirst : FilesBack o before [file] disk first mid)
    (hrest : FilesBack o before files mid rest after) :
    FilesBack o before (file :: files) disk (first && rest) after where
  live := by
    intro h
    obtain ⟨h₁, h₂⟩ := Bool.and_eq_true_iff.mp h
    refine List.forall_mem_cons.mpr ⟨?_, hrest.live h₂⟩
    rw [(hrest.other file hfile).1]
    exact hfirst.live h₁ file (List.mem_singleton_self _)
  backup := by
    intro h
    obtain ⟨h₁, h₂⟩ := Bool.and_eq_true_iff.mp h
    refine List.forall_mem_cons.mpr ⟨?_, hrest.backup h₂⟩
    rw [(hrest.other file hfile).2]
    exact hfirst.backup h₁ file (List.mem_singleton_self _)
  other := by
    intro g hg
    obtain ⟨hne, hg⟩ := not_or.mp (mt List.mem_cons.mpr hg)
    obtain ⟨hlive, hbackup⟩ := hrest.other g hg
    obtain ⟨hlive', hbackup'⟩ := hfirst.other g (mt List.mem_singleton.mp hne)
    exact ⟨hlive.trans hlive', hbackup.trans hbackup'⟩
  complete := fun hall => Bool.and_eq_true_iff.mpr ⟨hfirst.complete hall, hrest.complete hall⟩

theorem wp_restoreFiles (hnodup : files.Nodup)
    (hheld : ∀ file ∈ files, disk.backup file = before.live file) :
    wp (restoreFiles o (files.map before.existing)) disk (FilesBack o before files disk)
      failed := by
  induction files generalizing disk with
  | nil => exact ⟨by simp, by simp, fun _ _ => ⟨rfl, rfl⟩, fun _ => rfl⟩
  | cons file files ih =>
    obtain ⟨hfile, hnodup⟩ := List.nodup_cons.mp hnodup
    obtain ⟨hhead, htail⟩ := List.forall_mem_cons.mp hheld
    show wp (restoreFile o file _ >>= _) _ _ _
    rw [wp_bind]
    refine (wp_restoreFile hhead).mono (fun first mid hfirst => ?_) fun _ _ h => h
    have hheld' : ∀ g ∈ files, mid.backup g = before.live g := by
      intro g hg
      rw [(hfirst.other g (by simpa using ne_of_mem_of_not_mem hg hfile)).2]
      exact htail g hg
    rw [wp_bind]
    exact (ih hnodup hheld').mono (fun rest after hrest => hfirst.cons hfile hrest) fun _ _ h => h

end

/-! ### A transaction under way -/

/-- The files of the command are backed up, and no other file was touched; the config file is left
    out here. -/
structure Recorded (before : Disk β) (files : List File) (disk : Disk β) : Prop where
  backup : ∀ file ∈ files, disk.backup file = before.live file
  other : ∀ file ∉ files, file ≠ .config → disk.live file = before.live file

structure Unapplied (before : Disk β) (files : List File) (disk : Disk β) : Prop
    extends Recorded before files disk where
  config : disk.live .config = before.live .config

structure Started (before : Disk β) (files : List File) (disk : Disk β) : Prop
    extends Unapplied before files disk where
  stale : disk.backup .config = before.backup .config

/-- The candidate config is in place.  Without a previous one, the backup is an old one. -/
structure Applied (before : Disk β) (files : List File) (disk : Disk β) : Prop
    extends Recorded before files disk where
  configBackup : disk.backup .config = (before.live .config).or (before.backup .config)

section
variable {o : Outcomes β} {before disk : Disk β} {files : List File}

theorem Started.backUp (hconfig : .config ∉ files) :
    Started before files (before.backUp files) where
  backup := fun _ h => if_pos h
  other := fun _ _ _ => rfl
  config := rfl
  stale := if_neg hconfig

variable {file : File} {failed : Unit → Disk β → Prop} {inv : Disk β → Prop}

theorem Recorded.setLive (h : Recorded before files disk) (hfile : file ∈ files) (text : Option β) :
    Recorded before files (disk.setLive file text) where
  backup := h.backup
  other := by
    intro g hg hconfig
    rw [← h.other g hg hconfig]
    exact Function.update_of_ne (ne_of_mem_of_not_mem hfile hg).symm _ _

theorem Started.setLive (hconfig : .config ∉ files) (h : Started before files disk)
    (hfile : file ∈ files) (text : Option β) :
    Started before files (disk.setLive file text) where
  toRecorded := h.toRecorded.setLive hfile text
  config := by
    rw [← h.config]
    exact Function.update_of_ne (ne_of_mem_of_not_mem hfile hconfig).symm _ _
  stale := h.stale

theorem wp_installRotatedKeyFile {text : β} {ok : Unit → Disk β → Prop} :
    wp (installRotatedKeyFile o file text) disk ok failed ↔
      if o.installed file then ok () (disk.setLive file (some text)) else failed () disk := by
  unfold installRotatedKeyFile
  rw [wp_bind, wp_refuse]
  cases o.installed file <;> rfl

theorem wp_installRotatedKeyFiles {entries : List (File × β)}
    (hstep : ∀ entry ∈ entries, ∀ disk, inv disk → inv (disk.setLive entry.1 (some entry.2)))
    (h : inv disk)
    (hfailed : (∃ entry ∈ entries, o.installed entry.1 = false) → ∀ after, inv after →
      failed () after) :
    wp (installRotatedKeyFiles o entries) disk (fun _ => inv) failed := by
  induction entries generalizing disk with
  | nil => exact h
  | cons entry entries ih =>
    obtain ⟨hhead, htail⟩ := List.forall_mem_cons.mp hstep
    show wp (installRotatedKeyFile o entry.1 entry.2 >>= _) _ _ _
    rw [wp_bind, wp_installRotatedKeyFile]
    split
    · exact ih htail (hhead disk h) fun ⟨e, he, hfail⟩ =>
        hfailed ⟨e, List.mem_cons_of_mem _ he, hfail⟩
    · next hnot =>
      exact hfailed ⟨entry, List.mem_cons_self, Bool.not_eq_true _ ▸ hnot⟩ disk h

theorem wp_installRestoredFiles {entries : List (File × β)}
    (hstep : ∀ entry ∈ entries, ∀ disk, inv disk → inv (disk.setLive entry.1 (some entry.2)))
    (h : inv disk) : wp (installRestoredFiles o entries) disk (fun _ => inv) fun _ => inv := by
  induction entries generalizing disk with
  | nil => exact h
  | cons entry entries ih =>
    obtain ⟨hhead, htail⟩ := List.forall_mem_cons.mp hstep
    show wp (installRotatedKeyFile o entry.1 entry.2 >>= _) _ _ _
    rw [wp_bind, wp_installRotatedKeyFile]
    split
    · rw [wp_bind, wp_refuse]
      split
      · exact hhead disk h
      · exact ih htail (hhead disk h)
    · exact h

theorem wp_applyConfigAtomically (hconfig : .config ∉ files) (h : Started before files disk)
    {text : β}
    (hfailed : o.staged = false ∨ o.backedUp .config ≠ .done ∨ o.installed .config = false →
      ∀ after, Unapplied before files after → failed () after) :
    wp (applyConfigAtomically o text) disk (fun _ => Applied before files) failed := by
  have hbackup : ∀ t, Unapplied before files (disk.setBackup .config t) := fun t =>
    { backup := fun file hfile =>
        (Function.update_of_ne (ne_of_mem_of_not_mem hfile hconfig) _ _).trans (h.backup file hfile)
      other := h.other
      config := h.config }
  have hinstall : ∀ s, Unapplied before files s →
      s.backup .config = (before.live .config).or (before.backup .config) →
      wp (refuse (!o.installed .config) () >>= fun _ =>
          Killable.step (Disk.setLive .config (some text)))
        s (fun _ => Applied before files) failed := by
    intro s hs hsaved
    rw [wp_bind, wp_refuse]
    split
    · next hnot => exact hfailed (.inr (.inr (by simpa using hnot))) s hs
    · refine ⟨⟨hs.backup, fun g hg hne => ?_⟩, hsaved⟩
      rw [← hs.other g hg hne]
      exact Function.update_of_ne hne _ _
  unfold applyConfigAtomically
  rw [wp_bind, wp_refuse]
  split
  · next hnot => exact hfailed (.inl (by simpa using hnot)) disk h.toUnapplied
  · rw [wp_bind, wp_read]
    cases hlive : disk.live .config with
    | none =>
      refine hinstall disk h.toUnapplied ?_
      rw [h.stale, ← h.config, hlive, Option.none_or]
    | some previous =>
      cases hcopy : o.backedUp .config with
      | done =>
        rw [wp_bind, wp_step]
        refine hinstall _ (hbackup _) ?_
        rw [← h.config, hlive, Option.some_or]
        simp [Disk.setBackup]
      | failed left =>
        exact hfailed (.inr (.inl (by simp [hcopy]))) _ (hbackup left)

end

/-! ### A rotation -/

structure Back (before : Disk β) (files : List File) (config : Option β) (after : Disk β) :
    Prop where
  live : ∀ file, file ≠ .config → after.live file = before.live file
  config : after.live .config = config
  backup : ∀ file ∈ files, after.backup file = none

/-- Every step of the way back succeeds. -/
structure Outcomes.Recovers (o : Outcomes β) : Prop where
  restored : ∀ file, o.restored file
  config : o.configRestored = .done
  singbox : o.singboxRecovered
  subscription : o.subscriptionRecovered

section
variable {o : Outcomes β} {before disk : Disk β} {files : List File}

variable {failed : Failure → Disk β → Prop}

theorem wp_orRollback {α : Type} {rollback : Prog Failure (Disk β) Bool}
    {p : Prog Unit (Disk β) α} {ok : α → Disk β → Prop} :
    wp (orRollback rollback p) disk ok failed ↔ wp p disk ok fun _ after =>
      wp rollback after (fun restored => failed (.rolledBack restored)) failed := by
  unfold orRollback
  simp only [wp_bind, wp_attempt, wp_pure, wp_fail]

theorem FilesBack.back (hconfig : .config ∉ files) (h : Recorded before files disk)
    {after : Disk β} (hback : FilesBack o before files disk true after) :
    Back before files (disk.live .config) after where
  live := by
    intro file hne
    by_cases hfile : file ∈ files
    · exact hback.live rfl file hfile
    · rw [(hback.other file hfile).1]
      exact h.other file hfile hne
  config := (hback.other .config hconfig).1
  backup := hback.backup rfl

/-- A config file that was replaced comes back as its backup, and cannot without one. -/
theorem wp_restoreConfig :
    wp (restoreConfig o) disk (fun restored after =>
      (restored → disk.backup .config ≠ none ∧ after = disk.setLive .config (disk.backup .config)) ∧
      (disk.backup .config ≠ none → o.configRestored = .done → restored)) failed := by
  unfold restoreConfig
  rw [wp_bind, wp_read]
  cases hbackup : disk.backup .config with
  | none => exact ⟨nofun, fun h => absurd rfl h⟩
  | some text =>
    cases hcopy : o.configRestored with
    | done => exact ⟨fun _ => ⟨nofun, rfl⟩, fun _ _ => rfl⟩
    | failed left => exact ⟨nofun, nofun⟩

theorem Back.setConfig {config : Option β} {after : Disk β} (h : Back before files config after)
    (text : Option β) : Back before files text (after.setLive .config text) where
  live := fun file hne => (Function.update_of_ne hne _ _).trans (h.live file hne)
  config := by simp [Disk.setLive]
  backup := h.backup

/-- If the way back of a rotation reports success, the config file is the one it found, or if it
    was replaced its backup. -/
theorem wp_rollbackRotation (hnodup : files.Nodup) (hconfig : .config ∉ files)
    (h : Recorded before files disk) (applied : Bool) :
    wp (rollbackRotation o (files.map before.existing) applied) disk (fun restored after =>
      (restored → (applied → disk.backup .config ≠ none) ∧
        Back before files (if applied then disk.backup .config else disk.live .config) after) ∧
      (o.Recovers → (applied → disk.backup .config ≠ none) → restored)) failed := by
  unfold rollbackRotation
  rw [wp_bind]
  refine (wp_restoreFiles hnodup h.backup).mono (fun first mid hfiles => ?_) fun _ _ h => h
  cases applied with
  | false =>
    show wp (pure _) _ _ _
    rw [wp_pure]
    constructor
    · intro hall
      simp only [Bool.and_eq_true] at hall
      obtain ⟨⟨⟨rfl, -⟩, -⟩, -⟩ := hall
      exact ⟨nofun, hfiles.back hconfig h⟩
    · intro hrecovers _
      simp [hfiles.complete hrecovers.restored, hrecovers.singbox, hrecovers.subscription]
  | true =>
    show wp (restoreConfig o >>= _) _ _ _
    rw [wp_bind]
    refine wp_restoreConfig.mono (fun second after hsecond => ?_) fun _ _ h => h
    rw [(hfiles.other .config hconfig).2] at hsecond
    rw [wp_pure]
    constructor
    · intro hall
      simp only [Bool.and_eq_true] at hall
      obtain ⟨⟨⟨rfl, hsecond'⟩, -⟩, -⟩ := hall
      obtain ⟨hsome, rfl⟩ := hsecond.1 hsecond'
      exact ⟨fun _ => hsome, (hfiles.back hconfig h).setConfig _⟩
    · intro hrecovers hsome
      simp [hfiles.complete hrecovers.restored, hsecond.2 (hsome rfl) hrecovers.config,
        hrecovers.singbox, hrecovers.subscription]

end

/-! ### What a failed command leaves behind -/

/-- The backup that a config file comes back from is never an old one. -/
def Disk.ConfigKept (before : Disk β) : Prop :=
  (before.live .config).isSome ∨ before.backup .config = none

section
variable {o : Outcomes β} {before disk : Disk β} {files : List File}

theorem Applied.config (hkept : before.ConfigKept) (h : Applied before files disk) :
    disk.backup .config = before.live .config := by
  rw [h.configBackup]
  rcases hkept with hlive | hnone
  · obtain ⟨text, htext⟩ := Option.isSome_iff_exists.mp hlive
    rw [htext, Option.some_or]
  · rw [hnone, Option.or_none]

/-- A rotation from where its backups are made: if it reports the previous state, that is there
    unless the config file came back from an old backup. -/
theorem wp_rotation (files : List File) (hnodup : files.Nodup) (hconfig : .config ∉ files)
    (hkept : before.ConfigKept) {install check : Prog Unit (Disk β) Unit}
    {commit : Prog Failure (Disk β) Unit}
    (hinstall : wp install disk (fun _ => Applied before files) fun _ => Unapplied before files)
    (hcheck : ∀ s, wp check s (fun _ _ => True) fun _ after => after = s)
    (hcommit : ∀ s, wp commit s (fun _ _ => True) fun _ _ => False) :
    wp (do
        orRollback (rollbackRotation o (files.map before.existing) false) install
        orRollback (rollbackRotation o (files.map before.existing) true) check
        commit) disk (fun _ _ => True) fun e after =>
      e = .rolledBack true → Back before files (before.live .config) after := by
  rw [wp_bind, wp_orRollback]
  refine hinstall.mono (fun _ s hs => ?_) fun _ s hs => ?_
  · rw [wp_bind, wp_orRollback]
    refine (hcheck s).mono (fun _ t _ => (hcommit t).mono (fun _ _ h => h) fun _ _ h => h.elim) ?_
    rintro _ _ rfl
    refine (wp_rollbackRotation hnodup hconfig hs.toRecorded true).mono ?_ fun _ _ h => h
    rintro restored after ⟨hback, -⟩ he
    have hback := (hback (Failure.rolledBack.inj he)).2
    rwa [if_pos rfl, hs.config hkept] at hback
  · refine (wp_rollbackRotation hnodup hconfig hs.toRecorded false).mono ?_ fun _ _ h => h
    rintro restored after ⟨hback, -⟩ he
    have hback := (hback (Failure.rolledBack.inj he)).2
    rwa [if_neg (by simp), hs.config] at hback

variable {failed : Unit → Disk β → Prop}

theorem Started.installReality (h : Started before realityFiles disk)
    (privateKey publicKey shortId config : β)
    (hfailed : (∃ file, o.installed file = false) ∨ o.staged = false ∨ o.backedUp .config ≠ .done →
      ∀ after, Unapplied before realityFiles after → failed () after) :
    wp (do
        installRotatedKeyFiles o
          [(.privateKey, privateKey), (.publicKey, publicKey), (.shortId, shortId)]
        applyConfigAtomically o config) disk (fun _ => Applied before realityFiles) failed := by
  have hconfig : .config ∉ realityFiles := by decide
  have hstep : ∀ entry ∈ [(File.privateKey, privateKey), (.publicKey, publicKey),
      (.shortId, shortId)], ∀ s, Started before realityFiles s →
      Started before realityFiles (s.setLive entry.1 (some entry.2)) := by
    intro entry hentry s hs
    refine hs.setLive hconfig ?_ _
    have hmem := List.mem_map_of_mem (f := Prod.fst) hentry
    exact hmem
  rw [wp_bind]
  refine (wp_installRotatedKeyFiles hstep h ?_).mono (fun _ s hs => ?_) fun _ _ hs => hs
  · rintro ⟨entry, -, hnot⟩ s hs
    exact hfailed (.inl ⟨_, hnot⟩) s hs.toUnapplied
  · refine wp_applyConfigAtomically hconfig hs fun hnot => hfailed ?_
    rcases hnot with hnot | hnot | hnot
    · exact .inr (.inl hnot)
    · exact .inr (.inr hnot)
    · exact .inl ⟨_, hnot⟩

theorem wp_cmdRealityRotate (hkept : before.ConfigKept ∨ ∃ file ∈ realityFiles,
      before.backup file ≠ none) (privateKey publicKey shortId config : β) :
    wp (cmdRealityRotate o privateKey publicKey shortId config) before (fun _ _ => True)
      fun e after => e = .rolledBack true →
        Back before realityFiles (before.live .config) after := by
  unfold cmdRealityRotate
  rw [wp_bind, wp_refuse]
  split
  · nofun
  · rw [wp_bind]
    refine wp_prepareBackups (by decide) [] (fun hnone => ?_) fun _ e _ he h => absurd h he
    have hkept : before.ConfigKept := hkept.resolve_right fun ⟨file, hfile, hstale⟩ =>
      hstale (hnone file hfile)
    refine wp_rotation realityFiles (by decide) (by decide) hkept ?_ (fun s => ?_) fun s => ?_
    · exact (Started.backUp (by decide)).installReality _ _ _ _ fun _ _ h => h
    · simp only [wp_bind, wp_refuse]
      split_ifs
    · exact wp_removeRotateBackups _

theorem Started.obfsBackedUp : Started before [.obfsPassword]
    (before.setBackup .obfsPassword (before.live .obfsPassword)) := by
  have hstart : Started before [.obfsPassword] (before.backUp [.obfsPassword]) :=
    .backUp (by decide)
  rw [← Disk.backUp_setBackup] at hstart
  simpa [Disk.backUp] using hstart

theorem Started.installObfs (h : Started before [.obfsPassword] disk) {existed : Bool}
    (config : β)
    (hfailed : o.ownerSet .obfsPassword = false ∨ o.staged = false ∨ o.backedUp .config ≠ .done ∨
      o.installed .config = false → ∀ after, Unapplied before [.obfsPassword] after →
      failed () after) :
    wp (do
        refuse (!existed && !o.ownerSet .obfsPassword) ()
        applyConfigAtomically o config) disk (fun _ => Applied before [.obfsPassword]) failed := by
  rw [wp_bind, wp_refuse]
  split
  · next hnot =>
    simp only [Bool.and_eq_true, Bool.not_eq_true'] at hnot
    exact hfailed (.inl hnot.2) disk h.toUnapplied
  · exact wp_applyConfigAtomically (by decide) h fun hnot => hfailed (.inr hnot)

theorem wp_cmdHysteriaObfsRotate (hkept : before.ConfigKept ∨ before.backup .obfsPassword ≠ none)
    (password config : β) :
    wp (cmdHysteriaObfsRotate o password config) before (fun _ _ => True)
      fun e after => e = .rolledBack true →
        Back before [.obfsPassword] (before.live .config) after := by
  unfold cmdHysteriaObfsRotate
  rw [wp_bind, wp_refuse]
  split
  · intro h
    cases h
  · rw [wp_bind]
    refine wp_backupForRotate (fun hnone => ?_) fun _ e _ he h => absurd h he
    have hkept : before.ConfigKept := hkept.resolve_right fun hstale => hstale hnone
    rw [wp_bind, wp_attempt, wp_installRotatedKeyFile]
    split
    · refine wp_rotation [.obfsPassword] (by decide) (by decide) hkept ?_ (fun s => ?_) fun s => ?_
      · exact (Started.obfsBackedUp.setLive (by decide) (List.mem_singleton_self _) _).installObfs _
          fun _ _ h => h
      · simp only [wp_bind, wp_refuse]
        split_ifs
      · exact wp_removeRotateBackup fun _ => trivial
    · show wp (runIf _ _ >>= _) _ _ _
      rw [wp_bind, wp_runIf]
      split
      · refine wp_removeRotateBackup fun _ h => ?_
        cases h
      · intro h
        cases h

theorem wp_regenerateSingboxConfig (h : Recorded before files disk) (hconfig : .config ∉ files)
    (r : Regenerated β) :
    wp (regenerateSingboxConfig r) disk (fun _ => Recorded before files)
      fun _ => Recorded before files := by
  have hset : Recorded before files ((disk.setLive .config r.config).setBackup .config r.backup) :=
    { backup := fun file hfile =>
        (Function.update_of_ne (ne_of_mem_of_not_mem hfile hconfig) _ _).trans (h.backup file hfile)
      other := fun file hfile hne =>
        (Function.update_of_ne hne _ _).trans (h.other file hfile hne) }
  unfold regenerateSingboxConfig
  rw [wp_bind, wp_step, wp_refuse]
  split
  · exact hset
  · exact hset

theorem wp_rollbackRestore (files : List File) (hnodup : files.Nodup) (hconfig : .config ∉ files)
    (h : Recorded before files disk) {failed : Failure → Disk β → Prop} :
    wp (rollbackRestore o (files.map before.existing)) disk (fun restored after => restored →
      ∃ config, Back before files config after) failed := by
  unfold rollbackRestore
  rw [wp_bind]
  refine (wp_restoreFiles hnodup h.backup).mono (fun first mid hfiles => ?_) fun _ _ h => h
  have hregenerated : ∀ r : Except Unit Unit,
      (first && r.isOk && o.subscriptionRecovered) = true → ∃ config, Back before files config
        ((mid.setLive .config o.regeneratedBack.config).setBackup .config
          o.regeneratedBack.backup) := by
    intro r hall
    simp only [Bool.and_eq_true] at hall
    obtain ⟨⟨rfl, -⟩, -⟩ := hall
    have hback := (hfiles.back hconfig h).setConfig o.regeneratedBack.config
    refine ⟨o.regeneratedBack.config, hback.live, hback.config, fun file hfile => ?_⟩
    rw [← hback.backup file hfile]
    exact Function.update_of_ne (ne_of_mem_of_not_mem hfile hconfig) _ _
  unfold regenerateSingboxConfig
  rw [wp_bind, wp_attempt, wp_bind, wp_step, wp_refuse]
  split
  · exact hregenerated (.error ())
  · exact hregenerated (.ok ())

theorem Archive.mem_targets (archive : Archive β) :
    ∀ entry ∈ archive.entries, entry.1 ∈ restoreTargets ++ [.users] := by
  unfold Archive.entries
  cases archive.tls <;> cases archive.obfsPassword <;> simp [restoreTargets]

/-- Wherever putting the archive in place fails, the backups are still there. -/
theorem Recorded.installArchive (archive : Archive β)
    (h : Recorded before (restoreTargets ++ [.users]) disk) :
    wp (do
        installRestoredFiles o archive.entries
        regenerateSingboxConfig o.regenerated
        refuse (!o.subscriptionRestarted) ()) disk (fun _ _ => True)
      fun _ => Recorded before (restoreTargets ++ [.users]) := by
  rw [wp_bind]
  refine (wp_installRestoredFiles (fun entry hentry s hs =>
    hs.setLive (archive.mem_targets entry hentry) _) h).mono (fun _ s hs => ?_) fun _ _ hs => hs
  rw [wp_bind]
  refine (wp_regenerateSingboxConfig hs (by decide) o.regenerated).mono (fun _ t ht => ?_)
    fun _ _ ht => ht
  rw [wp_refuse]
  split
  · exact ht
  · trivial

theorem wp_cmdRestore (archive : Archive β) :
    wp (cmdRestore o archive) before (fun _ _ => True) fun e after => e = .rolledBack true →
      ∃ config, Back before (restoreTargets ++ [.users]) config after := by
  unfold cmdRestore
  rw [wp_bind, wp_refuse]
  split
  · nofun
  · rw [wp_bind]
    refine wp_backupForRotate (fun husers => ?_) fun _ e _ he h => absurd h he
    rw [wp_bind]
    refine wp_prepareBackups (by decide) _ (fun hnone => ?_) fun _ e _ he h => absurd h he
    rw [Disk.backUp_setBackup, wp_bind, wp_orRollback]
    have hrecorded : Recorded before (restoreTargets ++ [File.users])
        (before.backUp (.users :: restoreTargets)) := by
      refine ⟨fun file hfile => if_pos ?_, fun _ _ _ => rfl⟩
      rw [List.mem_append, List.mem_singleton] at hfile
      exact List.mem_cons.mpr hfile.symm
    refine (hrecorded.installArchive archive).mono (fun _ s _ => ?_) fun _ s hs => ?_
    · rw [wp_bind]
      refine (wp_removeRotateBackups _).mono (fun _ t _ => ?_) fun _ _ h => h
      rw [wp_runIf]
      split
      · exact wp_removeRotateBackup fun _ => trivial
      · trivial
    · exact (wp_rollbackRestore (restoreTargets ++ [.users]) (by decide) (by decide) hs).mono
        (fun _ _ h he => h (Failure.rolledBack.inj he)) fun _ _ h => h

end

/-! ### A config file that comes back from an old backup -/

def Outcomes.reloadFails : Outcomes β where
  ready := true
  backedUp := fun _ => .done
  discarded := fun _ => true
  installed := fun _ => true
  ownerSet := fun _ => true
  staged := true
  regenerated := ⟨true, none, none⟩
  singboxReloaded := false
  subscriptionRestarted := true
  handshakeAccepted := true
  restored := fun _ => true
  configRestored := .done
  regeneratedBack := ⟨true, none, none⟩
  singboxRecovered := true
  subscriptionRecovered := true

theorem recovers_reloadFails : (Outcomes.reloadFails : Outcomes β).Recovers :=
  ⟨fun _ => rfl, rfl, rfl, rfl⟩

section
variable {before disk : Disk β}

/-- Without a config file but with an old backup of one, a rotation whose restart fails reports
    the previous state and leaves a config file behind. -/
theorem wp_rotation_reloadFails (files : List File) (hnodup : files.Nodup)
    (hconfig : .config ∉ files) (hkept : ¬ before.ConfigKept)
    {install check : Prog Unit (Disk β) Unit} {commit : Prog Failure (Disk β) Unit}
    (hinstall : wp install disk (fun _ => Applied before files) fun _ _ => False)
    (hcheck : ∀ s, wp check s (fun _ _ => False) fun _ after => after = s) :
    wp (do
        orRollback (rollbackRotation .reloadFails (files.map before.existing) false) install
        orRollback (rollbackRotation .reloadFails (files.map before.existing) true) check
        commit) disk (fun _ _ => False) fun e after =>
      e = .rolledBack true ∧ after.live .config ≠ before.live .config := by
  obtain ⟨hnone, hstale⟩ := not_or.mp hkept
  rw [Option.not_isSome_iff_eq_none] at hnone
  rw [wp_bind, wp_orRollback]
  refine hinstall.mono (fun _ s hs => ?_) fun _ _ h => h.elim
  rw [wp_bind, wp_orRollback]
  refine (hcheck s).mono (fun _ _ h => h.elim) ?_
  rintro _ _ rfl
  have hbackup := hs.configBackup
  rw [hnone, Option.none_or] at hbackup
  refine (wp_rollbackRotation hnodup hconfig hs.toRecorded true).mono ?_ fun _ _ h => h
  rintro restored after ⟨hback, hcomplete⟩
  obtain rfl := hcomplete recovers_reloadFails fun _ => hbackup ▸ hstale
  have hback := (hback rfl).2.config
  rw [if_pos rfl, hbackup] at hback
  exact ⟨rfl, by rwa [hback, hnone]⟩

theorem wp_cmdRealityRotate_reloadFails (hkept : ¬ before.ConfigKept)
    (hnone : ∀ file ∈ realityFiles, before.backup file = none)
    (privateKey publicKey shortId config : β) :
    wp (cmdRealityRotate .reloadFails privateKey publicKey shortId config) before
      (fun _ _ => False) fun e after =>
        e = .rolledBack true ∧ after.live .config ≠ before.live .config := by
  unfold cmdRealityRotate
  rw [wp_bind, wp_refuse, if_neg (by simp [Outcomes.reloadFails]), wp_bind]
  refine wp_prepareBackups (by decide) [] (fun _ => ?_) ?_
  · refine wp_rotation_reloadFails realityFiles (by decide) (by decide) hkept ?_ fun s => rfl
    refine (Started.backUp (by decide)).installReality _ _ _ _ ?_
    rintro (⟨file, hnot⟩ | hnot | hnot)
    · cases hnot
    · cases hnot
    · exact absurd rfl hnot
  · rintro ⟨file, hfile, hstale | hnot⟩
    · exact absurd (hnone file hfile) hstale
    · exact absurd rfl hnot

theorem wp_cmdHysteriaObfsRotate_reloadFails (hkept : ¬ before.ConfigKept)
    (hnone : before.backup .obfsPassword = none) (password config : β) :
    wp (cmdHysteriaObfsRotate .reloadFails password config) before (fun _ _ => False)
      fun e after => e = .rolledBack true ∧ after.live .config ≠ before.live .config := by
  unfold cmdHysteriaObfsRotate
  rw [wp_bind, wp_refuse, if_neg (by simp [Outcomes.reloadFails]), wp_bind]
  refine wp_backupForRotate (fun _ => ?_) ?_
  · rw [wp_bind, wp_attempt, wp_installRotatedKeyFile, if_pos (by rfl)]
    refine wp_rotation_reloadFails [.obfsPassword] (by decide) (by decide) hkept ?_ fun s => rfl
    refine (Started.setLive (by decide) .obfsBackedUp (List.mem_singleton_self _) _).installObfs _ ?_
    rintro (hnot | hnot | hnot | hnot)
    · cases hnot
    · cases hnot
    · exact absurd rfl hnot
    · cases hnot
  · rintro (hstale | hnot)
    · exact absurd hnone hstale
    · exact absurd rfl hnot

end

/-! ### Atomicity -/

variable {c : Command β} {before : Disk β}

theorem Back.putsBack {after : Disk β} {files : List File} {config : Option β}
    (h : Back before files config after) (hconfig : c.isRotation → config = before.live .config)
    (hfiles : ∀ file ∈ c.replaces, file ∈ files) : c.PutsBack before after where
  live := h.live
  config := fun hrotation => h.config.trans (hconfig hrotation)
  backup := fun file hfile => h.backup file (hfiles file hfile)

theorem not_atomic {o : Outcomes β} (hrotation : c.isRotation)
    (h : wp (c.run o) before (fun _ _ => False) fun e after => e = .rolledBack true ∧
      after.live .config ≠ before.live .config) :
    ¬ Atomic before := by
  intro hatomic
  obtain ⟨_, hresult, rfl, hconfig⟩ := h.fails
  exact hconfig ((hatomic c o hresult).config hrotation)

/-- A command that reports the previous state has restored it, from every state in which the
    config file is there or has no old backup, and from those in which a stale `.rotate-bak` keeps
    either rotation from starting. -/
theorem atomic_iff (before : Disk β) :
    Atomic before ↔ before.ConfigKept ∨
      (∃ file ∈ realityFiles, before.backup file ≠ none) ∧ before.backup .obfsPassword ≠ none := by
  constructor
  · intro hatomic
    by_contra hnot
    obtain ⟨hkept, hnot⟩ := not_or.mp hnot
    obtain ⟨old, -⟩ := Option.ne_none_iff_exists'.mp (not_or.mp hkept).2
    by_cases hobfs : before.backup .obfsPassword = none
    · exact not_atomic (c := .obfsRotate old old) rfl
        (wp_cmdHysteriaObfsRotate_reloadFails hkept hobfs old old) hatomic
    · have hreality : ∀ file ∈ realityFiles, before.backup file = none := by
        intro file hfile
        by_contra hstale
        exact hnot ⟨⟨file, hfile, hstale⟩, hobfs⟩
      exact not_atomic (c := .realityRotate old old old old) rfl
        (wp_cmdRealityRotate_reloadFails hkept hreality old old old old) hatomic
  · rintro h c o hresult
    cases c with
    | restore archive =>
      obtain ⟨config, hback⟩ := (wp_cmdRestore archive).error hresult rfl
      refine hback.putsBack nofun ?_
      intro file hfile
      rw [List.mem_append, List.mem_singleton]
      exact (List.mem_cons.mp hfile).symm
    | realityRotate privateKey publicKey shortId config =>
      have hback := (wp_cmdRealityRotate (h.imp_right And.left) privateKey publicKey shortId
        config).error hresult rfl
      exact hback.putsBack (fun _ => rfl) fun _ hfile => hfile
    | obfsRotate password config =>
      have hback := (wp_cmdHysteriaObfsRotate (h.imp_right And.right) password config).error
        hresult rfl
      exact hback.putsBack (fun _ => rfl) fun _ hfile => hfile

/-- A node whose config file was lost and whose `config.json.bak` was not. -/
def lostConfig : Disk String where
  live
    | .obfsPassword => some "password"
    | .users => some "users"
    | _ => none
  backup
    | .config => some "last week's config"
    | _ => none

/-- A rotation that is rolled back puts an old configuration where none was. -/
theorem atomic_lostConfig_fails :
    result ((Command.obfsRotate "new password" "new config").run .reloadFails) lostConfig =
        .error (.rolledBack true) ∧
      lostConfig.live .config = none ∧
      (final ((Command.obfsRotate "new password" "new config").run .reloadFails) lostConfig).live
        .config = some "last week's config" ∧
      ¬ Atomic lostConfig := by
  have hresult : result ((Command.obfsRotate "new password" "new config").run .reloadFails)
      lostConfig = .error (.rolledBack true) := rfl
  refine ⟨hresult, rfl, rfl, fun hatomic => ?_⟩
  cases (hatomic _ _ hresult).config rfl

end SingboxVpn.Restore
