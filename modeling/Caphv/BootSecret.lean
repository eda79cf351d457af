import Caphv.CreationPass
import Caphv.FinalizerSafety

namespace Caphv.Machine

open Body (Leads)

/-- The moment of a Create: the cloud-init secret that is stored then, what the pass was told
before, and the status that it has in memory. -/
structure Launch where
  secret : Option CloudInitSecret
  publicKey : Option String
  userData : Option String
  lookupFailed : Bool
  status : HarvesterMachineStatus
  deriving DecidableEq

/-- What is noted of a pass, beside the stored objects. -/
structure Notes where
  publicKey : Option String
  userData : Option String
  /-- The lookup of the secret failed with an error other than not found. -/
  lookupFailed : Bool
  launches : List Launch
  deriving DecidableEq

def Notes.blank : Notes := ⟨none, none, false, []⟩

def Notes.next (notes : Notes) (secret : Option CloudInitSecret) : (r : Req) → Resp r → Notes
  | .getKeyPair _, .ok publicKey => { notes with publicKey := some publicKey }
  | .getBootstrapSecret _, .ok userData => { notes with userData := userData }
  | .getSecret _, .error e => { notes with lookupFailed := !e.isNotFound }
  | .createVM _ _ status, _ =>
    { notes with launches := notes.launches ++
      [⟨secret, notes.publicKey, notes.userData, notes.lookupFailed, status⟩] }
  | _, _ => notes

def World.secretData (w : World) (n : NamespacedName) : Option CloudInitSecret :=
  (w.secrets.lookup n).map StoredSecret.data

def Scope.secretName (sc : Scope) : NamespacedName :=
  ⟨sc.harvesterCluster.spec.targetNamespace, cloudInitSecretName sc.key.name⟩

def launchOf (sc : Scope) (t : World × Notes) (status : HarvesterMachineStatus) : Launch :=
  ⟨t.1.secretData sc.secretName, t.2.publicKey, t.2.userData, t.2.lookupFailed, status⟩

def Noted (sc : Scope) (t : World × Notes) (r : Req) (x : Resp r) (t' : World × Notes) : Prop :=
  Answered sc.key t.1 r x t'.1 ∧ t'.2 = t.2.next (t.1.secretData sc.secretName) r x

/-- The secret holds the user data merged in this pass, and the static network data of this pass
exactly if there is a network configuration and there are networks. -/
structure Boots (ext : Externals) (sc : Scope) (m : HarvesterMachine) (l : Launch)
    (secret : CloudInitSecret) : Prop where
  userdata : ∃ publicKey ∈ l.publicKey, ∃ userData ∈ l.userData,
    ext.mergeCloudInitData [cloudInitBase, cloudInitSSHSection publicKey,
      if effectiveNetworkConfig sc { m with status := l.status } = none ∧ m.spec.networks ≠ [] then
        buildDHCPCloudInit m.spec.networks else "", userData] = .ok secret.userdata
  networkdata : secret.networkdata =
    if m.spec.networks = [] then none
    else (effectiveNetworkConfig sc { m with status := l.status }).map fun cfg =>
      buildNetworkDataStatic m.spec.networks cfg (effectiveVMNetworkConfig m sc.harvesterCluster)

/-- At the Create the secret is right unless its lookup failed in this pass; and then it is right
if it was so before the pass. -/
def Launch.Sound (ext : Externals) (sc : Scope) (m : HarvesterMachine)
    (before : Option CloudInitSecret) (l : Launch) : Prop :=
  (∃ secret ∈ l.secret, Boots ext sc m l secret) ↔
    l.lookupFailed = false ∨ ∃ secret ∈ before, Boots ext sc m l secret

section Pass

variable {ext : Externals} {sc : Scope} {m s : HarvesterMachine} {k : ObjectKey} {w w' : World}
  {t : World × Notes}

/-- Only the requests of the template write a secret. -/
theorem World.write_secrets {r : Req} (hr : r.ofTemplate = false) (h : w.write k r = .ok w') :
    w'.secrets = w.secrets := by
  cases r with
  | patchClusterStatus c cs =>
    simp only [World.write, World.patchClusterStatus] at h
    split at h <;> cases h
    rfl
  | patchConditions b a =>
    simp only [World.write, World.patchConditions] at h
    split at h
    · cases h
    · split at h <;> cases h
      rfl
  | patchObject p =>
    simp only [World.write, World.patchObject] at h
    split at h
    · cases h
    · split_ifs at h <;> cases h <;> rfl
  | patchStatus p =>
    simp only [World.write, World.patchStatus] at h
    split at h <;> cases h
    rfl
  | updatePool n p =>
    simp only [World.write, World.updatePool] at h
    split at h
    · cases h
    · split_ifs at h
      cases h
      rfl
  | deleteVM n =>
    simp only [World.write, World.deleteVM] at h
    split at h <;> cases h
    rfl
  | deletePVC n =>
    simp only [World.write, World.deletePVC] at h
    split at h <;> cases h
    rfl
  | createVM n d st => cases hr
  | createSecret n d => cases hr
  | updateSecret n d => cases hr
  | deleteSecret n => cases hr
  | _ =>
    cases h
    rfl

theorem World.writeUnder_secrets {r : Req} (hr : r.ofTemplate = false) (f : Fault) :
    (w.writeUnder f k r).2.secrets = w.secrets :=
  writeUnder_rule (E := fun _ w' => w'.secrets = w.secrets)
    (fun _ _ hw => World.write_secrets hr hw) fun _ _ => rfl

/-- A write that was answered with success took effect. -/
theorem World.write_of_ok {r : Req} {f : Fault} {w' : World}
    (h : w.writeUnder f k r = (.ok (), w')) : w.write k r = .ok w' := by
  have hout := Fault.write_eq_ok (congrArg Prod.fst h)
  rw [show (Fault.write f w _).2 = w' from congrArg Prod.snd h] at hout
  cases hw : w.write k r with
  | error e =>
    rw [hw] at hout
    cases hout
  | ok w₁ =>
    rw [hw] at hout
    cases hout
    rfl

theorem exec_secrets {r : Req} (hr : r.ofTemplate = false) (a : Answer r) :
    (exec k r a w).2.secrets = w.secrets := by
  cases r with
  | createVM n d st => cases hr
  | createSecret n d => cases hr
  | updateSecret n d => cases hr
  | deleteSecret n => cases hr
  | patchClusterStatus c cs => exact World.writeUnder_secrets hr a
  | patchConditions b c => exact World.writeUnder_secrets hr a
  | patchObject p => exact World.writeUnder_secrets hr a
  | patchStatus p => exact World.writeUnder_secrets hr a
  | updatePool n p => exact World.writeUnder_secrets hr a
  | deleteVM n => exact World.writeUnder_secrets hr a
  | deletePVC n => exact World.writeUnder_secrets hr a
  | ensurePausedCondition o recorded =>
    exact ensurePaused_rule (E := fun w' => w'.secrets = w.secrets) rfl fun _ _ => rfl
  | _ => rfl

theorem Notes.next_of_aside (notes : Notes) (secret : Option CloudInitSecret) {r : Req}
    (hr : r.ofTemplate = false) (x : Resp r) : notes.next secret r x = notes := by
  cases r with
  | getKeyPair n => cases hr
  | getBootstrapSecret n => cases hr
  | getSecret n => cases hr
  | createVM n d st => cases hr
  | _ => rfl

def visible (t : World × Notes) : Table NamespacedName StoredSecret × Notes := (t.1.secrets, t.2)

theorem of_visible_eq {t t' : World × Notes} (h : visible t' = visible t) :
    t'.2 = t.2 ∧ ∀ n, t'.1.secretData n = t.1.secretData n := by
  obtain ⟨hsecrets, hnotes⟩ := Prod.mk.inj h
  refine ⟨hnotes, fun n => ?_⟩
  rw [World.secretData, World.secretData, hsecrets]

theorem hides_noted : Hides (Noted sc) visible := by
  rintro t r x t' hr ⟨⟨a, ha⟩, hnotes⟩
  have hsecrets : t'.1.secrets = t.1.secrets := by
    rw [← exec_secrets (w := t.1) (k := sc.key) hr a, ha]
  rw [visible, visible, hsecrets, hnotes, Notes.next_of_aside _ _ hr]

theorem Noted.getSecret {n : NamespacedName} {x : Except ApiError CloudInitSecret}
    {t' : World × Notes} (h : Noted sc t (.getSecret n) x t') : t'.1 = t.1 := by
  obtain ⟨⟨a, ha⟩, -⟩ := h
  exact (congrArg Prod.snd ha).symm

theorem World.secretData_setSecret (n : NamespacedName) (secret : StoredSecret) :
    (w.setSecret n secret).secretData n = some secret.data := by
  rw [World.secretData, World.setSecret, AList.lookup_insert]
  rfl

theorem Noted.createSecret {n : NamespacedName} {data : CloudInitSecret} {t' : World × Notes}
    (h : Noted sc t (.createSecret n data) (.ok ()) t') :
    t'.1.secretData n = some data := by
  obtain ⟨⟨a, ha⟩, -⟩ := h
  have hw : t.1.createSecret sc.key n data = .ok t'.1 := World.write_of_ok ha
  unfold World.createSecret at hw
  split_ifs at hw
  rw [← Except.ok.inj hw]
  exact World.secretData_setSecret n _

theorem Noted.updateSecret {n : NamespacedName} {data : CloudInitSecret} {t' : World × Notes}
    (h : Noted sc t (.updateSecret n data) (.ok ()) t') :
    t'.1.secretData n = some data := by
  obtain ⟨⟨a, ha⟩, -⟩ := h
  have hw : t.1.updateSecret n data = .ok t'.1 := World.write_of_ok ha
  unfold World.updateSecret at hw
  split at hw
  · cases hw
  · rw [← Except.ok.inj hw]
    exact World.secretData_setSecret n _

/-- If it succeeds, the secret holds the data, or its lookup failed and nothing was written. -/
theorem leads_ensureCloudInitSecret_noted (data : CloudInitSecret)
    (ht : t.2.lookupFailed = false) :
    Leads (Noted sc) t (ensureCloudInitSecret sc sc.secretName data) s fun t' out s' => s' = s ∧
      ∃ failed, t'.2 = { t.2 with lookupFailed := failed } ∧
        (out = some (.ok ()) → t'.1.secretData sc.secretName =
          if failed then t.1.secretData sc.secretName else some data) := by
  have hkeep : t.2 = { t.2 with lookupFailed := false } := by rw [← ht]
  unfold ensureCloudInitSecret
  refine leads_harvester (fun got t₁ h₁ => ?_) ⟨rfl, false, hkeep, nofun⟩
  have hw₁ := h₁.getSecret
  cases got with
  | error e =>
    have hn₁ : t₁.2 = { t.2 with lookupFailed := !e.isNotFound } := h₁.2
    dsimp only
    split_ifs with hnf
    · rw [hnf] at hn₁
      refine leads_harvester (fun created t₂ h₂ => ?_) ⟨rfl, false, hn₁, nofun⟩
      cases created with
      | error e => exact .pure ⟨rfl, false, h₂.2.trans hn₁, nofun⟩
      | ok u => exact .pure ⟨rfl, false, h₂.2.trans hn₁, fun _ => h₂.createSecret⟩
    · -- The error is logged and nothing is written: what is stored is from before.
      refine .pure ⟨rfl, true, ?_, fun _ => by rw [hw₁]; rfl⟩
      rw [hn₁, Bool.eq_false_iff.mpr hnf]
      rfl
  | ok old =>
    have hn₁ : t₁.2 = { t.2 with lookupFailed := false } := h₁.2.trans hkeep
    refine leads_harvester (fun updated t₂ h₂ => ?_) ⟨rfl, false, hn₁, nofun⟩
    cases updated with
    | error e => exact .pure ⟨rfl, false, h₂.2.trans hn₁, nofun⟩
    | ok u => exact .pure ⟨rfl, false, h₂.2.trans hn₁, fun _ => h₂.updateSecret⟩

def Adopted (m : HarvesterMachine) (spec : HarvesterMachineSpec) : Prop :=
  ∃ id, spec = { m.spec with providerID := id }

/-- The data of `buildVMTemplate` is what the VM has to boot with. -/
theorem boots_cloudInitSecret (hs : Adopted m s.spec) {publicKey userData : String}
    {secret : CloudInitSecret} {l : Launch} (hl : l.status = s.status)
    (hkey : l.publicKey = some publicKey) (hdata : l.userData = some userData)
    (h : cloudInitSecret ext sc s (effectiveNetworkConfig sc s) publicKey userData = .ok secret) :
    Boots ext sc m l secret := by
  obtain ⟨id, hs⟩ := hs
  -- The provider id takes no part in the network configuration.
  have hnet : effectiveNetworkConfig sc { m with status := l.status } =
      effectiveNetworkConfig sc s := by
    simp [effectiveNetworkConfig, effectiveVMNetworkConfig, hs, hl]
  have hnets : s.spec.networks = m.spec.networks := by rw [hs]
  unfold cloudInitSecret at h
  dsimp only at h
  split at h
  · cases h
  · rename_i merged hmerged
    obtain rfl := Except.ok.inj h
    refine ⟨⟨publicKey, hkey, userData, hdata, ?_⟩, ?_⟩
    · rw [hnet, ← hnets]
      exact hmerged
    · rw [hnet, ← hnets]
      show Option.bind _ _ = _
      have heff : effectiveVMNetworkConfig s sc.harvesterCluster =
          effectiveVMNetworkConfig m sc.harvesterCluster := by
        simp [effectiveVMNetworkConfig, hs]
      rw [heff]
      split_ifs with hno
      · simp
      · cases effectiveNetworkConfig sc s with
        | none => rfl
        | some cfg => rfl

/-- Either the secret was written in this pass, or it is the one from before. -/
theorem Launch.sound_of_stored {l : Launch} {secret : CloudInitSecret}
    {before : Option CloudInitSecret} (hboots : Boots ext sc m l secret)
    (hstored : l.secret = if l.lookupFailed then before else some secret) :
    l.Sound ext sc m before := by
  unfold Launch.Sound
  cases hf : l.lookupFailed with
  | false =>
    rw [hf] at hstored
    exact iff_of_true ⟨secret, hstored, hboots⟩ (Or.inl rfl)
  | true =>
    rw [hf] at hstored
    rw [hstored]
    simp

theorem leads_getCloudInitData_noted (dataSecretName : String) :
    Leads (Noted sc) t (getCloudInitData sc dataSecretName) s fun t' out s' => s' = s ∧
      t'.1 = t.1 ∧ (∃ userData, t'.2 = { t.2 with userData := userData }) ∧
        ∀ userData, out = some (.ok userData) → t'.2.userData = some userData := by
  refine .request_bind fun got t₁ h₁ => ?_
  obtain ⟨⟨a, ha⟩, hn₁⟩ := h₁
  have hw₁ : t₁.1 = t.1 := (congrArg Prod.snd ha).symm
  rcases got with e | (- | userData)
  · exact .pure ⟨rfl, hw₁, ⟨_, hn₁⟩, nofun⟩
  · exact .pure ⟨rfl, hw₁, ⟨_, hn₁⟩, nofun⟩
  · refine .pure ⟨rfl, hw₁, ⟨_, hn₁⟩, fun data hdata => ?_⟩
    cases hdata
    rw [hn₁]
    rfl

theorem leads_buildVMTemplate_noted (hs : Adopted m s.spec) (ht : t.2.lookupFailed = false)
    (dataSecretName : String) :
    Leads (Noted sc) t (buildVMTemplate ext sc dataSecretName (effectiveNetworkConfig sc s)) s
      fun t' out _ => t'.2.launches = t.2.launches ∧ (out = some (.ok ()) →
        (launchOf sc t' s.status).Sound ext sc m (t.1.secretData sc.secretName)) := by
  unfold buildVMTemplate
  refine .get_bind ?_
  cases getNamespacedName s.spec.sshKeyPair sc.harvesterCluster.spec.targetNamespace with
  | error e => exact .pure ⟨rfl, nofun⟩
  | ok keyPair =>
    refine leads_harvester (fun got t₁ h₁ => ?_) ⟨rfl, nofun⟩
    have hw₁ : t₁.1 = t.1 := by
      obtain ⟨⟨a, ha⟩, -⟩ := h₁
      exact (congrArg Prod.snd ha).symm
    cases got with
    | error e =>
      have hn₁ : t₁.2 = t.2 := h₁.2
      dsimp only
      split_ifs
      · exact .pure ⟨by rw [hn₁], nofun⟩
      · exact .pure ⟨by rw [hn₁], nofun⟩
    | ok publicKey =>
      have hn₁ : t₁.2 = { t.2 with publicKey := some publicKey } := h₁.2
      refine (leads_getCloudInitData_noted dataSecretName).bind ?_ ?_
      · rintro t₂ (e | userData) s₂ ⟨rfl, hw₂, ⟨data, hn₂⟩, hdata⟩
        · exact .pure ⟨by rw [hn₂, hn₁], nofun⟩
        dsimp only
        cases hsecret : cloudInitSecret ext sc s₂ (effectiveNetworkConfig sc s₂) publicKey
          userData with
        | error e => exact .pure ⟨by rw [hn₂, hn₁], nofun⟩
        | ok secret =>
          have ht₂ : t₂.2.lookupFailed = false := by rw [hn₂, hn₁, ← ht]
          refine (leads_ensureCloudInitSecret_noted secret ht₂).bind ?_ ?_
          · rintro t₃ (e | u) s₃ ⟨rfl, failed, hn₃, hstored⟩
            · exact .pure ⟨by rw [hn₃, hn₂, hn₁], nofun⟩
            have hl : t₃.2.launches = t.2.launches := by rw [hn₃, hn₂, hn₁]
            have hboots : Boots ext sc m (launchOf sc t₃ s₃.status) secret := by
              refine boots_cloudInitSecret hs rfl ?_ ?_ hsecret
              · show t₃.2.publicKey = _
                rw [hn₃, hn₂, hn₁]
              · show t₃.2.userData = _
                rw [hn₃]
                exact hdata userData rfl
            have hsound : (launchOf sc t₃ s₃.status).Sound ext sc m
                (t.1.secretData sc.secretName) := by
              refine Launch.sound_of_stored hboots ?_
              show t₃.1.secretData sc.secretName = if t₃.2.lookupFailed then _ else _
              rw [hstored rfl, hn₃, hw₂, hw₁]
            refine .modify_bind ?_
            split_ifs
            · exact .pure ⟨hl, fun _ => hsound⟩
            · exact .panic ⟨hl, fun _ => hsound⟩
          · rintro t₃ s₃ ⟨-, failed, hn₃, -⟩
            exact ⟨by rw [hn₃, hn₂, hn₁], nofun⟩
      · rintro t₂ s₂ ⟨-, -, ⟨data, hn₂⟩, -⟩
        exact ⟨by rw [hn₂, hn₁], nofun⟩

theorem leads_createVMFromHarvesterMachine_noted (hs : Adopted m s.spec) (ht : t.2 = .blank)
    (dataSecretName : String) :
    Leads (Noted sc) t
      (createVMFromHarvesterMachine ext sc dataSecretName (effectiveNetworkConfig sc s)) s
      fun t' _ _ => ∀ l ∈ t'.2.launches, l.Sound ext sc m (t.1.secretData sc.secretName) := by
  have hnone : ∀ {notes : Notes}, notes.launches = t.2.launches → ∀ l ∈ notes.launches,
      l.Sound ext sc m (t.1.secretData sc.secretName) := by
    intro notes hl l hmem
    rw [hl, ht] at hmem
    cases hmem
  unfold createVMFromHarvesterMachine
  refine .get_bind ?_
  refine ((aside_buildPVCs (I := fun s' => s' = s) _ _ _ _).leads hides_noted rfl).bind ?_ ?_
  · rintro t₁ (e | disks) s₁ ⟨hv, rfl⟩
    · exact .pure (hnone (by rw [(of_visible_eq hv).1]))
    obtain ⟨hn₁, hw₁⟩ := of_visible_eq hv
    have hf₁ : t₁.2.lookupFailed = false := by rw [hn₁, ht]; rfl
    refine (leads_buildVMTemplate_noted hs hf₁ dataSecretName).bind ?_ fun t₂ s₂ h₂ =>
      hnone (h₂.1.trans (by rw [hn₁]))
    rintro t₂ (e | u) s₂ ⟨hl₂, hsound⟩
    · exact .pure (hnone (hl₂.trans (by rw [hn₁])))
    refine leads_harvester (fun created t₃ h₃ => ?_) (hnone (hl₂.trans (by rw [hn₁])))
    -- The one launch of the pass.
    have hl₃ : t₃.2.launches = [launchOf sc t₂ s₁.status] := by
      rw [h₃.2]
      show t₂.2.launches ++ _ = _
      rw [hl₂, hn₁, ht]
      rfl
    have hall : ∀ l ∈ t₃.2.launches, l.Sound ext sc m (t.1.secretData sc.secretName) := by
      rw [hl₃, ← hw₁ sc.secretName]
      simpa using hsound rfl
    cases created with
    | error e => exact .pure hall
    | ok u => exact .pure hall
  · rintro t₁ s₁ ⟨hv, -⟩
    exact hnone (by rw [(of_visible_eq hv).1])

end Pass

/-- In every pass, whatever the calls return, a VM is created with the cloud-init secret of the
pass unless the lookup of the secret failed with an error other than not found, which is only
logged; in that case what is stored from before is used. -/
theorem boots_iff (ext : Externals) (sc : Scope) (m : HarvesterMachine) (w : World) :
    Leads (Noted sc) (w, .blank) (reconcileNormal ext sc) m fun t _ _ =>
      ∀ l ∈ t.2.launches, ((∃ secret ∈ l.secret, Boots ext sc m l secret) ↔
        l.lookupFailed = false ∨
          ∃ secret ∈ w.secretData sc.secretName, Boots ext sc m l secret) := by
  refine leads_reconcileNormal (f := visible) (I := Adopted m)
    (Q := fun v _ => ∀ l ∈ v.2.launches, l.Sound ext sc m (w.secretData sc.secretName))
    hides_noted ?_ (fun _ _ _ hl => absurd hl List.not_mem_nil) ?_ ⟨_, rfl⟩
  · rintro spec id - - ⟨id', rfl⟩
    exact ⟨id, rfl⟩
  · intro t' s' dataSecretName hv hs
    obtain ⟨hnotes, hsecrets⟩ := of_visible_eq hv
    refine (leads_createVMFromHarvesterMachine_noted hs hnotes dataSecretName).mono
      fun t _ _ hall l hl => ?_
    rw [← show t'.1.secretData sc.secretName = w.secretData sc.secretName from hsecrets _]
    exact hall l hl

namespace Sample

def lookupTimesOut : Req → Fault
  | .getSecret _ => .reject "timeout"
  | _ => .none

def noting (fault : Req → Fault) (t : World × Notes) (r : Req) : Resp r × (World × Notes) :=
  let out := exec keyA r (answers fault r) t.1
  (out.1, out.2, t.2.next (t.1.secretData scopeA.secretName) r out.1)

def notedPass (fault : Req → Fault) : (Option Outcome × HarvesterMachine) × (World × Notes) :=
  Prog.serve (noting fault) (world ["p"], .blank) (reconcileNormal ext scopeA machineA)

theorem executes_notedPass (fault : Req → Fault) :
    Prog.Executes (Noted scopeA) (world ["p"], .blank) (reconcileNormal ext scopeA machineA)
      (notedPass fault).2 (notedPass fault).1 :=
  Prog.Complies.executes (fun _ r _ => ⟨⟨answers fault r, rfl⟩, rfl⟩)
    (Prog.complies_of_forall (fun _ _ => trivial) _)

end Sample

open Sample in
/-- The VM is created although its cloud-init secret does not exist. -/
theorem boots_without_secret :
    Prog.Executes (Noted scopeA) (world ["p"], .blank) (reconcileNormal ext scopeA machineA)
        (notedPass lookupTimesOut).2 (notedPass lookupTimesOut).1 ∧
      (notedPass lookupTimesOut).2.2.launches.map Launch.secret = [none] ∧
      ((notedPass lookupTimesOut).2.1.vms.lookup ⟨"target", "a"⟩).isSome = true := by
  refine ⟨executes_notedPass _, ?_⟩
  decide +kernel

end Caphv.Machine
