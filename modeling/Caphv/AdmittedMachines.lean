import Caphv.ApiValidation
import Caphv.FinalizerSafety

namespace Caphv.Machine

/-- The reference of an image volume cannot be read, so the build ends there with an error. -/
def malformedImage (ns : String) (vol : Volume) : Bool :=
  vol.volumeType = .image ∧ (getNamespacedName vol.imageName ns).toOption = none

/-- Every volume that the build reaches has a size. -/
def sizesGiven (ns : String) : List Volume → Bool
  | [] => true
  | vol :: vols => vol.volumeSize.isSome && (malformedImage ns vol || sizesGiven ns vols)

section Build

variable {ext : Externals} {sc : Scope} {vmName ns name : String} {vol : Volume}
  {m : HarvesterMachine}

theorem always_getImageByName (hclient : sc.harvesterClient = true) (imageName : String) :
    Body.Always (getImageByName sc imageName ns) m fun out m' => out ≠ none ∧ m' = m ∧
      ((getNamespacedName imageName ns).toOption = none → ∀ image, out ≠ some (.ok image)) := by
  unfold getImageByName
  split
  · exact ⟨nofun, rfl, fun _ _ => nofun⟩
  next ref href =>
    rw [Scope.harvester, if_pos hclient]
    refine .request_bind trivial fun listed => ?_
    have hread : (getNamespacedName imageName ns).toOption ≠ none := by
      rw [href]
      nofun
    cases listed with
    | error e => exact ⟨nofun, rfl, fun h => absurd h hread⟩
    | ok images => exact ⟨nofun, rfl, fun h => absurd h hread⟩

/-- With a size there is no panic, and a malformed image gives an error. -/
theorem always_buildPVCForVolume_size (hclient : sc.harvesterClient = true)
    (hsize : vol.volumeSize.isSome = true) :
    Body.Always (buildPVCForVolume sc vol name ns) m fun out m' => out ≠ none ∧ m' = m ∧
      (malformedImage ns vol = true → ∀ pvc, out ≠ some (.ok pvc)) := by
  unfold buildPVCForVolume malformedImage
  split
  next hnone =>
    rw [hnone] at hsize
    cases hsize
  · split
    next htype =>
      refine (always_getImageByName hclient vol.imageName).bind (fun _ got m' hgot => ?_)
        fun _ _ h => absurd rfl h.1
      obtain ⟨-, rfl, himage⟩ := hgot
      cases got with
      | error e => exact ⟨nofun, rfl, fun _ _ => nofun⟩
      | ok image =>
        refine ⟨nofun, rfl, fun hbad => ?_⟩
        exact absurd rfl (himage (of_decide_eq_true hbad).2 image)
    next htype =>
      refine ⟨nofun, rfl, fun hbad => ?_⟩
      exact absurd (of_decide_eq_true hbad).1 (by rw [htype]; nofun)

theorem always_buildPVCs (hclient : sc.harvesterClient = true) (i : ℕ) (vols : List Volume)
    (h : sizesGiven ns vols = true) :
    Body.Always (buildPVCs sc vmName ns i vols) m fun out m' => out ≠ none ∧ m' = m := by
  induction vols generalizing i with
  | nil => exact ⟨Option.some_ne_none _, rfl⟩
  | cons vol vols ih =>
    rw [sizesGiven, Bool.and_eq_true] at h
    unfold buildPVCs
    refine .request_bind trivial fun diskRandomID => ?_
    refine (always_buildPVCForVolume_size hclient h.1).bind (fun _ built m' hbuilt => ?_)
      fun _ _ h => absurd rfl h.1
    obtain ⟨-, rfl, hbad⟩ := hbuilt
    cases built with
    | error e => exact ⟨Option.some_ne_none _, rfl⟩
    | ok pvc =>
      -- A claim was built, so the loop goes on past this volume.
      have hrest : sizesGiven ns vols = true := by
        rcases Bool.or_eq_true_iff.mp h.2 with hmal | hrest
        · exact absurd rfl (hbad hmal pvc)
        · exact hrest
      refine (ih (i + 1) hrest).bind (fun _ rest m'' hm => ?_) fun _ _ h => absurd rfl h.1
      exact ⟨Option.some_ne_none _, hm.2⟩

/-- Some response lets an image be found. -/
theorem exists_image (hclient : sc.harvesterClient = true) {imageName : String}
    {ref : NamespacedName} (href : getNamespacedName imageName ns = .ok ref)
    {Q : Option (Except String VMImage) → HarvesterMachine → Prop}
    (h : Body.Always (getImageByName sc imageName ns) m Q) : ∃ image, Q (some (.ok image)) m := by
  let image : VMImage := ⟨ref.ns, ref.name, ref.name, ""⟩
  have hfound : findImage [image] ref = .ok image := by simp [findImage, image]
  unfold getImageByName at h
  rw [href] at h
  dsimp only at h
  rw [Scope.harvester, if_pos hclient] at h
  have hlisted : Body.Always (pure (findImage [image] ref)) m Q := h.response (.ok [image])
  rw [hfound] at hlisted
  exact ⟨image, hlisted⟩

/-- Some responses let a claim be built, unless the volume has no size or its image cannot be
read. -/
theorem exists_claim (hclient : sc.harvesterClient = true) (hbad : malformedImage ns vol = false)
    {size : String} (hsize : vol.volumeSize = some size)
    {Q : Option (Except String PVCTemplate) → HarvesterMachine → Prop}
    (h : Body.Always (buildPVCForVolume sc vol name ns) m Q) : ∃ pvc, Q (some (.ok pvc)) m := by
  unfold buildPVCForVolume at h
  rw [hsize] at h
  cases htype : vol.volumeType with
  | storageClass =>
    rw [htype] at h
    exact ⟨_, h⟩
  | image =>
    cases href : getNamespacedName vol.imageName ns with
    | error e => simp [malformedImage, htype, href, Except.toOption] at hbad
    | ok ref =>
      rw [htype] at h
      obtain ⟨image, himage⟩ := exists_image hclient href ((Body.always_bind _ _ _ _).mp h)
      exact ⟨_, himage⟩

theorem sizesGiven_of_always (hclient : sc.harvesterClient = true) (i : ℕ) (vols : List Volume)
    (h : Body.Always (buildPVCs sc vmName ns i vols) m fun out _ => out ≠ none) :
    sizesGiven ns vols = true := by
  -- The responses are chosen so that each volume that can be built is.
  induction vols generalizing i with
  | nil => rfl
  | cons vol vols ih =>
    unfold buildPVCs at h
    have hbuilt := (Body.always_bind _ _ _ _).mp (h.response "")
    rw [sizesGiven]
    cases hsize : vol.volumeSize with
    | none =>
      unfold buildPVCForVolume at hbuilt
      rw [hsize] at hbuilt
      exact absurd rfl hbuilt
    | some size =>
      cases hbad : malformedImage ns vol with
      | true =>
        -- The error ends the loop whatever the responses, so the later volumes do not matter.
        rfl
      | false =>
        obtain ⟨pvc, hrest⟩ := exists_claim hclient hbad hsize hbuilt
        exact ih (i + 1) (Body.Always.of_bind hrest)

theorem always_getCloudInitData (dataSecretName : String) :
    Body.Always (getCloudInitData sc dataSecretName) m fun out _ => out ≠ none := by
  unfold getCloudInitData
  refine .request_bind trivial fun got => ?_
  split
  · exact nofun
  · exact nofun
  · exact nofun

theorem always_ensureCloudInitSecret (hclient : sc.harvesterClient = true) (n : NamespacedName)
    (data : CloudInitSecret) :
    Body.Always (ensureCloudInitSecret sc n data) m fun out _ => out ≠ none := by
  unfold ensureCloudInitSecret Scope.harvester
  simp only [hclient, if_true]
  refine .request_bind trivial fun got => ?_
  split
  · split_ifs
    · refine .request_bind trivial fun created => ?_
      split
      · exact nofun
      · exact nofun
    · exact nofun
  · refine .request_bind trivial fun updated => ?_
    split
    · exact nofun
    · exact nofun

/-- The template is built without a panic when the memory is a quantity. -/
theorem always_buildVMTemplate (hclient : sc.harvesterClient = true)
    (hmemory : ext.parsesQuantity m.spec.memory = true) (dataSecretName : String)
    (netCfg : Option NetworkConfig) :
    Body.Always (buildVMTemplate ext sc dataSecretName netCfg) m fun out _ => out ≠ none := by
  unfold buildVMTemplate
  refine .get_bind ?_
  split
  · exact nofun
  · rw [Scope.harvester, if_pos hclient]
    refine .request_bind trivial fun got => ?_
    split
    · split_ifs
      · exact nofun
      · exact nofun
    · refine (always_getCloudInitData dataSecretName).bind (fun _ data _ _ => ?_)
        fun _ _ h => absurd rfl h
      split
      · exact nofun
      · split
        · exact nofun
        · refine (always_ensureCloudInitSecret hclient _ _).bind (fun _ ensured _ _ => ?_)
            fun _ _ h => absurd rfl h
          split
          · exact nofun
          · refine .modify_bind ?_
            rw [if_pos hmemory]
            exact nofun

theorem always_createVM_iff (hclient : sc.harvesterClient = true)
    (hmemory : ext.parsesQuantity m.spec.memory = true) (dataSecretName : String)
    (netCfg : Option NetworkConfig) :
    (Body.Always (createVMFromHarvesterMachine ext sc dataSecretName netCfg) m fun out _ =>
      out ≠ none) ↔ sizesGiven sc.harvesterCluster.spec.targetNamespace m.spec.volumes = true := by
  constructor
  · intro h
    unfold createVMFromHarvesterMachine at h
    exact sizesGiven_of_always hclient 0 _ h.of_get_bind.of_bind
  · intro h
    unfold createVMFromHarvesterMachine
    refine .get_bind ?_
    refine (always_buildPVCs hclient 0 _ h).bind (fun _ pvcs m' hpvcs => ?_)
      fun _ _ h => absurd rfl h.1
    obtain ⟨-, rfl⟩ := hpvcs
    cases pvcs with
    | error e => exact nofun
    | ok disks =>
      refine (always_buildVMTemplate hclient hmemory dataSecretName netCfg).bind
        (fun _ template _ _ => ?_) fun _ _ h => absurd rfl h
      cases template with
      | error e => exact nofun
      | ok u =>
        cases u
        rw [Scope.harvester, if_pos hclient]
        refine .request_bind trivial fun created => ?_
        split
        · exact nofun
        · exact nofun

end Build

section Admitted

open Api

variable {K : Core} {text : Texts} {ext : Externals}

/-- A machine that the webhook admits is built without a panic, whatever the cluster and the
responses of Harvester, exactly if every volume that the build reaches has a size. -/
theorem admitted_machine_builds_iff (read : V1Beta1.MachineReading K)
    (r : V1Beta1.HarvesterMachine K) (hr : V1Beta1.validateHarvesterMachine text r = none)
    (hparse : ∀ q, text.quantityError q = none → ext.parsesQuantity q = true) (sc : Scope)
    (hclient : sc.harvesterClient = true) (dataSecretName : String)
    (netCfg : Option NetworkConfig) (m : HarvesterMachine) (hm : m.spec = r.spec.model read) :
    (Body.Always (createVMFromHarvesterMachine ext sc dataSecretName netCfg) m fun out _ =>
      out ≠ none) ↔ sizesGiven sc.harvesterCluster.spec.targetNamespace m.spec.volumes = true := by
  have hmemory : ext.parsesQuantity m.spec.memory = true := by
    rw [hm]
    exact hparse _ (V1Beta1.parsesMemory_of_admitted hr)
  exact always_createVM_iff hclient hmemory dataSecretName netCfg

end Admitted

namespace Sample

open Api

def core : Core := ⟨Unit, Unit, Unit, Unit, Unit, Unit, Unit, Unit, String⟩

def reading : V1Beta1.MachineReading core := ⟨id, fun _ => ⟨none, []⟩, fun _ => ⟨""⟩⟩

def texts : Texts := ⟨id, fun _ => none⟩

def storedMachine (volumeSize : Option String) : V1Beta1.HarvesterMachine core where
  typeMeta := ⟨"HarvesterMachine", "infrastructure.cluster.x-k8s.io/v1beta1"⟩
  objectMeta := ⟨"ns", "a", ()⟩
  spec :=
    { providerID := ""
      failureDomain := ""
      cpu := 2
      memory := "4Gi"
      sshUser := "user"
      sshKeyPair := "key"
      volumes := some [⟨"storageClass", "", "sc", volumeSize, 0⟩]
      networks := some ["net"]
      nodeAffinity := none
      workloadAffinity := none
      networkConfig := none
      vmNetworkConfig := none
      firmware := none
      tpm := none }
  status := ⟨false, none, none, ⟨false⟩, "", "", ""⟩

def readMachine (volumeSize : Option String) : HarvesterMachine :=
  ⟨false, [machineFinalizer], false, (storedMachine volumeSize).spec.model reading, .empty⟩

end Sample

open Sample in
theorem admitted_machine_builds_sample :
    V1Beta1.validateHarvesterMachine texts (storedMachine (some "1Gi")) = none ∧
    Body.Always (createVMFromHarvesterMachine ext scopeA "boot" none) (readMachine (some "1Gi"))
      fun out _ => out ≠ none := by
  have hadmitted : V1Beta1.validateHarvesterMachine texts (storedMachine (some "1Gi")) = none := by
    decide +kernel
  exact ⟨hadmitted, (admitted_machine_builds_iff reading _ hadmitted (fun _ _ => rfl) scopeA rfl
    "boot" none (readMachine (some "1Gi")) rfl).mpr rfl⟩

open Sample in
/-- A volume without a size is admitted, and the build dereferences the nil pointer. -/
theorem admitted_machine_panics :
    V1Beta1.validateHarvesterMachine texts (storedMachine none) = none ∧
    (Prog.serve (fun w r => exec keyA r (answers (fun _ => .none) r) w) (world ["p"])
      (createVMFromHarvesterMachine ext scopeA "boot" none (readMachine none))).1.1 = none := by
  decide +kernel

end Caphv.Machine
