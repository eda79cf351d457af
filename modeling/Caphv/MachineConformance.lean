import Caphv.MachineProtocol

namespace Caphv.Machine

abbrev Obeys {α : Type} (ext : Externals) (k : ObjectKey) (v : View) (b : Pass α)
    (s : HarvesterMachine) (Q : View → Option α → HarvesterMachine → Prop) : Prop :=
  Body.Conforms (Guard ext k) View.next v b s Q

/-- A pass between its first read and its deferred patch: `m` was read, `s` is in memory. -/
structure Running (k : ObjectKey) (sc : Scope) (v : View) (m s : HarvesterMachine) : Prop where
  key : sc.key = k
  machine : v.machine = some m
  cluster : v.cluster = some (sc.cluster.infrastructureRef, sc.harvesterCluster)
  unpatched : v.patched = false
  deleting : s.deleting = m.deleting
  finalizers : s.finalizers = m.finalizers
  spec : ∃ providerID nodeAffinity,
    s.spec = { m.spec with providerID := providerID, nodeAffinity := nodeAffinity }
  records : v.Records k m s.status

def SameAllocation (m s : HarvesterMachine) : Prop :=
  s.status.allocatedIPAddress = m.status.allocatedIPAddress ∧
    s.status.allocatedPoolRef = m.status.allocatedPoolRef

section Rules

variable {ext : Externals} {k : ObjectKey} {sc : Scope} {v : View} {m s : HarvesterMachine}
  {α : Type}

-- One rule for each way a pass goes on: a call, a call through the Harvester client (which
-- may panic), a read and a write of the object in memory.

theorem obeys_call {r : Req} {f : Resp r → Pass α}
    {Q : View → Option α → HarvesterMachine → Prop} (hr : Guard ext k v r)
    (hf : ∀ x, Obeys ext k (v.next r x) (f x) s Q) : Obeys ext k v (call r >>= f) s Q :=
  .request_bind hr hf

theorem obeys_harvester {r : Req} {f : Resp r → Pass α}
    {Q : View → Option α → HarvesterMachine → Prop} (hr : Guard ext k v r)
    (hf : ∀ x, Obeys ext k (v.next r x) (f x) s Q) (hn : Q v none s) :
    Obeys ext k v (sc.harvester r >>= f) s Q := by
  unfold Scope.harvester
  split_ifs
  · exact ⟨hr, hf⟩
  · exact hn

theorem obeys_get {f : HarvesterMachine → Pass α}
    {Q : View → Option α → HarvesterMachine → Prop} (hf : Obeys ext k v (f s) s Q) :
    Obeys ext k v (Body.get >>= f) s Q := .get_bind hf

theorem obeys_modify {g : HarvesterMachine → HarvesterMachine} {f : Unit → Pass α}
    {Q : View → Option α → HarvesterMachine → Prop} (hf : Obeys ext k v (f ()) (g s) Q) :
    Obeys ext k v (Body.modify g >>= f) s Q := .modify_bind hf

theorem Running.of_view (h : Running k sc v m s) {v' : View} (hm : v'.machine = v.machine)
    (hc : v'.cluster = v.cluster) (hp : v'.pool = v.pool) (hu : v'.patched = v.patched) :
    Running k sc v' m s := by
  refine ⟨h.key, hm.trans h.machine, hc.trans h.cluster, hu.trans h.unpatched, h.deleting,
    h.finalizers, h.spec, ?_⟩
  simpa only [View.Records, View.Holds, hp] using h.records

/-- A write to the status that leaves the recorded address alone. -/
theorem Running.of_status (h : Running k sc v m s) {st : HarvesterMachineStatus}
    (hip : st.allocatedIPAddress = s.status.allocatedIPAddress)
    (href : st.allocatedPoolRef = s.status.allocatedPoolRef) :
    Running k sc v m { s with status := st } := by
  refine ⟨h.key, h.machine, h.cluster, h.unpatched, h.deleting, h.finalizers, h.spec, ?_⟩
  simpa only [View.Records, hip, href] using h.records

/-- A step that writes to the status, but not to the recorded address. -/
theorem obeys_status (h : Running k sc v m s)
    {f : HarvesterMachineStatus → HarvesterMachineStatus} {g : Unit → Pass α}
    {Q : View → Option α → HarvesterMachine → Prop}
    (hip : ∀ st, (f st).allocatedIPAddress = st.allocatedIPAddress)
    (href : ∀ st, (f st).allocatedPoolRef = st.allocatedPoolRef)
    (hg : ∀ s', Running k sc v m s' → (SameAllocation m s → SameAllocation m s') →
      Obeys ext k v (g ()) s' Q) :
    Obeys ext k v (modifyStatus f >>= g) s Q := by
  refine hg _ (h.of_status (hip s.status) (href s.status)) fun hs => ?_
  exact ⟨(hip s.status).trans hs.1, (href s.status).trans hs.2⟩

/-- While the recorded address is the one read, the pool seen last does not matter. -/
theorem Running.of_same (h : Running k sc v m s) (hs : SameAllocation m s) {v' : View}
    (hm : v'.machine = v.machine) (hc : v'.cluster = v.cluster) (hu : v'.patched = v.patched) :
    Running k sc v' m s :=
  ⟨h.key, hm.trans h.machine, hc.trans h.cluster, hu.trans h.unpatched, h.deleting, h.finalizers,
    h.spec, Or.inl hs⟩

theorem Running.same_of_deleting (h : Running k sc v m s) (hd : m.deleting = true) :
    SameAllocation m s := by
  rcases h.records with hs | ⟨hd', -⟩
  · exact hs
  · rw [hd] at hd'
    cases hd'

theorem Running.effectiveVMNetworkConfig (h : Running k sc v m s) (c : HarvesterCluster) :
    effectiveVMNetworkConfig s c = effectiveVMNetworkConfig m c := by
  obtain ⟨pid, na, hs⟩ := h.spec
  simp [Caphv.effectiveVMNetworkConfig, hs]

theorem Running.networks (h : Running k sc v m s) : s.spec.networks = m.spec.networks := by
  obtain ⟨pid, na, hs⟩ := h.spec
  rw [hs]

/-- The view and the object of a pass past the finalizer checks. -/
theorem Running.normal (h : Running k sc v m s) (hd : m.deleting = false)
    (hf : machineFinalizer ∈ m.finalizers) :
    v.Normal m sc.cluster.infrastructureRef sc.harvesterCluster :=
  ⟨h.machine, h.cluster, h.unpatched, hd, hf⟩

theorem Running.deletingView (h : Running k sc v m s) (hd : m.deleting = true) :
    v.Deleting m sc.cluster.infrastructureRef sc.harvesterCluster :=
  ⟨h.machine, h.cluster, h.unpatched, hd⟩

end Rules

section Addresses

variable {ext : Externals} {k : ObjectKey} {sc : Scope} {v : View} {m s : HarvesterMachine}

/-- The entry found in the allocation map is held by the machine. -/
theorem holder_of_existingAllocation {p : IPPool} {id ip : String}
    (h : existingAllocation p id = some ip) : p.status.holder ip = some id := by
  obtain ⟨e, he, rfl⟩ := Option.map_eq_some_iff.mp h
  have hid : e.2 = id := by simpa using List.find?_some he
  rw [← hid]
  exact AList.mem_lookup_iff.mpr (List.mem_of_find?_eq_some he)

theorem existingAllocation_eq_none {p : IPPool} {id : String}
    (h : existingAllocation p id = none) (ip : String) : p.status.holder ip ≠ some id := by
  intro hh
  have hnone := List.find?_eq_none.mp (Option.map_eq_none_iff.mp h)
  exact hnone ⟨ip, id⟩ (AList.mem_lookup_iff.mp hh) (by simp)

theorem Running.recordAllocation (h : Running k sc v m s) (hd : m.deleting = false)
    (hf : machineFinalizer ∈ m.finalizers) (hun : m.status.allocatedIPAddress = "")
    {n ip : String} (hh : v.Holds k n ip) :
    Running k sc v m { s with status :=
      { s.status with allocatedIPAddress := ip, allocatedPoolRef := n } } :=
  ⟨h.key, h.machine, h.cluster, h.unpatched, h.deleting, h.finalizers, h.spec,
    Or.inr ⟨hd, hf, hun, hh⟩⟩

theorem obeys_allocateFrom (hd : m.deleting = false) (hf : machineFinalizer ∈ m.finalizers)
    (hun : m.status.allocatedIPAddress = "") (all : List String) (refs : List String)
    (hrefs : ∀ n ∈ refs, n ∈ poolRefs m sc.harvesterCluster) (lastErr : Option String)
    (skipped : ℕ) (h : Running k sc v m s) (hs : SameAllocation m s) :
    Obeys ext k v (allocateFrom ext sc all refs lastErr skipped) s
      fun v' _ s' => Running k sc v' m s' := by
  induction refs generalizing v lastErr skipped with
  | nil =>
    unfold allocateFrom
    refine obeys_get ?_
    cases lastErr with
    | none =>
      dsimp only
      split_ifs
      · exact h
      · exact h
    | some e => exact h
  | cons n refs ih =>
    have hrest : ∀ n' ∈ refs, n' ∈ poolRefs m sc.harvesterCluster := fun n' hn' =>
      hrefs n' (List.mem_cons_of_mem _ hn')
    have hn := hrefs n List.mem_cons_self
    unfold allocateFrom
    refine obeys_harvester (Or.inl ⟨_, _, _, h.normal hd hf, hun, hn⟩) (fun got => ?_) h
    have h' : Running k sc (v.next (.getPool n) got) m s := by
      cases got <;> exact h.of_same hs rfl rfl rfl
    cases got with
    | error e => exact ih hrest _ _ h'
    | ok p =>
      dsimp only
      cases hex : existingAllocation p sc.key.id with
      | some ip =>
        have hh : (v.next (.getPool n) (.ok p)).Holds k n ip :=
          ⟨p, rfl, h.key ▸ holder_of_existingAllocation hex⟩
        exact h'.recordAllocation hd hf hun hh
      | none =>
        refine obeys_get ?_
        split_ifs with hnet
        · exact ih hrest _ _ h'
        · have hnet' : poolMatchesNetworks p m.spec.networks = true := by
            simpa [h.networks] using hnet
          cases hal : allocateVMIPFromPool ext.allocator p sc.key.id with
          | panic => exact h'
          | err e => exact ih hrest _ _ h'
          | ok out =>
            obtain ⟨ip, p'⟩ := out
            rw [h.key] at hal hex
            have hguard : Allocates ext k (v.next (.getPool n) (.ok p)) n p' m _ _ p ip :=
              ⟨h'.normal hd hf, hun, hn, rfl, hex, hnet', hal⟩
            refine obeys_harvester (Or.inl ⟨_, _, _, _, _, hguard⟩) (fun updated => ?_) h'
            cases updated with
            | error e => exact h'.of_same hs rfl rfl rfl
            | ok u =>
              have hh : ((v.next (.getPool n) (.ok p)).next (.updatePool n p') (.ok u)).Holds
                  k n ip := by
                obtain ⟨-, -, -, hholder⟩ := allocateVMIPFromPool_ok hal
                exact ⟨_, rfl, (p'.holder_stored ip).trans ((hholder ip).trans (if_pos rfl))⟩
              have h'' : Running k sc
                  ((v.next (.getPool n) (.ok p)).next (.updatePool n p') (.ok u)) m s :=
                h'.of_same hs rfl rfl rfl
              exact h''.recordAllocation hd hf hun hh

theorem View.Released.of_view {v' : View} {c : HarvesterCluster} (h : v.Released m c)
    (hp : v'.pool = v.pool) (hf : v'.poolFailed = v.poolFailed) : v'.Released m c := by
  simpa only [View.Released, hp, hf] using h

/-- `releaseVMIP` only touches the pool that the machine's status names. -/
theorem obeys_releaseVMIP (hd : m.deleting = true) (h : Running k sc v m s) :
    Obeys ext k v (releaseVMIP sc) s fun v' out s' =>
      s' = s ∧ Running k sc v' m s ∧ (out ≠ none → v'.Released m sc.harvesterCluster) := by
  have hs := h.same_of_deleting hd
  have href : releasePoolRef s sc.harvesterCluster = releasePoolRef m sc.harvesterCluster := by
    simp only [releasePoolRef, hs.2, h.effectiveVMNetworkConfig]
  unfold releaseVMIP
  refine obeys_get ?_
  dsimp only
  split_ifs with hskip
  · rw [hs.1, href] at hskip
    exact ⟨rfl, h, fun _ => hskip.imp id Or.inl⟩
  · push Not at hskip
    have hip : m.status.allocatedIPAddress ≠ "" := hs.1 ▸ hskip.1
    refine obeys_harvester (Or.inr ⟨_, _, _, h.deletingView hd, hip, href⟩) (fun got => ?_)
      ⟨rfl, h, by simp⟩
    have h' : Running k sc (v.next (.getPool (releasePoolRef s sc.harvesterCluster)) got) m s := by
      cases got <;> exact h.of_same hs rfl rfl rfl
    cases got with
    | error e => exact ⟨rfl, h', fun _ => Or.inr (Or.inr (Or.inl rfl))⟩
    | ok p =>
      dsimp only
      cases hparse : Net.parseIP s.status.allocatedIPAddress with
      | none =>
        rw [hs.1] at hparse
        refine ⟨rfl, h', fun _ => Or.inr (Or.inr (Or.inr fun ip hip => ?_))⟩
        rw [hparse] at hip
        cases hip
      | some ip =>
        rw [hs.1] at hparse
        refine obeys_harvester
          (Or.inr ⟨m, _, _, p, ip, h'.deletingView hd, href, rfl, hparse, rfl⟩)
          (fun updated => ?_) ⟨rfl, h', by simp⟩
        cases updated with
        | error e =>
          exact ⟨rfl, h'.of_same hs rfl rfl rfl, fun _ => Or.inr (Or.inr (Or.inl rfl))⟩
        | ok u =>
          refine ⟨rfl, h'.of_same hs rfl rfl rfl,
            fun _ => Or.inr (Or.inr (Or.inr fun ip' hip' => ?_))⟩
          rw [hparse] at hip'
          cases hip'
          refine ⟨_, by rw [← href]; rfl, ?_⟩
          refine (IPPool.holder_stored _ _).trans ?_
          exact (holder_release p.status (some ip) ip.string).trans (if_pos rfl)

theorem obeys_allocateVMIP (hd : m.deleting = false) (hf : machineFinalizer ∈ m.finalizers)
    (h : Running k sc v m s) (hs : SameAllocation m s) :
    Obeys ext k v (allocateVMIP ext sc) s fun v' _ s' => Running k sc v' m s' := by
  unfold allocateVMIP
  refine obeys_get ?_
  split_ifs with hip
  · exact h
  · push Not at hip
    cases hcfg : effectiveVMNetworkConfig s sc.harvesterCluster with
    | none => exact h
    | some cfg =>
      dsimp only
      split_ifs
      · exact h
      · have hrefs : poolRefs m sc.harvesterCluster = cfg.getIPPoolRefs := by
          simp [poolRefs, ← h.effectiveVMNetworkConfig, hcfg]
        exact obeys_allocateFrom hd hf (hs.1 ▸ hip) _ _ (fun n hn => hrefs ▸ hn) _ _ h hs

end Addresses

section Creation

variable {ext : Externals} {k : ObjectKey} {sc : Scope} {v : View} {m s : HarvesterMachine}

theorem obeys_getImageByName (h : Running k sc v m s) (imageName ns : String) :
    Obeys ext k v (getImageByName sc imageName ns) s fun v' _ s' =>
      s' = s ∧ Running k sc v' m s := by
  unfold getImageByName
  cases getNamespacedName imageName ns with
  | error e => exact ⟨rfl, h⟩
  | ok ref =>
    refine obeys_harvester trivial (fun got => ?_) ⟨rfl, h⟩
    cases got with
    | error e => exact ⟨rfl, h⟩
    | ok images => exact ⟨rfl, h⟩

theorem obeys_buildPVCForVolume (h : Running k sc v m s) (vol : Volume) (name ns : String) :
    Obeys ext k v (buildPVCForVolume sc vol name ns) s fun v' out s' =>
      s' = s ∧ Running k sc v' m s ∧ ∀ d, out = some (.ok d) → d.name = name ∧ d.ns = ns := by
  unfold buildPVCForVolume
  cases vol.volumeSize with
  | none => exact ⟨rfl, h, nofun⟩
  | some size =>
    cases vol.volumeType with
    | storageClass =>
      refine ⟨rfl, h, fun d hd => ?_⟩
      cases hd
      exact ⟨rfl, rfl⟩
    | image =>
      refine (obeys_getImageByName h vol.imageName ns).bind ?_ fun _ _ h => ⟨h.1, h.2, nofun⟩
      rintro v' (e | image) s' ⟨rfl, h'⟩
      · exact ⟨rfl, h', nofun⟩
      · refine ⟨rfl, h', fun d hd => ?_⟩
        cases hd
        exact ⟨rfl, rfl⟩

/-- Every disk that the loop over the volumes builds is one of the machine. -/
theorem obeys_buildPVCs (h : Running k sc v m s) (i : ℕ) (vols : List Volume) :
    Obeys ext k v (buildPVCs sc sc.key.name sc.harvesterCluster.spec.targetNamespace i vols) s
      fun v' out s' => s' = s ∧ Running k sc v' m s ∧
        ∀ ds, out = some (.ok ds) → ∀ d ∈ ds, IsDiskOf k sc.harvesterCluster d := by
  induction vols generalizing v i with
  | nil =>
    refine ⟨rfl, h, fun ds hds => ?_⟩
    cases hds
    simp
  | cons vol vols ih =>
    unfold buildPVCs
    refine obeys_call trivial fun randomID => ?_
    have h₁ : Running k sc (v.next .randomID randomID) m s := h
    refine (obeys_buildPVCForVolume h₁ vol _ _).bind ?_ fun _ _ h => ⟨h.1, h.2.1, nofun⟩
    rintro v₂ (e | pvc) s₂ ⟨rfl, h₂, hpvc⟩
    · exact ⟨rfl, h₂, nofun⟩
    obtain ⟨hname, hns⟩ := hpvc pvc rfl
    refine (ih h₂ (i + 1)).bind ?_ fun _ _ h => ⟨h.1, h.2.1, nofun⟩
    rintro v₃ (e | pvcs) s₃ ⟨rfl, h₃, hpvcs⟩
    · exact ⟨rfl, h₃, nofun⟩
    · refine ⟨rfl, h₃, fun ds hds d hd => ?_⟩
      cases hds
      rcases List.mem_cons.mp hd with rfl | hd
      · exact ⟨hns, i, randomID, h.key ▸ hname⟩
      · exact hpvcs pvcs rfl d hd

theorem obeys_getCloudInitData (h : Running k sc v m s) (dataSecretName : String) :
    Obeys ext k v (getCloudInitData sc dataSecretName) s fun v' _ s' =>
      s' = s ∧ Running k sc v' m s := by
  unfold getCloudInitData
  refine obeys_call trivial fun got => ?_
  rcases got with e | (- | userData)
  · exact ⟨rfl, h⟩
  · exact ⟨rfl, h⟩
  · exact ⟨rfl, h⟩

theorem obeys_ensureCloudInitSecret (hd : m.deleting = false)
    (hf : machineFinalizer ∈ m.finalizers) (h : Running k sc v m s) (data : CloudInitSecret) :
    Obeys ext k v (ensureCloudInitSecret sc
      ⟨sc.harvesterCluster.spec.targetNamespace, cloudInitSecretName sc.key.name⟩ data) s
      fun v' _ s' => s' = s ∧ Running k sc v' m s := by
  have hname : (⟨sc.harvesterCluster.spec.targetNamespace, cloudInitSecretName sc.key.name⟩ :
      NamespacedName) = secretName k sc.harvesterCluster := by rw [secretName, h.key]
  unfold ensureCloudInitSecret
  refine obeys_harvester trivial (fun got => ?_) ⟨rfl, h⟩
  cases got with
  | error e =>
    dsimp only
    split_ifs
    · refine obeys_harvester ⟨_, _, _, h.normal hd hf, hname⟩ (fun created => ?_) ⟨rfl, h⟩
      cases created with
      | error e => exact ⟨rfl, h⟩
      | ok u => exact ⟨rfl, h⟩
    · exact ⟨rfl, h⟩
  | ok old =>
    refine obeys_harvester ⟨_, _, _, h.normal hd hf, hname⟩ (fun updated => ?_) ⟨rfl, h⟩
    cases updated with
    | error e => exact ⟨rfl, h⟩
    | ok u => exact ⟨rfl, h⟩

theorem Running.of_buildAffinity (h : Running k sc v m s) (c : HarvesterCluster) :
    Running k sc v m (buildAffinity sc.key.name sc.machine c s).2 := by
  obtain ⟨pid, _, hs⟩ := h.spec
  exact ⟨h.key, h.machine, h.cluster, h.unpatched, h.deleting, h.finalizers,
    ⟨pid, _, by rw [buildAffinity, hs]⟩, h.records⟩

theorem obeys_buildVMTemplate (hd : m.deleting = false) (hf : machineFinalizer ∈ m.finalizers)
    (h : Running k sc v m s) (dataSecretName : String) (netCfg : Option NetworkConfig) :
    Obeys ext k v (buildVMTemplate ext sc dataSecretName netCfg) s fun v' _ s' =>
      s'.status = s.status ∧ Running k sc v' m s' := by
  unfold buildVMTemplate
  refine obeys_get ?_
  cases getNamespacedName s.spec.sshKeyPair sc.harvesterCluster.spec.targetNamespace with
  | error e => exact ⟨rfl, h⟩
  | ok keyPair =>
    refine obeys_harvester trivial (fun got => ?_) ⟨rfl, h⟩
    cases got with
    | error e =>
      dsimp only
      split_ifs
      · exact ⟨rfl, h⟩
      · exact ⟨rfl, h⟩
    | ok publicKey =>
      have h₁ : Running k sc (v.next (.getKeyPair keyPair) (.ok publicKey)) m s := h
      refine (obeys_getCloudInitData h₁ dataSecretName).bind ?_
        fun _ _ h => ⟨congrArg _ h.1, h.1 ▸ h.2⟩
      rintro v₂ (e | userData) s₂ ⟨rfl, h₂⟩
      · exact ⟨rfl, h₂⟩
      dsimp only
      cases cloudInitSecret ext sc s₂ netCfg publicKey userData with
      | error e => exact ⟨rfl, h₂⟩
      | ok secret =>
        refine (obeys_ensureCloudInitSecret hd hf h₂ secret).bind ?_
          fun _ _ h => ⟨congrArg _ h.1, h.1 ▸ h.2⟩
        rintro v₃ (e | u) s₃ ⟨rfl, h₃⟩
        · exact ⟨rfl, h₃⟩
        refine obeys_modify ?_
        have h₄ := h₃.of_buildAffinity sc.harvesterCluster
        split_ifs
        · exact ⟨rfl, h₄⟩
        · exact ⟨rfl, h₄⟩

theorem obeys_createVMFromHarvesterMachine (hd : m.deleting = false)
    (hf : machineFinalizer ∈ m.finalizers) (h : Running k sc v m s) (dataSecretName : String)
    (netCfg : Option NetworkConfig) :
    Obeys ext k v (createVMFromHarvesterMachine ext sc dataSecretName netCfg) s fun v' _ s' =>
      Running k sc v' m s' := by
  unfold createVMFromHarvesterMachine
  refine obeys_get ?_
  refine (obeys_buildPVCs h 0 s.spec.volumes).bind ?_ fun _ _ h => h.1 ▸ h.2.1
  rintro v₁ (e | disks) s₁ ⟨rfl, h₁, hdisks⟩
  · exact h₁
  refine (obeys_buildVMTemplate hd hf h₁ dataSecretName netCfg).bind ?_ fun _ _ h => h.2
  rintro v₂ (e | u) s₂ ⟨hst, h₂⟩
  · exact h₂
  refine obeys_harvester ⟨m, _, _, h₂.normal hd hf, ?_, hdisks disks rfl, hst ▸ h₂.records⟩
    (fun created => ?_) h₂
  · rw [vmName, h.key]
  · cases created with
    | error e => exact h₂
    | ok u => exact h₂

end Creation

section Normal

variable {ext : Externals} {k : ObjectKey} {sc : Scope} {v : View} {m s : HarvesterMachine}

theorem Running.of_providerID (h : Running k sc v m s) (providerID : String) :
    Running k sc v m { s with spec := { s.spec with providerID := providerID } } := by
  obtain ⟨pid, na, hs⟩ := h.spec
  exact ⟨h.key, h.machine, h.cluster, h.unpatched, h.deleting, h.finalizers,
    ⟨providerID, na, by rw [hs]⟩, h.records⟩

theorem obeys_resolveNetworkConfig (hd : m.deleting = false)
    (hf : machineFinalizer ∈ m.finalizers) (h : Running k sc v m s) (hs : SameAllocation m s) :
    Obeys ext k v (resolveNetworkConfig ext sc) s fun v' _ s' => Running k sc v' m s' := by
  unfold resolveNetworkConfig
  refine obeys_get ?_
  split
  · refine (obeys_allocateVMIP hd hf h hs).bind ?_ fun _ _ h => h
    rintro v' (e | u) s' h'
    · exact obeys_status h' (fun _ => rfl) (fun _ => rfl) fun _ h'' _ => h''
    · exact obeys_get (obeys_status h' (fun _ => rfl) (fun _ => rfl) fun _ h'' _ => h'')
  · exact h

theorem obeys_reconcileExistingVM (h : Running k sc v m s) (n : NamespacedName) (vm : VM) :
    Obeys ext k v (reconcileExistingVM sc n vm) s fun v' _ s' => Running k sc v' m s' := by
  unfold reconcileExistingVM
  refine obeys_status h (fun _ => rfl) (fun _ => rfl) fun s₁ h₁ _ => ?_
  split_ifs
  · exact obeys_status h₁ (fun _ => rfl) (fun _ => rfl) fun _ h _ => h
  refine obeys_harvester trivial (fun got => ?_) h₁
  cases got with
  | error e => exact obeys_status h₁ (fun _ => rfl) (fun _ => rfl) fun _ h _ => h
  | ok interfaces =>
    refine obeys_status h₁ (fun _ => rfl) (fun _ => rfl) fun s₂ h₂ _ => obeys_get ?_
    split_ifs
    · exact obeys_status h₂ (fun _ => rfl) (fun _ => rfl) fun _ h _ => h
    · refine obeys_status h₂ (fun _ => rfl) (fun _ => rfl) fun _ h _ => ?_
      exact obeys_status h (fun _ => rfl) (fun _ => rfl) fun _ h _ => h
    · refine obeys_call trivial fun node => ?_
      split_ifs
      · refine obeys_modify ?_
        exact obeys_status (h₂.of_providerID _) (fun _ => rfl) (fun _ => rfl) fun _ h _ => h
      · exact h₂
    · refine obeys_status h₂ (fun _ => rfl) (fun _ => rfl) fun _ h _ => ?_
      exact obeys_status h (fun _ => rfl) (fun _ => rfl) fun _ h _ => h

theorem obeys_patchInitMachineCreated (hd : m.deleting = false)
    (hf : machineFinalizer ∈ m.finalizers) (h : Running k sc v m s) :
    Obeys ext k v (patchInitMachineCreated sc) s fun v' _ s' => Running k sc v' m s' := by
  unfold patchInitMachineCreated
  dsimp only
  split_ifs with hc
  · exact h
  · exact obeys_call ⟨m, _, h.normal hd hf, by simpa using hc, rfl⟩ fun _ => h

theorem obeys_reconcileNewVM (hd : m.deleting = false) (hf : machineFinalizer ∈ m.finalizers)
    (h : Running k sc v m s) (dataSecretName : String) (netCfg : Option NetworkConfig) :
    Obeys ext k v (reconcileNewVM ext sc dataSecretName netCfg) s fun v' _ s' =>
      Running k sc v' m s' := by
  unfold reconcileNewVM
  refine obeys_status h (fun _ => rfl) (fun _ => rfl) fun s₁ h₁ _ => ?_
  refine obeys_status h₁ (fun _ => rfl) (fun _ => rfl) fun s₂ h₂ _ => ?_
  refine (obeys_createVMFromHarvesterMachine hd hf h₂ dataSecretName netCfg).bind ?_
    fun _ _ h => h
  rintro v' (e | u) s' h'
  · exact obeys_status h' (fun _ => rfl) (fun _ => rfl) fun _ h _ => h
  · refine obeys_status h' (fun _ => rfl) (fun _ => rfl) fun s₃ h₃ _ => ?_
    refine obeys_status h₃ (fun _ => rfl) (fun _ => rfl) fun s₄ h₄ _ => ?_
    exact (obeys_patchInitMachineCreated hd hf h₄).bind (fun _ _ _ h => h) fun _ _ h => h

theorem obeys_reconcileCreation (hd : m.deleting = false) (hf : machineFinalizer ∈ m.finalizers)
    (h : Running k sc v m s) (dataSecretName : String) (netCfg : Option NetworkConfig)
    (vmExists : Bool) :
    Obeys ext k v (reconcileCreation ext sc dataSecretName netCfg vmExists) s fun v' _ s' =>
      Running k sc v' m s' := by
  unfold reconcileCreation
  refine obeys_get ?_
  split_ifs
  · exact obeys_reconcileNewVM hd hf h dataSecretName netCfg
  · refine obeys_status h (fun _ => rfl) (fun _ => rfl) fun _ h _ => ?_
    exact obeys_status h (fun _ => rfl) (fun _ => rfl) fun _ h _ => h
  · exact h

theorem obeys_initializeWorkloadNode (h : Running k sc v m s) :
    Obeys ext k v (initializeWorkloadNode sc) s fun v' _ s' => Running k sc v' m s' := by
  unfold initializeWorkloadNode
  refine obeys_get ?_
  split_ifs
  · exact h
  · refine obeys_call trivial fun cfg => ?_
    cases cfg with
    | error e => exact h
    | ok u => exact ⟨trivial, fun _ => h⟩

theorem obeys_finishNormal (h : Running k sc v m s) :
    Obeys ext k v (finishNormal sc) s fun v' _ s' => Running k sc v' m s' := by
  unfold finishNormal
  refine obeys_status h (fun _ => rfl) (fun _ => rfl) fun s₁ h₁ _ => ?_
  refine (obeys_initializeWorkloadNode h₁).bind (fun v' b s' h' => ?_) fun _ _ h => h
  split_ifs
  · exact h'
  · exact h'

theorem obeys_orElse {branch : Pass (Option Outcome)} {rest : Pass Outcome}
    (hb : Obeys ext k v branch s fun v' _ s' => Running k sc v' m s')
    (hr : ∀ v' s', Running k sc v' m s' →
      Obeys ext k v' rest s' fun v' _ s' => Running k sc v' m s') :
    Obeys ext k v (orElse branch rest) s fun v' _ s' => Running k sc v' m s' := by
  unfold orElse
  refine hb.bind (fun v' out s' h' => ?_) fun _ _ h => h
  cases out with
  | some out => exact h'
  | none => exact hr v' s' h'

theorem obeys_reconcileInfrastructure (hd : m.deleting = false)
    (hf : machineFinalizer ∈ m.finalizers) (h : Running k sc v m s) (hs : SameAllocation m s)
    (dataSecretName : String) :
    Obeys ext k v (reconcileInfrastructure ext sc dataSecretName) s fun v' _ s' =>
      Running k sc v' m s' := by
  have hcreate : ∀ netCfg vmExists v' s', Running k sc v' m s' → Obeys ext k v'
      (orElse (reconcileCreation ext sc dataSecretName netCfg vmExists) (finishNormal sc)) s'
      fun v' _ s' => Running k sc v' m s' := fun netCfg vmExists v' s' h' =>
    obeys_orElse (obeys_reconcileCreation hd hf h' dataSecretName netCfg vmExists)
      fun _ _ h => obeys_finishNormal h
  unfold reconcileInfrastructure
  refine obeys_modify ?_
  have h₀ : Running k sc v m { s with status :=
      { s.status with failureDomain := effectiveFailureDomain sc.machine s } } :=
    h.of_status rfl rfl
  refine (obeys_resolveNetworkConfig hd hf h₀ hs).bind ?_ fun _ _ h => h
  rintro v₁ (e | netCfg) s₁ h₁
  · exact h₁
  refine obeys_harvester ⟨_, _, h₁.cluster, by rw [vmName, h₁.key]⟩ (fun got => ?_) h₁
  cases got with
  | error e =>
    have h₂ : Running k sc (v₁.next (.getVM ⟨sc.harvesterCluster.spec.targetNamespace,
        sc.key.name⟩) (.error e)) m s₁ := h₁.of_view rfl rfl rfl rfl
    dsimp only
    split_ifs
    · exact hcreate _ _ _ _ h₂
    · exact obeys_status h₂ (fun _ => rfl) (fun _ => rfl) fun _ h _ => h
  | ok vm =>
    have h₂ : Running k sc (v₁.next (.getVM ⟨sc.harvesterCluster.spec.targetNamespace,
        sc.key.name⟩) (.ok vm)) m s₁ := h₁.of_view rfl rfl rfl rfl
    exact obeys_orElse (obeys_reconcileExistingVM h₂ _ vm) fun v' s' h' => hcreate _ _ v' s' h'

structure Ended (k : ObjectKey) (v : View) (m s : HarvesterMachine) : Prop where
  machine : v.machine = some m
  unpatched : v.patched = false
  finalizers : ∃ ck c, v.FinalizerStep k m ck c s.finalizers
  records : v.Records k m s.status

theorem Running.ended (h : Running k sc v m s) : Ended k v m s :=
  ⟨h.machine, h.unpatched, ⟨sc.key, sc.harvesterCluster, by rw [h.finalizers]; exact .keep⟩,
    h.records⟩

theorem obeys_reconcileNormal (hd : m.deleting = false) (h : Running k sc v m s)
    (hs : SameAllocation m s) :
    Obeys ext k v (reconcileNormal ext sc) s fun v' _ s' => Ended k v' m s' := by
  have hds : s.deleting = false := h.deleting.trans hd
  unfold reconcileNormal
  refine obeys_get ?_
  by_cases hnew : machineFinalizer ∈ m.finalizers
  · simp only [h.finalizers, hnew, not_true_eq_false, false_and, and_false, if_false]
    split_ifs
    · refine obeys_status h (fun _ => rfl) (fun _ => rfl) fun _ h _ => ?_
      exact obeys_status h (fun _ => rfl) (fun _ => rfl) fun _ h _ => h.ended
    · refine obeys_status h (fun _ => rfl) (fun _ => rfl) fun s₁ h₁ hs₁ => ?_
      cases sc.machine.dataSecretName with
      | none => exact obeys_status h₁ (fun _ => rfl) (fun _ => rfl) fun _ h _ => h.ended
      | some dataSecretName =>
        exact Body.Conforms.mono
          (obeys_reconcileInfrastructure hd hnew h₁ (hs₁ hs) dataSecretName)
          fun _ _ _ h => Running.ended h
  · by_cases hleg : machineFinalizerLegacy ∈ m.finalizers
    · have hstep : v.FinalizerStep k m sc.key sc.harvesterCluster
          (migrateFinalizer s.finalizers) := by
        rw [h.finalizers]
        exact .migrate hd hleg hnew
      simp only [h.finalizers, hnew, hleg, hds, not_false_eq_true, Bool.not_false, and_self,
        if_true]
      exact ⟨h.machine, h.unpatched, ⟨_, _, hstep⟩, h.records⟩
    · have hstep : v.FinalizerStep k m sc.key sc.harvesterCluster
          (addFinalizer s.finalizers machineFinalizer) := by
        rw [h.finalizers]
        exact .add hd hleg hnew
      simp only [h.finalizers, hnew, hleg, hds, not_false_eq_true, Bool.not_false, and_self,
        false_and, if_true, if_false]
      exact ⟨h.machine, h.unpatched, ⟨_, _, hstep⟩, (h.of_status rfl rfl).records⟩

end Normal

section Delete

variable {ext : Externals} {k : ObjectKey} {sc : Scope} {v : View} {m s : HarvesterMachine}

theorem obeys_removeEtcdMember :
    Obeys ext k v (removeEtcdMemberIfControlPlane sc) s fun v' _ s' => s' = s ∧ v' = v := by
  unfold removeEtcdMemberIfControlPlane
  refine obeys_get ?_
  split_ifs
  · exact ⟨rfl, rfl⟩
  · refine obeys_call trivial fun cfg => ?_
    cases cfg with
    | error e => exact ⟨rfl, rfl⟩
    | ok u => exact ⟨trivial, fun _ => ⟨rfl, rfl⟩⟩

/-- The deletes of the loop only add to the claims that were tried. -/
theorem obeys_deletePVCs (hd : m.deleting = true) (names : List String)
    (h : Running k sc v m s) (hvm : v.vmAbsent = true) :
    Obeys ext k v (deletePVCs sc sc.harvesterCluster.spec.targetNamespace
      (diskPrefix sc.key.name) names) s fun v' out s' =>
        s' = s ∧ ∃ tried, v' = { v with attempted := tried } ∧ v.attempted ⊆ tried ∧
          (out ≠ none → ∀ name ∈ names,
            (diskPrefix k.name).toList.isPrefixOf name.toList → name ∈ tried) := by
  induction names generalizing v with
  | nil => exact ⟨rfl, v.attempted, rfl, List.Subset.refl _, by simp⟩
  | cons name names ih =>
    unfold deletePVCs
    rw [h.key] at ih ⊢
    split_ifs with hpre
    · refine Body.Conforms.mono (ih h hvm) ?_
      rintro v' out s' ⟨hs, tried, hv', hsub, hall⟩
      refine ⟨hs, tried, hv', hsub, fun hout n hn hp => ?_⟩
      rcases List.mem_cons.mp hn with rfl | hn
      · simp [hp] at hpre
      · exact hall hout n hn hp
    · have hpre' : (diskPrefix k.name).toList.isPrefixOf name.toList = true := by simpa using hpre
      refine obeys_harvester ⟨_, _, _, h.deletingView hd, hvm, rfl, hpre'⟩ (fun x => ?_)
        ⟨rfl, v.attempted, rfl, List.Subset.refl _, by simp⟩
      have h₁ : Running k sc (v.next (.deletePVC
          ⟨sc.harvesterCluster.spec.targetNamespace, name⟩) x) m s := h.of_view rfl rfl rfl rfl
      refine Body.Conforms.mono (ih h₁ hvm) ?_
      rintro v' out s' ⟨hs, tried, hv', hsub, hall⟩
      refine ⟨hs, tried, hv', fun n hn => hsub (List.mem_cons_of_mem _ hn),
        fun hout n hn hp => ?_⟩
      rcases List.mem_cons.mp hn with rfl | hn
      · exact hsub List.mem_cons_self
      · exact hall hout n hn hp

theorem obeys_deletePVCsByPrefix (hd : m.deleting = true) (h : Running k sc v m s)
    (hvm : v.vmAbsent = true) :
    Obeys ext k v (deletePVCsByPrefix sc sc.harvesterCluster.spec.targetNamespace
      (diskPrefix sc.key.name)) s fun v' out s' =>
        s' = s ∧ ∃ listed tried, v' = { v with listed := listed, attempted := tried } ∧
          (out ≠ none → v'.Swept k) := by
  unfold deletePVCsByPrefix
  refine obeys_harvester ⟨_, _, _, h.deletingView hd, hvm, rfl⟩ (fun listed => ?_)
    ⟨rfl, v.listed, v.attempted, rfl, by simp⟩
  have h₁ : Running k sc (v.next (.listPVCs sc.harvesterCluster.spec.targetNamespace) listed)
      m s := h.of_view rfl rfl rfl rfl
  cases listed with
  | error e => exact ⟨rfl, _, _, rfl, fun _ => ⟨_, rfl, nofun⟩⟩
  | ok names =>
    refine Body.Conforms.mono (obeys_deletePVCs hd names h₁ hvm) ?_
    rintro v' out s' ⟨hs, tried, rfl, -, hall⟩
    refine ⟨hs, some (.ok names), tried, rfl, fun hout => ⟨_, rfl, fun names' hn => ?_⟩⟩
    cases hn
    exact hall hout

theorem obeys_deleteVMAndDisks (hd : m.deleting = true) (h : Running k sc v m s)
    (hrel : v.Released m sc.harvesterCluster) (hsec : v.secretAbsent = true) :
    Obeys ext k v (deleteVMAndDisks sc) s fun v' _ s' => Ended k v' m s' := by
  have hname : (⟨sc.harvesterCluster.spec.targetNamespace, sc.key.name⟩ : NamespacedName) =
      vmName k sc.harvesterCluster := by rw [vmName, h.key]
  unfold deleteVMAndDisks
  refine obeys_harvester ⟨_, _, h.cluster, hname⟩ (fun got => ?_) h.ended
  cases got with
  | error e =>
    have h₁ : Running k sc (v.next (.getVM ⟨sc.harvesterCluster.spec.targetNamespace,
        sc.key.name⟩) (.error e)) m s := h.of_view rfl rfl rfl rfl
    dsimp only
    split_ifs with hnf
    · refine (obeys_deletePVCsByPrefix hd h₁ hnf).bind ?_ ?_
      · rintro v₂ _ s₂ ⟨rfl, listed, tried, hv₂, hswept⟩
        have h₂ : Running k sc v₂ m s₂ := hv₂ ▸ h₁.of_view rfl rfl rfl rfl
        have hstep : v₂.FinalizerStep k m sc.cluster.infrastructureRef sc.harvesterCluster
            (dropFinalizers s₂.finalizers) := by
          rw [h₂.finalizers]
          refine .drop (h₂.deletingView hd) ?_ ?_ ?_ (hswept (by simp))
          · exact hv₂ ▸ hrel.of_view rfl rfl
          · exact hv₂ ▸ hnf
          · exact hv₂ ▸ hsec
        unfold removeMachineFinalizers
        refine obeys_get (obeys_modify ?_)
        split_ifs
        · exact ⟨h₂.machine, h₂.unpatched, ⟨_, _, hstep⟩, h₂.records⟩
        · exact ⟨h₂.machine, h₂.unpatched, ⟨_, _, hstep⟩, h₂.records⟩
      · rintro v₂ s₂ ⟨rfl, listed, tried, hv₂, -⟩
        have h₂ : Running k sc v₂ m s₂ := hv₂ ▸ h₁.of_view rfl rfl rfl rfl
        exact h₂.ended
    · exact h₁.ended
  | ok vm =>
    have h₁ : Running k sc (v.next (.getVM ⟨sc.harvesterCluster.spec.targetNamespace,
        sc.key.name⟩) (.ok vm)) m s := h.of_view rfl rfl rfl rfl
    refine obeys_harvester ⟨_, _, _, h₁.deletingView hd, hname⟩ (fun deleted => ?_) h₁.ended
    cases deleted with
    | error e =>
      dsimp only
      split_ifs
      · exact h₁.ended
      · exact h₁.ended
    | ok u => exact h₁.ended

theorem obeys_reconcileDelete (hd : m.deleting = true) (h : Running k sc v m s) :
    Obeys ext k v (reconcileDelete sc) s fun v' _ s' => Ended k v' m s' := by
  unfold reconcileDelete
  refine (obeys_releaseVMIP hd h).bind ?_ fun _ _ h => h.1 ▸ h.2.1.ended
  rintro v₁ _ s₁ ⟨rfl, h₁, hrel⟩
  refine obeys_removeEtcdMember.bind ?_ fun _ _ h => h.1 ▸ h.2 ▸ h₁.ended
  rintro v₂ - s₂ ⟨rfl, rfl⟩
  refine obeys_harvester ⟨_, _, _, h₁.deletingView hd, by rw [secretName, h.key]⟩
    (fun deleted => ?_) h₁.ended
  have h₃ : Running k sc (v₂.next (.deleteSecret ⟨sc.harvesterCluster.spec.targetNamespace,
      cloudInitSecretName sc.key.name⟩) deleted) m s₂ := h₁.of_view rfl rfl rfl rfl
  have hrel₃ : (v₂.next (.deleteSecret ⟨sc.harvesterCluster.spec.targetNamespace,
      cloudInitSecretName sc.key.name⟩) deleted).Released m sc.harvesterCluster :=
    (hrel (by simp)).of_view rfl rfl
  cases deleted with
  | error e =>
    dsimp only
    split_ifs with hnf
    · exact obeys_deleteVMAndDisks hd h₃ hrel₃ hnf
    · exact h₃.ended
  | ok u => exact obeys_deleteVMAndDisks hd h₃ hrel₃ rfl

end Delete

section Reconcile

variable {ext : Externals} {k : ObjectKey} {v : View} {m s : HarvesterMachine}

theorem obeys_reconcileBody (hm : v.machine = some m) (hu : v.patched = false) :
    Obeys ext k v (reconcileBody ext k) m fun v' _ s' => Ended k v' m s' := by
  have hkeep : ∀ v' : View, v'.machine = some m → v'.patched = false → Ended k v' m m :=
    fun v' hm' hu' => ⟨hm', hu', ⟨k, default, .keep⟩, Or.inl ⟨rfl, rfl⟩⟩
  unfold reconcileBody
  refine obeys_call trivial fun owner => ?_
  rcases owner with e | (- | owner)
  · exact hkeep _ hm hu
  · exact hkeep _ hm hu
  refine obeys_call trivial fun cluster => ?_
  rcases cluster with e | (- | cluster)
  · exact hkeep _ hm hu
  · exact hkeep _ hm hu
  refine obeys_get (obeys_call trivial fun paused => ?_)
  split_ifs
  · unfold recordPaused
    cases paused.condition with
    | none => exact hkeep _ hm hu
    | some p => exact ⟨hm, hu, ⟨k, default, .keep⟩, Or.inl ⟨rfl, rfl⟩⟩
  have hread : v.machine ≠ none := by simp [hm]
  refine obeys_call (r := .getHarvesterCluster _) hread fun got => ?_
  rcases got with e | c
  · exact hkeep _ hm hu
  refine obeys_call trivial fun secret => ?_
  rcases secret with e | usable
  · exact hkeep _ hm hu
  refine obeys_get ?_
  have h : ∀ v' : View, v'.machine = some m → v'.cluster = some (cluster.infrastructureRef, c) →
      v'.patched = false → Running k ⟨k, cluster, owner, c, usable⟩ v' m m :=
    fun v' hm' hc' hu' => ⟨rfl, hm', hc', hu', rfl, rfl, ⟨_, _, rfl⟩, Or.inl ⟨rfl, rfl⟩⟩
  dsimp only
  split_ifs with hd
  · exact obeys_reconcileDelete hd (h _ hm rfl hu)
  · exact obeys_reconcileNormal (by simpa using hd) (h _ hm rfl hu) ⟨rfl, rfl⟩

theorem conforms_deferredPatch (h : Ended k v m s) :
    Prog.Conforms (Guard ext k) View.next v (deferredPatch m s) fun _ _ => True := by
  obtain ⟨hm, hu, ⟨ck, c, hfin⟩, hrec⟩ := h
  have hcond : Prog.Conforms (Guard ext k) View.next v (sendConditions m s) fun v' _ => v' = v := by
    unfold sendConditions
    split_ifs
    · rfl
    · exact ⟨⟨m, hm, rfl⟩, fun _ => rfl⟩
  have hobj : Prog.Conforms (Guard ext k) View.next v (sendObject m s) fun v' _ =>
      v' = v ∨ v' = { v with patched := true } := by
    unfold sendObject
    split_ifs
    · exact Or.inl rfl
    · exact ⟨⟨m, s, ck, c, hm, hu, rfl, hfin⟩, fun _ => Or.inr rfl⟩
  have hstat : ∀ v' : View, v' = v ∨ v' = { v with patched := true } →
      Prog.Conforms (Guard ext k) View.next v' (sendStatus m s) fun _ _ => True := by
    intro v' hv'
    have hg : v'.machine = some m ∧ v'.Records k m s.status := by
      rcases hv' with rfl | rfl
      · exact ⟨hm, hrec⟩
      · exact ⟨hm, hrec⟩
    unfold sendStatus
    split_ifs
    · trivial
    · refine ⟨⟨m, s.status, hg.1, rfl, hg.2⟩, fun x => ?_⟩
      cases x with
      | error e =>
        dsimp only [Prog.bind]
        split_ifs <;> trivial
      | ok u => trivial
  unfold deferredPatch
  rw [Prog.conforms_bind]
  refine hcond.mono ?_
  rintro v₁ - rfl
  rw [Prog.conforms_bind]
  refine hobj.mono fun v₂ _ hv₂ => ?_
  rw [Prog.conforms_bind]
  exact (hstat v₂ hv₂).mono fun _ _ _ => trivial

/-- Every request of a pass of `Reconcile`, whatever the responses, is one that the guard
allows. -/
theorem keeps_contract (ext : Externals) : (system ext).Keeps (contract ext) := by
  intro k
  show Prog.Conforms (Guard ext k) View.next View.fresh (reconcile ext k >>= fun _ => pure ())
    fun _ _ => True
  rw [Prog.conforms_bind]
  unfold reconcile
  rw [Prog.conforms_bind]
  refine ⟨rfl, fun got => ?_⟩
  cases got with
  | error e =>
    dsimp only [Prog.Conforms]
    split_ifs <;> trivial
  | ok m =>
    show Prog.Conforms _ _ _ (reconcileRead ext k m) _
    unfold reconcileRead
    rw [Prog.conforms_bind]
    have hm : (View.fresh.next .getMachine (.ok m)).machine = some m := rfl
    refine Prog.Conforms.mono (obeys_reconcileBody hm rfl) fun v' out h => ?_
    rw [Prog.conforms_bind]
    refine (conforms_deferredPatch h).mono fun v'' _ _ => ?_
    cases out.1 with
    | some out => trivial
    | none => trivial

theorem conforms_idle {t : MachineState} (ht : t.Idle) : (system ext).Conforms (contract ext) t :=
  .of_idle ht fun _ => trivial

/-- The passes of every run keep to the guard. -/
theorem conforms_run {t : MachineState} (ht : t.Idle) (acts : List MachineAction) :
    (system ext).Conforms (contract ext) ((system ext).run t acts) :=
  Controller.Conforms.run (keeps_contract ext) (conforms_idle ht) acts

end Reconcile

end Caphv.Machine
