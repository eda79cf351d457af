import Caphv.MachinePlacement

namespace Caphv.Machine

section Safety

variable {ext : Externals} {k j : ObjectKey} {w w' : World} {v v' : View}

/-- Machine `k` has target namespace `ns`, and no other machine has its name there. -/
def OwnNamespace (k : ObjectKey) (ns : String) (j : ObjectKey) (t : String) : Prop :=
  (j = k → t = ns) ∧ (j.name = k.name → t = ns → j = k)

instance (k : ObjectKey) (ns : String) (j : ObjectKey) (t : String) :
    Decidable (OwnNamespace k ns j t) := inferInstanceAs (Decidable (_ ∧ _))

def HasFinalizer (m : HarvesterMachine) : Prop :=
  machineFinalizer ∈ m.finalizers ∨ machineFinalizerLegacy ∈ m.finalizers

/-- A request that leaves the stored machine with neither finalizer is one of its own
deletion. -/
theorem Effect.hasFinalizer {r : Req} {x : Resp r} (he : Effect ext j w v r x w' v')
    {m m' : HarvesterMachine} (hs : w.machines.lookup k = some m) (hf : HasFinalizer m)
    (hs' : w'.machines.lookup k = some m') :
    HasFinalizer m' ∨ j = k ∧ ∃ read, v.machine = some read ∧ read.deleting = true := by
  by_cases hj : j = k
  · subst hj
    cases he with
    | @patchConditions _ _ _ m₀ hs₀ =>
      obtain rfl := Option.some.inj (hs₀.symm.trans hs)
      cases (lookup_setMachine_self _ _ _).symm.trans hs'
      exact Or.inl hf
    | @patchStatus _ _ _ m₀ _ _ _ _ hs₀ =>
      obtain rfl := Option.some.inj (hs₀.symm.trans hs)
      cases (lookup_setMachine_self _ _ _).symm.trans hs'
      exact Or.inl hf
    | @patchObject p _ read after m₀ ck c hm _ hp hstep hs₀ _ =>
      obtain rfl := Option.some.inj (hs₀.symm.trans hs)
      cases (lookup_setMachine_self _ _ _).symm.trans hs'
      rw [HasFinalizer, hp, finalizers_apply]
      generalize after.finalizers = fs at hstep
      cases hstep with
      | keep => exact Or.inl (by rwa [if_pos rfl])
      | migrate _ _ _ =>
        left
        split_ifs
        · exact hf
        · exact Or.inl (mem_migrateFinalizer _)
      | add _ _ _ =>
        left
        split_ifs
        · exact hf
        · exact Or.inl (mem_addFinalizer.mpr (Or.inr rfl))
      | drop hdel _ _ _ _ => exact Or.inr ⟨rfl, read, hm, hdel.deleting⟩
    | patchObjectLast _ _ _ _ _ _ _ =>
      cases (AList.lookup_erase _ _).symm.trans hs'
    | _ =>
      obtain rfl := Option.some.inj (hs.symm.trans hs')
      exact Or.inl hf
  · rw [he.machines_ne (Ne.symm hj), hs] at hs'
    obtain rfl := Option.some.inj hs'
    exact Or.inl hf

theorem EnvEffect.hasFinalizer (he : EnvEffect w w') {m m' : HarvesterMachine}
    (hs : w.machines.lookup k = some m) (hf : HasFinalizer m)
    (hs' : w'.machines.lookup k = some m') : HasFinalizer m' := by
  have hself : ∀ {j m₀ m₁}, w.machines.lookup j = some m₀ →
      (w.setMachine j m₁).machines.lookup k = some m' → m₁.finalizers = m₀.finalizers →
      HasFinalizer m' := by
    intro j m₀ m₁ hs₀ hs' hfin
    rw [lookup_setMachine] at hs'
    split_ifs at hs' with hj
    · subst hj
      obtain rfl := Option.some.inj (hs₀.symm.trans hs)
      obtain rfl := Option.some.inj hs'
      rwa [HasFinalizer, hfin]
    · obtain rfl := Option.some.inj (hs.symm.trans hs')
      exact hf
  cases he with
  | @createMachine j _ _ _ habs =>
    rw [lookup_setMachine] at hs'
    split_ifs at hs' with hj
    · subst hj
      rw [habs] at hs
      cases hs
    · obtain rfl := Option.some.inj (hs.symm.trans hs')
      exact hf
  | editMachine hs₀ => exact hself hs₀ hs' rfl
  | markMachine hs₀ _ => exact hself hs₀ hs' rfl
  | eraseMachine hs₀ hfree =>
    rw [Table.lookup_erase_eq] at hs'
    split_ifs at hs'
    obtain rfl := Option.some.inj (hs.symm.trans hs')
    exact hf
  | _ =>
    obtain rfl := Option.some.inj (hs.symm.trans hs')
    exact hf

theorem hasFinalizer_of_step {s : MachineState} {a : MachineAction}
    (hs : (system ext).Conforms (contract ext) s) {m m' : HarvesterMachine}
    (hm : s.world.machines.lookup k = some m) (hf : HasFinalizer m)
    (hm' : ((system ext).step s a).world.machines.lookup k = some m') :
    HasFinalizer m' ∨ ∃ read, (s.view k).machine = some read ∧ read.deleting = true := by
  rcases step_effect hs a with he | ⟨j, ans, r, x, v', rfl, he⟩
  · exact Or.inl (he.hasFinalizer hm hf hm')
  · rcases he.hasFinalizer hm hf hm' with h | ⟨rfl, h⟩
    · exact Or.inl h
    · exact Or.inr h

/-- In every run in which machine `k` keeps its target namespace `ns` and its name to itself
there, whatever calls fail: a VM or a cloud-init secret of the machine is behind the finalizer;
only a deletion leaves the stored machine with neither finalizer; and no claim is deleted
while the VM exists. -/
theorem finalizer_protects (ext : Externals) (k : ObjectKey) (ns : String) (s : MachineState)
    (hs : Starts s) (acts : List MachineAction)
    (hok : (system ext).Admissible (TargetsIn (OwnNamespace k ns)) s acts) :
    let t := (system ext).run s acts
    ((t.world.vms.lookup ⟨ns, k.name⟩).isSome ∨
        (t.world.secrets.lookup ⟨ns, cloudInitSecretName k.name⟩).isSome →
      Protected t.world k) ∧
    (∀ a m m', t.world.machines.lookup k = some m → HasFinalizer m →
      ((system ext).step t a).world.machines.lookup k = some m' →
      HasFinalizer m' ∨ ∃ read, (t.view k).machine = some read ∧ read.deleting = true) ∧
    (∀ n, t.request k = some (.deletePVC n) → t.world.vms.lookup ⟨ns, k.name⟩ = none) := by
  intro t
  have hP : ∀ t t', OwnNamespace k ns k t → OwnNamespace k ns k t' → t = t' :=
    fun t t' h h' => (h.1 rfl).trans (h'.1 rfl).symm
  obtain ⟨⟨hseen, hplaced, hsh⟩, hconf⟩ := (shieldInv_preserves ext hP).run
    (keeps_contract ext) (conforms_idle hs.idle) (hs.shieldInv _ k) hok
  -- What stands under the machine's names was created by it.
  have hvm : ∀ vm, t.world.vms.lookup ⟨ns, k.name⟩ = some vm → vm.creator = k :=
    fun vm hvm => by
      obtain ⟨hname, hns, -⟩ := hplaced.vm _ vm hvm
      exact hns.2 hname.symm rfl
  have hsec : ∀ sec, t.world.secrets.lookup ⟨ns, cloudInitSecretName k.name⟩ = some sec →
      sec.creator = k := fun sec hsec => by
    obtain ⟨hname, hns⟩ := hplaced.secret _ sec hsec
    exact hns.2 (cloudInitSecretName_injective hname.symm) rfl
  refine ⟨?_, fun a m m' hm hf hm' => hasFinalizer_of_step hconf hm hf hm', fun n hreq => ?_⟩
  · rintro (h | h)
    · obtain ⟨vm, hlook⟩ := Option.isSome_iff_exists.mp h
      exact hsh.vm _ vm hlook (hvm vm hlook)
    · obtain ⟨sec, hlook⟩ := Option.isSome_iff_exists.mp h
      exact hsh.secret _ sec hlook (hsec sec hlook)
  · obtain ⟨f, hpass⟩ := State.exists_call_of_request hreq
    obtain ⟨m, ck, c, hphase, habs, -⟩ := hconf.issue hpass
    cases hlook : t.world.vms.lookup ⟨ns, k.name⟩ with
    | none => rfl
    | some vm => exact absurd (hvm vm hlook) (hsh.noVM habs hphase.retiring _ vm hlook)

end Safety

namespace Sample

def firstFree (addresses : List Net.IP) : Allocator where
  nextIP := RangeSample.nextIP
  pick _ st _ requested :=
    match requested with
    | some ip => .ok ip
    | none =>
      match addresses.find? fun ip => st.holder ip.string = none with
      | some ip => .ok ip
      | none => .error "no IP addresses available"
  unavailable _ ip := ip.string

def address (d : UInt8) : Net.IP := ⟨[10, 0, 0, d], Or.inl rfl⟩

def ext : Externals where
  allocator := firstFree [address 2]
  mergeCloudInitData docs := .ok (String.intercalate "\n" docs)
  parsesQuantity _ := true

def keyA : ObjectKey := ⟨"ns", "a", by decide⟩

def keyB : ObjectKey := ⟨"ns", "b", by decide⟩

def clusterKey : ObjectKey := ⟨"ns", "c", by decide⟩

def clusterWith (poolRefs : List String) : HarvesterCluster where
  finalizers := []
  deleting := false
  spec := { (default : HarvesterClusterSpec) with
    identitySecret := ⟨"ns", "identity"⟩
    targetNamespace := "target"
    vmNetworkConfig := some ⟨"", poolRefs, none, "10.0.0.1", "255.255.255.0", [], []⟩ }
  status := ⟨true, ∅, true, []⟩

def machineSpec : HarvesterMachineSpec :=
  ⟨"", "", "4Gi", "key", [⟨.storageClass, "", "sc", some "1Gi", 0⟩], ["net"], none, none,
    none, none⟩

def pool : IPPool :=
  ⟨1, "", [⟨"10.0.0.0/30", "10.0.0.1", "10.0.0.2", "10.0.0.2"⟩], ⟨1, "", none, none⟩⟩

def world (poolRefs : List String) : World where
  machines := ∅
  clusters := (∅ : Table ObjectKey HarvesterCluster).insert clusterKey (clusterWith poolRefs)
  pools := poolRefs.foldl (fun t n => t.insert n pool) ∅
  vms := ∅
  secrets := ∅
  pvcs := ∅
  nextUID := 0

def start (poolRefs : List String) : MachineState :=
  ⟨world poolRefs, fun _ => .ret (), fun _ => .fresh⟩

theorem lookup_pools (poolRefs : List String) (n : String) (p : IPPool) :
    (world poolRefs).pools.lookup n = some p → p = pool := by
  suffices h : ∀ t : Table String IPPool, (∀ n p, t.lookup n = some p → p = pool) →
      ∀ n p, (poolRefs.foldl (fun t n => t.insert n pool) t).lookup n = some p → p = pool from
    h ∅ (fun n p hp => by cases hp) n p
  induction poolRefs with
  | nil => exact fun t ht => ht
  | cons a as ih =>
    refine fun t ht => ih _ fun n p hp => ?_
    rw [Table.lookup_insert_eq] at hp
    split_ifs at hp
    · exact (Option.some.inj hp).symm
    · exact ht n p hp

theorem starts (poolRefs : List String) : Starts (start poolRefs) where
  idle _ := rfl
  unseen _ := rfl
  held k m hm := by cases hm
  vms := rfl
  secrets := rfl
  pvcs := rfl

def scopeA : Scope :=
  ⟨keyA, ⟨clusterKey, clusterKey, some true⟩, ⟨keyA, some "boot", ""⟩, clusterWith ["p"], true⟩

def machineA : HarvesterMachine :=
  ⟨false, [machineFinalizer], false, machineSpec,
    { HarvesterMachineStatus.empty with allocatedIPAddress := "10.0.0.2", allocatedPoolRef := "p" }⟩

/-- Everything outside the modelled objects answers well; `fault` chooses the faults. -/
def answers (fault : Req → Fault) : (r : Req) → Answer r
  | .getOwnerMachine =>
    (.ok (some ⟨keyA, some "boot", ""⟩) : Except ApiError (Option OwnerMachine))
  | .getOwnerCluster _ =>
    (.ok (some ⟨clusterKey, clusterKey, some true⟩) : Except ApiError (Option OwnerCluster))
  | .ensurePausedCondition o recorded =>
    PausedAnswer.unpaused (fault (.ensurePausedCondition o recorded))
  | .getIdentitySecret _ => (.ok true : Except ApiError Bool)
  | .getBootstrapSecret _ => (.ok (some "data") : Except ApiError (Option String))
  | .getWorkloadClusterConfig _ => (.error "not ready" : Except String Unit)
  | .getNodeProviderID _ => (.error "not ready" : Except String String)
  | .initializeWorkloadNode _ _ => false
  | .removeEtcdMember _ => ()
  | .randomID => "abcde"
  | .getVMI _ => (.ok [] : Except ApiError (List String))
  | .listImages _ => (.ok [] : Except ApiError (List VMImage))
  | .getKeyPair _ => (.ok "ssh" : Except ApiError String)
  | .getMachine => fault .getMachine
  | .getHarvesterCluster k => fault (.getHarvesterCluster k)
  | .getPool n => fault (.getPool n)
  | .getVM n => fault (.getVM n)
  | .getSecret n => fault (.getSecret n)
  | .listPVCs ns => fault (.listPVCs ns)
  | .patchClusterStatus k cs => fault (.patchClusterStatus k cs)
  | .patchConditions b a => fault (.patchConditions b a)
  | .patchObject p => fault (.patchObject p)
  | .patchStatus p => fault (.patchStatus p)
  | .updatePool n p => fault (.updatePool n p)
  | .createVM n d st => fault (.createVM n d st)
  | .deleteVM n => fault (.deleteVM n)
  | .createSecret n d => fault (.createSecret n d)
  | .updateSecret n d => fault (.updateSecret n d)
  | .deleteSecret n => fault (.deleteSecret n)
  | .deletePVC n => fault (.deletePVC n)

def calls (n : ℕ) (fault : Req → Fault) (k : ObjectKey) : List MachineAction :=
  .start k :: List.replicate n (.exec k (answers fault))

def passWith : (Req → Fault) → ObjectKey → List MachineAction := calls 24

def pass : ObjectKey → List MachineAction := passWith fun _ => .none

/-- A new machine, and the pass that records that it is not paused. -/
def created (k : ObjectKey) (finalizers : List String) : List MachineAction :=
  .env (.createMachine k false finalizers machineSpec) :: pass k

def statusLost : Req → Fault
  | .patchStatus _ => .reject "timeout"
  | _ => .none

def migrateAndCreate : List MachineAction :=
  created keyA [machineFinalizerLegacy] ++ pass keyA ++ pass keyA

end Sample

theorem finalizer_protects_sample :
    (((system Sample.ext).run (Sample.start ["p"]) Sample.migrateAndCreate).world.vms.lookup
      ⟨"target", "a"⟩).isSome ∧
    Protected ((system Sample.ext).run (Sample.start ["p"]) Sample.migrateAndCreate).world
      Sample.keyA := by
  have hvm : (((system Sample.ext).run (Sample.start ["p"])
      Sample.migrateAndCreate).world.vms.lookup
      ⟨"target", "a"⟩).isSome := by decide +kernel
  exact ⟨hvm, (finalizer_protects Sample.ext Sample.keyA "target" _ (Sample.starts _) _
    (by decide +kernel)).1 (Or.inl hvm)⟩

end Caphv.Machine
