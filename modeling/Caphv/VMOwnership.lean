import Caphv.ReadyFlags

namespace Caphv.Machine

open Controller (firstView firstView_update unobserved)

section Origin

variable {m : HarvesterMachine} {e : Sight} {f : Flags}

theorem Exit.providerID_origin (h : Exit m e f) : f.providerID = m.spec.providerID ∨
    ∃ n vm interfaces node, e.Runs n vm interfaces ∧ e.node = some node ∧
      f.providerID = providerIDFrom node vm := by
  cases h with
  | adopted hruns _ _ hread _ _ => exact Or.inr ⟨_, _, _, _, hruns, hread, rfl⟩
  | adoptedLost hruns _ _ hread _ _ _ => exact Or.inr ⟨_, _, _, _, hruns, hread, rfl⟩
  | _ => exact Or.inl rfl

theorem Exit.addresses_origin (h : Exit m e f) : f.addresses = m.status.addresses ∨
    ∃ n vm interfaces, e.Runs n vm interfaces ∧ f.addresses = addressesOf interfaces := by
  cases h with
  | addressGone hruns hempty _ => exact Or.inr ⟨_, _, _, hruns, hempty.symm⟩
  | addressFound hruns _ _ => exact Or.inr ⟨_, _, _, hruns, rfl⟩
  | waiting hruns _ _ _ _ => exact Or.inr ⟨_, _, _, hruns, rfl⟩
  | adopted hruns _ _ _ _ _ => exact Or.inr ⟨_, _, _, hruns, rfl⟩
  | adoptedLost hruns _ _ _ _ _ _ => exact Or.inr ⟨_, _, _, hruns, rfl⟩
  | kept hruns _ _ => exact Or.inr ⟨_, _, _, hruns, rfl⟩
  | _ => exact Or.inl rfl

end Origin

/-- No two machines of one name may use one namespace of Harvester. -/
def Separates (P : ObjectKey → String → Prop) : Prop :=
  ∀ j j' t, P j t → P j' t → j.name = j'.name → j = j'

/-- A VM that the pass of `k` has found is one that `k` created, under its own name. -/
def FoundOwn (P : ObjectKey → String → Prop) (k : ObjectKey) (u : View × Sight) : Prop :=
  ∀ n vm, u.2.vm = some (n, .ok vm) → vm.creator = k ∧ n.name = k.name ∧ P k n.ns

/-- The objects are where their machines may put them, and a VM that a pass has found is one that
its machine created. -/
structure OwnInv (P : ObjectKey → String → Prop) (w : World) (v : ObjectKey → View × Sight) :
    Prop where
  placed : Placed P w (firstView v)
  found : ∀ k, FoundOwn P k (v k)

section Own

variable {P : ObjectKey → String → Prop} {ext : Externals} {k : ObjectKey} {w : World}
  {v : ObjectKey → View} {ck : ObjectKey} {c : HarvesterCluster}

theorem Placed.own_vm (h : Placed P w v) (hP : Separates P) {n : NamespacedName} {vm : VM}
    (hname : n.name = k.name) (hns : P k n.ns) (hs : w.vms.lookup n = some vm) :
    vm.creator = k := by
  obtain ⟨hname', hns', -⟩ := h.vm n vm hs
  exact hP _ _ _ hns' hns (hname'.symm.trans hname)

theorem Placed.own_secret (h : Placed P w v) (hP : Separates P)
    (hc : (v k).cluster = some (ck, c)) {s : StoredSecret}
    (hs : w.secrets.lookup (secretName k c) = some s) : s.creator = k := by
  obtain ⟨hname, hns⟩ := h.secret _ s hs
  exact hP _ _ _ hns (h.cluster k ck c hc) (cloudInitSecretName_injective hname.symm)

theorem ownInv_preserves (ext : Externals) (hP : Separates P) :
    (observed ext).Preserves ((contract ext).both sightContract)
      (fun w v e => TargetsIn P w (firstView v) e) (OwnInv P) where
  start w v k _ h := by
    refine ⟨?_, forall_update (Q := FoundOwn P) (fun n vm hvm => ?_) fun j _ => h.found j⟩
    · rw [firstView_update]
      exact h.placed.fresh
    · cases hvm
  issue w v k r a hg hok h := by
    refine ⟨?_, forall_update (Q := FoundOwn P) (fun n vm hvm => ?_) fun j _ => h.found j⟩
    · rw [firstView_update]
      exact h.placed.effect hok (exec_effect r a hg.1)
    · rcases Sight.vm_origin a hvm with hvm | ⟨rfl, hs⟩
      · exact h.found k n vm hvm
      · obtain ⟨ck, c, hc, rfl⟩ := hg.1
        have hns := h.placed.cluster k ck c hc
        exact ⟨h.placed.own_vm hP rfl hns hs, rfl, hns⟩
  env w v e _ h := ⟨h.placed.envEffect (env_effect w e), h.found⟩

end Own

/-- What the pass of machine `k` is about to touch: the VM and the secret that it deletes and the
VM whose instance it reads were created by `k`, and so was the VM from which it copies an id or
addresses. -/
structure TouchesOwn (k : ObjectKey) (t : ObservedState) : Prop where
  deletedVM : ∀ n vm, t.request k = some (.deleteVM n) → t.world.vms.lookup n = some vm →
    vm.creator = k
  deletedSecret : ∀ n s, t.request k = some (.deleteSecret n) → t.world.secrets.lookup n = some s →
    s.creator = k
  readInstance : ∀ n vm, t.request k = some (.getVMI n) → t.world.vms.lookup n = some vm →
    vm.creator = k
  copiedID : ∀ p id, t.request k = some (.patchObject p) → p.providerID = some id →
    ∃ n vm node, (t.view k).2.vm = some (n, .ok vm) ∧ vm.creator = k ∧
      (t.view k).2.node = some node ∧ id = providerIDFrom node vm
  copiedAddresses : ∀ p addresses, t.request k = some (.patchStatus p) →
    p.addresses = some addresses →
    ∃ n vm interfaces, (t.view k).2.vm = some (n, .ok vm) ∧ vm.creator = k ∧
      (t.view k).2.vmi = some (.ok interfaces) ∧ addresses = addressesOf interfaces

/-- As long as machines of one name read clusters with different target namespaces, every machine
deletes and copies from its own objects only, whatever the interleaving of their passes. -/
theorem touches_own_objects (ext : Externals) (P : ObjectKey → String → Prop) (hP : Separates P)
    (t : ObservedState) (ht : Starts (unobserved t)) (hfresh : ∀ k, (t.view k).2 = .fresh)
    (acts : List MachineAction)
    (hok : (observed ext).Admissible (fun w v e => TargetsIn P w (firstView v) e) t acts)
    (k : ObjectKey) : TouchesOwn k ((observed ext).run t acts) := by
  have hinv₀ : OwnInv P t.world t.view := by
    refine ⟨ht.placed, fun k n vm hvm => ?_⟩
    rw [hfresh k] at hvm
    cases hvm
  obtain ⟨hinv, hconf⟩ := (ownInv_preserves ext hP).run (keeps_sight ext)
    (conforms_sight_idle ht.idle) hinv₀ hok
  have hguard : ∀ {r}, ((observed ext).run t acts).request k = some r →
      ((contract ext).both sightContract).guard k (((observed ext).run t acts).view k) r := by
    intro r hreq
    obtain ⟨f, hcall⟩ := State.exists_call_of_request hreq
    exact hconf.issue hcall
  refine ⟨fun n vm hreq hs => ?_, fun n s hreq hs => ?_, fun n vm hreq hs => ?_,
    fun p id hreq hp => ?_, fun p addresses hreq hp => ?_⟩
  · obtain ⟨m, ck, c, hphase, rfl⟩ := (hguard hreq).1
    exact hinv.placed.own_vm hP rfl (hinv.placed.cluster k ck c hphase.cluster) hs
  · obtain ⟨m, ck, c, hphase, rfl⟩ := (hguard hreq).1
    exact hinv.placed.own_secret hP hphase.cluster hs
  · obtain ⟨vm', hfound⟩ := (hguard hreq).2
    obtain ⟨-, hname, hns⟩ := hinv.found k n vm' hfound
    exact hinv.placed.own_vm hP hname hns hs
  · obtain ⟨m, s, hm, rfl, hshows⟩ := (hguard hreq).2
    obtain ⟨hne, rfl⟩ := changedTo_eq_some hp
    rcases hshows with ⟨-, hf⟩ | ⟨-, hexit⟩
    · exact absurd (congrArg Flags.providerID hf).symm hne
    · rcases hexit.providerID_origin with hsame | ⟨n, vm, _, node, hruns, hnode, hid⟩
      · exact absurd hsame.symm hne
      · exact ⟨n, vm, node, hruns.found, (hinv.found k n vm hruns.found).1, hnode, hid⟩
  · obtain ⟨m, s, hm, rfl, hshows⟩ := (hguard hreq).2
    obtain ⟨hne, rfl⟩ := changedTo_eq_some hp
    rcases hshows with ⟨-, hf⟩ | ⟨-, hexit⟩
    · exact absurd (congrArg Flags.addresses hf).symm hne
    · rcases hexit.addresses_origin with hsame | ⟨n, vm, interfaces, hruns, has⟩
      · exact absurd hsame.symm hne
      · exact ⟨n, vm, interfaces, hruns.found, (hinv.found k n vm hruns.found).1,
          hruns.instance_, has⟩

namespace Sample

def otherA : ObjectKey := ⟨"other", "a", by decide⟩

def otherCluster : ObjectKey := ⟨"other", "c", by decide⟩

def clusterInto (target : String) : HarvesterCluster :=
  { clusterWith [] with
    spec := { (clusterWith []).spec with targetNamespace := target, vmNetworkConfig := none } }

def twoClusters (target target' : String) : ObservedState :=
  ⟨{ world [] with
      clusters := ((∅ : Table ObjectKey HarvesterCluster).insert clusterKey
        (clusterInto target)).insert otherCluster (clusterInto target') },
    fun _ => .ret (), fun _ => (.fresh, .fresh)⟩

def answersFor (k ck : ObjectKey) : (r : Req) → Answer r
  | .getOwnerMachine =>
    (.ok (some ⟨k, some "boot", ""⟩) : Except ApiError (Option OwnerMachine))
  | .getOwnerCluster _ =>
    (.ok (some ⟨ck, ck, some true⟩) : Except ApiError (Option OwnerCluster))
  | r => answersWithAddress (fun _ => .none) r

def passOf (k ck : ObjectKey) : List MachineAction :=
  .start k :: List.replicate 24 (.exec k (answersFor k ck))

/-- Machine `a` of namespace `ns` gets its VM; then a machine `a` of namespace `other` is created
and reconciled until it has its id, and deleted. -/
def bothMachines : List MachineAction :=
  created keyA [] ++ passOf keyA clusterKey ++ passOf keyA clusterKey ++ created otherA [] ++
    passOf otherA otherCluster ++ passOf otherA otherCluster ++ passOf otherA otherCluster

def bothThenDelete : List MachineAction :=
  bothMachines ++ .env (.deleteMachine otherA) :: passOf otherA otherCluster

theorem starts_twoClusters (target target' : String) :
    Starts (unobserved (twoClusters target target')) where
  idle _ := rfl
  unseen _ := rfl
  held k m hm := by cases hm
  vms := rfl
  secrets := rfl
  pvcs := rfl

def deletingVM : ObservedState :=
  (observed ext).run (twoClusters "ns" "other") (bothThenDelete.take 187)

end Sample

theorem touches_own_objects_sample :
    Sample.deletingVM.request Sample.otherA = some (.deleteVM ⟨"other", "a"⟩) ∧
      ∃ vm, Sample.deletingVM.world.vms.lookup ⟨"other", "a"⟩ = some vm ∧
        vm.creator = Sample.otherA := by
  have hreq : Sample.deletingVM.request Sample.otherA = some (.deleteVM ⟨"other", "a"⟩) := by
    decide +kernel
  have hstored : (Sample.deletingVM.world.vms.lookup ⟨"other", "a"⟩).isSome = true := by
    decide +kernel
  have hsep : Separates fun j ns => ns = j.ns := by
    intro j j' ns h h' hname
    rw [ObjectKey.mk.injEq]
    exact ⟨h.symm.trans h', hname⟩
  have hown : TouchesOwn Sample.otherA Sample.deletingVM :=
    touches_own_objects Sample.ext _ hsep _ (Sample.starts_twoClusters _ _) (fun _ => rfl) _
      (by decide +kernel) Sample.otherA
  obtain ⟨vm, hvm⟩ := Option.isSome_iff_exists.mp hstored
  exact ⟨hreq, vm, hvm, hown.deletedVM _ vm hreq hvm⟩

/-- Machines `ns/a` and `other/a` whose clusters share a target namespace: the second takes the id
and the address of the VM of the first, and deletes that VM and its secret. -/
theorem shared_target_namespace :
    let t := (observed Sample.ext).run (Sample.twoClusters "target" "target") Sample.bothMachines
    let t' := (observed Sample.ext).run (Sample.twoClusters "target" "target")
      Sample.bothThenDelete
    let secret : NamespacedName := ⟨"target", cloudInitSecretName "a"⟩
    (t.world.vms.lookup ⟨"target", "a"⟩).map (fun vm => (vm.uid, vm.creator, vm.deleting)) =
        some (0, Sample.keyA, false) ∧
      (t.world.secrets.lookup secret).map (fun s => s.creator) = some Sample.keyA ∧
      (t.world.machines.lookup Sample.otherA).map (fun m =>
        (m.spec.providerID, m.status.addresses)) = some ("harvester://0", ["10.0.0.2"]) ∧
      (t'.world.vms.lookup ⟨"target", "a"⟩).map (fun vm => (vm.creator, vm.deleting)) =
        some (Sample.keyA, true) ∧
      t'.world.secrets.lookup secret = none := by
  decide +kernel

end Caphv.Machine
