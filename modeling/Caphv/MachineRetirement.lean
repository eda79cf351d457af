import Caphv.AddressRelease
import Caphv.DiskCleanup
import Caphv.MachineService

namespace Caphv.Machine

open Net (IP parseIP)

/-- The claim is in the target namespace and has the prefix of the disks of machine `k`. -/
def IsDisk (k : ObjectKey) (c : HarvesterCluster) (n : NamespacedName) : Prop :=
  n.ns = c.spec.targetNamespace ∧ (diskPrefix k.name).toList.isPrefixOf n.name.toList = true

structure Untouched (k : ObjectKey) (m : HarvesterMachine) (c : HarvesterCluster) (w w' : World) :
    Prop where
  machines : ∀ j, j ≠ k → w'.machines.lookup j = w.machines.lookup j
  clusters : w'.clusters = w.clusters
  holders : ∀ n x, ¬ Names m c n x → w'.holder n x = w.holder n x
  vms : ∀ n, n ≠ vmName k c → w'.vms.lookup n = w.vms.lookup n
  secrets : ∀ n, n ≠ secretName k c → w'.secrets.lookup n = w.secrets.lookup n
  pvcs : ∀ n, ¬ IsDisk k c n → w'.pvcs.lookup n = w.pvcs.lookup n

/-- The address that the status names, the VM, the cloud-init secret and the disks are gone. -/
structure NothingLeft (k : ObjectKey) (m : HarvesterMachine) (c : HarvesterCluster) (w : World) :
    Prop where
  holders : ∀ n x, Names m c n x → w.holder n x = none
  vm : w.vms.lookup (vmName k c) = none
  secret : w.secrets.lookup (secretName k c) = none
  pvcs : ∀ n, IsDisk k c n → w.pvcs.lookup n = none

section Retirement

variable {ext : Externals} {k : ObjectKey} {answers : (r : Req) → Answer r} {sc : Scope}
  {w w' w'' : World} {m s : HarvesterMachine} {c : HarvesterCluster}

theorem Untouched.trans (h : Untouched k m c w w') (h' : Untouched k m c w' w'') :
    Untouched k m c w w'' where
  machines j hj := (h'.machines j hj).trans (h.machines j hj)
  clusters := h'.clusters.trans h.clusters
  holders n x hn := (h'.holders n x hn).trans (h.holders n x hn)
  vms n hn := (h'.vms n hn).trans (h.vms n hn)
  secrets n hn := (h'.secrets n hn).trans (h.secrets n hn)
  pvcs n hn := (h'.pvcs n hn).trans (h.pvcs n hn)

structure Released (m : HarvesterMachine) (c : HarvesterCluster) (w w' : World) : Prop where
  rest : w' = { w with pools := w'.pools }
  free : ∀ n x, Names m c n x → w'.holder n x = none
  others : ∀ n x, ¬ Names m c n x → w'.holder n x = w.holder n x

/-- Nothing was there to give back. -/
theorem Released.of_free (h : ∀ n x, Names m c n x → w.holder n x = none) : Released m c w w :=
  ⟨rfl, h, fun _ _ _ => rfl⟩

/-- The pool is stored without the address. -/
theorem Released.of_address {pool : IPPool} {ip : IP}
    (hnone : m.status.allocatedIPAddress ≠ "" ∧ releasePoolRef m c ≠ "")
    (hpool : w.pools.lookup (releasePoolRef m c) = some pool)
    (hip : parseIP m.status.allocatedIPAddress = some ip) :
    Released m c w (w.setPool (releasePoolRef m c)
      { pool with status := Store.release pool.status (some ip) }.stored) := by
  have hnames : ∀ n x, Names m c n x ↔ n = releasePoolRef m c ∧ x = ip.string := by
    intro n x
    constructor
    · intro h
      have haddress := h.address
      rw [hip] at haddress
      exact ⟨h.pool, (Option.some.inj haddress).symm⟩
    · rintro ⟨rfl, rfl⟩
      exact ⟨hnone.1, rfl, hnone.2, by rw [hip]; rfl⟩
  refine ⟨rfl, fun n x hn => ?_, fun n x hn => ?_⟩
  · obtain ⟨rfl, rfl⟩ := (hnames n x).mp hn
    rw [World.holder_setPool, if_pos rfl]
    exact (IPPool.holder_stored _ _).trans ((holder_release _ _ _).trans (if_pos rfl))
  · rw [World.holder_setPool]
    split_ifs with hpoolRef
    · rw [hpoolRef, World.holder_of_lookup hpool]
      refine (IPPool.holder_stored _ _).trans ((holder_release _ _ _).trans (if_neg fun hx => ?_))
      exact hn ((hnames n x).mpr ⟨hpoolRef, hx⟩)
    · rfl

theorem serves_releaseVMIP (hclient : sc.harvesterClient = true) :
    Body.Serves (undisturbed sc.key answers) w (releaseVMIP sc) m fun w' out s =>
      out = some () ∧ s = m ∧ Released m sc.harvesterCluster w w' := by
  unfold releaseVMIP
  refine .get_bind ?_
  simp only [Scope.harvester, if_pos hclient]
  split_ifs with hnone
  · refine ⟨rfl, rfl, .of_free fun n x hn => ?_⟩
    rcases hnone with h | h
    · exact absurd h hn.recorded
    · exact absurd (hn.pool.trans h) hn.named
  · push Not at hnone
    refine .request_bind ?_
    rw [show undisturbed sc.key answers w (.getPool (releasePoolRef m sc.harvesterCluster)) =
      (w.getPool (releasePoolRef m sc.harvesterCluster), w) from rfl, World.getPool,
      if_neg hnone.2]
    cases hpool : w.pools.lookup (releasePoolRef m sc.harvesterCluster) with
    | none =>
      refine ⟨rfl, rfl, .of_free fun n x hn => ?_⟩
      rw [World.holder, hn.pool, hpool]
      rfl
    | some pool =>
      dsimp only [found]
      cases hip : parseIP m.status.allocatedIPAddress with
      | none =>
        refine ⟨rfl, rfl, .of_free fun n x hn => ?_⟩
        have := hn.address
        rw [hip] at this
        cases this
      | some ip =>
        have hwrite : w.write sc.key (.updatePool (releasePoolRef m sc.harvesterCluster)
            { pool with status := Store.release pool.status (some ip) }) =
            .ok (w.setPool (releasePoolRef m sc.harvesterCluster)
              { pool with status := Store.release pool.status (some ip) }.stored) := by
          simp only [World.write, World.updatePool, hpool, if_true]
        refine .request_bind ?_
        rw [show undisturbed sc.key answers w (.updatePool _ _) = _ from writeUnder_none hwrite]
        exact ⟨rfl, rfl, .of_address hnone hpool hip⟩

theorem serves_removeEtcdMember :
    Body.Serves (undisturbed sc.key answers) w (removeEtcdMemberIfControlPlane sc) m
      fun w' out s => out = some () ∧ s = m ∧ w' = w := by
  unfold removeEtcdMemberIfControlPlane
  refine .get_bind ?_
  split_ifs
  · exact ⟨rfl, rfl, rfl⟩
  · refine .request_bind ?_
    show Body.Serves _ w (match answers (.getWorkloadClusterConfig sc.cluster) with
      | Except.error _ => pure ()
      | Except.ok () => call (.removeEtcdMember sc.key.name)) m _
    cases answers (.getWorkloadClusterConfig sc.cluster) with
    | error e => exact ⟨rfl, rfl, rfl⟩
    | ok u => exact ⟨rfl, rfl, rfl⟩

/-- A deletion leaves no secret, whether or not there was one. -/
theorem undisturbed_deleteSecret (k : ObjectKey) (answers : (r : Req) → Answer r) (w : World)
    (n : NamespacedName) :
    ∃ x : Except ApiError Unit, (∀ e, x = .error e → e.isNotFound = true) ∧
      undisturbed k answers w (.deleteSecret n) = (x, { w with secrets := w.secrets.erase n }) := by
  cases hs : w.secrets.lookup n with
  | none =>
    refine ⟨.error .notFound, fun e he => by cases he; rfl, ?_⟩
    rw [Table.erase_of_lookup_none hs]
    exact writeUnder_none_error (by simp only [World.write, World.deleteSecret, hs])
  | some secret =>
    refine ⟨.ok (), fun e he => (by cases he), ?_⟩
    exact writeUnder_none (by simp only [World.write, World.deleteSecret, hs])

theorem undisturbed_deletePVC (n : NamespacedName) :
    (undisturbed k answers w (.deletePVC n)).2 = { w with pvcs := w.pvcs.erase n } := by
  cases hs : w.pvcs.lookup n with
  | none =>
    rw [Table.erase_of_lookup_none hs]
    exact congrArg Prod.snd
      (writeUnder_none_error (e := .notFound) (by simp only [World.write, World.deletePVC, hs]))
  | some j =>
    exact congrArg Prod.snd
      (writeUnder_none (by simp only [World.write, World.deletePVC, hs]))

structure Swept (ns pfx : String) (names : List String) (w w' : World) : Prop where
  rest : w' = { w with pvcs := w'.pvcs }
  pvcs : ∀ n, w'.pvcs.lookup n =
    if n.ns = ns ∧ n.name ∈ names ∧ pfx.toList.isPrefixOf n.name.toList = true then none
    else w.pvcs.lookup n

theorem Swept.refl (ns pfx : String) (w : World) : Swept ns pfx [] w w :=
  ⟨rfl, fun n => by simp⟩

theorem serves_deletePVCs (hclient : sc.harvesterClient = true) (ns pfx : String)
    (names : List String) :
    Body.Serves (undisturbed sc.key answers) w (deletePVCs sc ns pfx names) m fun w' out s =>
      out = some () ∧ s = m ∧ Swept ns pfx names w w' := by
  induction names generalizing w with
  | nil => exact ⟨rfl, rfl, .refl ns pfx w⟩
  | cons name names ih =>
    unfold deletePVCs
    split_ifs with hpre
    · refine ih.mono fun w' out s h => ⟨h.1, h.2.1, h.2.2.rest, fun n => ?_⟩
      rw [h.2.2.pvcs]
      have hname : pfx.toList.isPrefixOf n.name.toList = true → n.name ≠ name := by
        rintro hn rfl
        simp [hn] at hpre
      refine if_congr ?_ rfl rfl
      simp only [List.mem_cons]
      grind
    · simp only [Scope.harvester, if_pos hclient]
      refine .request_bind ?_
      rw [undisturbed_deletePVC]
      refine ih.mono fun w' out s h => ⟨h.1, h.2.1, ?_, fun n => ?_⟩
      · rw [h.2.2.rest]
      · rw [h.2.2.pvcs, Table.lookup_erase_eq]
        have hpre : pfx.toList.isPrefixOf name.toList = true := by simpa using hpre
        by_cases hn : n = ⟨ns, name⟩
        · subst hn
          simp [hpre]
        · have hne : n.ns = ns → n.name ≠ name := by
            rintro rfl rfl
            exact hn rfl
          rw [if_neg hn]
          refine if_congr ?_ rfl rfl
          simp only [List.mem_cons]
          grind

theorem serves_deletePVCsByPrefix (hclient : sc.harvesterClient = true) :
    Body.Serves (undisturbed sc.key answers) w (deletePVCsByPrefix sc
      sc.harvesterCluster.spec.targetNamespace (diskPrefix sc.key.name)) m fun w' out s =>
      out = some () ∧ s = m ∧ w' = { w with pvcs := w'.pvcs } ∧
        (∀ n, IsDisk sc.key sc.harvesterCluster n → w'.pvcs.lookup n = none) ∧
        ∀ n, ¬ IsDisk sc.key sc.harvesterCluster n → w'.pvcs.lookup n = w.pvcs.lookup n := by
  unfold deletePVCsByPrefix
  simp only [Scope.harvester, if_pos hclient]
  refine .request_bind ?_
  refine (serves_deletePVCs hclient _ _ _).mono fun w' out s ⟨hout, hs, hswept⟩ => ?_
  refine ⟨hout, hs, hswept.rest, fun n hn => ?_, fun n hn => ?_⟩
  · rw [hswept.pvcs]
    split_ifs with hlisted
    · rfl
    · by_contra hstored
      obtain ⟨j, hj⟩ := Option.ne_none_iff_exists'.mp hstored
      exact hlisted ⟨hn.1, hn.1 ▸ mem_listPVCs hj, hn.2⟩
  · rw [hswept.pvcs, if_neg fun h => hn ⟨h.1, h.2.2⟩]
    rfl

/-- While the VM is there, its deletion is asked for and the pass is repeated. -/
theorem serves_deleteVMAndDisks_found (hclient : sc.harvesterClient = true) {vm : VM}
    (hvm : w.vms.lookup (vmName sc.key sc.harvesterCluster) = some vm) :
    Body.Serves (undisturbed sc.key answers) w (deleteVMAndDisks sc) m fun w' out s =>
      out = some (.after requeueDelay, none) ∧ s = m ∧
        w' = w.setVM (vmName sc.key sc.harvesterCluster) { vm with deleting := true } := by
  have hwrite : w.write sc.key (.deleteVM (vmName sc.key sc.harvesterCluster)) =
      .ok (w.setVM (vmName sc.key sc.harvesterCluster) { vm with deleting := true }) := by
    simp only [World.write, World.deleteVM, hvm]
  unfold deleteVMAndDisks
  simp only [Scope.harvester, if_pos hclient]
  refine .request_bind ?_
  rw [show undisturbed sc.key answers w
    (.getVM ⟨sc.harvesterCluster.spec.targetNamespace, sc.key.name⟩) =
      (found (w.vms.lookup (vmName sc.key sc.harvesterCluster)), w) from rfl, hvm]
  refine .request_bind ?_
  rw [show undisturbed sc.key answers w
    (.deleteVM ⟨sc.harvesterCluster.spec.targetNamespace, sc.key.name⟩) = _ from
      writeUnder_none hwrite]
  exact ⟨rfl, rfl, rfl⟩

/-- Once the VM is gone, the disks go and the finalizers are dropped. -/
theorem serves_deleteVMAndDisks_gone (hclient : sc.harvesterClient = true)
    (hvm : w.vms.lookup (vmName sc.key sc.harvesterCluster) = none) :
    Body.Serves (undisturbed sc.key answers) w (deleteVMAndDisks sc) m fun w' out s =>
      (∃ err, out = some (.empty, err)) ∧
        s = { m with finalizers := dropFinalizers m.finalizers } ∧
        w' = { w with pvcs := w'.pvcs } ∧
        (∀ n, IsDisk sc.key sc.harvesterCluster n → w'.pvcs.lookup n = none) ∧
        ∀ n, ¬ IsDisk sc.key sc.harvesterCluster n → w'.pvcs.lookup n = w.pvcs.lookup n := by
  unfold deleteVMAndDisks
  simp only [Scope.harvester, if_pos hclient]
  refine .request_bind ?_
  rw [show undisturbed sc.key answers w
    (.getVM ⟨sc.harvesterCluster.spec.targetNamespace, sc.key.name⟩) =
      (found (w.vms.lookup (vmName sc.key sc.harvesterCluster)), w) from rfl, hvm]
  have hnotFound : ApiError.notFound.isNotFound = true := rfl
  dsimp only [found]
  rw [if_pos hnotFound]
  refine (serves_deletePVCsByPrefix hclient).bind ?_ fun _ _ h => absurd h.1 nofun
  rintro w' out s ⟨-, rfl, hdisks⟩
  refine .get_bind (.modify_bind ?_)
  split_ifs
  · exact ⟨⟨_, rfl⟩, rfl, hdisks⟩
  · exact ⟨⟨_, rfl⟩, rfl, hdisks⟩

/-- `ReconcileDelete` up to the VM: the address is given back and the secret is gone. -/
theorem serves_reconcileDelete (hclient : sc.harvesterClient = true)
    {Q : World → Option Outcome → HarvesterMachine → Prop}
    (hQ : ∀ w₁, Released m sc.harvesterCluster w w₁ →
      Body.Serves (undisturbed sc.key answers)
        { w₁ with secrets := w₁.secrets.erase (secretName sc.key sc.harvesterCluster) }
        (deleteVMAndDisks sc) m Q) :
    Body.Serves (undisturbed sc.key answers) w (reconcileDelete sc) m Q := by
  unfold reconcileDelete
  refine (serves_releaseVMIP hclient).bind ?_ fun _ _ h => absurd h.1 nofun
  rintro w₁ out s ⟨-, rfl, hreleased⟩
  refine serves_removeEtcdMember.bind ?_ fun _ _ h => absurd h.1 nofun
  rintro w₂ out s' ⟨-, rfl, rfl⟩
  simp only [Scope.harvester, if_pos hclient]
  refine .request_bind ?_
  obtain ⟨x, hx, hserve⟩ := undisturbed_deleteSecret sc.key answers w₂
    (secretName sc.key sc.harvesterCluster)
  rw [show undisturbed sc.key answers w₂ (.deleteSecret
    ⟨sc.harvesterCluster.spec.targetNamespace, cloudInitSecretName sc.key.name⟩) = _ from hserve]
  cases x with
  | error e =>
    dsimp only
    rw [if_pos (hx e rfl)]
    exact hQ w₂ hreleased
  | ok u => exact hQ w₂ hreleased

/-- What is left of machine `k`, stored as `m` before: at most the object itself, with the
finalizers of others. -/
structure Retired (k : ObjectKey) (m : HarvesterMachine) (c : HarvesterCluster) (w w' : World) :
    Prop where
  apart : Untouched k m c w w'
  nothingLeft : NothingLeft k m c w'
  machine : w'.machines.lookup k = if dropFinalizers m.finalizers = [] then none
    else some { m with finalizers := dropFinalizers m.finalizers }

theorem mem_of_mem_dropFinalizers {fs : List String} {f : String} (h : f ∈ dropFinalizers fs) :
    f ∈ fs := (mem_removeFinalizer.mp (mem_removeFinalizer.mp h).1).1

theorem dropFinalizers_idem (fs : List String) :
    dropFinalizers (dropFinalizers fs) = dropFinalizers fs := by
  simp only [dropFinalizers, removeFinalizer, List.filter_filter]
  refine List.filter_congr fun f _ => ?_
  by_cases h₁ : f = machineFinalizer <;> by_cases h₂ : f = machineFinalizerLegacy <;>
    simp [h₁, h₂]

theorem Released.apart {w₁ : World} (h : Released m c w w₁) :
    Untouched k m c w { w₁ with secrets := w₁.secrets.erase (secretName k c) } := by
  have hrest := h.rest
  refine ⟨fun j _ => ?_, ?_, h.others, fun n _ => ?_, fun n hn => ?_, fun n _ => ?_⟩
  · rw [hrest]
  · rw [hrest]
  · rw [hrest]
  · rw [Table.lookup_erase_eq, if_neg hn, hrest]
  · rw [hrest]

theorem untouched_of_written {entry : Option HarvesterMachine}
    (h : machineTable.Written k w entry w') : Untouched k m c w w' := by
  have hrest : w' = { w with machines := w'.machines } := h.rest
  refine ⟨fun j hj => ?_, ?_, fun n x _ => ?_, fun n _ => ?_, fun n _ => ?_, fun n _ => ?_⟩
  · exact (h.entries j).trans (if_neg hj)
  all_goals
    rw [hrest]
    try rfl

theorem NothingLeft.of_written {entry : Option HarvesterMachine}
    (h : machineTable.Written k w entry w') (hleft : NothingLeft k m c w) :
    NothingLeft k m c w' := by
  rw [h.rest]
  exact ⟨hleft.holders, hleft.vm, hleft.secret, hleft.pvcs⟩

section Passes

variable {owner : OwnerMachine} {cluster : OwnerCluster}

/-- A pass that finds the VM gives the address back and asks for the VM to be deleted. -/
theorem serve_deletion_found (ext : Externals)
    (h : Connected answers owner cluster (m.status.conditions.lookup "Paused"))
    (hm : w.machines.lookup k = some m) (hd : m.deleting = true)
    (hc : w.clusters.lookup cluster.infrastructureRef = some c) {vm : VM}
    (hvm : w.vms.lookup (vmName k c) = some vm) :
    ∃ w', Prog.serve (undisturbed k answers) w (reconcile ext k) =
        ((.after requeueDelay, none), w') ∧
      Untouched k m c w w' ∧ w'.machines.lookup k = some m := by
  have hbody : Body.Serves (undisturbed k answers) w
      (if m.deleting then reconcileDelete ⟨k, cluster, owner, c, true⟩
        else reconcileNormal ext ⟨k, cluster, owner, c, true⟩) m fun w' out s =>
      out = some (.after requeueDelay, none) ∧ s = m ∧ Untouched k m c w w' ∧
        w'.machines = w.machines := by
    rw [if_pos hd]
    have hclient : (⟨k, cluster, owner, c, true⟩ : Scope).harvesterClient = true := rfl
    refine serves_reconcileDelete hclient fun w₁ hreleased => ?_
    have hrest := hreleased.rest
    have hfound : w₁.vms.lookup (vmName k c) = some vm := by rw [hrest, hvm]
    refine Body.Serves.mono (serves_deleteVMAndDisks_found hclient hfound) ?_
    rintro w' out s ⟨hout, hs, rfl⟩
    refine ⟨hout, hs, hreleased.apart.trans ⟨fun _ _ => rfl, rfl, fun _ _ _ => rfl,
      fun n hn => ?_, fun _ _ => rfl, fun _ _ => rfl⟩, ?_⟩
    · exact (lookup_setVM _ _ _ _).trans (if_neg hn)
    · rw [hrest]
      rfl
  obtain ⟨w₁, out, s, ⟨rfl, rfl, hapart, hmachines⟩, hserve⟩ := serve_reconcile h hm hc hbody
  refine ⟨w₁, hserve w₁ (by rw [deferredPatch_self]; rfl), hapart, ?_⟩
  rw [hmachines, hm]

/-- A pass that finds no VM leaves nothing of the machine. -/
theorem serve_deletion_gone (ext : Externals)
    (h : Connected answers owner cluster (m.status.conditions.lookup "Paused"))
    (hm : w.machines.lookup k = some m) (hd : m.deleting = true) (hf : m.finalizers ≠ [])
    (hc : w.clusters.lookup cluster.infrastructureRef = some c)
    (hvm : w.vms.lookup (vmName k c) = none) :
    Retired k m c w (Prog.serve (undisturbed k answers) w (reconcile ext k)).2 := by
  have hbody : Body.Serves (undisturbed k answers) w
      (if m.deleting then reconcileDelete ⟨k, cluster, owner, c, true⟩
        else reconcileNormal ext ⟨k, cluster, owner, c, true⟩) m fun w' out s =>
      s = { m with finalizers := dropFinalizers m.finalizers } ∧ Untouched k m c w w' ∧
        NothingLeft k m c w' ∧ w'.machines = w.machines := by
    rw [if_pos hd]
    have hclient : (⟨k, cluster, owner, c, true⟩ : Scope).harvesterClient = true := rfl
    refine serves_reconcileDelete hclient fun w₁ hreleased => ?_
    have hrest := hreleased.rest
    have hgone : w₁.vms.lookup (vmName k c) = none := by rw [hrest, hvm]
    refine Body.Serves.mono (serves_deleteVMAndDisks_gone hclient hgone) ?_
    rintro w' out s ⟨-, hs, hrest', hdisks, hothers⟩
    refine ⟨hs, hreleased.apart.trans ⟨fun _ _ => ?_, ?_, fun _ _ _ => ?_, fun _ _ => ?_,
      fun _ _ => ?_, hothers⟩, ⟨fun n x hn => ?_, ?_, ?_, hdisks⟩, ?_⟩
    · rw [hrest']
    · rw [hrest']
    · rw [hrest']
      rfl
    · rw [hrest']
    · rw [hrest']
    · rw [hrest']
      exact hreleased.free n x hn
    · rw [hrest']
      exact hgone
    · rw [hrest']
      exact (Table.lookup_erase_eq _ _ _).trans (if_pos rfl)
    · rw [hrest', hrest]
  obtain ⟨w₁, out, s, ⟨rfl, hapart, hleft, hmachines⟩, hserve⟩ := serve_reconcile h hm hc hbody
  have hm₁ : w₁.machines.lookup k = some m := by rw [hmachines, hm]
  obtain ⟨m', hpatched, w₂, hpatch, hw⟩ := serve_deferredPatch answers
    { m with finalizers := dropFinalizers m.finalizers } hm₁ rfl (fun _ => hf)
    fun _ f => mem_of_mem_dropFinalizers
  rw [hserve w₂ hpatch]
  refine ⟨hapart.trans (untouched_of_written hw), hleft.of_written hw, ?_⟩
  rw [hpatched.eq_of_finalizers] at hw
  exact hw.lookup.trans (if_congr (and_iff_right hd) rfl rfl)

/-- The VM goes away. -/
theorem Untouched.vmGone (w : World) : Untouched k m c w (w.env (.vmGone (vmName k c))) :=
  ⟨fun _ _ => rfl, rfl, fun _ _ _ => rfl,
    fun _ hn => (Table.lookup_erase_eq _ _ _).trans (if_neg hn), fun _ _ => rfl, fun _ _ => rfl⟩

/-- Which address is given back does not depend on the finalizers. -/
theorem Names.of_finalizers {fs : List String} {n x : String}
    (h : Names { m with finalizers := fs } c n x) : Names m c n x :=
  ⟨h.recorded, h.pool, h.named, h.address⟩

theorem Names.finalizers (fs : List String) {n x : String} (h : Names m c n x) :
    Names { m with finalizers := fs } c n x := ⟨h.recorded, h.pool, h.named, h.address⟩

/-- A further deletion of what is left. -/
theorem Retired.again (h : Retired k m c w w') (hlast : dropFinalizers m.finalizers ≠ [])
    (h' : Retired k { m with finalizers := dropFinalizers m.finalizers } c w' w'') :
    Retired k m c w w'' := by
  have hapart : Untouched k m c w' w'' :=
    ⟨h'.apart.machines, h'.apart.clusters,
      fun n x hn => h'.apart.holders n x fun hn' => hn hn'.of_finalizers, h'.apart.vms,
      h'.apart.secrets, h'.apart.pvcs⟩
  have hleft : NothingLeft k m c w'' :=
    ⟨fun n x hn => h'.nothingLeft.holders n x (hn.finalizers _), h'.nothingLeft.vm,
      h'.nothingLeft.secret, h'.nothingLeft.pvcs⟩
  refine ⟨h.apart.trans hapart, hleft, ?_⟩
  have hm := h'.machine
  simp only [dropFinalizers_idem, if_neg hlast] at hm ⊢
  exact hm

/-- From every state of a machine that is being deleted, whatever interrupted passes have left: a
pass that nothing disturbs asks for another as long as the VM is there, and the pass after the VM
has gone leaves nothing of the machine. All that does not go by its names is as it was; a claim goes
by its prefix, whoever made it. -/
theorem deletion_completes (ext : Externals) (k : ObjectKey)
    (answers answers' : (r : Req) → Answer r) (owner owner' : OwnerMachine)
    (cluster cluster' : OwnerCluster)
    (href : cluster'.infrastructureRef = cluster.infrastructureRef) (w : World)
    (m : HarvesterMachine)
    (h : Connected answers owner cluster (m.status.conditions.lookup "Paused"))
    (h' : Connected answers' owner' cluster' (m.status.conditions.lookup "Paused"))
    (hm : w.machines.lookup k = some m) (hd : m.deleting = true)
    (hf : m.finalizers ≠ []) (c : HarvesterCluster)
    (hc : w.clusters.lookup cluster.infrastructureRef = some c) :
    let first := Prog.serve (undisturbed k answers) w (reconcile ext k)
    let second := Prog.serve (undisturbed k answers') (first.2.env (.vmGone (vmName k c)))
      (reconcile ext k)
    (w.vms.lookup (vmName k c) ≠ none → first.1 = (.after requeueDelay, none)) ∧
      Retired k m c w second.2 := by
  intro first second
  have hgone : ∀ w : World, (w.env (.vmGone (vmName k c))).vms.lookup (vmName k c) = none :=
    fun w => (Table.lookup_erase_eq _ _ _).trans (if_pos rfl)
  cases hvm : w.vms.lookup (vmName k c) with
  | some vm =>
    obtain ⟨w₁, hserve, hapart, hm₁⟩ := serve_deletion_found ext h hm hd hc hvm
    have hfirst : first = ((.after requeueDelay, none), w₁) := hserve
    have hc₁ : (w₁.env (.vmGone (vmName k c))).clusters.lookup cluster'.infrastructureRef =
        some c := by
      rw [href, ← hc, ← hapart.clusters]
      rfl
    have hsecond := serve_deletion_gone ext h' (w := w₁.env (.vmGone (vmName k c))) hm₁ hd hf hc₁
      (hgone w₁)
    refine ⟨fun _ => congrArg Prod.fst hfirst, ?_⟩
    show Retired k m c w (Prog.serve _ (first.2.env _) _).2
    rw [hfirst]
    exact ⟨(hapart.trans (.vmGone w₁)).trans hsecond.apart, hsecond.nothingLeft, hsecond.machine⟩
  | none =>
    have hfirst : Retired k m c w first.2 := serve_deletion_gone ext h hm hd hf hc hvm
    have hleft := hfirst.nothingLeft
    have hbetween : Retired k m c w (first.2.env (.vmGone (vmName k c))) :=
      ⟨hfirst.apart.trans (.vmGone first.2), ⟨hleft.holders, hgone _, hleft.secret, hleft.pvcs⟩,
        hfirst.machine⟩
    refine ⟨fun hne => absurd rfl hne, ?_⟩
    have hm₂ := hbetween.machine
    by_cases hlast : dropFinalizers m.finalizers = []
    · rw [if_pos hlast] at hm₂
      have hsecond : second.2 = first.2.env (.vmGone (vmName k c)) :=
        congrArg Prod.snd (serve_reconcile_gone ext hm₂)
      rw [hsecond]
      exact hbetween
    · rw [if_neg hlast] at hm₂
      refine hbetween.again hlast (serve_deletion_gone ext h' hm₂ hd hlast ?_ (hgone _))
      rw [href, ← hc, ← hbetween.apart.clusters]

end Passes

end Retirement

namespace Sample

def deletedA : HarvesterMachine where
  controlPlane := false
  finalizers := [machineFinalizer, "backup"]
  deleting := true
  spec := machineSpec
  status := { HarvesterMachineStatus.empty with
    conditions := Conditions.set ∅ "Paused" (PausedAnswer.unpaused .none).condition
    allocatedIPAddress := "10.0.0.2"
    allocatedPoolRef := "p" }

def leaving : World :=
  { world ["p"] with
    machines := (∅ : Table ObjectKey HarvesterMachine).insert keyA deletedA
    pools := (∅ : Table String IPPool).insert "p" { pool with
      status := ⟨0, "10.0.0.2", some ((∅ : Table String String).insert "10.0.0.2" keyA.id), none⟩ }
    vms := (∅ : Table NamespacedName VM).insert ⟨"target", "a"⟩
      ⟨0, ⟨none, some .always, true⟩, [], false, keyA, some ("p", "10.0.0.2")⟩
    pvcs := (∅ : Table NamespacedName ObjectKey).insert ⟨"target", "a-disk-0-abcde"⟩ keyA }

end Sample

open Sample in
theorem deletion_completes_sample :
    let first := Prog.serve (undisturbed keyA (answers fun _ => .none)) leaving (reconcile ext keyA)
    let second := Prog.serve (undisturbed keyA (answers fun _ => .none))
      (first.2.env (.vmGone ⟨"target", "a"⟩)) (reconcile ext keyA)
    leaving.holder "p" "10.0.0.2" = some keyA.id ∧ first.1 = (.after requeueDelay, none) ∧
      Retired keyA deletedA (clusterWith ["p"]) leaving second.2 := by
  have hreaches : Connected (answers fun _ => .none) ⟨keyA, some "boot", ""⟩
      ⟨clusterKey, clusterKey, some true⟩ (deletedA.status.conditions.lookup "Paused") :=
    ⟨rfl, rfl, ⟨by decide, by decide⟩, fun _ => rfl⟩
  obtain ⟨hfirst, hsecond⟩ := deletion_completes ext keyA _ _ _ _ _ _ rfl leaving deletedA
    hreaches hreaches (by decide) rfl (by decide) (clusterWith ["p"]) (by decide)
  exact ⟨by decide, hfirst (by decide), hsecond⟩

end Caphv.Machine
