import Caphv.MachineConformance

namespace Caphv.Machine

section Effects

variable (ext : Externals) (k : ObjectKey) (w : World) (v : View)

/-- Everything a request of machine `k` can do that the guard allows: the request, its
response, the world and the view after it. -/
inductive Effect : (r : Req) → Resp r → World → View → Prop where
  /-- A read that is not recorded, or a write that failed. -/
  | unchanged {r : Req} {x : Resp r} : Effect r x w v
  | readMachine {m : HarvesterMachine} (stored : w.machines.lookup k = some m)
      (first : v.machine = none) :
      Effect .getMachine (.ok m) w { v with machine := some m }
  | readCluster {ck : ObjectKey} {c : HarvesterCluster} (machine : v.machine ≠ none)
      (stored : w.clusters.lookup ck = some c) :
      Effect (.getHarvesterCluster ck) (.ok c) w { v with cluster := some (ck, c) }
  | readPool {n : String} {p : IPPool} (guard : Guard ext k v (.getPool n)) (named : n ≠ "")
      (stored : w.pools.lookup n = some p) :
      Effect (.getPool n) (.ok p) w { v with pool := some (n, p) }
  | readPoolFailed {n : String} {e : ApiError} (guard : Guard ext k v (.getPool n)) :
      Effect (.getPool n) (.error e) w { v with pool := none, poolFailed := true }
  | allocate {n ip : String} {p p' stored : IPPool} {m : HarvesterMachine} {ck : ObjectKey}
      {c : HarvesterCluster} {x : Except ApiError Unit}
      (allocates : Allocates ext k v n p' m ck c p ip) (lookup : w.pools.lookup n = some stored)
      (version : stored.resourceVersion = p'.resourceVersion) :
      Effect (.updatePool n p') x
        (w.setPool n p'.stored)
        (v.next (.updatePool n p') x)
  | release {n : String} {ip : Net.IP} {p p' stored : IPPool} {m : HarvesterMachine}
      {ck : ObjectKey} {c : HarvesterCluster} {x : Except ApiError Unit}
      (releases : Releases v n p' m ck c p ip) (lookup : w.pools.lookup n = some stored)
      (version : stored.resourceVersion = p'.resourceVersion) :
      Effect (.updatePool n p') x
        (w.setPool n p'.stored)
        (v.next (.updatePool n p') x)
  | updatePoolFailed {n : String} {p' : IPPool} {e : ApiError}
      (guard : Guard ext k v (.updatePool n p')) :
      Effect (.updatePool n p') (.error e) w { v with pool := none, poolFailed := true }
  | readVM {n : NamespacedName} {x : Except ApiError VM} {absent : Bool} {ck : ObjectKey}
      {c : HarvesterCluster} (cluster : v.cluster = some (ck, c)) (name : n = vmName k c)
      (missing : absent = true → w.vms.lookup n = none) :
      Effect (.getVM n) x w { v with vmAbsent := absent }
  | createVM {n : NamespacedName} {disks : List PVCTemplate} {st : HarvesterMachineStatus}
      {x : Except ApiError Unit} {m : HarvesterMachine} {ck : ObjectKey} {c : HarvesterCluster}
      {vm : VM} (phase : v.Normal m ck c) (name : n = vmName k c)
      (owned : ∀ d ∈ disks, IsDiskOf k c d) (records : v.Records k m st)
      (missing : w.vms.lookup n = none) (creator : vm.creator = k) (made : vm.disks = disks)
      (allocation : vm.allocation = st.allocation) :
      Effect (.createVM n disks st) x ({ w with nextUID := w.nextUID + 1 }.setVM n vm) v
  | deleteVM {n : NamespacedName} {x : Except ApiError Unit} {m : HarvesterMachine}
      {ck : ObjectKey} {c : HarvesterCluster} {vm : VM} (phase : v.Deleting m ck c)
      (name : n = vmName k c) (stored : w.vms.lookup n = some vm) :
      Effect (.deleteVM n) x (w.setVM n { vm with deleting := true }) v
  | createSecret {n : NamespacedName} {d : CloudInitSecret} {x : Except ApiError Unit}
      {m : HarvesterMachine} {ck : ObjectKey} {c : HarvesterCluster} (phase : v.Normal m ck c)
      (name : n = secretName k c) : Effect (.createSecret n d) x (w.setSecret n ⟨d, k⟩) v
  | updateSecret {n : NamespacedName} {d : CloudInitSecret} {x : Except ApiError Unit}
      {m : HarvesterMachine} {ck : ObjectKey} {c : HarvesterCluster} {s : StoredSecret}
      (phase : v.Normal m ck c) (name : n = secretName k c)
      (stored : w.secrets.lookup n = some s) :
      Effect (.updateSecret n d) x (w.setSecret n { s with data := d }) v
  | deleteSecret {n : NamespacedName} {x : Except ApiError Unit} {m : HarvesterMachine}
      {ck : ObjectKey} {c : HarvesterCluster} {absent : Bool} (phase : v.Deleting m ck c)
      (name : n = secretName k c) :
      Effect (.deleteSecret n) x { w with secrets := w.secrets.erase n }
        { v with secretAbsent := absent }
  | deleteSecretFailed {n : NamespacedName} {e : ApiError} :
      Effect (.deleteSecret n) (.error e) w { v with secretAbsent := false }
  | listPVCs {ns : String} {x : Except ApiError (List String)} {m : HarvesterMachine}
      {ck : ObjectKey} {c : HarvesterCluster} (phase : v.Deleting m ck c)
      (absent : v.vmAbsent = true) (name : ns = c.spec.targetNamespace)
      (listed : ∀ names, x = .ok names → names = w.listPVCs ns) :
      Effect (.listPVCs ns) x w { v with listed := some x, attempted := [] }
  | deletePVC {n : NamespacedName} {x : Except ApiError Unit} {m : HarvesterMachine}
      {ck : ObjectKey} {c : HarvesterCluster} (phase : v.Deleting m ck c)
      (absent : v.vmAbsent = true) (name : n.ns = c.spec.targetNamespace) :
      Effect (.deletePVC n) x { w with pvcs := w.pvcs.erase n }
        { v with attempted := n.name :: v.attempted }
  | deletePVCFailed {n : NamespacedName} {e : ApiError} {m : HarvesterMachine}
      {ck : ObjectKey} {c : HarvesterCluster} (phase : v.Deleting m ck c)
      (absent : v.vmAbsent = true) (kept : e.isNotFound = false) :
      Effect (.deletePVC n) (.error e) w { v with attempted := n.name :: v.attempted }
  | patchClusterStatus {ck : ObjectKey} {cs : Conditions} {x : Except ApiError Unit}
      {c : HarvesterCluster} (stored : w.clusters.lookup ck = some c) :
      Effect (.patchClusterStatus ck cs) x
        (w.setCluster ck { c with status := { c.status with conditions := cs } }) v
  /-- The patch of the conditions, or that of the check for the pause. -/
  | patchConditions {r : Req} {x : Resp r} {cs : Conditions} {m : HarvesterMachine}
      (stored : w.machines.lookup k = some m) :
      Effect r x (w.setMachine k { m with status := { m.status with conditions := cs } }) v
  | patchObject {p : ObjectPatch} {x : Except ApiError Unit} {m m' m₀ : HarvesterMachine}
      {ck : ObjectKey} {c : HarvesterCluster} (machine : v.machine = some m)
      (unpatched : v.patched = false) (change : p = .between m m')
      (finalizers : v.FinalizerStep k m ck c m'.finalizers)
      (stored : w.machines.lookup k = some m₀)
      (kept : m₀.deleting = true → (p.apply m₀).finalizers ≠ []) :
      Effect (.patchObject p) x (w.setMachine k (p.apply m₀)) { v with patched := true }
  | patchObjectLast {p : ObjectPatch} {x : Except ApiError Unit} {m m' m₀ : HarvesterMachine}
      {ck : ObjectKey} {c : HarvesterCluster} (machine : v.machine = some m)
      (unpatched : v.patched = false) (change : p = .between m m')
      (finalizers : v.FinalizerStep k m ck c m'.finalizers)
      (stored : w.machines.lookup k = some m₀) (deleting : m₀.deleting = true)
      (last : (p.apply m₀).finalizers = []) :
      Effect (.patchObject p) x { w with machines := w.machines.erase k }
        { v with patched := true }
  | patchFailed {r : Req} {x : Resp r} : Effect r x w { v with patched := true }
  | patchStatus {p : StatusPatch} {x : Except ApiError Unit} {m m₀ : HarvesterMachine}
      {st : HarvesterMachineStatus} (machine : v.machine = some m)
      (change : p = .between m.status st) (records : v.Records k m st)
      (stored : w.machines.lookup k = some m₀) :
      Effect (.patchStatus p) x (w.setMachine k { m₀ with status := p.apply m₀.status })
        { v with patched := true }

end Effects

/-- A write took effect, with its response possibly lost, or it failed and changed nothing. -/
theorem writeUnder_rule {w : World} {f : Fault} {k : ObjectKey} {r : Req}
    {E : Except ApiError Unit → World → Prop}
    (hok : ∀ x w', w.write k r = .ok w' → E x w')
    (herr : ∀ e, (e.isNotFound = true → w.write k r = .error .notFound) → E (.error e) w) :
    E (w.writeUnder f k r).1 (w.writeUnder f k r).2 := by
  refine Fault.write_rule (fun x a w' hout _ => hok x w' ?_) fun e hnf => herr e fun he => ?_
  · cases hw : w.write k r with
    | ok w'' =>
      rw [hw] at hout
      cases hout
      rfl
    | error e =>
      rw [hw] at hout
      cases hout
  · have hout := hnf he
    cases hw : w.write k r with
    | ok w'' =>
      rw [hw] at hout
      cases hout
    | error e =>
      rw [hw] at hout
      cases hout
      rfl

def Req.isWrite : Req → Bool
  | .patchClusterStatus _ _ => true
  | .patchConditions _ _ => true
  | .patchObject _ => true
  | .patchStatus _ => true
  | .updatePool _ _ => true
  | .createVM _ _ _ => true
  | .deleteVM _ => true
  | .createSecret _ _ => true
  | .updateSecret _ _ => true
  | .deleteSecret _ => true
  | .deletePVC _ => true
  | _ => false

section Exec

variable {ext : Externals} {k : ObjectKey} {w : World} {v : View}

theorem effect_getPool {n : String} (f : Fault) (hg : Guard ext k v (.getPool n)) :
    Effect ext k w v (.getPool n) (exec k (.getPool n) f w).1 w
      (v.next (.getPool n) (exec k (.getPool n) f w).1) := by
  show Effect ext k w v (.getPool n) (f.reply (w.getPool n)) w
    (v.next (.getPool n) (f.reply (w.getPool n)))
  cases hx : f.reply (w.getPool n) with
  | error e => exact .readPoolFailed hg
  | ok p =>
    have hp := Fault.reply_eq_ok hx
    unfold World.getPool at hp
    split_ifs at hp with hn
    exact .readPool hg hn (found_eq_ok hp)

theorem effect_getVM {n : NamespacedName} (f : Fault) (hg : Guard ext k v (.getVM n)) :
    Effect ext k w v (.getVM n) (exec k (.getVM n) f w).1 w
      (v.next (.getVM n) (exec k (.getVM n) f w).1) := by
  obtain ⟨ck, c, hc, hn⟩ := hg
  show Effect ext k w v (.getVM n) (f.reply (found (w.vms.lookup n))) w
    (v.next (.getVM n) (f.reply (found (w.vms.lookup n))))
  cases hx : f.reply (found (w.vms.lookup n)) with
  | error e =>
    exact .readVM hc hn fun he => found_eq_notFound (Fault.isNotFound_of_reply hx he)
  | ok vm => exact .readVM hc hn nofun

theorem effect_updatePool {n : String} {p' : IPPool} {x : Except ApiError Unit} {w' : World}
    (hg : Guard ext k v (.updatePool n p')) (hw : w.updatePool n p' = .ok w') :
    Effect ext k w v (.updatePool n p') x w' (v.next (.updatePool n p') x) := by
  unfold World.updatePool at hw
  split at hw
  · cases hw
  · rename_i stored hs
    split_ifs at hw with hv
    cases hw
    rcases hg with ⟨m, ck, c, p, ip, ha⟩ | ⟨m, ck, c, p, ip, hr⟩
    · exact .allocate ha hs hv
    · exact .release hr hs hv

theorem effect_createVM {n : NamespacedName} {disks : List PVCTemplate}
    {st : HarvesterMachineStatus} {x : Except ApiError Unit} {w' : World}
    (hg : Guard ext k v (.createVM n disks st)) (hw : w.createVM k n disks st = .ok w') :
    Effect ext k w v (.createVM n disks st) x w' v := by
  obtain ⟨m, ck, c, hphase, hn, hdisks, hrec⟩ := hg
  unfold World.createVM at hw
  split_ifs at hw with hfree
  cases hw
  exact .createVM hphase hn hdisks hrec (by simpa using hfree) rfl rfl rfl

theorem effect_patchObject {p : ObjectPatch} {x : Except ApiError Unit} {w' : World}
    (hg : Guard ext k v (.patchObject p)) (hw : w.patchObject k p = .ok w') :
    Effect ext k w v (.patchObject p) x w' { v with patched := true } := by
  obtain ⟨m, m', ck, c, hm, hu, hp, hfin⟩ := hg
  unfold World.patchObject at hw
  split at hw
  · cases hw
  · rename_i m₀ hs
    dsimp only at hw
    split_ifs at hw with _ hlast
    · cases hw
      exact .patchObjectLast hm hu hp hfin hs hlast.1 hlast.2
    · cases hw
      exact .patchObject hm hu hp hfin hs fun hd hf => hlast ⟨hd, hf⟩

theorem effect_write {r : Req} {x : Resp r} {w' : World} (hr : r.isWrite = true)
    (hg : Guard ext k v r) (hw : w.write k r = .ok w') :
    Effect ext k w v r x w' (v.next r x) := by
  cases r with
  | updatePool n p => exact effect_updatePool hg hw
  | createVM n disks st => exact effect_createVM hg hw
  | patchObject p => exact effect_patchObject hg hw
  | patchClusterStatus ck cs =>
    simp only [World.write, World.patchClusterStatus] at hw
    split at hw
    · cases hw
    · cases hw
      exact .patchClusterStatus ‹_›
  | patchConditions b a =>
    simp only [World.write, World.patchConditions] at hw
    split at hw
    · cases hw
    · split at hw
      · cases hw
      · cases hw
        exact .patchConditions ‹_›
  | patchStatus p =>
    obtain ⟨m, st, hm, hp, hrec⟩ := hg
    simp only [World.write, World.patchStatus] at hw
    split at hw
    · cases hw
    · cases hw
      exact .patchStatus hm hp hrec ‹_›
  | deleteVM n =>
    obtain ⟨m, ck, c, hphase, hn⟩ := hg
    simp only [World.write, World.deleteVM] at hw
    split at hw
    · cases hw
    · cases hw
      exact .deleteVM hphase hn ‹_›
  | createSecret n d =>
    obtain ⟨m, ck, c, hphase, hn⟩ := hg
    simp only [World.write, World.createSecret] at hw
    split_ifs at hw
    cases hw
    exact .createSecret hphase hn
  | updateSecret n d =>
    obtain ⟨m, ck, c, hphase, hn⟩ := hg
    simp only [World.write, World.updateSecret] at hw
    split at hw
    · cases hw
    · cases hw
      exact .updateSecret hphase hn ‹_›
  | deleteSecret n =>
    obtain ⟨m, ck, c, hphase, hn⟩ := hg
    simp only [World.write, World.deleteSecret] at hw
    split at hw
    · cases hw
    · cases hw
      exact .deleteSecret hphase hn
  | deletePVC n =>
    obtain ⟨m, ck, c, hphase, hvm, hn, -⟩ := hg
    simp only [World.write, World.deletePVC] at hw
    split at hw
    · cases hw
    · cases hw
      exact .deletePVC hphase hvm hn
  | _ => cases hr

/-- An object that the server does not have is already deleted. -/
theorem effect_deleteSecret_error {n : NamespacedName} {e : ApiError}
    (hg : Guard ext k v (.deleteSecret n))
    (hnf : e.isNotFound = true → w.write k (.deleteSecret n) = .error .notFound) :
    Effect ext k w v (.deleteSecret n) (.error e) w
      (v.next (.deleteSecret n) (.error e)) := by
  obtain ⟨m, ck, c, hphase, hn⟩ := hg
  cases he : e.isNotFound with
  | false =>
    show Effect ext k w v _ _ w { v with secretAbsent := e.isNotFound }
    rw [he]
    exact .deleteSecretFailed
  | true =>
    have hw : w.secrets.lookup n = none := by
      have := hnf he
      simp only [World.write, World.deleteSecret] at this
      split at this
      · assumption
      · cases this
    have h : Effect ext k w v (.deleteSecret n) (.error e)
        { w with secrets := w.secrets.erase n } { v with secretAbsent := e.isNotFound } :=
      .deleteSecret hphase hn
    rwa [Table.erase_of_lookup_none hw] at h

theorem effect_deletePVC_error {n : NamespacedName} {e : ApiError}
    (hg : Guard ext k v (.deletePVC n))
    (hnf : e.isNotFound = true → w.write k (.deletePVC n) = .error .notFound) :
    Effect ext k w v (.deletePVC n) (.error e) w (v.next (.deletePVC n) (.error e)) := by
  obtain ⟨m, ck, c, hphase, hvm, hn, -⟩ := hg
  cases he : e.isNotFound with
  | false => exact .deletePVCFailed hphase hvm he
  | true =>
    have hw : w.pvcs.lookup n = none := by
      have := hnf he
      simp only [World.write, World.deletePVC] at this
      split at this
      · assumption
      · cases this
    have h : Effect ext k w v (.deletePVC n) (.error e)
        { w with pvcs := w.pvcs.erase n } { v with attempted := n.name :: v.attempted } :=
      .deletePVC hphase hvm hn
    rwa [Table.erase_of_lookup_none hw] at h

/-- The check for the pause leaves the world, or writes the condition of the stored machine. -/
theorem ensurePaused_rule {recorded : Option Condition} {a : PausedAnswer} {E : World → Prop}
    (hsame : E w) (hmark : ∀ m, w.machines.lookup k = some m →
      E (w.setMachine k (m.markPaused a.condition))) :
    E (ensurePaused recorded a w (w.patchPaused k)).2 := by
  refine ensurePaused_write_rule hsame fun w' hout => ?_
  unfold World.patchPaused at hout
  split at hout
  · cases hout
  · cases hout
    exact hmark _ ‹_›

/-- The inversion of one request: whatever the fault, it has one of the effects. -/
theorem exec_effect (r : Req) (a : Answer r) (hg : Guard ext k v r) :
    Effect ext k w v r (exec k r a w).1 (exec k r a w).2 (v.next r (exec k r a w).1) := by
  cases r with
  | getMachine =>
    show Effect ext k w v .getMachine (Fault.reply a (found (w.machines.lookup k))) w
      (v.next .getMachine (Fault.reply a (found (w.machines.lookup k))))
    cases hx : Fault.reply a (found (w.machines.lookup k)) with
    | error e => exact .unchanged
    | ok m => exact .readMachine (found_eq_ok (Fault.reply_eq_ok hx)) hg
  | getHarvesterCluster ck =>
    show Effect ext k w v (.getHarvesterCluster ck) (Fault.reply a (found (w.clusters.lookup ck)))
      w (v.next (.getHarvesterCluster ck) (Fault.reply a (found (w.clusters.lookup ck))))
    cases hx : Fault.reply a (found (w.clusters.lookup ck)) with
    | error e => exact .unchanged
    | ok c => exact .readCluster hg (found_eq_ok (Fault.reply_eq_ok hx))
  | getPool n => exact effect_getPool a hg
  | getVM n => exact effect_getVM a hg
  | listPVCs ns =>
    obtain ⟨m, ck, c, hphase, hvm, hns⟩ := hg
    refine .listPVCs hphase hvm hns fun names hx => ?_
    exact (Except.ok.inj (Fault.reply_eq_ok hx)).symm
  | updatePool n p =>
    exact writeUnder_rule (E := fun x w' => Effect ext k w v (.updatePool n p) x w'
      (v.next (.updatePool n p) x)) (fun _ _ hw => effect_write rfl hg hw)
      fun _ _ => .updatePoolFailed hg
  | patchObject p =>
    exact writeUnder_rule (E := fun x w' => Effect ext k w v (.patchObject p) x w'
      (v.next (.patchObject p) x)) (fun _ _ hw => effect_write rfl hg hw)
      fun _ _ => .patchFailed
  | patchStatus p =>
    exact writeUnder_rule (E := fun x w' => Effect ext k w v (.patchStatus p) x w'
      (v.next (.patchStatus p) x)) (fun _ _ hw => effect_write rfl hg hw)
      fun _ _ => .patchFailed
  | deleteSecret n =>
    exact writeUnder_rule (E := fun x w' => Effect ext k w v (.deleteSecret n) x w'
      (v.next (.deleteSecret n) x)) (fun _ _ hw => effect_write rfl hg hw)
      fun _ hnf => effect_deleteSecret_error hg hnf
  | deletePVC n =>
    exact writeUnder_rule (E := fun x w' => Effect ext k w v (.deletePVC n) x w'
      (v.next (.deletePVC n) x)) (fun _ _ hw => effect_write rfl hg hw)
      fun _ hnf => effect_deletePVC_error hg hnf
  | patchClusterStatus ck cs =>
    exact writeUnder_rule (E := fun x w' => Effect ext k w v (.patchClusterStatus ck cs) x w' v)
      (fun _ _ hw => effect_write rfl hg hw) fun _ _ => .unchanged
  | patchConditions b c =>
    exact writeUnder_rule (E := fun x w' => Effect ext k w v (.patchConditions b c) x w' v)
      (fun _ _ hw => effect_write rfl hg hw) fun _ _ => .unchanged
  | createVM n disks st =>
    exact writeUnder_rule (E := fun x w' => Effect ext k w v (.createVM n disks st) x w' v)
      (fun _ _ hw => effect_write rfl hg hw) fun _ _ => .unchanged
  | deleteVM n =>
    exact writeUnder_rule (E := fun x w' => Effect ext k w v (.deleteVM n) x w' v)
      (fun _ _ hw => effect_write rfl hg hw) fun _ _ => .unchanged
  | createSecret n d =>
    exact writeUnder_rule (E := fun x w' => Effect ext k w v (.createSecret n d) x w' v)
      (fun _ _ hw => effect_write rfl hg hw) fun _ _ => .unchanged
  | updateSecret n d =>
    exact writeUnder_rule (E := fun x w' => Effect ext k w v (.updateSecret n d) x w' v)
      (fun _ _ hw => effect_write rfl hg hw) fun _ _ => .unchanged
  | ensurePausedCondition o recorded =>
    exact ensurePaused_rule (E := fun w' => Effect ext k w v (.ensurePausedCondition o recorded) _
      w' v) .unchanged fun _ hs => .patchConditions hs
  | _ => exact .unchanged

end Exec

/-- Everything that can happen between two requests. -/
inductive EnvEffect (w : World) : World → Prop where
  | unchanged : EnvEffect w w
  | createMachine {k : ObjectKey} {controlPlane : Bool} {finalizers : List String}
      {spec : HarvesterMachineSpec} (absent : w.machines.lookup k = none) :
      EnvEffect w (w.setMachine k ⟨controlPlane, finalizers, false, spec, .empty⟩)
  | editMachine {k : ObjectKey} {spec : HarvesterMachineSpec} {m : HarvesterMachine}
      (stored : w.machines.lookup k = some m) :
      EnvEffect w (w.setMachine k { m with spec := spec })
  | eraseMachine {k : ObjectKey} {m : HarvesterMachine} (stored : w.machines.lookup k = some m)
      (free : m.finalizers = []) : EnvEffect w { w with machines := w.machines.erase k }
  | markMachine {k : ObjectKey} {m : HarvesterMachine} (stored : w.machines.lookup k = some m)
      (held : m.finalizers ≠ []) : EnvEffect w (w.setMachine k { m with deleting := true })
  | putCluster {ck : ObjectKey} {c : HarvesterCluster} : EnvEffect w (w.setCluster ck c)
  | setVMState {n : NamespacedName} {state : VMRunState} {vm : VM}
      (stored : w.vms.lookup n = some vm) : EnvEffect w (w.setVM n { vm with state := state })
  | vmGone {n : NamespacedName} : EnvEffect w { w with vms := w.vms.erase n }
  | createClaim {n : NamespacedName} {disk : PVCTemplate} {vm : VM}
      (stored : w.vms.lookup n = some vm) (disk_mem : disk ∈ vm.disks) :
      EnvEffect w { w with pvcs := w.pvcs.insert ⟨disk.ns, disk.name⟩ vm.creator }
  | pool {n : String} {p p' : IPPool} (stored : w.pools.lookup n = some p)
      (version : p.resourceVersion ≤ p'.resourceVersion)
      (holders : ∀ x, p'.status.holder x = p.status.holder x) : EnvEffect w (w.setPool n p')

theorem holder_promoteEntry (st : IPPoolStatus) (h : Option (Table String String)) (a x : String) :
    ({ st with
        allocated := promoteEntry st.allocated a
        allocatedHistory := h } : IPPoolStatus).holder x = st.holder x := by
  unfold promoteEntry IPPoolStatus.holder
  cases st.allocated with
  | none => rfl
  | some t =>
    simp only [Option.map_some, Table.ofNil_some]
    cases ht : t.lookup a with
    | none => rfl
    | some id =>
      rw [Table.lookup_insert_eq]
      split_ifs with hx
      · rw [hx, ht]
      · rfl

theorem env_effect (w : World) (e : Env) : EnvEffect w (w.env e) := by
  cases e with
  | createMachine k controlPlane finalizers spec =>
    simp only [World.env]
    split_ifs with h
    · exact .unchanged
    · exact .createMachine (by simpa using h)
  | editMachine k spec =>
    simp only [World.env]
    split
    · exact .unchanged
    · exact .editMachine ‹_›
  | deleteMachine k =>
    simp only [World.env]
    split
    · exact .unchanged
    · split_ifs with hf
      · exact .eraseMachine ‹_› hf
      · exact .markMachine ‹_› hf
  | putCluster ck c => exact .putCluster
  | setVMState n state =>
    simp only [World.env]
    split
    · exact .unchanged
    · exact .setVMState ‹_›
  | vmGone n => exact .vmGone
  | createClaim n disk =>
    simp only [World.env]
    split
    · exact .unchanged
    · split_ifs with hd
      · exact .createClaim ‹_› hd
      · exact .unchanged
  | editPool n selectorNetwork ranges =>
    simp only [World.env]
    split
    · exact .unchanged
    · exact .pool ‹_› (Nat.le_succ _) fun _ => rfl
  | promote n address =>
    simp only [World.env]
    split
    · exact .unchanged
    · rename_i p hp
      exact .pool (p := p) hp le_rfl fun x => holder_promoteEntry p.status _ address x

/-- A step of the system: a request of one machine, or a move of the environment (which may be
none at all). -/
theorem step_effect {ext : Externals} {t : MachineState}
    (h : (system ext).Conforms (contract ext) t)
    (a : MachineAction) :
    EnvEffect t.world ((system ext).step t a).world ∨
      ∃ k ans r x v', a = .exec k ans ∧
        Effect ext k t.world (t.view k) r x ((system ext).step t a).world v' := by
  cases a with
  | start k =>
    left
    cases hk : t.pass k with
    | ret u =>
      simp only [Controller.step, hk]
      exact .unchanged
    | call r f =>
      simp only [Controller.step, hk]
      exact .unchanged
  | env e => exact Or.inl (env_effect t.world e)
  | exec k ans =>
    cases hk : t.pass k with
    | ret u =>
      simp only [Controller.step, hk]
      exact Or.inl .unchanged
    | call r f =>
      simp only [Controller.step, hk]
      exact Or.inr ⟨k, ans, r, _, _, rfl, exec_effect r (ans r) (h.issue hk)⟩

end Caphv.Machine
