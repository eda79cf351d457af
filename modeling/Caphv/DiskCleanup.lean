import Caphv.FinalizerSafety

namespace Caphv.Machine

/-- The response to a call of `deletePVCsByPrefix` leaves nothing undone: the list came back,
the claim is gone. -/
def claimCallOk : (r : Req) → Resp r → Bool
  | .listPVCs _, .error _ => false
  | .deletePVC _, x => gone x
  | _, _ => true

/-- No List or Delete of claims fails in a pass of machine `k`. -/
def ClaimCallsSucceed (k : ObjectKey) (w : World) (_ : ObjectKey → View) : MachineEvent → Prop
  | .issue j r a => j = k → claimCallOk r (exec j r a w).1 = true
  | .env _ => True

instance (k : ObjectKey) (w : World) (v : ObjectKey → View) :
    DecidablePred (ClaimCallsSucceed k w v) := fun e => by
  unfold ClaimCallsSucceed
  casesm MachineEvent <;> infer_instance

section Cleared

variable {P : ObjectKey → String → Prop} {ext : Externals} {k j : ObjectKey} {w w' : World}
  {v : ObjectKey → View} {v' : View}

/-- After a deletion has listed the claims, what is left of the machine's own is on the list
and not yet deleted; no new one appears, since the VM is gone. -/
structure Cleared (k : ObjectKey) (w : World) (u : View) : Prop where
  listed : ∀ e, u.listed ≠ some (.error e)
  swept : ∀ names, u.listed = some (.ok names) → u.Retiring →
    (∀ n vm, w.vms.lookup n = some vm → vm.creator ≠ k) ∧
      ∀ n, w.pvcs.lookup n = some k → n.name ∈ names ∧ n.name ∉ u.attempted

theorem Cleared.fresh {u : View} (_ : Cleared k w u) : Cleared k w .fresh := by
  refine ⟨fun e he => ?_, fun names hn => ?_⟩
  · cases he
  · cases hn

/-- A request that is not about claims. -/
theorem Cleared.of_same {u u' : View} {r : Req} {x : Resp r} (h : Cleared k w u)
    (he : Effect ext k w u r x w' u') (hl : u'.listed = u.listed)
    (ha : u'.attempted = u.attempted) : Cleared k w' u' := by
  refine ⟨fun e => hl ▸ h.listed e, fun names hn hr => ?_⟩
  obtain ⟨hvm, hpvc⟩ := h.swept names (hl ▸ hn) (he.retiring_origin hr)
  refine ⟨fun n vm hs hk => ?_, fun n hs => ha ▸ hpvc n (he.pvc_origin hs)⟩
  rcases he.vm_origin hs with ⟨vm₀, hs₀, hcont⟩ | ⟨m, ck, c, st, hnew⟩
  · exact hvm n vm₀ hs₀ (hcont.creator ▸ hk)
  · exact hnew.phase.not_retiring (he.retiring_origin hr)

/-- The claims of a machine are all in its target namespace. -/
theorem Placed.pvc_ns (h : Placed P w v) (hP : ∀ t t', P k t → P k t' → t = t') {ck : ObjectKey}
    {c : HarvesterCluster} (hc : (v k).cluster = some (ck, c)) {n : NamespacedName}
    (hs : w.pvcs.lookup n = some k) : n.ns = c.spec.targetNamespace :=
  hP _ _ (h.pvc n k hs).1 (h.cluster k ck c hc)

theorem mem_listPVCs {n : NamespacedName} (hs : w.pvcs.lookup n = some k) :
    n.name ∈ w.listPVCs n.ns := by
  have hn : n ∈ w.pvcs.keys := AList.mem_keys.mpr (AList.lookup_isSome.mp (by rw [hs]; rfl))
  exact List.mem_map.mpr ⟨n, List.mem_filter.mpr ⟨hn, by simp⟩, rfl⟩

theorem Cleared.effect {r : Req} {x : Resp r} (h : Cleared k w (v k)) (hplaced : Placed P w v)
    (hP : ∀ t t', P k t → P k t' → t = t') (hsh : Shielded k w (v k))
    (hok : claimCallOk r x = true) (he : Effect ext k w (v k) r x w' v') : Cleared k w' v' := by
  have hsame := fun hl ha => h.of_same he hl ha
  cases he with
  | @listPVCs ns x m ck c hphase habs hns hx =>
    refine ⟨fun e hl => ?_, fun names hl hr => ⟨hsh.noVM habs hr, fun n hs => ?_⟩⟩
    · cases hl
      cases hok
    · have hn := mem_listPVCs hs
      rw [hplaced.pvc_ns hP hphase.cluster hs, ← hns, ← hx names (Option.some.inj hl)] at hn
      exact ⟨hn, List.not_mem_nil⟩
  | @deletePVC n x m ck c hphase habs hns =>
    refine ⟨h.listed, fun names hl hr => ?_⟩
    obtain ⟨hvm, hpvc⟩ := h.swept names hl hr
    refine ⟨hvm, fun n' hs => ?_⟩
    rw [Table.lookup_erase_eq] at hs
    split_ifs at hs with hne
    obtain ⟨hmem, hnot⟩ := hpvc n' hs
    refine ⟨hmem, fun hatt => ?_⟩
    rcases List.mem_cons.mp hatt with heq | hatt
    · have hns' := hplaced.pvc_ns hP hphase.cluster hs
      apply hne
      rw [NamespacedName.mk.injEq]
      exact ⟨hns'.trans hns.symm, heq⟩
    · exact hnot hatt
  | @deletePVCFailed n e m ck c hphase habs hkept =>
    have hgone : e.isNotFound = true := hok
    rw [hkept] at hgone
    cases hgone
  | @allocate _ _ _ _ _ _ _ _ x _ _ _ => cases x <;> exact hsame rfl rfl
  | @release _ _ _ _ _ _ _ _ x _ _ _ => cases x <;> exact hsame rfl rfl
  | _ => exact hsame rfl rfl

theorem Cleared.effect_ne {u : View} {r : Req} {x : Resp r} (h : Cleared k w u) (hj : j ≠ k)
    (he : Effect ext j w (v j) r x w' v') : Cleared k w' u := by
  refine ⟨h.listed, fun names hn hr => ?_⟩
  obtain ⟨hvm, hpvc⟩ := h.swept names hn hr
  refine ⟨fun n vm hs hk => ?_, fun n hs => hpvc n (he.pvc_origin hs)⟩
  rcases he.vm_origin hs with ⟨vm₀, hs₀, hcont⟩ | ⟨m, ck, c, st, hnew⟩
  · exact hvm n vm₀ hs₀ (hcont.creator ▸ hk)
  · exact hj (hnew.creator.symm.trans hk)

theorem Cleared.envEffect {u : View} (h : Cleared k w u) (he : EnvEffect w w') :
    Cleared k w' u := by
  refine ⟨h.listed, fun names hn hr => ?_⟩
  obtain ⟨hvm, hpvc⟩ := h.swept names hn hr
  refine ⟨fun n vm hs hk => ?_, fun n hs => ?_⟩
  · obtain ⟨vm₀, hs₀, hcont⟩ := he.vm_origin hs
    exact hvm n vm₀ hs₀ (hcont.creator ▸ hk)
  · rcases he.pvc_origin hs with hs | ⟨a, vm, hs, hk, -⟩
    · exact hpvc n hs
    · exact absurd hk (hvm a vm hs)

theorem Starts.cleared {s : MachineState} (h : Starts s) (k : ObjectKey) :
    Cleared k s.world (s.view k) := by
  rw [h.unseen k]
  refine ⟨fun e he => ?_, fun names hn => ?_⟩
  · cases he
  · cases hn

theorem cleared_preserves (ext : Externals) (hP : ∀ t t', P k t → P k t' → t = t') :
    (system ext).Preserves (contract ext)
      (fun w v e => TargetsIn P w v e ∧ ClaimCallsSucceed k w v e)
      (fun w v => ShieldInv P k w v ∧ Cleared k w (v k)) := by
  refine preserves_of_effects (fun _ h => ⟨h.1.fresh, update_rule (fun _ => h.2.fresh)
    fun _ => h.2⟩) (fun _ he hok h => ⟨h.1.effect hP hok.1 he, update_rule (fun hj => ?_)
      fun hj => h.2.effect_ne (Ne.symm hj) he⟩) fun _ he _ h => ⟨h.1.envEffect he, h.2.envEffect he⟩
  subst hj
  exact h.2.effect h.1.2.1 hP h.1.2.2 (hok.2 rfl) he

/-- The claims of a machine carry its prefix. -/
theorem isPrefixOf_pvcName (machineName : String) (i : ℕ) (randomID : String) :
    (diskPrefix machineName).toList.isPrefixOf (pvcName machineName i randomID).toList = true := by
  simp [pvcName, List.append_assoc]

/-- In every run in which machine `k` keeps its target namespace and no List or Delete of
claims fails in its passes, no claim of the machine is left when its finalizer goes. -/
theorem no_disk_left (ext : Externals) (k : ObjectKey) (ns : String) (s : MachineState)
    (hs : Starts s) (acts : List MachineAction)
    (hok : (system ext).Admissible (fun w v e => TargetsIn (fun j t => j = k → t = ns) w v e ∧
      ClaimCallsSucceed k w v e) s acts) (a : MachineAction) :
    let t := (system ext).run s acts
    Protected t.world k → ¬ Protected ((system ext).step t a).world k →
      ∀ n, ((system ext).step t a).world.pvcs.lookup n ≠ some k := by
  intro t hp hn n hlook
  have hP : ∀ t t', (k = k → t = ns) → (k = k → t' = ns) → t = t' :=
    fun t t' h h' => (h rfl).trans (h' rfl).symm
  obtain ⟨⟨⟨-, hplaced, -⟩, hcl⟩, hconf⟩ := (cleared_preserves ext hP).run
    (keeps_contract ext) (conforms_idle hs.idle) ⟨hs.shieldInv _ k, hs.cleared k⟩ hok
  obtain ⟨m, ck, c, machines, hd, hw⟩ := drops_of_step hconf hp hn
  rw [hw] at hlook
  obtain ⟨x, hl, htried⟩ := hd.disks
  cases x with
  | error e => exact hcl.listed e hl
  | ok names =>
    obtain ⟨-, hpvc⟩ := hcl.swept names hl hd.phase.retiring
    obtain ⟨hmem, hnot⟩ := hpvc n hlook
    obtain ⟨-, i, randomID, hname⟩ := hplaced.pvc n k hlook
    exact hnot (htried names rfl n.name hmem (hname ▸ isPrefixOf_pvcName _ _ _))

end Cleared

namespace Sample

def untilVMGone : List MachineAction :=
  created keyA [machineFinalizer] ++ pass keyA ++
    [.env (.createClaim ⟨"target", "a"⟩ ⟨"a-disk-0-abcde", "target", "1Gi", "sc", none⟩),
      .env (.deleteMachine keyA)] ++ pass keyA ++ [.env (.vmGone ⟨"target", "a"⟩)]

def failedList : Req → Fault
  | .listPVCs _ => .reject "timeout"
  | _ => .none

def untilLastPatch : List MachineAction := untilVMGone ++ calls 12 (fun _ => .none) keyA

def untilLastPatchFailed : List MachineAction := untilVMGone ++ calls 11 failedList keyA

end Sample

open Sample in
theorem no_disk_left_sample :
    Protected ((system ext).run (start ["p"]) untilLastPatch).world keyA ∧
    ¬ Protected ((system ext).step ((system ext).run (start ["p"]) untilLastPatch)
      (.exec keyA (answers fun _ => .none))).world keyA ∧
    ∀ n, ((system ext).step ((system ext).run (start ["p"]) untilLastPatch)
      (.exec keyA (answers fun _ => .none))).world.pvcs.lookup n ≠ some keyA := by
  have hp : Protected ((system ext).run (start ["p"]) untilLastPatch).world keyA := by
    decide +kernel
  have hn : ¬ Protected ((system ext).step ((system ext).run (start ["p"]) untilLastPatch)
      (.exec keyA (answers fun _ => .none))).world keyA := by decide +kernel
  exact ⟨hp, hn, no_disk_left ext keyA "target" (start ["p"]) (starts _) untilLastPatch
    (by decide +kernel) (.exec keyA (answers fun _ => .none)) hp hn⟩

open Sample in
/-- One failed List of claims is only logged: the finalizer goes and the disk stays. -/
theorem disk_left_by_failed_list :
    let t := (system ext).run (start ["p"]) untilLastPatchFailed
    let t' := (system ext).step t (.exec keyA (answers failedList))
    Protected t.world keyA ∧ ¬ Protected t'.world keyA ∧
      t'.world.pvcs.lookup ⟨"target", pvcName "a" 0 "abcde"⟩ = some keyA := by
  decide +kernel

end Caphv.Machine
