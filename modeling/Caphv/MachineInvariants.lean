import Caphv.MachineEffects

namespace Caphv.Machine

section Lookups

variable (w : World)

theorem lookup_setMachine (k j : ObjectKey) (m : HarvesterMachine) :
    (w.setMachine k m).machines.lookup j = if j = k then some m else w.machines.lookup j :=
  Table.lookup_insert_eq w.machines k j m

theorem lookup_setMachine_self (k : ObjectKey) (m : HarvesterMachine) :
    (w.setMachine k m).machines.lookup k = some m := by
  rw [lookup_setMachine, if_pos rfl]

theorem lookup_setPool (n a : String) (p : IPPool) :
    (w.setPool n p).pools.lookup a = if a = n then some p else w.pools.lookup a :=
  Table.lookup_insert_eq w.pools n a p

theorem lookup_setVM (n a : NamespacedName) (vm : VM) :
    (w.setVM n vm).vms.lookup a = if a = n then some vm else w.vms.lookup a :=
  Table.lookup_insert_eq w.vms n a vm

theorem lookup_setSecret (n a : NamespacedName) (s : StoredSecret) :
    (w.setSecret n s).secrets.lookup a = if a = n then some s else w.secrets.lookup a :=
  Table.lookup_insert_eq w.secrets n a s

end Lookups

section Seen

variable {ext : Externals} {k j : ObjectKey} {w w' : World} {v v' : View} {m : HarvesterMachine}

/-- The machine that a pass has read is still the one that is stored: nobody else changes its
finalizers or its address, and with a finalizer on it, it cannot go away before the pass has
patched it. -/
structure MachineSeen (k : ObjectKey) (w : World) (v : View) : Prop where
  stored : ∀ m, v.machine = some m → m.finalizers ≠ [] →
    (v.patched = false ∨ m.deleting = false ∧ machineFinalizer ∈ m.finalizers) →
    ∃ m', w.machines.lookup k = some m' ∧ m'.finalizers = m.finalizers ∧
      (m.deleting = true → m'.deleting = true) ∧ v.Records k m m'.status ∧
      (v.patched = false → SameAllocation m m')
  held : ∀ m, w.machines.lookup k = some m → m.deleting = true → m.finalizers ≠ []
  read : ∀ m, v.machine = some m → m.deleting = true → m.finalizers ≠ []

theorem MachineSeen.frame (h : MachineSeen k w v) (hm : v'.machine = v.machine)
    (hp : v'.pool = v.pool) (hu : v'.patched = v.patched)
    (hw : w'.machines.lookup k = w.machines.lookup k) : MachineSeen k w' v' := by
  refine ⟨fun m hvm hf hph => ?_, fun m hwm => h.held m (hw ▸ hwm),
    fun m hvm => h.read m (hm ▸ hvm)⟩
  rw [hu] at hph ⊢
  simpa only [hw, View.Records, View.Holds, hp] using h.stored m (hm ▸ hvm) hf hph

/-- Before the patch the pool that was seen does not matter. -/
theorem MachineSeen.of_pool (h : MachineSeen k w v) (hu : v.patched = false)
    (hm : v'.machine = v.machine) (hw : w'.machines.lookup k = w.machines.lookup k) :
    MachineSeen k w' v' := by
  refine ⟨fun m hvm hf _ => ?_, fun m hwm => h.held m (hw ▸ hwm),
    fun m hvm => h.read m (hm ▸ hvm)⟩
  obtain ⟨m', hs, hfin, hd, -, hsame⟩ := h.stored m (hm ▸ hvm) hf (Or.inl hu)
  exact ⟨m', hw ▸ hs, hfin, hd, Or.inl (hsame hu), fun _ => hsame hu⟩

theorem MachineSeen.fresh (h : MachineSeen k w v) : MachineSeen k w .fresh := by
  refine ⟨fun m hm => ?_, h.held, fun m hm => ?_⟩
  · cases hm
  · cases hm

/-- A status patch leaves the stored status with one of the addresses that it may record. -/
theorem View.Records.patch {st st₀ : HarvesterMachineStatus} (h : v.Records k m st)
    (h₀ : v.Records k m st₀) :
    v.Records k m ((StatusPatch.between m.status st).apply st₀) := by
  have hip : ((StatusPatch.between m.status st).apply st₀).allocatedIPAddress =
      if m.status.allocatedIPAddress = st.allocatedIPAddress then st₀.allocatedIPAddress
      else st.allocatedIPAddress := by
    simp only [StatusPatch.apply, StatusPatch.between, changedTo]
    split_ifs <;> rfl
  have href : ((StatusPatch.between m.status st).apply st₀).allocatedPoolRef =
      if m.status.allocatedPoolRef = st.allocatedPoolRef then st₀.allocatedPoolRef
      else st.allocatedPoolRef := by
    simp only [StatusPatch.apply, StatusPatch.between, changedTo]
    split_ifs <;> rfl
  rw [View.Records, hip, href]
  rcases h with ⟨h₁, h₂⟩ | ⟨hd, hf, hun, p, hp, hh⟩
  · rw [if_pos h₁.symm, if_pos h₂.symm]
    exact h₀
  · refine Or.inr ⟨hd, hf, hun, p, ?_⟩
    rcases h₀ with ⟨h₁, h₂⟩ | ⟨-, -, -, p₀, hp₀, hh₀⟩
    · rw [h₁, h₂, ite_eq_right_iff.mpr fun h => h, ite_eq_right_iff.mpr fun h => h]
      exact ⟨hp, hh⟩
    · obtain ⟨href₀, rfl⟩ := Prod.mk.inj (Option.some.inj (hp₀.symm.trans hp))
      rw [href₀, ite_self]
      refine ⟨hp, ?_⟩
      split_ifs
      · exact hh₀
      · exact hh

/-- The finalizers after the patch of a pass that may go on using its machine. -/
theorem finalizers_of_keep {m₀ m' : HarvesterMachine} {ck : ObjectKey} {c : HarvesterCluster}
    (hstep : v.FinalizerStep k m ck c m'.finalizers) (hd : m.deleting = false)
    (hf : machineFinalizer ∈ m.finalizers) :
    ((ObjectPatch.between m m').apply m₀).finalizers = m₀.finalizers := by
  have hsame : m'.finalizers = m.finalizers := by
    generalize m'.finalizers = fs at hstep
    cases hstep with
    | keep => rfl
    | migrate _ _ hnew => exact absurd hf hnew
    | add _ _ hnew => exact absurd hf hnew
    | drop hdel _ _ _ _ =>
      rw [hdel.deleting] at hd
      cases hd
  simp [ObjectPatch.apply, ObjectPatch.between, changedTo, hsame]

theorem Guard.unpatched_of_getPool {n : String} (hg : Guard ext k v (.getPool n)) :
    v.patched = false := by
  rcases hg with ⟨m, ck, c, h, -⟩ | ⟨m, ck, c, h, -⟩
  · exact h.unpatched
  · exact h.unpatched

theorem Guard.unpatched_of_updatePool {n : String} {p : IPPool}
    (hg : Guard ext k v (.updatePool n p)) : v.patched = false := by
  rcases hg with ⟨m, ck, c, p, ip, h⟩ | ⟨m, ck, c, p, ip, h⟩
  · exact h.phase.unpatched
  · exact h.phase.unpatched

theorem MachineSeen.effect {r : Req} {x : Resp r} (h : MachineSeen k w v)
    (he : Effect ext k w v r x w' v') : MachineSeen k w' v' := by
  cases he with
  | readMachine hs hfirst =>
    refine ⟨fun m hm _ _ => ?_, h.held, fun m hm => ?_⟩
    · cases hm
      exact ⟨_, hs, rfl, id, Or.inl ⟨rfl, rfl⟩, fun _ => ⟨rfl, rfl⟩⟩
    · cases hm
      exact h.held _ hs
  | readPool hg _ _ => exact h.of_pool hg.unpatched_of_getPool rfl rfl
  | readPoolFailed hg => exact h.of_pool hg.unpatched_of_getPool rfl rfl
  | updatePoolFailed hg => exact h.of_pool hg.unpatched_of_updatePool rfl rfl
  | @allocate _ _ _ _ _ _ _ _ x ha _ _ =>
    cases x <;> exact h.of_pool ha.phase.unpatched rfl rfl
  | @release _ _ _ _ _ _ _ _ x hr _ _ =>
    cases x <;> exact h.of_pool hr.phase.unpatched rfl rfl
  | @patchConditions _ _ _ m₀ hs =>
    refine ⟨fun m hm hf hph => ?_, fun m' hm' => ?_, h.read⟩
    · obtain ⟨m', hs', hfin, hd, hrec, hsame⟩ := h.stored m hm hf hph
      obtain rfl := Option.some.inj (hs.symm.trans hs')
      exact ⟨_, lookup_setMachine_self _ _ _, hfin, hd, hrec, hsame⟩
    · cases (lookup_setMachine_self _ _ _).symm.trans hm'
      exact h.held m₀ hs
  | @patchObject p _ m m' m₀ _ _ hm hu hp hstep hs hkept =>
    refine ⟨fun m₁ hm₁ hf hph => ?_, fun m₁ hm₁ => ?_, h.read⟩
    · obtain rfl := Option.some.inj (hm.symm.trans hm₁)
      rcases hph with hph | ⟨hd, hnew⟩
      · cases hph
      obtain ⟨m₂, hs₂, hfin, -, hrec, -⟩ := h.stored m hm hf (Or.inl hu)
      obtain rfl := Option.some.inj (hs.symm.trans hs₂)
      refine ⟨_, lookup_setMachine_self _ _ _, ?_, ?_, hrec, nofun⟩
      · rw [hp, finalizers_of_keep hstep hd hnew, hfin]
      · rw [hd]
        nofun
    · cases (lookup_setMachine_self _ _ _).symm.trans hm₁
      exact hkept
  | @patchObjectLast p _ m m' m₀ _ _ hm hu hp hstep hs hdel hlast =>
    refine ⟨fun m₁ hm₁ hf hph => ?_, fun m₁ hm₁ => ?_, h.read⟩
    · obtain rfl := Option.some.inj (hm.symm.trans hm₁)
      rcases hph with hph | ⟨hd, hnew⟩
      · cases hph
      obtain ⟨m₂, hs₂, hfin, -⟩ := h.stored m hm hf (Or.inl hu)
      obtain rfl := Option.some.inj (hs.symm.trans hs₂)
      rw [hp, finalizers_of_keep hstep hd hnew, hfin] at hlast
      exact absurd hlast hf
    · cases (AList.lookup_erase _ _).symm.trans hm₁
  | patchFailed =>
    refine ⟨fun m hm hf hph => ?_, h.held, h.read⟩
    rcases hph with hph | hph
    · cases hph
    obtain ⟨m', hs', hfin, hd, hrec, -⟩ := h.stored m hm hf (Or.inr hph)
    exact ⟨m', hs', hfin, hd, hrec, nofun⟩
  | @patchStatus p _ m m₀ st hm hp hrec hs =>
    refine ⟨fun m₁ hm₁ hf hph => ?_, fun m₁ hm₁ => ?_, h.read⟩
    · obtain rfl := Option.some.inj (hm.symm.trans hm₁)
      rcases hph with hph | hph
      · cases hph
      obtain ⟨m₂, hs₂, hfin, hd, hrec₂, -⟩ := h.stored m hm hf (Or.inr hph)
      obtain rfl := Option.some.inj (hs.symm.trans hs₂)
      exact ⟨_, lookup_setMachine_self _ _ _, hfin, hd, hp ▸ hrec.patch hrec₂, nofun⟩
    · cases (lookup_setMachine_self _ _ _).symm.trans hm₁
      exact h.held m₀ hs
  | _ => exact h.frame rfl rfl rfl rfl

/-- A request of one machine does not touch the others. -/
theorem Effect.machines_ne {r : Req} {x : Resp r} (he : Effect ext k w v r x w' v')
    (hj : j ≠ k) : w'.machines.lookup j = w.machines.lookup j := by
  cases he with
  | patchConditions _ => rw [lookup_setMachine, if_neg hj]
  | patchObject _ _ _ _ _ _ => rw [lookup_setMachine, if_neg hj]
  | patchObjectLast _ _ _ _ _ _ _ => exact (Table.lookup_erase_eq _ _ _).trans (if_neg hj)
  | patchStatus _ _ _ _ => rw [lookup_setMachine, if_neg hj]
  | _ => rfl

theorem MachineSeen.envEffect (h : MachineSeen k w v) (he : EnvEffect w w') :
    MachineSeen k w' v := by
  cases he with
  | @createMachine j _ _ _ habs =>
    by_cases hj : k = j
    · subst hj
      refine ⟨fun m hm hf hph => ?_, fun m hm hd => ?_, h.read⟩
      · obtain ⟨m', hs, -⟩ := h.stored m hm hf hph
        rw [habs] at hs
        cases hs
      · cases (lookup_setMachine_self _ _ _).symm.trans hm
        cases hd
    · exact h.frame rfl rfl rfl ((lookup_setMachine _ _ _ _).trans (if_neg hj))
  | @editMachine j _ m₀ hs =>
    by_cases hj : k = j
    · subst hj
      refine ⟨fun m hm hf hph => ?_, fun m hm => ?_, h.read⟩
      · obtain ⟨m', hs', hrest⟩ := h.stored m hm hf hph
        obtain rfl := Option.some.inj (hs.symm.trans hs')
        exact ⟨_, lookup_setMachine_self _ _ _, hrest⟩
      · cases (lookup_setMachine_self _ _ _).symm.trans hm
        exact h.held m₀ hs
    · exact h.frame rfl rfl rfl ((lookup_setMachine _ _ _ _).trans (if_neg hj))
  | @eraseMachine j m₀ hs hfree =>
    by_cases hj : k = j
    · subst hj
      refine ⟨fun m hm hf hph => ?_, fun m hm => ?_, h.read⟩
      · obtain ⟨m', hs', hfin, -⟩ := h.stored m hm hf hph
        obtain rfl := Option.some.inj (hs.symm.trans hs')
        exact absurd (hfin ▸ hfree) hf
      · cases (AList.lookup_erase _ _).symm.trans hm
    · exact h.frame rfl rfl rfl ((Table.lookup_erase_eq _ _ _).trans (if_neg hj))
  | @markMachine j m₀ hs hheld =>
    by_cases hj : k = j
    · subst hj
      refine ⟨fun m hm hf hph => ?_, fun m hm _ => ?_, h.read⟩
      · obtain ⟨m', hs', hfin, -, hrest⟩ := h.stored m hm hf hph
        obtain rfl := Option.some.inj (hs.symm.trans hs')
        exact ⟨_, lookup_setMachine_self _ _ _, hfin, fun _ => rfl, hrest⟩
      · cases (lookup_setMachine_self _ _ _).symm.trans hm
        exact hheld
    · exact h.frame rfl rfl rfl ((lookup_setMachine _ _ _ _).trans (if_neg hj))
  | _ => exact h.frame rfl rfl rfl rfl

end Seen

section Origin

variable {ext : Externals} {k : ObjectKey} {w w' : World} {v v' : View}

/-- The same VM at a later time. -/
structure VM.Continues (vm₀ vm : VM) : Prop where
  creator : vm.creator = vm₀.creator
  disks : vm.disks = vm₀.disks
  allocation : vm.allocation = vm₀.allocation

structure Creates (k : ObjectKey) (v : View) (n : NamespacedName) (vm : VM)
    (m : HarvesterMachine) (ck : ObjectKey) (c : HarvesterCluster)
    (st : HarvesterMachineStatus) : Prop where
  phase : v.Normal m ck c
  name : n = vmName k c
  creator : vm.creator = k
  disks : ∀ d ∈ vm.disks, IsDiskOf k c d
  records : v.Records k m st
  allocation : vm.allocation = st.allocation

/-- A VM was there before the request, or the request created it. -/
theorem Effect.vm_origin {r : Req} {x : Resp r} (he : Effect ext k w v r x w' v')
    {n : NamespacedName} {vm : VM} (hs : w'.vms.lookup n = some vm) :
    (∃ vm₀, w.vms.lookup n = some vm₀ ∧ VM.Continues vm₀ vm) ∨
      ∃ m ck c st, Creates k v n vm m ck c st := by
  cases he with
  | @createVM n' disks st x m ck c vm' hphase hn hdisks hrec _ hcreator hmade halloc =>
    rw [lookup_setVM] at hs
    split_ifs at hs with hn'
    · cases hs
      exact Or.inr ⟨m, ck, c, st, hphase, hn'.trans hn, hcreator, hmade ▸ hdisks, hrec, halloc⟩
    · exact Or.inl ⟨vm, hs, rfl, rfl, rfl⟩
  | @deleteVM n' x m ck c vm' _ _ hs' =>
    rw [lookup_setVM] at hs
    split_ifs at hs with hn'
    · cases hs
      exact Or.inl ⟨vm', hn' ▸ hs', rfl, rfl, rfl⟩
    · exact Or.inl ⟨vm, hs, rfl, rfl, rfl⟩
  | _ => exact Or.inl ⟨vm, hs, rfl, rfl, rfl⟩

theorem EnvEffect.vm_origin (he : EnvEffect w w') {n : NamespacedName} {vm : VM}
    (hs : w'.vms.lookup n = some vm) : ∃ vm₀, w.vms.lookup n = some vm₀ ∧ VM.Continues vm₀ vm := by
  cases he with
  | @setVMState n' _ vm' hs' =>
    rw [lookup_setVM] at hs
    split_ifs at hs with hn'
    · cases hs
      exact ⟨vm', hn' ▸ hs', rfl, rfl, rfl⟩
    · exact ⟨vm, hs, rfl, rfl, rfl⟩
  | vmGone =>
    rw [Table.lookup_erase_eq] at hs
    split_ifs at hs
    exact ⟨vm, hs, rfl, rfl, rfl⟩
  | _ => exact ⟨vm, hs, rfl, rfl, rfl⟩

/-- A stored machine was there before with the same status, or was just created. -/
theorem EnvEffect.status_origin (he : EnvEffect w w') {j : ObjectKey} {m' : HarvesterMachine}
    (hs' : w'.machines.lookup j = some m') :
    (∃ m, w.machines.lookup j = some m ∧ m'.status = m.status ∧
      (m'.deleting = false → m.deleting = false)) ∨
      w.machines.lookup j = none ∧ m'.status = .empty := by
  cases he with
  | createMachine habs =>
    rw [lookup_setMachine] at hs'
    split_ifs at hs' with hj
    · cases hs'
      exact Or.inr ⟨hj ▸ habs, rfl⟩
    · exact Or.inl ⟨m', hs', rfl, id⟩
  | @editMachine _ _ m₀ hs =>
    rw [lookup_setMachine] at hs'
    split_ifs at hs' with hj
    · cases hs'
      exact Or.inl ⟨m₀, hj ▸ hs, rfl, id⟩
    · exact Or.inl ⟨m', hs', rfl, id⟩
  | @markMachine _ m₀ hs _ =>
    rw [lookup_setMachine] at hs'
    split_ifs at hs' with hj
    · cases hs'
      exact Or.inl ⟨m₀, hj ▸ hs, rfl, nofun⟩
    · exact Or.inl ⟨m', hs', rfl, id⟩
  | eraseMachine hs _ =>
    rw [Table.lookup_erase_eq] at hs'
    split_ifs at hs'
    exact Or.inl ⟨m', hs', rfl, id⟩
  | _ => exact Or.inl ⟨m', hs', rfl, id⟩

/-- A secret was there before the request under the same creator, or the request wrote it. -/
theorem Effect.secret_origin {r : Req} {x : Resp r} (he : Effect ext k w v r x w' v')
    {n : NamespacedName} {s : StoredSecret} (hs : w'.secrets.lookup n = some s) :
    (∃ s₀, w.secrets.lookup n = some s₀ ∧ s.creator = s₀.creator) ∨
      s.creator = k ∧ ∃ m ck c, v.Normal m ck c ∧ n = secretName k c := by
  cases he with
  | @createSecret n' d x m ck c hphase hn =>
    rw [lookup_setSecret] at hs
    split_ifs at hs with hn'
    · cases hs
      exact Or.inr ⟨rfl, m, ck, c, hphase, hn'.trans hn⟩
    · exact Or.inl ⟨s, hs, rfl⟩
  | @updateSecret n' d x m ck c s' _ _ hs' =>
    rw [lookup_setSecret] at hs
    split_ifs at hs with hn'
    · cases hs
      exact Or.inl ⟨s', hn' ▸ hs', rfl⟩
    · exact Or.inl ⟨s, hs, rfl⟩
  | deleteSecret _ _ =>
    rw [Table.lookup_erase_eq] at hs
    split_ifs at hs
    exact Or.inl ⟨s, hs, rfl⟩
  | _ => exact Or.inl ⟨s, hs, rfl⟩

theorem EnvEffect.secrets (he : EnvEffect w w') : w'.secrets = w.secrets := by cases he <;> rfl

/-- Requests only delete claims; Harvester creates them for the disks of a VM. -/
theorem Effect.pvc_origin {r : Req} {x : Resp r} (he : Effect ext k w v r x w' v')
    {n : NamespacedName} {owner : ObjectKey} (hs : w'.pvcs.lookup n = some owner) :
    w.pvcs.lookup n = some owner := by
  cases he with
  | deletePVC _ _ _ =>
    rw [Table.lookup_erase_eq] at hs
    split_ifs at hs
    exact hs
  | _ => exact hs

theorem EnvEffect.pvc_origin (he : EnvEffect w w') {n : NamespacedName} {owner : ObjectKey}
    (hs : w'.pvcs.lookup n = some owner) :
    w.pvcs.lookup n = some owner ∨ ∃ a vm, w.vms.lookup a = some vm ∧ vm.creator = owner ∧
      ∃ d ∈ vm.disks, n = ⟨d.ns, d.name⟩ := by
  cases he with
  | @createClaim a disk vm hvm hd =>
    rw [Table.lookup_insert_eq] at hs
    split_ifs at hs with hn
    · exact Or.inr ⟨a, vm, hvm, Option.some.inj hs, disk, hd, hn⟩
    · exact Or.inl hs
  | _ => exact Or.inl hs

end Origin

section Finalizer

variable {ext : Externals} {k j : ObjectKey} {w w' : World} {v v' : View}
  {m m' m₀ : HarvesterMachine} {ck : ObjectKey} {c : HarvesterCluster}

def Protected (w : World) (k : ObjectKey) : Prop :=
  ∃ m, w.machines.lookup k = some m ∧ machineFinalizer ∈ m.finalizers

instance (w : World) (k : ObjectKey) : Decidable (Protected w k) :=
  inferInstanceAs (Decidable (∃ m ∈ w.machines.lookup k, _))

theorem Protected.of_lookup (h : Protected w k)
    (hw : w'.machines.lookup k = w.machines.lookup k) : Protected w' k := by
  rwa [Protected, hw]

/-- What a pass knows when it writes its machine without the finalizers. -/
structure Drops (k : ObjectKey) (v : View) (m : HarvesterMachine) (ck : ObjectKey)
    (c : HarvesterCluster) : Prop where
  phase : v.Deleting m ck c
  address : v.Released m c
  vm : v.vmAbsent = true
  secret : v.secretAbsent = true
  disks : v.Swept k

theorem finalizers_apply :
    ((ObjectPatch.between m m').apply m₀).finalizers =
      if m.finalizers = m'.finalizers then m₀.finalizers else m'.finalizers := by
  simp only [ObjectPatch.apply, ObjectPatch.between, changedTo]
  split_ifs <;> rfl

theorem mem_migrateFinalizer (fs : List String) : machineFinalizer ∈ migrateFinalizer fs :=
  mem_removeFinalizer.mpr ⟨mem_addFinalizer.mpr (Or.inr rfl), by decide⟩

/-- The patch of a pass leaves a protected machine protected, unless it drops the finalizers
at the end of a deletion. -/
theorem finalizer_or_drops (hstep : v.FinalizerStep k m ck c m'.finalizers)
    (h₀ : machineFinalizer ∈ m₀.finalizers) :
    machineFinalizer ∈ ((ObjectPatch.between m m').apply m₀).finalizers ∨ Drops k v m ck c := by
  rw [finalizers_apply]
  generalize m'.finalizers = fs at hstep
  cases hstep with
  | keep => exact Or.inl (by rwa [if_pos rfl])
  | migrate _ _ _ =>
    left
    split_ifs
    · exact h₀
    · exact mem_migrateFinalizer _
  | add _ _ _ =>
    left
    split_ifs
    · exact h₀
    · exact mem_addFinalizer.mpr (Or.inr rfl)
  | drop hdel haddr hvm hsec hdisks => exact Or.inr ⟨hdel, haddr, hvm, hsec, hdisks⟩

/-- Only the machine's own deletion, at its end, takes the finalizer away, and it writes
nothing else. -/
theorem Effect.drops {r : Req} {x : Resp r} (he : Effect ext j w v r x w' v')
    (hp : Protected w k) (hn : ¬ Protected w' k) :
    j = k ∧ ∃ m ck c t, Drops k v m ck c ∧ w' = { w with machines := t } := by
  by_cases hj : j = k
  · subst hj
    refine ⟨rfl, ?_⟩
    obtain ⟨m₁, hs₁, hf₁⟩ := hp
    cases he with
    | @patchConditions _ _ _ m₀ hs =>
      obtain rfl := Option.some.inj (hs.symm.trans hs₁)
      exact absurd ⟨_, lookup_setMachine_self _ _ _, hf₁⟩ hn
    | @patchStatus _ _ _ m₀ _ _ _ _ hs =>
      obtain rfl := Option.some.inj (hs.symm.trans hs₁)
      exact absurd ⟨_, lookup_setMachine_self _ _ _, hf₁⟩ hn
    | @patchObject p _ m m' m₀ ck c _ _ hpatch hstep hs _ =>
      obtain rfl := Option.some.inj (hs.symm.trans hs₁)
      rcases finalizer_or_drops hstep hf₁ with hf | hd
      · exact absurd ⟨_, lookup_setMachine_self _ _ _, hpatch ▸ hf⟩ hn
      · exact ⟨m, ck, c, _, hd, rfl⟩
    | @patchObjectLast p _ m m' m₀ ck c _ _ hpatch hstep hs _ hlast =>
      obtain rfl := Option.some.inj (hs.symm.trans hs₁)
      rcases finalizer_or_drops hstep hf₁ with hf | hd
      · rw [← hpatch, hlast] at hf
        cases hf
      · exact ⟨m, ck, c, _, hd, rfl⟩
    | _ => exact absurd ⟨m₁, hs₁, hf₁⟩ hn
  · exact absurd (hp.of_lookup (he.machines_ne (Ne.symm hj))) hn

theorem Protected.envEffect (h : Protected w k) (he : EnvEffect w w') : Protected w' k := by
  obtain ⟨m, hs, hf⟩ := h
  cases he with
  | @createMachine j _ _ _ habs =>
    have hj : k ≠ j := by
      rintro rfl
      rw [habs] at hs
      cases hs
    exact ⟨m, (lookup_setMachine _ _ _ _).trans ((if_neg hj).trans hs), hf⟩
  | @editMachine j spec m₀ hs₀ =>
    by_cases hj : k = j
    · subst hj
      obtain rfl := Option.some.inj (hs₀.symm.trans hs)
      exact ⟨_, lookup_setMachine_self _ _ _, hf⟩
    · exact ⟨m, (lookup_setMachine _ _ _ _).trans ((if_neg hj).trans hs), hf⟩
  | @eraseMachine j m₀ hs₀ hfree =>
    have hj : k ≠ j := by
      rintro rfl
      obtain rfl := Option.some.inj (hs₀.symm.trans hs)
      rw [hfree] at hf
      cases hf
    exact ⟨m, (Table.lookup_erase_eq _ _ _).trans ((if_neg hj).trans hs), hf⟩
  | @markMachine j m₀ hs₀ _ =>
    by_cases hj : k = j
    · subst hj
      obtain rfl := Option.some.inj (hs₀.symm.trans hs)
      exact ⟨_, lookup_setMachine_self _ _ _, hf⟩
    · exact ⟨m, (lookup_setMachine _ _ _ _).trans ((if_neg hj).trans hs), hf⟩
  | _ => exact ⟨m, hs, hf⟩

/-- A step after which the finalizer is gone: the machine's own pass was about to patch it at
the end of a deletion. -/
theorem drops_of_step {s : MachineState} {a : MachineAction}
    (hs : (system ext).Conforms (contract ext) s) (hp : Protected s.world k)
    (hn : ¬ Protected ((system ext).step s a).world k) :
    ∃ m ck c t, Drops k (s.view k) m ck c ∧
      ((system ext).step s a).world = { s.world with machines := t } := by
  rcases step_effect hs a with he | ⟨j, ans, r, x, v', rfl, he⟩
  · exact absurd (hp.envEffect he) hn
  · obtain ⟨rfl, hd⟩ := he.drops hp hn
    exact hd

end Finalizer

section System

variable {ext : Externals} {k : ObjectKey} {w w' : World} {v : ObjectKey → View} {v' : View}

def Seen (w : World) (v : ObjectKey → View) : Prop := ∀ k, MachineSeen k w (v k)

theorem Seen.fresh (h : Seen w v) : Seen w (Function.update v k .fresh) :=
  forall_update (h k).fresh fun j _ => h j

theorem Seen.effect {r : Req} {x : Resp r} (h : Seen w v)
    (he : Effect ext k w (v k) r x w' v') : Seen w' (Function.update v k v') :=
  forall_update ((h k).effect he) fun j hj => (h j).frame rfl rfl rfl (he.machines_ne hj)

theorem Seen.envEffect (h : Seen w v) (he : EnvEffect w w') : Seen w' v :=
  fun k => (h k).envEffect he

/-- An invariant is kept by the system when every effect keeps it. -/
theorem preserves_of_effects {ok : World → (ObjectKey → View) → MachineEvent → Prop}
    {Inv : World → (ObjectKey → View) → Prop}
    (start : ∀ {w v} k, Inv w v → Inv w (Function.update v k .fresh))
    (issue : ∀ {w w' v v' k r} (a : Answer r), Effect ext k w (v k) r (exec k r a w).1 w' v' →
      ok w v (.issue k r a) → Inv w v → Inv w' (Function.update v k v'))
    (env : ∀ {w w' v} e, EnvEffect w w' → ok w v (.env e) → Inv w v → Inv w' v) :
    (system ext).Preserves (contract ext) ok Inv where
  start _ _ k _ h := start k h
  issue _ _ _ r a hg hok h := issue a (exec_effect r a hg) hok h
  env w _ e hok h := env e (env_effect w e) hok h

/-- No pass is under way, Harvester holds nothing of any machine, and, as the API server sees
to it, an object that is being deleted has a finalizer. -/
structure Starts (s : MachineState) : Prop where
  idle : s.Idle
  unseen : ∀ k, s.view k = .fresh
  held : ∀ k m, s.world.machines.lookup k = some m → m.deleting = true → m.finalizers ≠ []
  vms : s.world.vms = ∅
  secrets : s.world.secrets = ∅
  pvcs : s.world.pvcs = ∅

theorem Starts.seen {s : MachineState} (h : Starts s) : Seen s.world s.view := by
  intro k
  rw [h.unseen k]
  refine ⟨fun m hm => ?_, h.held k, fun m hm => ?_⟩
  · cases hm
  · cases hm

end System

end Caphv.Machine
