import Caphv.MachineInvariants

namespace Caphv.Machine

def Req.clusterRead : Req → Option ObjectKey
  | .getHarvesterCluster ck => some ck
  | _ => none

/-- Every HarvesterCluster that a pass of `k` reads has a target namespace allowed for `k`. -/
def TargetsIn (P : ObjectKey → String → Prop) (w : World) (_ : ObjectKey → View) :
    MachineEvent → Prop
  | .issue k r _ => ∀ ck ∈ r.clusterRead, ∀ c ∈ w.clusters.lookup ck, P k c.spec.targetNamespace
  | .env _ => True

instance (P : ObjectKey → String → Prop) [∀ k t, Decidable (P k t)] (w : World)
    (v : ObjectKey → View) : DecidablePred (TargetsIn P w v) := fun e => by
  unfold TargetsIn
  casesm MachineEvent <;> infer_instance

def View.TargetIn (v : View) (Q : String → Prop) : Prop :=
  ∀ ck c, v.cluster = some (ck, c) → Q c.spec.targetNamespace

section Placed

variable {P : ObjectKey → String → Prop} {ext : Externals} {k : ObjectKey} {w w' : World}
  {v : ObjectKey → View} {v' : View}

/-- The objects of a machine are in an allowed namespace, under its names. -/
structure Placed (P : ObjectKey → String → Prop) (w : World) (v : ObjectKey → View) : Prop where
  cluster : ∀ k, (v k).TargetIn (P k)
  vm : ∀ n vm, w.vms.lookup n = some vm → n.name = vm.creator.name ∧ P vm.creator n.ns ∧
    ∀ d ∈ vm.disks, d.ns = n.ns ∧ ∃ i randomID, d.name = pvcName vm.creator.name i randomID
  secret : ∀ n s, w.secrets.lookup n = some s →
    n.name = cloudInitSecretName s.creator.name ∧ P s.creator n.ns
  pvc : ∀ n owner, w.pvcs.lookup n = some owner → P owner n.ns ∧
    ∃ i randomID, n.name = pvcName owner.name i randomID

theorem Placed.fresh (h : Placed P w v) : Placed P w (Function.update v k .fresh) := by
  refine ⟨?_, h.vm, h.secret, h.pvc⟩
  refine forall_update (Q := fun j (u : View) => u.TargetIn (P j)) ?_ fun j _ => h.cluster j
  intro ck c hc
  cases hc

/-- The cluster of a view is the one from before, or was just read. -/
theorem Effect.cluster_origin {r : Req} {x : Resp r} {u u' : View} (he : Effect ext k w u r x w' u')
    {ck : ObjectKey} {c : HarvesterCluster} (hc : u'.cluster = some (ck, c)) :
    u.cluster = some (ck, c) ∨ ck ∈ r.clusterRead ∧ c ∈ w.clusters.lookup ck := by
  cases he with
  | readCluster _ hs =>
    cases hc
    exact Or.inr ⟨rfl, hs⟩
  | @allocate _ _ _ _ _ _ _ _ x _ _ _ => cases x <;> exact Or.inl hc
  | @release _ _ _ _ _ _ _ _ x _ _ _ => cases x <;> exact Or.inl hc
  | _ => exact Or.inl hc

theorem Placed.effect {r : Req} {x : Resp r} (h : Placed P w v)
    (hok : ∀ ck ∈ r.clusterRead, ∀ c ∈ w.clusters.lookup ck, P k c.spec.targetNamespace)
    (he : Effect ext k w (v k) r x w' v') : Placed P w' (Function.update v k v') := by
  refine ⟨?_, fun n vm hs => ?_, fun n s hs => ?_, fun n owner hs => h.pvc n owner
    (he.pvc_origin hs)⟩
  · refine forall_update (Q := fun j (u : View) => u.TargetIn (P j)) (fun ck c hc => ?_)
      fun j _ => h.cluster j
    rcases he.cluster_origin hc with hc | ⟨hr, hs⟩
    · exact h.cluster k ck c hc
    · exact hok ck hr c hs
  · rcases he.vm_origin hs with ⟨vm₀, hs₀, hvm⟩ | ⟨m, ck, c, st, hnew⟩
    · rw [hvm.creator, hvm.disks]
      exact h.vm n vm₀ hs₀
    · rw [hnew.name, hnew.creator]
      exact ⟨rfl, h.cluster k ck c hnew.phase.cluster, hnew.disks⟩
  · rcases he.secret_origin hs with ⟨s₀, hs₀, hcr⟩ | ⟨hcr, m, ck, c, hphase, hn⟩
    · rw [hcr]
      exact h.secret n s₀ hs₀
    · rw [hn, hcr]
      exact ⟨rfl, h.cluster k ck c hphase.cluster⟩

theorem Placed.envEffect (h : Placed P w v) (he : EnvEffect w w') : Placed P w' v := by
  refine ⟨h.cluster, fun n vm hs => ?_, fun n s hs => h.secret n s (he.secrets ▸ hs),
    fun n owner hs => ?_⟩
  · obtain ⟨vm₀, hs₀, hvm⟩ := he.vm_origin hs
    rw [hvm.creator, hvm.disks]
    exact h.vm n vm₀ hs₀
  · rcases he.pvc_origin hs with hs | ⟨a, vm, hvm, rfl, d, hd, rfl⟩
    · exact h.pvc n owner hs
    · obtain ⟨-, hP, hdisks⟩ := h.vm a vm hvm
      obtain ⟨hns, i, randomID, hname⟩ := hdisks d hd
      exact ⟨hns ▸ hP, i, randomID, hname⟩

theorem Starts.placed {s : MachineState} (h : Starts s) : Placed P s.world s.view := by
  refine ⟨fun k ck c hc => ?_, fun n vm hs => ?_, fun n s hs => ?_, fun n owner hs => ?_⟩
  · rw [h.unseen k] at hc
    cases hc
  · rw [h.vms] at hs
    cases hs
  · rw [h.secrets] at hs
    cases hs
  · rw [h.pvcs] at hs
    cases hs

/-- With one namespace for the machine, its VM is where its passes look for it. -/
theorem Placed.vm_at (h : Placed P w v) (hP : ∀ t t', P k t → P k t' → t = t') {ck : ObjectKey}
    {c : HarvesterCluster} (hc : (v k).cluster = some (ck, c)) {n : NamespacedName} {vm : VM}
    (hs : w.vms.lookup n = some vm) (hk : vm.creator = k) : n = vmName k c := by
  obtain ⟨hname, hns, -⟩ := h.vm n vm hs
  rw [hk] at hname hns
  rw [vmName, ← hname, ← hP _ _ hns (h.cluster k ck c hc)]

theorem Placed.secret_at (h : Placed P w v) (hP : ∀ t t', P k t → P k t' → t = t')
    {ck : ObjectKey} {c : HarvesterCluster} (hc : (v k).cluster = some (ck, c))
    {n : NamespacedName} {s : StoredSecret} (hs : w.secrets.lookup n = some s)
    (hk : s.creator = k) : n = secretName k c := by
  obtain ⟨hname, hns⟩ := h.secret n s hs
  rw [hk] at hname hns
  rw [secretName, ← hname, ← hP _ _ hns (h.cluster k ck c hc)]

end Placed

/-- The pass has not read a machine that is not being deleted. -/
def View.Retiring (v : View) : Prop := ∀ m, v.machine = some m → m.deleting = true

/-- Whatever machine `k` has in Harvester is behind its finalizer, and a deletion that found
its VM or its secret gone is right about that. -/
structure Shielded (k : ObjectKey) (w : World) (v : View) : Prop where
  vm : ∀ n vm, w.vms.lookup n = some vm → vm.creator = k → Protected w k
  secret : ∀ n s, w.secrets.lookup n = some s → s.creator = k → Protected w k
  noVM : v.vmAbsent = true → v.Retiring → ∀ n vm, w.vms.lookup n = some vm → vm.creator ≠ k
  noSecret : v.secretAbsent = true → v.Retiring →
    ∀ n s, w.secrets.lookup n = some s → s.creator ≠ k

section Shielded

variable {P : ObjectKey → String → Prop} {ext : Externals} {k j : ObjectKey} {w w' : World}
  {v : ObjectKey → View} {v' : View} {m : HarvesterMachine} {ck : ObjectKey} {c : HarvesterCluster}

theorem View.Normal.protected {u : View} (h : u.Normal m ck c) (hseen : MachineSeen k w u) :
    Protected w k := by
  obtain ⟨m', hs, hfin, -⟩ := hseen.stored m h.machine (List.ne_nil_of_mem h.protected_)
    (Or.inl h.unpatched)
  exact ⟨m', hs, hfin ▸ h.protected_⟩

theorem View.Normal.not_retiring {u : View} (h : u.Normal m ck c) : ¬ u.Retiring := by
  intro hr
  have := hr m h.machine
  rw [h.alive] at this
  cases this

theorem View.Deleting.retiring {u : View} (h : u.Deleting m ck c) : u.Retiring := by
  intro m' hm'
  obtain rfl := Option.some.inj (h.machine.symm.trans hm')
  exact h.deleting

theorem Shielded.fresh {u : View} (h : Shielded k w u) : Shielded k w .fresh := by
  refine ⟨h.vm, h.secret, fun ha => ?_, fun ha => ?_⟩
  · cases ha
  · cases ha

/-- Every view that says the VM is gone is right: the read just made, or an earlier one. -/
theorem Effect.vmAbsent_origin {r : Req} {x : Resp r} {u u' : View}
    (he : Effect ext k w u r x w' u') (ha : u'.vmAbsent = true) :
    u.vmAbsent = true ∨ w' = w ∧ ∃ ck c, u.cluster = some (ck, c) ∧
      w.vms.lookup (vmName k c) = none := by
  cases he with
  | readVM hc hn hmiss => exact Or.inr ⟨rfl, _, _, hc, hn ▸ hmiss ha⟩
  | @allocate _ _ _ _ _ _ _ _ x _ _ _ => cases x <;> exact Or.inl ha
  | @release _ _ _ _ _ _ _ _ x _ _ _ => cases x <;> exact Or.inl ha
  | _ => exact Or.inl ha

theorem Effect.secretAbsent_origin {r : Req} {x : Resp r} {u u' : View}
    (he : Effect ext k w u r x w' u') (ha : u'.secretAbsent = true) :
    u.secretAbsent = true ∨ ∃ ck c, u.cluster = some (ck, c) ∧
      w'.secrets = w.secrets.erase (secretName k c) := by
  cases he with
  | deleteSecret hphase hn => exact Or.inr ⟨_, _, hphase.cluster, hn ▸ rfl⟩
  | deleteSecretFailed => cases ha
  | @allocate _ _ _ _ _ _ _ _ x _ _ _ => cases x <;> exact Or.inl ha
  | @release _ _ _ _ _ _ _ _ x _ _ _ => cases x <;> exact Or.inl ha
  | _ => exact Or.inl ha

/-- A pass does not come to read a machine as alive. -/
theorem Effect.retiring_origin {r : Req} {x : Resp r} {u u' : View}
    (he : Effect ext k w u r x w' u') (hr : u'.Retiring) : u.Retiring := by
  cases he with
  | readMachine hs hfirst =>
    intro m hm
    rw [hfirst] at hm
    cases hm
  | @allocate _ _ _ _ _ _ _ _ x _ _ _ => cases x <;> exact hr
  | @release _ _ _ _ _ _ _ _ x _ _ _ => cases x <;> exact hr
  | _ => exact hr

/-- The machine loses its protection only when a deletion has nothing left to delete. -/
theorem Shielded.protected_of_effect {u u' : View} {r : Req} {x : Resp r} (h : Shielded k w u)
    (he : Effect ext k w u r x w' u') (hp : Protected w k) :
    Protected w' k ∨ u.Retiring ∧ (∀ n vm, w.vms.lookup n = some vm → vm.creator ≠ k) ∧
      ∀ n s, w.secrets.lookup n = some s → s.creator ≠ k := by
  by_cases hn : Protected w' k
  · exact Or.inl hn
  · obtain ⟨-, m, ck, c, t, hd, rfl⟩ := he.drops hp hn
    have hr := hd.phase.retiring
    exact Or.inr ⟨hr, h.noVM hd.vm hr, h.noSecret hd.secret hr⟩

theorem Shielded.effect {r : Req} {x : Resp r} (h : Shielded k w (v k))
    (hplaced : Placed P w v) (hP : ∀ t t', P k t → P k t' → t = t')
    (hseen : MachineSeen k w (v k)) (he : Effect ext k w (v k) r x w' v') :
    Shielded k w' v' := by
  refine ⟨fun n vm hs hk => ?_, fun n s hs hk => ?_, fun ha hr n vm hs hk => ?_,
    fun ha hr n s hs hk => ?_⟩
  · rcases he.vm_origin hs with ⟨vm₀, hs₀, hvm⟩ | ⟨m, ck, c, st, hnew⟩
    · rcases h.protected_of_effect he (h.vm n vm₀ hs₀ (hvm.creator ▸ hk)) with hp | ⟨-, hno, -⟩
      · exact hp
      · exact absurd (hvm.creator ▸ hk) (hno n vm₀ hs₀)
    · rcases h.protected_of_effect he (hnew.phase.protected hseen) with hp | ⟨hr, -⟩
      · exact hp
      · exact absurd hr hnew.phase.not_retiring
  · rcases he.secret_origin hs with ⟨s₀, hs₀, hcr⟩ | ⟨-, m, ck, c, hphase, -⟩
    · rcases h.protected_of_effect he (h.secret n s₀ hs₀ (hcr ▸ hk)) with hp | ⟨-, -, hno⟩
      · exact hp
      · exact absurd (hcr ▸ hk) (hno n s₀ hs₀)
    · rcases h.protected_of_effect he (hphase.protected hseen) with hp | ⟨hr, -⟩
      · exact hp
      · exact absurd hr hphase.not_retiring
  · rcases he.vm_origin hs with ⟨vm₀, hs₀, hvm⟩ | ⟨m, ck, c, st, hnew⟩
    · rcases he.vmAbsent_origin ha with ha | ⟨rfl, ck, c, hc, hnone⟩
      · exact h.noVM ha (he.retiring_origin hr) n vm₀ hs₀ (hvm.creator ▸ hk)
      · rw [hplaced.vm_at hP hc hs hk, hnone] at hs
        cases hs
    · exact hnew.phase.not_retiring (he.retiring_origin hr)
  · rcases he.secret_origin hs with ⟨s₀, hs₀, hcr⟩ | ⟨-, m, ck, c, hphase, -⟩
    · rcases he.secretAbsent_origin ha with ha | ⟨ck, c, hc, herase⟩
      · exact h.noSecret ha (he.retiring_origin hr) n s₀ hs₀ (hcr ▸ hk)
      · rw [herase, hplaced.secret_at hP hc hs₀ (hcr ▸ hk), AList.lookup_erase] at hs
        cases hs
    · exact hphase.not_retiring (he.retiring_origin hr)

/-- The requests of another machine create nothing in the name of `k`. -/
theorem Shielded.effect_ne {u : View} {r : Req} {x : Resp r} (h : Shielded k w u)
    (hj : j ≠ k) (he : Effect ext j w (v j) r x w' v') : Shielded k w' u := by
  have hp : Protected w k → Protected w' k := fun hp =>
    hp.of_lookup (he.machines_ne (Ne.symm hj))
  have hvm : ∀ n vm, w'.vms.lookup n = some vm → vm.creator = k →
      ∃ vm₀, w.vms.lookup n = some vm₀ ∧ vm₀.creator = k := fun n vm hs hk => by
    rcases he.vm_origin hs with ⟨vm₀, hs₀, hvm⟩ | ⟨m, ck, c, st, hnew⟩
    · exact ⟨vm₀, hs₀, hvm.creator ▸ hk⟩
    · exact absurd (hnew.creator.symm.trans hk) hj
  have hsec : ∀ n s, w'.secrets.lookup n = some s → s.creator = k →
      ∃ s₀, w.secrets.lookup n = some s₀ ∧ s₀.creator = k := fun n s hs hk => by
    rcases he.secret_origin hs with ⟨s₀, hs₀, hcr⟩ | ⟨hcr, -⟩
    · exact ⟨s₀, hs₀, hcr ▸ hk⟩
    · exact absurd (hcr.symm.trans hk) hj
  refine ⟨fun n vm hs hk => ?_, fun n s hs hk => ?_, fun ha hr n vm hs hk => ?_,
    fun ha hr n s hs hk => ?_⟩
  · obtain ⟨vm₀, hs₀, hk₀⟩ := hvm n vm hs hk
    exact hp (h.vm n vm₀ hs₀ hk₀)
  · obtain ⟨s₀, hs₀, hk₀⟩ := hsec n s hs hk
    exact hp (h.secret n s₀ hs₀ hk₀)
  · obtain ⟨vm₀, hs₀, hk₀⟩ := hvm n vm hs hk
    exact h.noVM ha hr n vm₀ hs₀ hk₀
  · obtain ⟨s₀, hs₀, hk₀⟩ := hsec n s hs hk
    exact h.noSecret ha hr n s₀ hs₀ hk₀

theorem Shielded.envEffect {u : View} (h : Shielded k w u) (he : EnvEffect w w') :
    Shielded k w' u := by
  refine ⟨fun n vm hs hk => ?_, fun n s hs hk => ?_, fun ha hr n vm hs hk => ?_,
    fun ha hr n s hs => h.noSecret ha hr n s (he.secrets ▸ hs)⟩
  · obtain ⟨vm₀, hs₀, hvm⟩ := he.vm_origin hs
    exact (h.vm n vm₀ hs₀ (hvm.creator ▸ hk)).envEffect he
  · exact (h.secret n s (he.secrets ▸ hs) hk).envEffect he
  · obtain ⟨vm₀, hs₀, hvm⟩ := he.vm_origin hs
    exact h.noVM ha hr n vm₀ hs₀ (hvm.creator ▸ hk)

theorem Starts.shielded {s : MachineState} (h : Starts s) (k : ObjectKey) :
    Shielded k s.world (s.view k) := by
  refine ⟨fun n vm hs => ?_, fun n s hs => ?_, fun _ _ n vm hs => ?_, fun _ _ n s hs => ?_⟩
  · rw [h.vms] at hs
    cases hs
  · rw [h.secrets] at hs
    cases hs
  · rw [h.vms] at hs
    cases hs
  · rw [h.secrets] at hs
    cases hs

def ShieldInv (P : ObjectKey → String → Prop) (k : ObjectKey) (w : World)
    (v : ObjectKey → View) : Prop :=
  Seen w v ∧ Placed P w v ∧ Shielded k w (v k)

theorem Starts.shieldInv {s : MachineState} (h : Starts s) (P : ObjectKey → String → Prop)
    (k : ObjectKey) : ShieldInv P k s.world s.view := ⟨h.seen, h.placed, h.shielded k⟩

theorem ShieldInv.fresh (h : ShieldInv P k w v) :
    ShieldInv P k w (Function.update v j .fresh) :=
  ⟨h.1.fresh, h.2.1.fresh, update_rule (fun _ => h.2.2.fresh) fun _ => h.2.2⟩

theorem ShieldInv.effect {r : Req} {x : Resp r} (hP : ∀ t t', P k t → P k t' → t = t')
    (hok : ∀ ck ∈ r.clusterRead, ∀ c ∈ w.clusters.lookup ck, P j c.spec.targetNamespace)
    (h : ShieldInv P k w v) (he : Effect ext j w (v j) r x w' v') :
    ShieldInv P k w' (Function.update v j v') := by
  obtain ⟨hseen, hplaced, hsh⟩ := h
  refine ⟨hseen.effect he, hplaced.effect hok he, update_rule (fun hj => ?_) fun hj => ?_⟩
  · subst hj
    exact hsh.effect hplaced hP (hseen k) he
  · exact hsh.effect_ne (Ne.symm hj) he

theorem ShieldInv.envEffect (h : ShieldInv P k w v) (he : EnvEffect w w') : ShieldInv P k w' v :=
  ⟨h.1.envEffect he, h.2.1.envEffect he, h.2.2.envEffect he⟩

theorem shieldInv_preserves (ext : Externals) (hP : ∀ t t', P k t → P k t' → t = t') :
    (system ext).Preserves (contract ext) (TargetsIn P) (ShieldInv P k) :=
  preserves_of_effects (fun _ h => h.fresh) (fun _ he hok h => h.effect hP hok he)
    fun _ he _ h => h.envEffect he

end Shielded

end Caphv.Machine
