import Caphv.AddressOwnership
import Caphv.PoolLeases

namespace Caphv.Machine

open Net (IP)

section Foreign

variable {ext : Externals} {k : ObjectKey} {w w' : World} {v : ObjectKey → View} {v' : View}
  {lb : String → Bool} {tns : ObjectKey → String} {clusters : Table ObjectKey HarvesterCluster}
  {pools : Table String IPPool} {n x : String}

def World.withPools (w : World) (clusters : Table ObjectKey HarvesterCluster)
    (pools : Table String IPPool) : World := { w with clusters := clusters, pools := pools }

def Unrecorded (w : World) (n x : String) : Prop :=
  ∀ k m, w.machines.lookup k = some m → m.status.allocation ≠ some (n, x)

/-- The pools after a step of somebody else, who uses ids of the kind `lb` and takes no address
that a stored machine records. -/
def Foreign (lb : String → Bool) (w : World) (pools : Table String IPPool) : Prop :=
  PoolStep (fun id => lb id = true) (fun n x => (∃ ip : IP, x = ip.string) ∧ Unrecorded w n x)
    w.pools pools

/-- Whatever is stored as a machine, or was read as one, has no id of the kind `lb`. -/
structure MachineIDs (lb : String → Bool) (w : World) (v : ObjectKey → View) : Prop where
  stored : ∀ k m, w.machines.lookup k = some m → lb k.id = false
  read : ∀ k m, (v k).machine = some m → lb k.id = false

theorem Foreign.held (h : Foreign lb w pools) (hk : lb k.id = false)
    (hheld : w.holder n x = some k.id) : poolHolder pools n x = some k.id := by
  rcases h.changes n x with hsame | ⟨hfree, -⟩ | ⟨⟨id, hid, hother⟩, -⟩
  · exact hsame.trans hheld
  · cases hfree.symm.trans hheld
  · obtain rfl := Option.some.inj (hother.symm.trans hheld)
    rw [hk] at hid
    cases hid

theorem Foreign.free (h : Foreign lb w pools) {m : HarvesterMachine}
    (hs : w.machines.lookup k = some m) (ha : m.status.allocation = some (n, x))
    (hfree : w.holder n x = none) : poolHolder pools n x = none := by
  by_contra hne
  exact (h.given n x hfree hne).2 k m hs ha

theorem PoolSeen.withPools {u : View} (h : PoolSeen w u) (hf : Foreign lb w pools) :
    PoolSeen (w.withPools clusters pools) u := by
  refine ⟨h.early, fun n p hp => ?_⟩
  obtain ⟨stored, hs, hle, hsame⟩ := h.seen n p hp
  have hread : poolVersions.Read w.pools n p := ⟨stored, hs, hle, fun heq => funext fun x =>
    (hsame heq x).symm⟩
  obtain ⟨stored', hs', hle', hsame'⟩ := hread.advance hf.advances
  exact ⟨stored', hs', hle', fun heq x => (congrFun (hsame' heq) x).symm⟩

theorem PoolKeys.withPools (h : PoolKeys w v) (hf : Foreign lb w pools) :
    PoolKeys (w.withPools clusters pools) v := by
  refine ⟨fun n p hs x id hx => ?_, h.seen⟩
  have hheld : poolHolder pools n x = some id := (poolHolder_of_lookup hs x).trans hx
  cases hold : w.holder n x with
  | none => exact (hf.given n x hold (by rw [hheld]; nofun)).1
  | some id₀ =>
    obtain ⟨p₀, hp₀, hx₀⟩ := Option.bind_eq_some_iff.mp hold
    exact h.stored n p₀ hp₀ x id₀ hx₀

theorem Owned.withPools (h : Owned w v) (hids : MachineIDs lb w v) (hf : Foreign lb w pools) :
    Owned (w.withPools clusters pools) v where
  live k m n x hs hd ha := hf.held (hids.stored k m hs) (h.live k m n x hs hd ha)
  recorded k m n x hs ha :=
    (h.recorded k m n x hs ha).imp (hf.held (hids.stored k m hs)) (hf.free hs ha)
  canonical := h.canonical
  unique := h.unique
  read k m n x hm hd ha := hf.held (hids.read k m hm) (h.read k m n x hm hd ha)
  seen k m n p x hm hd hp hx := hf.held (hids.read k m hm) (h.seen k m n p x hm hd hp hx)

theorem Addressed.withPools (h : Addressed w) (hids : MachineIDs lb w v)
    (hsh : ∀ j, Shielded j w (v j)) (hf : Foreign lb w pools) :
    Addressed (w.withPools clusters pools) := by
  intro n vm a x hs ha
  rcases h n vm a x hs ha with hheld | ⟨hfree, m, hm, halloc⟩
  · -- The VM is there, so the machine that created it is stored.
    obtain ⟨m, hm, -⟩ := (hsh vm.creator).vm n vm hs rfl
    exact Or.inl (hf.held (hids.stored _ m hm) hheld)
  · exact Or.inr ⟨hf.free hm halloc hfree, m, hm, halloc⟩

def TenantInv (tns : ObjectKey → String) (lb : String → Bool) (w : World)
    (v : ObjectKey → View) : Prop := AddressInv tns w v ∧ MachineIDs lb w v

theorem TenantInv.withPools (h : TenantInv tns lb w v) (hf : Foreign lb w pools) :
    TenantInv tns lb (w.withPools clusters pools) v := by
  obtain ⟨⟨⟨hseen, hpool, hkeys, hown⟩, hsh, haddr⟩, hids⟩ := h
  have hseen' : Seen (w.withPools clusters pools) v := fun k => (hseen k).frame rfl rfl rfl rfl
  refine ⟨⟨⟨hseen', fun k => (hpool k).withPools hf, hkeys.withPools hf,
    hown.withPools hids hf⟩, fun k => ?_, haddr.withPools hids (fun j => (hsh j).2.2) hf⟩,
    hids.stored, hids.read⟩
  obtain ⟨-, hplaced, hshield⟩ := hsh k
  exact ⟨hseen', ⟨hplaced.cluster, hplaced.vm, hplaced.secret, hplaced.pvc⟩,
    ⟨hshield.vm, hshield.secret, hshield.noVM, hshield.noSecret⟩⟩

/-- VMs with the same address are one VM. -/
theorem AddressInv.same_vm (h : AddressInv tns w v) {a : String} {n n' : NamespacedName}
    {vm vm' : VM} (hvm : w.vms.lookup n = some vm) (hvm' : w.vms.lookup n' = some vm')
    (ha : vm.allocation = some (a, x)) (ha' : vm'.allocation = some (a, x)) : n = n' := by
  obtain ⟨hown, hsh, haddr⟩ := h
  have hcreator : vm.creator = vm'.creator := by
    rcases haddr n vm a x hvm ha with hheld | ⟨hfree, m, hm, hrec⟩
    · rcases haddr n' vm' a x hvm' ha' with hheld' | ⟨hfree', -⟩
      · exact ObjectKey.id_injective (Option.some.inj (hheld.symm.trans hheld'))
      · cases hheld.symm.trans hfree'
    · rcases haddr n' vm' a x hvm' ha' with hheld' | ⟨-, m', hm', hrec'⟩
      · cases hfree.symm.trans hheld'
      · exact hown.owned.unique _ _ m m' a x hm hm' hrec hrec'
  obtain ⟨hname, hns, -⟩ := (hsh vm.creator).2.1.vm n vm hvm
  obtain ⟨hname', hns', -⟩ := (hsh vm.creator).2.1.vm n' vm' hvm'
  rw [NamespacedName.mk.injEq]
  exact ⟨hns.trans (hcreator ▸ hns'.symm), hname.trans (hcreator ▸ hname'.symm)⟩

/-- The entry of the address of a VM is its own machine's, or is free. -/
theorem TenantInv.vm_holder (h : TenantInv tns lb w v) {a id : String} {n : NamespacedName}
    {vm : VM} (hvm : w.vms.lookup n = some vm) (ha : vm.allocation = some (a, x))
    (hheld : w.holder a x = some id) : id = vm.creator.id ∧ lb id = false := by
  obtain ⟨⟨-, hsh, haddr⟩, hids⟩ := h
  obtain ⟨m, hm, -⟩ := (hsh vm.creator).2.2.vm n vm hvm rfl
  have hid : id = vm.creator.id := by
    rcases haddr n vm a x hvm ha with hown | ⟨hfree, -⟩
    · exact Option.some.inj (hheld.symm.trans hown)
    · cases hheld.symm.trans hfree
  exact ⟨hid, hid ▸ hids.stored _ m hm⟩

theorem Effect.advances {r : Req} {y : Resp r} {u u' : View} (he : Effect ext k w u r y w' u') :
    poolVersions.Advances w.pools w'.pools := by
  cases he with
  | @allocate n _ _ p' _ _ _ _ _ _ hs hv =>
    refine .replace hs (lookup_setPool w n · _) (.of_lt ?_)
    show _ < p'.resourceVersion + 1
    exact hv ▸ Nat.lt_succ_self _
  | @release n _ _ p' _ _ _ _ _ _ hs hv =>
    refine .replace hs (lookup_setPool w n · _) (.of_lt ?_)
    show _ < p'.resourceVersion + 1
    exact hv ▸ Nat.lt_succ_self _
  | _ => exact .refl _

theorem EnvEffect.advances (he : EnvEffect w w') : poolVersions.Advances w.pools w'.pools := by
  cases he with
  | @pool n _ _ hs hv hh =>
    exact .replace hs (lookup_setPool w n · _) ⟨hv, fun _ => funext hh⟩
  | _ => exact .refl _

/-- A request changes entries only of the machine that issues it. -/
theorem OwnedInv.changes {r : Req} {y : Resp r} (h : OwnedInv w v)
    (he : Effect ext k w (v k) r y w' v') (n x : String) :
    Changes (fun id => id = k.id) (w.holder n x) (w'.holder n x) := by
  cases he.holderStep (h.pools k) with
  | same hsame => exact Or.inl (hsame n x)
  | allocate _ _ _ _ hfree _ hstep =>
    rw [hstep]
    split_ifs with hnx
    · obtain ⟨rfl, rfl⟩ := hnx
      exact Or.inr (Or.inl ⟨hfree, k.id, rfl, rfl⟩)
    · exact Or.inl rfl
  | release hphase haddr _ hstep =>
    rw [hstep]
    split_ifs with hnx
    · obtain ⟨rfl, rfl⟩ := hnx
      obtain ⟨m', hs, -, halloc⟩ := h.owned.release_target (h.machines k) hphase haddr
      rcases h.owned.recorded k m' _ _ hs halloc with hown | hnone
      · exact Or.inr (Or.inr ⟨⟨k.id, rfl, hown⟩, rfl⟩)
      · exact Or.inl hnone.symm
    · exact Or.inl rfl

def NewMachine (lb : String → Bool) : Env → Prop
  | .createMachine k _ _ _ => lb k.id = false
  | _ => True

instance (lb : String → Bool) : DecidablePred (NewMachine lb) := fun e => by
  unfold NewMachine
  casesm Env <;> infer_instance

theorem MachineIDs.fresh (h : MachineIDs lb w v) :
    MachineIDs lb w (Function.update v k .fresh) := by
  refine ⟨h.stored, forall_update (Q := fun (j : ObjectKey) (u : View) => ∀ m,
    u.machine = some m → lb j.id = false) (fun m hm => ?_) fun j _ => h.read j⟩
  cases hm

theorem MachineIDs.effect {r : Req} {y : Resp r} (h : MachineIDs lb w v) (hseen : Seen w v)
    (he : Effect ext k w (v k) r y w' v') : MachineIDs lb w' (Function.update v k v') := by
  refine ⟨fun j m hs => ?_, forall_update (Q := fun (j : ObjectKey) (u : View) => ∀ m,
    u.machine = some m → lb j.id = false) (fun m hm => ?_) fun j _ => h.read j⟩
  · obtain ⟨m₀, hs₀, -⟩ := he.status_origin (hseen k) hs
    exact h.stored j m₀ hs₀
  · rcases he.machine_origin hm with hm | ⟨-, hs, -⟩
    · exact h.read k m hm
    · exact h.stored k m hs

theorem MachineIDs.env (h : MachineIDs lb w v) {e : Env} (he : NewMachine lb e) :
    MachineIDs lb (w.env e) v := by
  refine ⟨fun j m hs => ?_, h.read⟩
  have hput : ∀ {k m₀ m'}, w.machines.lookup k = some m₀ →
      (w.setMachine k m').machines.lookup j = some m → lb j.id = false := by
    intro k m₀ m' hk hs
    rw [lookup_setMachine] at hs
    split_ifs at hs with hj
    · exact hj ▸ h.stored k m₀ hk
    · exact h.stored j m hs
  have hsame : (w.env e).machines = w.machines → lb j.id = false :=
    fun heq => h.stored j m (heq ▸ hs)
  cases e with
  | createMachine k cp fs spec =>
    unfold World.env at hs
    dsimp only at hs
    split_ifs at hs
    · exact h.stored j m hs
    · rw [lookup_setMachine] at hs
      split_ifs at hs with hj
      · exact hj ▸ he
      · exact h.stored j m hs
  | editMachine k spec =>
    unfold World.env at hs
    dsimp only at hs
    split at hs
    · exact h.stored j m hs
    · exact hput ‹_› hs
  | deleteMachine k =>
    unfold World.env at hs
    dsimp only at hs
    split at hs
    · exact h.stored j m hs
    · split_ifs at hs
      · rw [Table.lookup_erase_eq] at hs
        split_ifs at hs
        exact h.stored j m hs
      · exact hput ‹_› hs
  | createClaim n disk =>
    apply hsame
    unfold World.env
    dsimp only
    split
    · rfl
    · split_ifs <;> rfl
  | putCluster | vmGone => exact hsame rfl
  | setVMState | editPool | promote =>
    apply hsame
    unfold World.env
    dsimp only
    split <;> rfl

theorem tenant_preserves (ext : Externals) (tns : ObjectKey → String) (lb : String → Bool) :
    (system ext).Preserves (contract ext)
      (fun w v e => (TargetsIn (fun j t => t = tns j) w v e ∧ FreshAllocations w v e) ∧
        ∀ m, e = .env m → NewMachine lb m) (TenantInv tns lb) where
  start w v k hdone h := ⟨(addressInv_preserves ext tns).start w v k hdone h.1, h.2.fresh⟩
  issue w v k r a hg hok h := ⟨(addressInv_preserves ext tns).issue w v k r a hg hok.1 h.1,
    h.2.effect h.1.1.machines (exec_effect r a hg)⟩
  env w v e hok h := ⟨(addressInv_preserves ext tns).env w v e hok.1 h.1,
    h.2.env (hok.2 e rfl)⟩

end Foreign

end Caphv.Machine

namespace Caphv.Manager

open Net (IP)

/-- The objects of both controllers. The HarvesterClusters and the pools are shared: they stand
with the objects of the cluster controller. -/
structure World where
  machines : Table ObjectKey HarvesterMachine
  vms : Table NamespacedName Machine.VM
  secrets : Table NamespacedName Machine.StoredSecret
  pvcs : Table NamespacedName ObjectKey
  nextUID : ℕ
  cluster : Cluster.World

def World.holder (w : World) (n x : String) : Option String := poolHolder w.cluster.ipPools n x

/-- New contents for the pools, which keep what is recorded of who created them. -/
def adopt (pools : Table String IPPool) (old : Table String Cluster.StoredPool) :
    Table String Cluster.StoredPool :=
  pools.mapWithKey fun n p => ⟨p, (old.lookup n).bind Cluster.StoredPool.creator⟩

theorem ipPools_adopt (w : Cluster.World) (pools : Table String IPPool) :
    ({ w with pools := adopt pools w.pools } : Cluster.World).ipPools = pools := by
  unfold Cluster.World.ipPools adopt
  apply AList.ext
  simp [Table.mapWithKey, Function.comp_def, Sigma.map]

def machinePart : Part World Machine.World where
  get w := ⟨w.machines, w.cluster.clusters, w.cluster.ipPools, w.vms, w.secrets, w.pvcs, w.nextUID⟩
  put w m := ⟨m.machines, m.vms, m.secrets, m.pvcs, m.nextUID,
    { w.cluster with clusters := m.clusters, pools := adopt m.pools w.cluster.pools }⟩
  get_put w m := by
    rw [Machine.World.mk.injEq]
    exact ⟨rfl, rfl, ipPools_adopt { w.cluster with clusters := m.clusters } m.pools, rfl, rfl,
      rfl, rfl⟩

def clusterPart : Part World Cluster.World where
  get w := w.cluster
  put w c := { w with cluster := c }
  get_put _ _ := rfl

def system (ext : Machine.Externals) (ext' : Cluster.Externals) :=
  (Machine.system ext).compose (Cluster.system ext') machinePart clusterPart

abbrev Key := ObjectKey ⊕ ObjectKey

abbrev Req := Asked ObjectKey ObjectKey Machine.Req Cluster.Req

abbrev Resp : Req → Type := About Machine.Resp Cluster.Resp

abbrev Answer : Req → Type := About Machine.Answer Cluster.Answer

abbrev View := Machine.View × Cluster.View

abbrev ManagerState := State Key Req Resp World View

abbrev ManagerAction := Action Key Req Answer (Machine.Env ⊕ Cluster.Env)

abbrev ManagerEvent := Event Key Req Answer (Machine.Env ⊕ Cluster.Env)

/-- No stored machine records an address that the update of a pool takes from the free ones. -/
def TakesUnrecorded (w : World) : Cluster.Req → Prop
  | .updatePool n p' => ∀ old ∈ w.cluster.ipPools.lookup n,
      old.resourceVersion = p'.resourceVersion →
      ∀ e ∈ (Table.ofNil p'.status.allocated).entries, old.status.holder e.1 = none →
      ∀ m ∈ w.machines.entries, m.2.status.allocation ≠ some (n, e.1)
  | _ => True

instance (w : World) (r : Cluster.Req) : Decidable (TakesUnrecorded w r) := by
  unfold TakesUnrecorded
  casesm Cluster.Req <;> infer_instance

/-- The tenants of the pools keep apart. Every machine keeps its target namespace `tns`; `lb` tells
the ids of load balancers from those of machines; no address is taken that a stored machine of
somebody else still records; no pool is deleted, and nobody else writes to its entries. -/
def Separate (tns : ObjectKey → String) (lb : String → Bool) (w : World) (v : Key → View) :
    ManagerEvent → Prop
  | .issue _ (.inl (k, r)) _ =>
    (∀ ck ∈ r.clusterRead, ∀ c ∈ w.cluster.clusters.lookup ck, c.spec.targetNamespace = tns k) ∧
      Machine.FreshAllocation (machinePart.get w) k r
  | .issue _ (.inr (k, r)) _ => Cluster.PoolKept w.cluster r ∧ TakesUnrecorded w r ∧
      ∀ c ∈ (v (.inr k)).2.cluster, lb (Cluster.lbID k c) = true
  | .env (.inl e) => Machine.NewMachine lb e
  | .env (.inr e) => Cluster.PoolsLeft w.cluster e

instance (tns : ObjectKey → String) (lb : String → Bool) (w : World) (v : Key → View)
    (e : ManagerEvent) : Decidable (Separate tns lb w v e) := by
  delta Separate
  split <;> infer_instance

/-- An installation before the first machine and the first pass, whose pools hold canonical
addresses. -/
structure Pristine (s : ManagerState) : Prop where
  idle : s.Idle
  unseen : ∀ k, s.view k = (.fresh, .fresh)
  machines : s.world.machines = ∅
  vms : s.world.vms = ∅
  secrets : s.world.secrets = ∅
  pvcs : s.world.pvcs = ∅
  keys : ∀ n p, s.world.cluster.ipPools.lookup n = some p → Machine.CanonicalKeys p

section Runs

variable {ext : Machine.Externals} {ext' : Cluster.Externals} {tns : ObjectKey → String}
  {lb : String → Bool} {s : ManagerState} {acts : List ManagerAction} {w : World}

/-- Both controllers, with a record of the pools that the passes of the clusters have read. -/
def watching (ext : Machine.Externals) (ext' : Cluster.Externals) :=
  (Machine.system ext).compose (Cluster.drafting ext') machinePart clusterPart

abbrev Watched := Machine.View × (Cluster.View × Cluster.Draft)

def unwatched : Watched → View := Prod.map id Prod.fst

def contracts (ext : Machine.Externals) (ext' : Cluster.Externals) : Contract Key Req Watched :=
  (Machine.contract ext).sum
    (Cluster.contract.both (Cluster.draftContract ext'.allocator))

theorem keeps_contracts (ext : Machine.Externals) (ext' : Cluster.Externals) :
    (watching ext ext').Keeps (contracts ext ext') :=
  (Machine.keeps_contract ext).compose (Cluster.keeps_drafts ext')

theorem watching_forgets : (watching ext ext').Forgets (system ext ext') unwatched :=
  Controller.compose_observe_forgets

/-- The pools after a move of a machine. -/
theorem machine_moves_advance {v : ObjectKey → Machine.View} {ev : Machine.MachineEvent}
    {m m' : Machine.World} (h : (Machine.system ext).Moves (Machine.contract ext) m v ev m') :
    poolVersions.Advances m.pools m'.pools := by
  cases h with
  | @issue k r a hg => exact (Machine.exec_effect (w := m) r a hg).advances
  | env => exact (Machine.env_effect m _).advances

/-- To the machines a move of a cluster is one of a foreign tenant of the pools. -/
theorem cluster_moves_foreign {v : Key → Watched} {ev : Cluster.ClusterEvent} {c' : Cluster.World}
    (hok : Separate tns lb w (unwatched ∘ v) (.inr ev))
    (hread : Cluster.DraftsRead w.cluster.ipPools (rightViews v))
    (h : (Cluster.drafting ext').Moves (Cluster.contract.both
      (Cluster.draftContract ext'.allocator)) w.cluster (rightViews v) ev c') :
    Machine.Foreign lb (machinePart.get w) c'.ipPools := by
  cases ev with
  | env e => exact (Cluster.moves_poolStep hread h hok).mono nofun nofun
  | issue k r b =>
    obtain ⟨hkept, hunrecorded, hid⟩ := hok
    refine (Cluster.moves_poolStep hread h hkept).mono ?_ ?_
    · rintro id ⟨c, hc, rfl⟩
      exact hid c hc
    · rintro n x hfree ⟨⟨p', old, rfl, hs, hversion, hx⟩, hip⟩
      refine ⟨hip, fun j m hm ha => ?_⟩
      obtain ⟨id, hx⟩ := Option.ne_none_iff_exists'.mp hx
      refine hunrecorded old hs hversion ⟨x, id⟩ (AList.mem_lookup_iff.mp hx) ?_ ⟨j, m⟩
        (AList.mem_lookup_iff.mp hm) ha
      rw [← poolHolder_of_lookup hs]
      exact hfree

def Inv (tns : ObjectKey → String) (lb : String → Bool) (w : World) (v : Key → Watched) : Prop :=
  Machine.TenantInv tns lb (machinePart.get w) (leftViews v) ∧
    Cluster.DraftsRead w.cluster.ipPools (rightViews v)

theorem inv_preserves : (watching ext ext').Preserves (contracts ext ext')
    (fun w v e => Separate tns lb w (unwatched ∘ v) e) (Inv tns lb) := by
  refine (Machine.tenant_preserves ext tns lb).compose (Cluster.drafting_preserves ext')
    (fun w v e hok => ?_) (fun w v e hok => ?_) (fun w v e m' hok h₁ h₂ hm => ?_)
    fun w v e c' hok h₁ h₂ hm => ?_
  · cases e with
    | issue k r a =>
      refine ⟨hok, fun m hm => ?_⟩
      cases hm
    | env e =>
      refine ⟨⟨trivial, trivial⟩, fun m hm => ?_⟩
      cases hm
      exact hok
  · cases e with
    | issue k r a => exact hok.1
    | env e => exact hok
  · have hpools : (clusterPart.get (machinePart.put w m')).ipPools = m'.pools :=
      ipPools_adopt { w.cluster with clusters := m'.clusters } m'.pools
    rw [hpools]
    exact h₂.advance (machine_moves_advance hm)
  · exact h₁.withPools (cluster_moves_foreign hok h₂ hm)

theorem Pristine.machine (h : Pristine s) :
    Machine.Pristine ⟨machinePart.get s.world, fun _ => .ret (), leftViews s.view⟩ where
  idle _ := rfl
  unseen k := congrArg Prod.fst (h.unseen (.inl k))
  held k m hs := by
    rw [show (machinePart.get s.world).machines = ∅ from h.machines] at hs
    cases hs
  vms := h.vms
  secrets := h.secrets
  pvcs := h.pvcs
  machines := h.machines
  keys := h.keys

theorem Pristine.tenantInv (h : Pristine s) :
    Machine.TenantInv tns lb (machinePart.get s.world) (leftViews s.view) := by
  have hmachine := h.machine
  refine ⟨⟨hmachine.ownedInv, fun k => hmachine.shieldInv _ k, fun n vm a x hs => ?_⟩,
    fun k m hs => ?_, fun k m hm => ?_⟩
  · rw [hmachine.vms] at hs
    cases hs
  · rw [hmachine.machines] at hs
    cases hs
  · have hfresh : leftViews s.view k = .fresh := hmachine.unseen k
    rw [hfresh] at hm
    cases hm

/-- Every state of a run, with a record that the invariant and the contracts hold of. -/
theorem Pristine.run (h : Pristine s)
    (hok : (system ext ext').Admissible (Separate tns lb) s acts) :
    ∃ t : State Key Req Resp World Watched, t.mapView unwatched = (system ext ext').run s acts ∧
      Inv tns lb t.world t.view ∧ (watching ext ext').Conforms (contracts ext ext') t := by
  let o : State Key Req Resp World Watched := s.mapView fun u => (u.1, (u.2, .fresh))
  have hread : Cluster.DraftsRead s.world.cluster.ipPools (rightViews o.view) := by
    refine ⟨fun k n p hp => ?_, fun k => ?_⟩
    · cases hp
    · exact (congrArg (fun u : View => u.2.cluster) (h.unseen (.inr k))).symm
  have hconf : (watching ext ext').Conforms (contracts ext ext') o := by
    refine .of_idle h.idle fun k => ?_
    cases k with
    | inl k => trivial
    | inr k =>
      refine ⟨?_, trivial⟩
      have hfresh : (o.view (.inr k)).2.1 = .fresh := congrArg Prod.snd (h.unseen (.inr k))
      show (o.view (.inr k)).2.1.Done k
      rw [hfresh]
      exact nofun
  obtain ⟨hinv, hconf'⟩ := inv_preserves.run (keeps_contracts ext ext') hconf
    ⟨h.tenantInv, hread⟩ (watching_forgets.admissible hok)
  exact ⟨(watching ext ext').run o acts, watching_forgets.run o acts, hinv, hconf'⟩

/-- The entries after a move of a machine. -/
theorem Inv.machine_changes {v : Key → Watched} (h : Inv tns lb w v) {ev : Machine.MachineEvent}
    {m' : Machine.World} (hm : (Machine.system ext).Moves (Machine.contract ext)
      (machinePart.get w) (leftViews v) ev m') (n x : String) :
    poolHolder m'.pools n x = w.holder n x ∨ ∃ k r a, ev = .issue k r a ∧
      Changes (fun id => id = k.id) (w.holder n x) (poolHolder m'.pools n x) := by
  cases hm with
  | @issue k r a hg =>
    exact Or.inr ⟨k, r, a, rfl, h.1.1.1.changes (Machine.exec_effect r a hg) n x⟩
  | env => exact Or.inl ((Machine.env_effect (machinePart.get w) _).holder n x)

/-- The entries after a move of a cluster. -/
theorem Inv.cluster_changes {v : Key → Watched} (h : Inv tns lb w v) {ev : Cluster.ClusterEvent}
    {c' : Cluster.World} (hm : (Cluster.drafting ext').Moves (Cluster.contract.both
      (Cluster.draftContract ext'.allocator)) w.cluster (rightViews v) ev c')
    (hok : Cluster.PoolsQuiet w.cluster ev) (n x : String) :
    poolHolder c'.ipPools n x = w.holder n x ∨ ∃ k r a c, ev = .issue k r a ∧
      (rightViews v k).1.cluster = some c ∧
      Changes (fun id => id = Cluster.lbID k c) (w.holder n x) (poolHolder c'.ipPools n x) := by
  have hstep := (Cluster.moves_poolStep h.2 hm hok).changes n x
  cases ev with
  | issue k r a =>
    rcases hstep with hsame | ⟨hfree, id, ⟨c, hc, hid⟩, hgiven⟩ | ⟨⟨id, ⟨c, hc, hid⟩, hheld⟩, hfree⟩
    · exact Or.inl hsame
    · exact Or.inr ⟨k, r, a, c, rfl, hc, Or.inr (Or.inl ⟨hfree, id, hid, hgiven⟩)⟩
    · exact Or.inr ⟨k, r, a, c, rfl, hc, Or.inr (Or.inr ⟨⟨id, hid, hheld⟩, hfree⟩)⟩
  | env e =>
    rcases hstep with hsame | ⟨-, id, hid, -⟩ | ⟨⟨id, hid, -⟩, -⟩
    · exact Or.inl hsame
    · exact hid.elim
    · exact hid.elim

/-- The entries after any action. -/
theorem step_changes {o : State Key Req Resp World Watched} (h : Inv tns lb o.world o.view)
    (hconf : (watching ext ext').Conforms (contracts ext ext') o) (a : ManagerAction)
    (hok : ∀ e ∈ o.event a, Separate tns lb o.world (unwatched ∘ o.view) e) (n x : String) :
    ((watching ext ext').step o a).world.holder n x = o.world.holder n x ∨
      (∃ k ans, a = .exec (.inl k) ans ∧ Changes (fun id => id = k.id) (o.world.holder n x)
        (((watching ext ext').step o a).world.holder n x)) ∨
      ∃ k ans c, a = .exec (.inr k) ans ∧ (o.view (.inr k)).2.1.cluster = some c ∧
        Changes (fun id => id = Cluster.lbID k c) (o.world.holder n x)
          (((watching ext ext').step o a).world.holder n x) := by
  have hstep := Controller.compose_step hconf a
  change ((watching ext ext').step o a).world = _ ∨ _ at hstep
  rcases hstep with hsame | ⟨ev, m', he, hm, hput⟩ | ⟨ev, c', he, hm, hput⟩
  · rw [hsame]
    exact Or.inl rfl
  · change ((watching ext ext').step o a).world = _ at hput
    have hpools : (machinePart.put o.world m').holder n x = poolHolder m'.pools n x :=
      congrArg (poolHolder · n x)
        (ipPools_adopt { o.world.cluster with clusters := m'.clusters } m'.pools)
    rw [hput, hpools]
    rcases h.machine_changes hm n x with hsame | ⟨k, r, b, rfl, hchange⟩
    · exact Or.inl hsame
    · obtain ⟨ans, rfl⟩ := State.exec_of_event he
      exact Or.inr (Or.inl ⟨k, ans, rfl, hchange⟩)
  · change ((watching ext ext').step o a).world = _ at hput
    have hquiet : Cluster.PoolsQuiet o.world.cluster ev := by
      have hsep := hok _ he
      cases ev with
      | issue k r b => exact hsep.1
      | env e => exact hsep
    rw [hput]
    rcases h.cluster_changes hm hquiet n x with hsame | ⟨k, r, b, c, rfl, hc, hchange⟩
    · exact Or.inl hsame
    · obtain ⟨ans, rfl⟩ := State.exec_of_event he
      exact Or.inr (Or.inr ⟨k, ans, c, rfl, hc, hchange⟩)

end Runs

/-- While both controllers run and the tenants of the pools keep apart, an entry of a pool changes
only in a step of its own tenant: a machine takes a free address for itself or gives its own one
back, and a cluster does so for the load balancer of the cluster that its pass has read. -/
theorem entries_changed_by_tenant (ext : Machine.Externals) (ext' : Cluster.Externals)
    (tns : ObjectKey → String) (lb : String → Bool) (s : ManagerState) (hs : Pristine s)
    (acts : List ManagerAction) (a : ManagerAction)
    (hok : (system ext ext').Admissible (Separate tns lb) s (acts ++ [a])) (n x : String) :
    let t := (system ext ext').run s acts
    let t' := (system ext ext').step t a
    t'.world.holder n x = t.world.holder n x ∨
      (∃ k ans, a = .exec (.inl k) ans ∧
        Changes (fun id => id = k.id) (t.world.holder n x) (t'.world.holder n x)) ∨
      ∃ k ans c, a = .exec (.inr k) ans ∧ (t.view (.inr k)).2.cluster = some c ∧
        Changes (fun id => id = Cluster.lbID k c) (t.world.holder n x)
          (t'.world.holder n x) := by
  obtain ⟨hacts, hlast, -⟩ := Controller.admissible_append.mp hok
  obtain ⟨o, ho, hinv, hconf⟩ := hs.run hacts
  rw [← ho] at hlast ⊢
  dsimp only
  rw [← watching_forgets.step]
  exact step_changes hinv hconf a hlast n x

namespace Sample

open Machine.Sample (firstFree address keyA clusterKey clusterWith machineSpec)
open Cluster.Sample (keyX lbPool lbPoolSpec)

def ext' : Cluster.Externals :=
  { Cluster.Sample.ext with allocator := firstFree [address 2, address 3] }

def start : ManagerState where
  world := ⟨∅, ∅, ∅, ∅, 0,
    ⟨(∅ : Table ObjectKey HarvesterCluster).insert clusterKey (clusterWith ["p"]), ∅, ∅, ∅,
      (∅ : Table String Cluster.StoredPool).insert "p" ⟨lbPool, none⟩, ∅, ∅, []⟩⟩
  pass _ := .ret ()
  view _ := (.fresh, .fresh)

def answers : (r : Req) → Answer r
  | .inl (_, r) => Machine.Sample.answers (fun _ => .none) r
  | .inr (_, r) => Cluster.Sample.answers Cluster.Sample.noFault r

def execs (n : ℕ) (k : Key) : List ManagerAction := List.replicate n (.exec k answers)

def isLB (id : String) : Bool := id = "target/ns-x-lb"

def recorded : List ManagerAction :=
  .env (.inr (.createCluster keyX [clusterFinalizer] lbPoolSpec)) ::
    .env (.inl (.createMachine keyA false [machineFinalizer] machineSpec)) ::
      .start (.inr keyX) :: execs 10 (.inr keyX) ++ .start (.inl keyA) :: execs 10 (.inl keyA)

/-- Both have read the pool `p`, where the address 10.0.0.2 is free. -/
def race : List ManagerAction :=
  recorded ++ .start (.inr keyX) :: execs 10 (.inr keyX) ++ .start (.inl keyA) ::
    execs 7 (.inl keyA)

/-- The cluster takes the address, the update of the machine is refused, and the next pass of the
machine takes another address. -/
def raceServed : List ManagerAction :=
  race ++ execs 10 (.inr keyX) ++ execs 17 (.inl keyA) ++ .start (.inl keyA) ::
    execs 24 (.inl keyA)

theorem pristine_start : Pristine start where
  idle _ := rfl
  unseen _ := rfl
  machines := rfl
  vms := rfl
  secrets := rfl
  pvcs := rfl
  keys n p hp x id hx := by
    have hpools : start.world.cluster.ipPools = (∅ : Table String IPPool).insert "p" lbPool := by
      decide
    rw [hpools, Table.lookup_insert_eq] at hp
    split_ifs at hp
    · obtain rfl := Option.some.inj hp
      cases hx
    · cases hp

end Sample

open Sample Machine.Sample Cluster.Sample in
theorem entries_changed_by_tenant_sample :
    let t := (system extTwo Sample.ext').run Sample.start race
    let t' := (system extTwo Sample.ext').step t (.exec (.inr keyX) Sample.answers)
    t.world.holder "p" "10.0.0.2" = none ∧
      t'.world.holder "p" "10.0.0.2" = some "target/ns-x-lb" ∧
      ∃ k ans c, (.exec (.inr keyX) Sample.answers : ManagerAction) = .exec (.inr k) ans ∧
        (t.view (.inr k)).2.cluster = some c ∧
        Changes (fun id => id = Cluster.lbID k c) (t.world.holder "p" "10.0.0.2")
          (t'.world.holder "p" "10.0.0.2") := by
  intro t t'
  have hbefore : t.world.holder "p" "10.0.0.2" = none := by decide +kernel
  have hafter : t'.world.holder "p" "10.0.0.2" = some "target/ns-x-lb" := by decide +kernel
  refine ⟨hbefore, hafter, ?_⟩
  rcases entries_changed_by_tenant extTwo Sample.ext' (fun _ => "target") isLB Sample.start
    pristine_start race (.exec (.inr keyX) Sample.answers) (by decide +kernel) "p" "10.0.0.2" with
    hsame | ⟨k, ans, ha, -⟩ | h
  · cases (hafter.symm.trans hsame).trans hbefore
  · cases ha
  · exact h

/-- While both controllers run and the tenants of the pools keep apart, the address of a VM is
nobody else's: its entry in the pool is free or that of the machine which created the VM, never one
of a load balancer, and no other VM has it. -/
theorem vm_address_exclusive (ext : Machine.Externals) (ext' : Cluster.Externals)
    (tns : ObjectKey → String) (lb : String → Bool) (s : ManagerState) (hs : Pristine s)
    (acts : List ManagerAction) (hok : (system ext ext').Admissible (Separate tns lb) s acts)
    (n : NamespacedName) (vm : Machine.VM) (a x : String)
    (hvm : ((system ext ext').run s acts).world.vms.lookup n = some vm)
    (ha : vm.allocation = some (a, x)) :
    (∀ id, ((system ext ext').run s acts).world.holder a x = some id →
      id = vm.creator.id ∧ lb id = false) ∧
    ∀ n' vm', ((system ext ext').run s acts).world.vms.lookup n' = some vm' →
      vm'.allocation = some (a, x) → n' = n := by
  obtain ⟨o, ho, hinv, -⟩ := hs.run hok
  rw [← ho] at hvm ⊢
  exact ⟨fun id hheld => hinv.1.vm_holder hvm ha hheld,
    fun n' vm' hvm' ha' => hinv.1.1.same_vm hvm' hvm ha' ha⟩

open Sample Machine.Sample in
theorem vm_address_exclusive_sample :
    let t := (system extTwo Sample.ext').run Sample.start raceServed
    ∃ vm, t.world.vms.lookup ⟨"target", "a"⟩ = some vm ∧
      vm.allocation = some ("p", "10.0.0.3") ∧
      t.world.holder "p" "10.0.0.2" = some "target/ns-x-lb" ∧
      ∀ n' vm', t.world.vms.lookup n' = some vm' → vm'.allocation = some ("p", "10.0.0.3") →
        n' = ⟨"target", "a"⟩ := by
  dsimp only
  have hmap : (((system extTwo Sample.ext').run Sample.start raceServed).world.vms.lookup
      ⟨"target", "a"⟩).map Machine.VM.allocation = some (some ("p", "10.0.0.3")) := by
    decide +kernel
  obtain ⟨vm, hvm, ha⟩ := Option.map_eq_some_iff.mp hmap
  exact ⟨vm, hvm, ha, by decide +kernel, (vm_address_exclusive extTwo Sample.ext'
    (fun _ => "target") isLB Sample.start pristine_start raceServed (by decide +kernel)
    ⟨"target", "a"⟩ vm "p" "10.0.0.3" hvm ha).2⟩

end Caphv.Manager
