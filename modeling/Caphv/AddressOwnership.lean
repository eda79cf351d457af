import Caphv.AddressState
import Caphv.FinalizerSafety

namespace Caphv.Machine

open Net (IP parseIP)

def Req.poolUpdate : Req → Option (String × IPPool)
  | .updatePool n p => some (n, p)
  | _ => none

/-- If the request is a pool update that the server accepts, no other stored machine records
an address that the update gives to `k`. -/
def FreshAllocation (w : World) (k : ObjectKey) (r : Req) : Prop :=
  ∀ u ∈ r.poolUpdate, ∀ stored ∈ w.pools.lookup u.1,
    stored.resourceVersion = u.2.resourceVersion →
    ∀ e ∈ (Table.ofNil u.2.status.allocated).entries, e.2 = k.id →
      stored.status.holder e.1 ≠ some k.id →
      ∀ q ∈ w.machines.entries, q.1 ≠ k → q.2.status.allocation ≠ some (u.1, e.1)

instance (w : World) (k : ObjectKey) (r : Req) : Decidable (FreshAllocation w k r) := by
  unfold FreshAllocation
  infer_instance

/-- No address is allocated while another stored machine still records it. -/
def FreshAllocations (w : World) (_ : ObjectKey → View) : MachineEvent → Prop
  | .issue k r _ => FreshAllocation w k r
  | .env _ => True

instance (w : World) (v : ObjectKey → View) : DecidablePred (FreshAllocations w v) := fun e => by
  unfold FreshAllocations
  casesm MachineEvent <;> infer_instance

theorem FreshAllocation.unrecorded {w : World} {k j : ObjectKey} {n x : String} {p' : IPPool}
    {stored : IPPool} {m : HarvesterMachine} (h : FreshAllocation w k (.updatePool n p'))
    (hs : w.pools.lookup n = some stored)
    (hv : stored.resourceVersion = p'.resourceVersion) (hentry : p'.status.holder x = some k.id)
    (hfree : w.holder n x = none) (hm : w.machines.lookup j = some m)
    (halloc : m.status.allocation = some (n, x)) : j = k := by
  by_contra hj
  refine h (n, p') rfl stored hs hv ⟨x, k.id⟩ (AList.mem_lookup_iff.mp hentry) rfl ?_ ⟨j, m⟩
    (AList.mem_lookup_iff.mp hm) hj halloc
  rw [← World.holder_of_lookup hs, hfree]
  nofun

section Owned

variable {ext : Externals} {k j : ObjectKey} {w w' : World} {v : ObjectKey → View} {v' : View}
  {m : HarvesterMachine} {n x : String}

/-- The address that a stored machine records is held by it or by nobody, by it as long as
the machine is not being deleted; what a pass of a live machine has read of its own address
still holds. -/
structure Owned (w : World) (v : ObjectKey → View) : Prop where
  live : ∀ k m n x, w.machines.lookup k = some m → m.deleting = false →
    m.status.allocation = some (n, x) → w.holder n x = some k.id
  recorded : ∀ k m n x, w.machines.lookup k = some m → m.status.allocation = some (n, x) →
    w.holder n x = some k.id ∨ w.holder n x = none
  canonical : ∀ k m n x, w.machines.lookup k = some m → m.status.allocation = some (n, x) →
    n ≠ "" ∧ ∃ ip : IP, x = ip.string
  unique : ∀ k j m m' n x, w.machines.lookup k = some m → w.machines.lookup j = some m' →
    m.status.allocation = some (n, x) → m'.status.allocation = some (n, x) → k = j
  read : ∀ k m n x, (v k).machine = some m → m.deleting = false →
    m.status.allocation = some (n, x) → w.holder n x = some k.id
  seen : ∀ k m n p x, (v k).machine = some m → m.deleting = false →
    (v k).pool = some (n, p) → p.status.holder x = some k.id → w.holder n x = some k.id

theorem parseIP_empty : parseIP "" = none := by decide

/-- A deletion gives back the address that its stored machine records. -/
theorem Owned.release_target (h : Owned w v) (hseen : MachineSeen k w (v k)) {ck : ObjectKey}
    {c : HarvesterCluster} {ip : IP} (hphase : (v k).Deleting m ck c)
    (haddr : parseIP m.status.allocatedIPAddress = some ip) :
    ∃ m', w.machines.lookup k = some m' ∧ m'.deleting = true ∧
      m'.status.allocation = some (releasePoolRef m c, ip.string) := by
  have hne : m.status.allocatedIPAddress ≠ "" := by
    intro he
    rw [he, parseIP_empty] at haddr
    cases haddr
  obtain ⟨m', hs, -, hd, -, hsame⟩ := hseen.stored m hphase.machine
    (hseen.read m hphase.machine hphase.deleting) (Or.inl hphase.unpatched)
  have halloc : m'.status.allocation =
      some (m.status.allocatedPoolRef, m.status.allocatedIPAddress) := by
    rw [(hsame hphase.unpatched).allocation]
    exact allocation_eq_some.mpr ⟨hne, rfl, rfl⟩
  obtain ⟨href, a, ha⟩ := h.canonical k m' _ _ hs halloc
  refine ⟨m', hs, hd hphase.deleting, ?_⟩
  rw [ha, Net.parseIP_string, Option.some.injEq] at haddr
  rw [halloc, ha, ← haddr, Net.string_to16, releasePoolRef, if_pos href]

/-- A request takes an address only from the machine that issues it, and then in a
deletion. -/
theorem Owned.kept {r : Req} {y : Resp r} (h : Owned w v) (hseen : MachineSeen k w (v k))
    (hpool : PoolSeen w (v k)) (he : Effect ext k w (v k) r y w' v')
    (hh : w.holder n x = some j.id) (hj : j = k → ∀ m ck c, ¬ (v k).Deleting m ck c) :
    w'.holder n x = some j.id := by
  cases he.holderStep hpool with
  | same hsame => rw [hsame, hh]
  | @allocate n₀ x₀ _ _ _ _ _ _ _ _ _ _ hfree _ hstep =>
    have hne : ¬ (n = n₀ ∧ x = x₀) := by
      rintro ⟨rfl, rfl⟩
      rw [hfree] at hh
      cases hh
    rw [hstep, if_neg hne, hh]
  | @release _ m ck c ip hphase haddr _ hstep =>
    rw [hstep]
    split_ifs with hnx
    · obtain ⟨rfl, rfl⟩ := hnx
      obtain ⟨m', hs, -, halloc⟩ := h.release_target hseen hphase haddr
      rcases h.recorded k m' _ _ hs halloc with hown | hnone
      · have hjk : j = k := ObjectKey.id_injective (Option.some.inj (hh.symm.trans hown))
        exact absurd hphase (hj hjk m ck c)
      · rw [hnone] at hh
        cases hh
    · exact hh

theorem View.not_deleting {u : View} {ck : ObjectKey} {c : HarvesterCluster}
    {read : HarvesterMachine} (hm : u.machine = some read) (hd : read.deleting = false) :
    ¬ u.Deleting m ck c := by
  intro h
  obtain rfl := Option.some.inj (hm.symm.trans h.machine)
  rw [h.deleting] at hd
  cases hd

/-- A pass that has not seen its stored machine in deletion is not deleting it. -/
theorem MachineSeen.not_deleting {u : View} {ck : ObjectKey} {c : HarvesterCluster}
    {stored : HarvesterMachine} (h : MachineSeen k w u) (hs : w.machines.lookup k = some stored)
    (hd : stored.deleting = false) : ¬ u.Deleting m ck c := by
  intro hphase
  obtain ⟨m', hs', -, hdel, -⟩ := h.stored m hphase.machine
    (h.read m hphase.machine hphase.deleting) (Or.inl hphase.unpatched)
  obtain rfl := Option.some.inj (hs.symm.trans hs')
  rw [hdel hphase.deleting] at hd
  cases hd

theorem Owned.holds (h : Owned w v) {read : HarvesterMachine} (hm : (v k).machine = some read)
    (hd : read.deleting = false) (hh : (v k).Holds k n x) : w.holder n x = some k.id := by
  obtain ⟨p, hp, hx⟩ := hh
  exact h.seen k read n p x hm hd hp hx

theorem Owned.effect {r : Req} {y : Resp r} (h : Owned w v) (hseen : Seen w v)
    (hpool : PoolsSeen w v) (hkeys : PoolKeys w v) (hfresh : FreshAllocation w k r)
    (he : Effect ext k w (v k) r y w' v') : Owned w' (Function.update v k v') := by
  have hkept : ∀ {j n x}, w.holder n x = some j.id →
      (j = k → ∀ m ck c, ¬ (v k).Deleting m ck c) → w'.holder n x = some j.id :=
    fun hh hj => h.kept (hseen k) (hpool k) he hh hj
  refine ⟨fun j m n x hs hd ha => ?_, fun j m n x hs ha => ?_, fun j m n x hs ha => ?_,
    fun i j m m' n x hs hs' ha ha' => ?_, ?_, ?_⟩
  · obtain ⟨m₀, hs₀, hd₀, horigin⟩ := he.status_origin (hseen k) hs
    rcases horigin with hsame | ⟨rfl, read, hm, hrd, hholds⟩
    · refine hkept (h.live j m₀ n x hs₀ (hd₀ ▸ hd) (hsame ▸ ha)) ?_
      rintro rfl m' ck c
      exact (hseen j).not_deleting hs₀ (hd₀ ▸ hd)
    · exact hkept (h.holds hm hrd (hholds n x (Or.inr ha))) fun _ _ _ _ =>
        View.not_deleting hm hrd
  · obtain ⟨m₀, hs₀, -, horigin⟩ := he.status_origin (hseen k) hs
    rcases horigin with hsame | ⟨rfl, read, hm, hrd, hholds⟩
    · rw [hsame] at ha
      have hold := h.recorded j m₀ n x hs₀ ha
      cases he.holderStep (hpool k) with
      | same heq => rwa [heq]
      | allocate _ hl hv hentry hfree _ hstep =>
        rw [hstep]
        split_ifs with hnx
        · obtain ⟨rfl, rfl⟩ := hnx
          exact Or.inl (by rw [hfresh.unrecorded hl hv hentry hfree hs₀ ha])
        · exact hold
      | release _ _ _ hstep =>
        rw [hstep]
        split_ifs
        · exact Or.inr rfl
        · exact hold
    · exact Or.inl (hkept (h.holds hm hrd (hholds n x (Or.inr ha))) fun _ _ _ _ =>
        View.not_deleting hm hrd)
  · obtain ⟨m₀, hs₀, -, horigin⟩ := he.status_origin (hseen k) hs
    rcases horigin with hsame | ⟨rfl, read, hm, hrd, hholds⟩
    · exact h.canonical j m₀ n x hs₀ (hsame ▸ ha)
    · obtain ⟨p, hp, hx⟩ := hholds n x (Or.inr ha)
      obtain ⟨hn, hcanon⟩ := hkeys.seen j n p hp
      exact ⟨hn, hcanon x _ hx⟩
  · -- A machine that just recorded an address holds it, so no other one records it.
    have hrec : ∀ {i j m₀ m₁ n x}, i = k → w.holder n x = some i.id →
        w.machines.lookup j = some m₀ → m₀.status.allocation = m₁ → m₁ = some (n, x) → i = j := by
      rintro i j m₀ m₁ n x - hh hs₀ rfl ha₀
      rcases h.recorded j m₀ n x hs₀ ha₀ with hj | hj
      · exact ObjectKey.id_injective (Option.some.inj (hh.symm.trans hj))
      · rw [hj] at hh
        cases hh
    obtain ⟨m₀, hs₀, -, horigin⟩ := he.status_origin (hseen k) hs
    obtain ⟨m₁, hs₁, -, horigin₁⟩ := he.status_origin (hseen k) hs'
    rcases horigin with hsame | ⟨rfl, read, hm, hrd, hholds⟩
    · rcases horigin₁ with hsame₁ | ⟨rfl, read, hm, hrd, hholds⟩
      · exact h.unique i j m₀ m₁ n x hs₀ hs₁ (hsame ▸ ha) (hsame₁ ▸ ha')
      · exact (hrec rfl (h.holds hm hrd (hholds n x (Or.inr ha'))) hs₀ hsame.symm ha).symm
    · rcases horigin₁ with hsame₁ | ⟨rfl, -⟩
      · exact hrec rfl (h.holds hm hrd (hholds n x (Or.inr ha))) hs₁ hsame₁.symm ha'
      · rfl
  · refine forall_update (Q := fun (j : ObjectKey) (u : View) => ∀ m n x,
      u.machine = some m → m.deleting = false → m.status.allocation = some (n, x) →
        w'.holder n x = some j.id) ?_ ?_
    · intro m n x hm hd ha
      rcases he.machine_origin hm with hm | ⟨-, hs, rfl⟩
      · exact hkept (h.read k m n x hm hd ha) fun _ _ _ _ => View.not_deleting hm hd
      · exact h.live k m n x hs hd ha
    · intro j hj m n x hm hd ha
      exact hkept (h.read j m n x hm hd ha) fun hjk => absurd hjk hj
  · refine forall_update (Q := fun (j : ObjectKey) (u : View) => ∀ m n p x,
      u.machine = some m → m.deleting = false → u.pool = some (n, p) →
        p.status.holder x = some j.id → w'.holder n x = some j.id) ?_ ?_
    · intro m n p x hm hd hp hx
      rcases he.pool_origin hp with hp | hs
      · rcases he.machine_origin hm with hm | ⟨hnone, -⟩
        · exact hkept (h.seen k m n p x hm hd hp hx) fun _ _ _ _ => View.not_deleting hm hd
        · rw [(hpool k).early hnone] at hp
          cases hp
      · rw [World.holder_of_lookup hs, hx]
    · intro j hj m n p x hm hd hp hx
      exact hkept (h.seen j m n p x hm hd hp hx) fun hjk => absurd hjk hj

theorem Owned.envEffect (h : Owned w v) (he : EnvEffect w w') : Owned w' v := by
  have horigin : ∀ {j m n x}, w'.machines.lookup j = some m →
      m.status.allocation = some (n, x) → ∃ m₀, w.machines.lookup j = some m₀ ∧
        m₀.status.allocation = some (n, x) ∧ (m.deleting = false → m₀.deleting = false) := by
    intro j m n x hs ha
    rcases he.status_origin hs with ⟨m₀, hs₀, hst, hd⟩ | ⟨-, hnone⟩
    · exact ⟨m₀, hs₀, hst ▸ ha, hd⟩
    · rw [hnone] at ha
      cases ha
  refine ⟨fun j m n x hs hd ha => ?_, fun j m n x hs ha => ?_, fun j m n x hs ha => ?_,
    fun i j m m' n x hs hs' ha ha' => ?_, fun j m n x hm hd ha => ?_,
    fun j m n p x hm hd hp hx => ?_⟩
  · obtain ⟨m₀, hs₀, ha₀, hd₀⟩ := horigin hs ha
    rw [he.holder]
    exact h.live j m₀ n x hs₀ (hd₀ hd) ha₀
  · obtain ⟨m₀, hs₀, ha₀, -⟩ := horigin hs ha
    rw [he.holder]
    exact h.recorded j m₀ n x hs₀ ha₀
  · obtain ⟨m₀, hs₀, ha₀, -⟩ := horigin hs ha
    exact h.canonical j m₀ n x hs₀ ha₀
  · obtain ⟨m₀, hs₀, ha₀, -⟩ := horigin hs ha
    obtain ⟨m₁, hs₁, ha₁, -⟩ := horigin hs' ha'
    exact h.unique i j m₀ m₁ n x hs₀ hs₁ ha₀ ha₁
  · rw [he.holder]
    exact h.read j m n x hm hd ha
  · rw [he.holder]
    exact h.seen j m n p x hm hd hp hx

theorem Owned.fresh (h : Owned w v) : Owned w (Function.update v k .fresh) := by
  refine ⟨h.live, h.recorded, h.canonical, h.unique, ?_, ?_⟩
  · refine forall_update (Q := fun (j : ObjectKey) (u : View) => ∀ m n x,
      u.machine = some m → m.deleting = false → m.status.allocation = some (n, x) →
        w.holder n x = some j.id) ?_
      fun j _ => h.read j
    intro m n x hm
    cases hm
  · refine forall_update (Q := fun (j : ObjectKey) (u : View) => ∀ m n p x,
      u.machine = some m → m.deleting = false → u.pool = some (n, p) →
        p.status.holder x = some j.id → w.holder n x = some j.id) ?_
      fun j _ => h.seen j
    intro m n p x hm
    cases hm

theorem Pristine.owned {s : MachineState} (h : Pristine s) : Owned s.world s.view := by
  have hnone : ∀ k m, s.world.machines.lookup k ≠ some m := fun k m hs => by
    rw [h.machines] at hs
    cases hs
  have hview : ∀ k m, (s.view k).machine ≠ some m := fun k m hm => by
    rw [h.unseen k] at hm
    cases hm
  exact ⟨fun k m _ _ hs => absurd hs (hnone k m), fun k m _ _ hs => absurd hs (hnone k m),
    fun k m _ _ hs => absurd hs (hnone k m), fun k _ m _ _ _ hs => absurd hs (hnone k m),
    fun k m _ _ hm => absurd hm (hview k m), fun k m _ _ _ hm => absurd hm (hview k m)⟩

structure OwnedInv (w : World) (v : ObjectKey → View) : Prop where
  machines : Seen w v
  pools : PoolsSeen w v
  keys : PoolKeys w v
  owned : Owned w v

theorem OwnedInv.effect {r : Req} {y : Resp r} (h : OwnedInv w v)
    (hfresh : FreshAllocation w k r) (he : Effect ext k w (v k) r y w' v') :
    OwnedInv w' (Function.update v k v') :=
  ⟨h.machines.effect he, h.pools.effect he, h.keys.effect he,
    h.owned.effect h.machines h.pools h.keys hfresh he⟩

theorem OwnedInv.fresh (h : OwnedInv w v) : OwnedInv w (Function.update v k .fresh) :=
  ⟨h.machines.fresh, h.pools.fresh, h.keys.fresh, h.owned.fresh⟩

theorem OwnedInv.envEffect (h : OwnedInv w v) (he : EnvEffect w w') : OwnedInv w' v :=
  ⟨h.machines.envEffect he, h.pools.envEffect he, h.keys.envEffect he, h.owned.envEffect he⟩

theorem Pristine.ownedInv {s : MachineState} (h : Pristine s) : OwnedInv s.world s.view :=
  ⟨h.seen, poolsSeen_of_unseen h.unseen, h.poolKeys, h.owned⟩

theorem ownedInv_preserves (ext : Externals) :
    (system ext).Preserves (contract ext) FreshAllocations OwnedInv :=
  preserves_of_effects (fun _ h => h.fresh) (fun _ he hok h => h.effect hok he)
    fun _ he _ h => h.envEffect he

end Owned

/-- In every run that allocates no address which another stored machine still records, the
step that removes an entry from a stored pool is one of the machine whose id the entry
holds. -/
theorem entries_removed_by_owner (ext : Externals) (s : MachineState) (hs : Pristine s)
    (acts : List MachineAction) (hok : (system ext).Admissible FreshAllocations s acts)
    (a : MachineAction) (n x id : String)
    (hheld : ((system ext).run s acts).world.holder n x = some id)
    (hremoved : ((system ext).step ((system ext).run s acts) a).world.holder n x ≠ some id) :
    ∃ k ans, a = .exec k ans ∧ id = k.id := by
  obtain ⟨⟨hseen, hpool, -, hown⟩, hconf⟩ := (ownedInv_preserves ext).run
    (keeps_contract ext) (conforms_idle hs.idle) hs.ownedInv hok
  rcases step_effect hconf a with he | ⟨k, ans, r, y, v', rfl, he⟩
  · exact absurd ((he.holder n x).trans hheld) hremoved
  · refine ⟨k, ans, rfl, ?_⟩
    cases he.holderStep (hpool k) with
    | same heq => exact absurd ((heq n x).trans hheld) hremoved
    | allocate _ _ _ _ hfree _ hstep =>
      refine absurd ((hstep n x).trans ?_) hremoved
      split_ifs with hnx
      · obtain ⟨rfl, rfl⟩ := hnx
        rw [hfree] at hheld
        cases hheld
      · exact hheld
    | @release _ m ck c ip hphase haddr _ hstep =>
      by_cases hnx : n = releasePoolRef m c ∧ x = ip.string
      · obtain ⟨rfl, rfl⟩ := hnx
        obtain ⟨m', hs', -, halloc⟩ := hown.release_target (hseen k) hphase haddr
        rcases hown.recorded k m' _ _ hs' halloc with h | h
        · exact Option.some.inj (hheld.symm.trans h)
        · rw [h] at hheld
          cases hheld
      · exact absurd ((hstep n x).trans ((if_neg hnx).trans hheld)) hremoved

namespace Sample

theorem pristine (poolRefs : List String) : Pristine (start poolRefs) where
  toStarts := starts poolRefs
  machines := rfl
  keys n p hp x id hx := by
    rw [lookup_pools poolRefs n p hp] at hx
    cases hx

def createAndDelete : List MachineAction :=
  created keyA [machineFinalizer] ++ pass keyA ++ [.env (.deleteMachine keyA)]

def reuse : List MachineAction :=
  createAndDelete ++ pass keyA ++ created keyB [machineFinalizer] ++ pass keyB

end Sample

open Sample in
theorem entries_removed_by_owner_sample :
    ((system ext).run (start ["p"]) (createAndDelete ++ calls 7 (fun _ => .none) keyA)).world.holder
      "p" "10.0.0.2" = some keyA.id ∧
    ∃ k ans, (.exec keyA (answers fun _ => .none) : MachineAction) = .exec k ans ∧
      keyA.id = k.id := by
  have hheld : ((system ext).run (start ["p"])
      (createAndDelete ++ calls 7 (fun _ => .none) keyA)).world.holder "p" "10.0.0.2" =
        some keyA.id := by decide +kernel
  exact ⟨hheld, entries_removed_by_owner ext (start ["p"]) (pristine _)
    (createAndDelete ++ calls 7 (fun _ => .none) keyA) (by decide +kernel)
    (.exec keyA (answers fun _ => .none)) "p" "10.0.0.2" keyA.id hheld (by decide +kernel)⟩

open Sample in
/-- The second pass of the deletion of `a` releases the address that `b` got meanwhile. -/
theorem entry_of_other_machine_released :
    let t := (system ext).run (start ["p"]) (reuse ++ calls 7 (fun _ => .none) keyA)
    let t' := (system ext).step t (.exec keyA (answers fun _ => .none))
    t.world.holder "p" "10.0.0.2" = some keyB.id ∧ t'.world.holder "p" "10.0.0.2" = none := by
  decide +kernel

section Addressed

variable {ext : Externals} {k : ObjectKey} {w w' : World} {v : ObjectKey → View} {v' : View}
  {tns : ObjectKey → String}

/-- The address of a VM is held by the machine that created it, or is free and still recorded
by that machine. -/
def Addressed (w : World) : Prop :=
  ∀ n vm a x, w.vms.lookup n = some vm → vm.allocation = some (a, x) →
    w.holder a x = some vm.creator.id ∨ w.holder a x = none ∧
      ∃ m, w.machines.lookup vm.creator = some m ∧ m.status.allocation = some (a, x)

/-- A machine that records a free address keeps doing so while it is stored. -/
theorem Owned.recorded_kept {r : Req} {y : Resp r} (h : Owned w v) (hseen : Seen w v)
    (he : Effect ext k w (v k) r y w' v') {j : ObjectKey} {m m' : HarvesterMachine} {a x : String}
    (hs : w.machines.lookup j = some m) (ha : m.status.allocation = some (a, x))
    (hfree : w.holder a x = none) (hs' : w'.machines.lookup j = some m') :
    m'.status.allocation = some (a, x) := by
  obtain ⟨m₀, hs₀, -, horigin⟩ := he.status_origin (hseen k) hs'
  obtain rfl := Option.some.inj (hs.symm.trans hs₀)
  rcases horigin with hsame | ⟨rfl, read, hm, hrd, hholds⟩
  · rw [hsame, ha]
  · rw [h.holds hm hrd (hholds a x (Or.inl ha))] at hfree
    cases hfree

theorem Addressed.effect {r : Req} {y : Resp r} (h : Addressed w) (hown : OwnedInv w v)
    (hfresh : FreshAllocation w k r) (hsh : ∀ j, Shielded j w' (Function.update v k v' j))
    (he : Effect ext k w (v k) r y w' v') : Addressed w' := by
  obtain ⟨hseen, hpool, -, hown⟩ := hown
  intro n vm a x hs ha
  rcases he.vm_origin hs with ⟨vm₀, hs₀, hcont⟩ | ⟨m, ck, c, st, hnew⟩
  · rw [hcont.allocation] at ha
    -- The creator is still stored, since its VM is.
    obtain ⟨m', hm', -⟩ := (hsh vm.creator).vm n vm hs rfl
    rw [hcont.creator] at hm' ⊢
    rcases h n vm₀ a x hs₀ ha with hheld | ⟨hnone, m, hm, halloc⟩
    · cases he.holderStep (hpool k) with
      | same heq => exact Or.inl (by rw [heq, hheld])
      | allocate _ _ _ _ hfree _ hstep =>
        refine Or.inl ((hstep a x).trans ?_)
        split_ifs with hax
        · obtain ⟨rfl, rfl⟩ := hax
          rw [hfree] at hheld
          cases hheld
        · exact hheld
      | @release _ m ck c ip hphase haddr hmachines hstep =>
        rw [hstep]
        split_ifs with hax
        · obtain ⟨rfl, rfl⟩ := hax
          obtain ⟨m₁, hs₁, -, halloc₁⟩ := hown.release_target (hseen k) hphase haddr
          rcases hown.recorded k m₁ _ _ hs₁ halloc₁ with hk | hk
          · have hck : vm₀.creator = k :=
              ObjectKey.id_injective (Option.some.inj (hheld.symm.trans hk))
            exact Or.inr ⟨rfl, m₁, by rw [hck, hmachines, hs₁], halloc₁⟩
          · rw [hk] at hheld
            cases hheld
        · exact Or.inl hheld
    · have hrec := hown.recorded_kept hseen he hm halloc hnone hm'
      cases he.holderStep (hpool k) with
      | same heq => exact Or.inr ⟨by rw [heq, hnone], m', hm', hrec⟩
      | @allocate n₀ x₀ p p' stored read ck c hal hl hv hentry hfree _ hstep =>
        rw [hstep]
        split_ifs with hax
        · obtain ⟨rfl, rfl⟩ := hax
          exact Or.inl (by rw [hfresh.unrecorded hl hv hentry hfree hm halloc])
        · exact Or.inr ⟨hnone, m', hm', hrec⟩
      | release _ _ _ hstep =>
        refine Or.inr ⟨?_, m', hm', hrec⟩
        rw [hstep, hnone, ite_self]
  · rw [hnew.allocation] at ha
    rw [hnew.creator]
    have hheld : w.holder a x = some k.id := by
      by_cases hun : m.status.allocatedIPAddress = ""
      · exact hown.holds hnew.phase.machine hnew.phase.alive (hnew.records.holds hun ha)
      · rcases hnew.records with hsame | ⟨-, -, hun', -⟩
        · refine hown.read k m a x hnew.phase.machine hnew.phase.alive ?_
          rw [HarvesterMachineStatus.allocation, ← hsame.1, ← hsame.2]
          exact ha
        · exact absurd hun' hun
    exact Or.inl (hown.kept (hseen k) (hpool k) he hheld fun _ _ _ _ =>
      View.not_deleting hnew.phase.machine hnew.phase.alive)

theorem Addressed.envEffect (h : Addressed w) (hsh : ∀ j, Shielded j w' (v j))
    (he : EnvEffect w w') : Addressed w' := by
  intro n vm a x hs ha
  obtain ⟨vm₀, hs₀, hcont⟩ := he.vm_origin hs
  obtain ⟨m', hm', -⟩ := (hsh vm.creator).vm n vm hs rfl
  rw [hcont.allocation] at ha
  rw [hcont.creator] at hm' ⊢
  rw [he.holder]
  refine (h n vm₀ a x hs₀ ha).imp_right fun ⟨hnone, m, hm, halloc⟩ => ⟨hnone, m', hm', ?_⟩
  rcases he.status_origin hm' with ⟨m₀, hm₀, hst, -⟩ | ⟨habs, -⟩
  · obtain rfl := Option.some.inj (hm.symm.trans hm₀)
    rw [hst, halloc]
  · rw [habs] at hm
    cases hm

def AddressInv (tns : ObjectKey → String) (w : World) (v : ObjectKey → View) : Prop :=
  OwnedInv w v ∧ (∀ k, ShieldInv (fun j t => t = tns j) k w v) ∧ Addressed w

theorem addressInv_preserves (ext : Externals) (tns : ObjectKey → String) :
    (system ext).Preserves (contract ext)
      (fun w v e => TargetsIn (fun j t => t = tns j) w v e ∧ FreshAllocations w v e)
      (AddressInv tns) := by
  refine preserves_of_effects (fun _ h => ⟨h.1.fresh, fun k => (h.2.1 k).fresh, h.2.2⟩)
    (fun {w w' v v' j r} a he hok h => ?_) fun _ he _ h => ?_
  · have hsh : ∀ k, ShieldInv (fun j t => t = tns j) k w' (Function.update v j v') := fun k =>
      (h.2.1 k).effect (fun _ _ ht ht' => ht.trans ht'.symm) hok.1 he
    exact ⟨h.1.effect hok.2 he, hsh, h.2.2.effect h.1 hok.2 (fun k => (hsh k).2.2) he⟩
  · have hsh := fun k => (h.2.1 k).envEffect he
    exact ⟨h.1.envEffect he, hsh, h.2.2.envEffect (fun k => (hsh k).2.2) he⟩

/-- In every run that allocates no address which another stored machine still records, and in
which every machine keeps its target namespace, no two VMs have the same pool address. -/
theorem no_shared_address (ext : Externals) (tns : ObjectKey → String) (s : MachineState)
    (hs : Pristine s) (acts : List MachineAction)
    (hok : (system ext).Admissible
      (fun w v e => TargetsIn (fun j t => t = tns j) w v e ∧ FreshAllocations w v e) s acts)
    (n n' : NamespacedName) (vm vm' : VM) (a x : String)
    (hvm : ((system ext).run s acts).world.vms.lookup n = some vm)
    (hvm' : ((system ext).run s acts).world.vms.lookup n' = some vm')
    (ha : vm.allocation = some (a, x)) (ha' : vm'.allocation = some (a, x)) : n = n' := by
  have haddr : Addressed s.world := fun n vm a x hs' => by
    rw [hs.vms] at hs'
    cases hs'
  obtain ⟨⟨hown, hsh, hinv⟩, -⟩ := (addressInv_preserves ext tns).run (keeps_contract ext)
    (conforms_idle hs.idle) ⟨hs.ownedInv, fun k => hs.shieldInv _ k, haddr⟩ hok
  have hcreator : vm.creator = vm'.creator := by
    rcases hinv n vm a x hvm ha with h | ⟨h, m, hm, hrec⟩
    · rcases hinv n' vm' a x hvm' ha' with h' | ⟨h', -⟩
      · exact ObjectKey.id_injective (Option.some.inj (h.symm.trans h'))
      · rw [h'] at h
        cases h
    · rcases hinv n' vm' a x hvm' ha' with h' | ⟨-, m', hm', hrec'⟩
      · rw [h] at h'
        cases h'
      · exact hown.owned.unique _ _ m m' a x hm hm' hrec hrec'
  obtain ⟨hname, hns, -⟩ := (hsh vm.creator).2.1.vm n vm hvm
  obtain ⟨hname', hns', -⟩ := (hsh vm.creator).2.1.vm n' vm' hvm'
  rw [NamespacedName.mk.injEq]
  exact ⟨hns.trans (hcreator ▸ hns'.symm), hname.trans (hcreator ▸ hname'.symm)⟩

end Addressed

namespace Sample

def extTwo : Externals := { ext with allocator := firstFree [address 2, address 3] }

def twoMachines : List MachineAction :=
  created keyA [machineFinalizer] ++ created keyB [machineFinalizer] ++ pass keyA ++ pass keyB

end Sample

open Sample in
theorem no_shared_address_sample :
    (((system extTwo).run (start ["p"]) twoMachines).world.vms.lookup ⟨"target", "a"⟩).map
        VM.allocation = some (some ("p", "10.0.0.2")) ∧
    (((system extTwo).run (start ["p"]) twoMachines).world.vms.lookup ⟨"target", "b"⟩).map
        VM.allocation = some (some ("p", "10.0.0.3")) ∧
    ∀ vm, ((system extTwo).run (start ["p"]) twoMachines).world.vms.lookup ⟨"target", "b"⟩ =
      some vm → vm.allocation ≠ some ("p", "10.0.0.2") := by
  have hA : (((system extTwo).run (start ["p"]) twoMachines).world.vms.lookup
      ⟨"target", "a"⟩).map VM.allocation = some (some ("p", "10.0.0.2")) := by decide +kernel
  refine ⟨hA, by decide +kernel, fun vm hvm ha => ?_⟩
  obtain ⟨vmA, hvmA, haA⟩ := Option.map_eq_some_iff.mp hA
  have := no_shared_address extTwo (fun _ => "target") (start ["p"]) (pristine _) twoMachines
    (by decide +kernel) ⟨"target", "a"⟩ ⟨"target", "b"⟩ vmA vm "p" "10.0.0.2" hvmA hvm haA ha
  exact absurd this (by decide)

open Sample in
/-- The address of `a` is released while its VM is still there, and `b` boots with it. -/
theorem address_shared_by_two_vms :
    let t := (system ext).run (start ["p"]) reuse
    (t.world.vms.lookup ⟨"target", "a"⟩).map VM.allocation = some (some ("p", "10.0.0.2")) ∧
      (t.world.vms.lookup ⟨"target", "b"⟩).map VM.allocation =
        some (some ("p", "10.0.0.2")) := by
  decide +kernel

end Caphv.Machine
