import Caphv.AddressOwnership

namespace Caphv.Machine

def Req.poolRead : Req → Option String
  | .getPool n => some n
  | _ => none

/-- `allocateVMIP` would take an address from the pool: the machine's id is not in it, it is on
the machine's network, and it has an address to give. -/
@[mk_iff]
structure CanAllocate (ext : Externals) (k : ObjectKey) (m : HarvesterMachine) (p : IPPool) :
    Prop where
  new : existingAllocation p k.id = none
  network : poolMatchesNetworks p m.spec.networks = true
  free : (allocateVMIPFromPool ext.allocator p k.id).isOk = true

instance (ext : Externals) (k : ObjectKey) (m : HarvesterMachine) (p : IPPool) :
    Decidable (CanAllocate ext k m p) := decidable_of_iff' _ (canAllocate_iff ..)

theorem Allocates.canAllocate {ext : Externals} {k : ObjectKey} {v : View} {n x : String}
    {p p' : IPPool} {m : HarvesterMachine} {ck : ObjectKey} {c : HarvesterCluster}
    (h : Allocates ext k v n p' m ck c p x) : CanAllocate ext k m p :=
  ⟨h.new, h.network, by rw [h.result]; rfl⟩

def InSomePool (refs : List String) (w : World) (k : ObjectKey) : Prop :=
  ∃ n ∈ refs, ∃ p ∈ w.pools.lookup n, existingAllocation p k.id ≠ none

instance (refs : List String) (w : World) (k : ObjectKey) : Decidable (InSomePool refs w k) :=
  inferInstanceAs (Decidable (∃ n ∈ _, ∃ p ∈ _, _))

/-- While the id of machine `k` is in one of the pools, a pass of `k` that is not a deletion
finds no other one of them able to give it an address. -/
def OneSource (ext : Externals) (k : ObjectKey) (refs : List String) (w : World)
    (v : ObjectKey → View) : MachineEvent → Prop
  | .issue j r _ => j = k → InSomePool refs w k → ∀ n ∈ r.poolRead, n ∈ refs →
      ∀ m ∈ (v k).machine, m.deleting = false → ∀ p ∈ w.pools.lookup n, ¬ CanAllocate ext k m p
  | .env _ => True

instance (ext : Externals) (k : ObjectKey) (refs : List String) (w : World) (v : ObjectKey → View) :
    DecidablePred (OneSource ext k refs w v) := fun e => by
  unfold OneSource
  casesm MachineEvent <;> infer_instance

section SingleEntry

variable {ext : Externals} {k j : ObjectKey} {refs : List String} {w w' : World} {u u' : View}

/-- The machine's id is in at most one entry of at most one of the pools. -/
def SingleEntry (refs : List String) (k : ObjectKey) (w : World) : Prop :=
  ∀ n ∈ refs, ∀ n' ∈ refs, ∀ x x', w.holder n x = some k.id → w.holder n' x' = some k.id →
    n = n' ∧ x = x'

/-- No pool has an entry of the machine while its pass has read one that can give it an
address. -/
def SourceFree (ext : Externals) (refs : List String) (k : ObjectKey) (w : World) (u : View) :
    Prop :=
  ∀ m n p, u.machine = some m → m.deleting = false → u.pool = some (n, p) → n ∈ refs →
    CanAllocate ext k m p → ∀ q ∈ refs, ∀ x, w.holder q x ≠ some k.id

theorem not_inSomePool (h : ¬ InSomePool refs w k) {n : String} (hn : n ∈ refs) (x : String) :
    w.holder n x ≠ some k.id := by
  intro hx
  obtain ⟨p, hp, hpx⟩ := Option.bind_eq_some_iff.mp hx
  exact h ⟨n, hn, p, hp, fun hnone => existingAllocation_eq_none hnone x hpx⟩

theorem SingleEntry.effect {r : Req} {y : Resp r} (h : SingleEntry refs k w)
    (hfree : j = k → SourceFree ext refs k w u) (hpool : PoolSeen w u)
    (he : Effect ext j w u r y w' u') : SingleEntry refs k w' := by
  -- The id had no entry at all if the request adds one.
  have hnone : ∀ {n x p' m ck c p}, n ∈ refs → k.id = j.id →
      Allocates ext j u n p' m ck c p x → ∀ q ∈ refs, ∀ x, w.holder q x ≠ some k.id := by
    intro n x p' m ck c p hn hid ha
    obtain rfl := ObjectKey.id_injective hid
    exact hfree rfl m n p ha.phase.machine ha.phase.alive ha.read hn ha.canAllocate
  cases he.holderStep hpool with
  | same hsame =>
    intro n hn n' hn' x x' hx hx'
    exact h n hn n' hn' x x' (by rw [← hsame, hx]) (by rw [← hsame, hx'])
  | @allocate n₀ x₀ p p' _ m ck c ha _ _ _ _ _ hset =>
    intro n hn n' hn' x x' hx hx'
    rw [hset] at hx hx'
    split_ifs at hx hx' with hnx hnx' hnx'
    · exact ⟨hnx.1.trans hnx'.1.symm, hnx.2.trans hnx'.2.symm⟩
    · obtain ⟨rfl, rfl⟩ := hnx
      exact absurd hx' (hnone hn (Option.some.inj hx).symm ha n' hn' x')
    · obtain ⟨rfl, rfl⟩ := hnx'
      exact absurd hx (hnone hn' (Option.some.inj hx').symm ha n hn x)
    · exact h n hn n' hn' x x' hx hx'
  | release _ _ _ hset =>
    intro n hn n' hn' x x' hx hx'
    rw [hset] at hx hx'
    split_ifs at hx hx'
    exact h n hn n' hn' x x' hx hx'

/-- A step that gives the machine no address. -/
theorem SourceFree.of_holders (h : SourceFree ext refs k w u)
    (hold : ∀ n x, w'.holder n x = some k.id → w.holder n x = some k.id) :
    SourceFree ext refs k w' u :=
  fun m n p hm hd hp hn hcan q hq x hx => h m n p hm hd hp hn hcan q hq x (hold q x hx)

theorem SourceFree.effect_ne {v v' : View} {r : Req} {y : Resp r} (h : SourceFree ext refs k w u)
    (hj : j ≠ k) (hpool : PoolSeen w v) (he : Effect ext j w v r y w' v') :
    SourceFree ext refs k w' u := by
  refine h.of_holders fun n x hx => ?_
  rcases he.holder_origin hpool hx with hx | ⟨hid, -⟩
  · exact hx
  · exact absurd (ObjectKey.id_injective hid).symm hj

theorem SourceFree.effect {r : Req} {y : Resp r} (h : SourceFree ext refs k w u)
    (hpool : PoolSeen w u)
    (hok : InSomePool refs w k → ∀ n ∈ r.poolRead, n ∈ refs → ∀ m ∈ u.machine,
      m.deleting = false → ∀ p ∈ w.pools.lookup n, ¬ CanAllocate ext k m p)
    (he : Effect ext k w u r y w' u') : SourceFree ext refs k w' u' := by
  cases he with
  | readMachine _ hfirst =>
    intro m n p _ _ hp
    rw [hpool.early hfirst] at hp
    cases hp
  | @readPool n p _ _ hs =>
    intro m n' p' hm hd hp hn hcan q hq x
    cases hp
    exact not_inSomePool (fun hin => hok hin n rfl hn m hm hd p hs hcan) hq x
  | readPoolFailed _ =>
    intro m n p _ _ hp
    cases hp
  | updatePoolFailed _ =>
    intro m n p _ _ hp
    cases hp
  | @allocate n ip _ p' _ _ _ _ x ha _ _ =>
    intro m n' q hm hd hp hn hcan
    cases x with
    | error e => cases hp
    | ok _ =>
      cases hp
      obtain ⟨-, -, -, hholder⟩ := allocateVMIPFromPool_ok ha.result
      have hheld : p'.stored.status.holder ip = some k.id :=
        (p'.holder_stored ip).trans ((hholder ip).trans (if_pos rfl))
      exact absurd hheld (existingAllocation_eq_none hcan.new ip)
  | @release _ _ _ _ _ _ _ _ x hr _ _ =>
    intro m n' q hm hd hp
    cases x with
    | error e => cases hp
    | ok _ => exact absurd hr.phase (View.not_deleting hm hd)
  | _ => exact h

end SingleEntry

section System

variable {ext : Externals} {k : ObjectKey} {refs : List String}

structure SingleInv (ext : Externals) (refs : List String) (k : ObjectKey) (w : World)
    (v : ObjectKey → View) : Prop where
  pools : PoolsSeen w v
  single : SingleEntry refs k w
  free : SourceFree ext refs k w (v k)

theorem singleInv_preserves (ext : Externals) (refs : List String) (k : ObjectKey) :
    (system ext).Preserves (contract ext) (OneSource ext k refs) (SingleInv ext refs k) := by
  refine preserves_of_effects (fun j h => ⟨h.pools.fresh, h.single, ?_⟩)
    (fun {w w' v v' j r} a he hok h => ⟨h.pools.effect he, ?_, ?_⟩)
    fun e he _ h => ⟨h.pools.envEffect he, ?_, ?_⟩
  · refine update_rule (fun _ m n p hm => ?_) fun _ => h.free
    cases hm
  · exact h.single.effect (fun hj => hj ▸ h.free) (h.pools j) he
  · refine update_rule (fun hj => ?_) fun hj => h.free.effect_ne (Ne.symm hj) (h.pools j) he
    subst hj
    exact h.free.effect (h.pools k) (hok rfl) he
  · intro n hn n' hn' x x' hx hx'
    rw [he.holder] at hx hx'
    exact h.single n hn n' hn' x x' hx hx'
  · exact h.free.of_holders fun n x hx => by rw [← he.holder, hx]

/-- In every run in which no pass of machine `k` finds a pool that can give it an address while
its id is in another one, whatever status patches are lost, the id is in at most one entry of
at most one of the pools. -/
theorem allocateVMIP_idempotent (ext : Externals) (k : ObjectKey) (refs : List String)
    (s : MachineState) (hidle : s.Idle) (hview : ∀ j, s.view j = .fresh)
    (hs : SingleEntry refs k s.world) (acts : List MachineAction)
    (hok : (system ext).Admissible (OneSource ext k refs) s acts) :
    SingleEntry refs k ((system ext).run s acts).world := by
  have hfree : SourceFree ext refs k s.world (s.view k) := by
    intro m n p hm
    rw [hview k] at hm
    cases hm
  exact ((singleInv_preserves ext refs k).run (keeps_contract ext) (conforms_idle hidle)
    ⟨poolsSeen_of_unseen hview, hs, hfree⟩ hok).1.single

end System

namespace Sample

theorem singleEntry_start (poolRefs refs : List String) (k : ObjectKey) :
    SingleEntry refs k (start poolRefs).world := by
  intro n _ n' _ x x' hx
  obtain ⟨p, hp, hpx⟩ := Option.bind_eq_some_iff.mp hx
  rw [lookup_pools poolRefs n p hp] at hpx
  cases hpx

def retried : List MachineAction :=
  created keyA [machineFinalizer] ++ passWith statusLost keyA ++ pass keyA

/-- `b` takes the address of the first pool, so `a` takes that of the second, and its status is
lost; `b` is deleted, and `a` looks for an address again. -/
def retriedElsewhere : List MachineAction :=
  created keyB [machineFinalizer] ++ pass keyB ++ created keyA [machineFinalizer] ++
    passWith statusLost keyA ++ .env (.deleteMachine keyB) :: pass keyB ++ pass keyA

end Sample

open Sample in
theorem allocateVMIP_idempotent_sample :
    ((system ext).run (start ["p", "q"]) retried).world.holder "p" "10.0.0.2" = some keyA.id ∧
    SingleEntry ["p", "q"] keyA ((system ext).run (start ["p", "q"]) retried).world :=
  ⟨by decide +kernel, allocateVMIP_idempotent ext keyA ["p", "q"] (start ["p", "q"])
    (starts _).idle (starts _).unseen (singleEntry_start _ _ _) retried (by decide +kernel)⟩

open Sample in
/-- The second attempt finds the first pool free again and takes an address there too. -/
theorem address_taken_twice :
    let t := (system ext).run (start ["p", "q"]) retriedElsewhere
    t.world.holder "p" "10.0.0.2" = some keyA.id ∧
      t.world.holder "q" "10.0.0.2" = some keyA.id := by
  decide +kernel

end Caphv.Machine
