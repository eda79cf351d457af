import Caphv.AddressState
import Caphv.FinalizerSafety

namespace Caphv.Machine

open Net (IP parseIP)

/-- `releaseVMIP` on this machine and cluster gives back address `x` of pool `n`. -/
@[mk_iff]
structure Names (m : HarvesterMachine) (c : HarvesterCluster) (n x : String) : Prop where
  recorded : m.status.allocatedIPAddress ≠ ""
  pool : n = releasePoolRef m c
  named : n ≠ ""
  address : (parseIP m.status.allocatedIPAddress).map IP.string = some x

instance (m : HarvesterMachine) (c : HarvesterCluster) (n x : String) :
    Decidable (Names m c n x) := decidable_of_iff' _ (names_iff ..)

/-- When a deletion of machine `k` reads its cluster, the status of the machine names every
entry that the machine has in its pools. -/
def RecordedOnly (k : ObjectKey) (w : World) (v : ObjectKey → View) : MachineEvent → Prop
  | .issue j r _ => j = k → ∀ ck ∈ r.clusterRead, ∀ m ∈ (v k).machine, m.deleting = true →
      ∀ c ∈ w.clusters.lookup ck, ∀ n ∈ poolRefs m c, ∀ p ∈ w.pools.lookup n,
      ∀ e ∈ (Table.ofNil p.status.allocated).entries, e.2 = k.id → Names m c n e.1
  | .env _ => True

instance (k : ObjectKey) (w : World) (v : ObjectKey → View) :
    DecidablePred (RecordedOnly k w v) := fun e => by
  unfold RecordedOnly
  casesm MachineEvent <;> infer_instance

def poolCallOk : (r : Req) → Resp r → Bool
  | .getPool _, .error _ => false
  | .updatePool _ _, .error _ => false
  | _, _ => true

/-- No pool call fails in a deletion of machine `k`. -/
def PoolCallsSucceed (k : ObjectKey) (w : World) (v : ObjectKey → View) : MachineEvent → Prop
  | .issue j r a => j = k → (∀ m ∈ (v k).machine, m.deleting = true) →
      poolCallOk r (exec j r a w).1 = true
  | .env _ => True

instance (k : ObjectKey) (w : World) (v : ObjectKey → View) :
    DecidablePred (PoolCallsSucceed k w v) := fun e => by
  unfold PoolCallsSucceed
  casesm MachineEvent <;> infer_instance

section Returning

variable {ext : Externals} {k j : ObjectKey} {w w' : World} {u u' : View}

/-- In a deletion no pool call has failed, the pool last seen has every entry of the machine
that is stored, and the status names those that its pools hold. -/
structure Returning (k : ObjectKey) (w : World) (u : View) : Prop where
  early : u.machine = none → u.cluster = none
  succeeded : u.Retiring → u.poolFailed = false
  seen : u.Retiring → ∀ n p, u.pool = some (n, p) → ∀ x, w.holder n x = some k.id →
    p.status.holder x = some k.id
  recorded : u.Retiring → ∀ m ck c, u.machine = some m → u.cluster = some (ck, c) →
    ∀ n ∈ poolRefs m c, ∀ x, w.holder n x = some k.id → Names m c n x

theorem Returning.fresh : Returning k w .fresh := by
  refine ⟨fun _ => rfl, fun _ => rfl, fun _ n p hp => ?_, fun _ m ck c hm => ?_⟩
  · cases hp
  · cases hm

/-- A step that changes nothing of what a deletion has seen, and gives it no entry. -/
theorem Returning.frame (h : Returning k w u) (hm : u'.machine = u.machine)
    (hc : u'.cluster = u.cluster) (hp : u'.pool = u.pool) (hf : u'.poolFailed = u.poolFailed)
    (hold : u.Retiring → ∀ n x, w'.holder n x = some k.id → w.holder n x = some k.id) :
    Returning k w' u' := by
  have hret : u'.Retiring → u.Retiring := fun hr m hm' => hr m (hm.trans hm')
  refine ⟨fun hn => ?_, fun hr => ?_, fun hr n p hp' x hx => ?_,
    fun hr m ck c hm' hc' n hn x hx => ?_⟩
  · rw [hc]
    exact h.early (hm ▸ hn)
  · rw [hf]
    exact h.succeeded (hret hr)
  · exact h.seen (hret hr) n p (hp ▸ hp') x (hold (hret hr) n x hx)
  · exact h.recorded (hret hr) m ck c (hm ▸ hm') (hc ▸ hc') n hn x (hold (hret hr) n x hx)

/-- A deletion gives its machine no entry. -/
theorem Effect.holder_of_retiring {r : Req} {y : Resp r} (he : Effect ext k w u r y w' u')
    (hpool : PoolSeen w u) (hr : u.Retiring) {n x : String} (hx : w'.holder n x = some k.id) :
    w.holder n x = some k.id := by
  rcases he.holder_origin hpool hx with hx | ⟨-, p', m, ck, c, p, ha⟩
  · exact hx
  · exact absurd hr ha.phase.not_retiring

theorem Returning.effect {r : Req} {y : Resp r} (h : Returning k w u) (hpool : PoolSeen w u)
    (hrec : ∀ ck ∈ r.clusterRead, ∀ m ∈ u.machine, m.deleting = true →
      ∀ c ∈ w.clusters.lookup ck, ∀ n ∈ poolRefs m c, ∀ p ∈ w.pools.lookup n,
      ∀ e ∈ (Table.ofNil p.status.allocated).entries, e.2 = k.id → Names m c n e.1)
    (hcall : (∀ m ∈ u.machine, m.deleting = true) → poolCallOk r y = true)
    (he : Effect ext k w u r y w' u') : Returning k w' u' := by
  have hold : u.Retiring → ∀ n x, w'.holder n x = some k.id → w.holder n x = some k.id :=
    fun hr n x hx => he.holder_of_retiring hpool hr hx
  cases he with
  | readMachine _ hfirst =>
    have hr : u.Retiring := fun m hm => by
      rw [hfirst] at hm
      cases hm
    refine ⟨fun hm => ?_, fun _ => h.succeeded hr, fun _ => h.seen hr, fun _ m ck c _ hc => ?_⟩
    · cases hm
    · rw [h.early hfirst] at hc
      cases hc
  | @readCluster ck c hm hs =>
    refine ⟨fun hn => absurd hn hm, h.succeeded, h.seen, fun hr m ck' c' hm' hc' n hn x hx => ?_⟩
    cases hc'
    obtain ⟨p, hp, hpx⟩ := Option.bind_eq_some_iff.mp hx
    exact hrec ck rfl m hm' (hr m hm') c hs n hn p hp ⟨x, k.id⟩ (AList.mem_lookup_iff.mp hpx) rfl
  | readPool _ _ hs =>
    refine ⟨h.early, h.succeeded, fun _ n' p' hp' x hx => ?_, h.recorded⟩
    cases hp'
    rw [← World.holder_of_lookup hs]
    exact hx
  | readPoolFailed _ =>
    refine ⟨h.early, fun hr => absurd (hcall hr) (by simp [poolCallOk]), fun _ n p hp => ?_,
      h.recorded⟩
    cases hp
  | updatePoolFailed _ =>
    refine ⟨h.early, fun hr => absurd (hcall hr) (by simp [poolCallOk]), fun _ n p hp => ?_,
      h.recorded⟩
    cases hp
  | @allocate n ip p p' _ m ck c x ha _ _ =>
    have hnot : ¬ (u.next (.updatePool n p') x).Retiring := by
      cases x <;> exact ha.phase.not_retiring
    refine ⟨?_, fun hr => absurd hr hnot, fun hr => absurd hr hnot, fun hr => absurd hr hnot⟩
    cases x <;> exact h.early
  | @release n ip p p' _ m ck c x hr hs _ =>
    cases x with
    | error e => exact absurd (hcall hr.phase.retiring) (by simp [poolCallOk])
    | ok _ =>
      refine ⟨h.early, h.succeeded, fun _ n' q hq x hx => ?_,
        fun hr m ck c hm hc n hn x hx => h.recorded hr m ck c hm hc n hn x (hold hr n x hx)⟩
      cases hq
      rw [World.holder_setPool, if_pos rfl] at hx
      exact hx
  | _ => exact h.frame rfl rfl rfl rfl hold

theorem Returning.effect_ne {v v' : View} {r : Req} {y : Resp r} (h : Returning k w u)
    (hj : j ≠ k) (hpool : PoolSeen w v) (he : Effect ext j w v r y w' v') :
    Returning k w' u := by
  refine h.frame rfl rfl rfl rfl fun _ n x hx => ?_
  rcases he.holder_origin hpool hx with hx | ⟨hid, -⟩
  · exact hx
  · exact absurd (ObjectKey.id_injective hid).symm hj

structure ReturningInv (k : ObjectKey) (w : World) (v : ObjectKey → View) : Prop where
  pools : PoolsSeen w v
  returning : Returning k w (v k)

theorem returningInv_preserves (ext : Externals) (k : ObjectKey) :
    (system ext).Preserves (contract ext)
      (fun w v e => RecordedOnly k w v e ∧ PoolCallsSucceed k w v e) (ReturningInv k) := by
  refine preserves_of_effects
    (fun _ h => ⟨h.pools.fresh, update_rule (fun _ => .fresh) fun _ => h.returning⟩)
    (fun {w w' v v' j r} a he hok h => ⟨h.pools.effect he, update_rule (fun hj => ?_) fun hj =>
      h.returning.effect_ne (Ne.symm hj) (h.pools j) he⟩)
    fun _ he _ h => ⟨h.pools.envEffect he, h.returning.frame rfl rfl rfl rfl
      fun _ n x hx => by rw [← he.holder, hx]⟩
  subst hj
  exact h.returning.effect (h.pools k) (hok.1 rfl) (hok.2 rfl) he

/-- At the end of a deletion the machine has no entry in its pools. -/
theorem Returning.none_left {m : HarvesterMachine} {ck : ObjectKey} {c : HarvesterCluster}
    (h : Returning k w u) (hd : Drops k u m ck c) {n : String} (hn : n ∈ poolRefs m c)
    (x : String) : w.holder n x ≠ some k.id := by
  intro hx
  have hr := hd.phase.retiring
  have hnames := h.recorded hr m ck c hd.phase.machine hd.phase.cluster n hn x hx
  rcases hd.address with hempty | hempty | hfailed | hgone
  · exact hnames.recorded hempty
  · exact hnames.named (hnames.pool.trans hempty)
  · rw [h.succeeded hr] at hfailed
    cases hfailed
  · obtain ⟨ip, hip, rfl⟩ := Option.map_eq_some_iff.mp hnames.address
    obtain ⟨p, hp, hnone⟩ := hgone ip hip
    have hheld := h.seen hr _ p hp ip.string (hnames.pool ▸ hx)
    rw [hnone] at hheld
    cases hheld

/-- In every run in which the status of machine `k` names its entries when its deletion reads
them, and no pool call of its deletion fails, the machine has no entry in the pools of its
network configuration when its finalizer goes. -/
theorem no_address_outlives_machine (ext : Externals) (k : ObjectKey) (s : MachineState)
    (hidle : s.Idle) (hview : ∀ j, s.view j = .fresh) (acts : List MachineAction)
    (hok : (system ext).Admissible
      (fun w v e => RecordedOnly k w v e ∧ PoolCallsSucceed k w v e) s acts)
    (a : MachineAction) (hp : Protected ((system ext).run s acts).world k)
    (hn : ¬ Protected ((system ext).step ((system ext).run s acts) a).world k) :
    ∃ m ck c, (((system ext).run s acts).view k).Deleting m ck c ∧ ∀ n ∈ poolRefs m c, ∀ x,
      ((system ext).step ((system ext).run s acts) a).world.holder n x ≠ some k.id := by
  have hstart : ReturningInv k s.world s.view :=
    ⟨poolsSeen_of_unseen hview, (hview k).symm ▸ .fresh⟩
  obtain ⟨⟨-, hret⟩, hconf⟩ := (returningInv_preserves ext k).run (keeps_contract ext)
    (conforms_idle hidle) hstart hok
  obtain ⟨m, ck, c, machines, hd, hw⟩ := drops_of_step hconf hp hn
  refine ⟨m, ck, c, hd.phase, fun n hn x => ?_⟩
  rw [hw]
  exact hret.none_left hd hn x

end Returning

namespace Sample

/-- Machine `a` gets its VM and address in passes with the given faults, is deleted, and its
VM goes away; its deletion comes to the last patch after `n` calls. -/
def deletedAfter (fault : Req → Fault) (n : ℕ) : List MachineAction :=
  created keyA [machineFinalizer] ++ passWith fault keyA ++
    .env (.deleteMachine keyA) :: pass keyA ++ .env (.vmGone ⟨"target", "a"⟩) ::
    calls n (fun _ => .none) keyA

end Sample

open Sample in
theorem no_address_outlives_machine_sample :
    ∃ m ck c, (((system ext).run (start ["p"]) (deletedAfter (fun _ => .none) 11)).view
      keyA).Deleting m ck c ∧ ∀ n ∈ poolRefs m c, ∀ x,
      ((system ext).step ((system ext).run (start ["p"]) (deletedAfter (fun _ => .none) 11))
        (.exec keyA (answers fun _ => .none))).world.holder n x ≠ some keyA.id :=
  no_address_outlives_machine ext keyA (start ["p"]) (starts _).idle (starts _).unseen
    (deletedAfter (fun _ => .none) 11) (by decide +kernel) (.exec keyA (answers fun _ => .none))
    (by decide +kernel) (by decide +kernel)

open Sample in
/-- The status patch that would have recorded the address is lost: the deletion, without a
failed call, leaves the entry behind. -/
theorem address_left_by_lost_patch :
    let t := (system ext).run (start ["p"]) (deletedAfter statusLost 9)
    let t' := (system ext).step t (.exec keyA (answers fun _ => .none))
    Protected t.world keyA ∧ ¬ Protected t'.world keyA ∧
      t'.world.holder "p" "10.0.0.2" = some keyA.id := by
  decide +kernel

end Caphv.Machine
