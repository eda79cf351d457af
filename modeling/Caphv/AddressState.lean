import Caphv.MachineInvariants

namespace Caphv.Machine

open Net (IP parseIP)

def World.holder (w : World) (n x : String) : Option String :=
  (w.pools.lookup n).bind fun p => p.status.holder x

theorem World.holder_of_lookup {w : World} {n x : String} {p : IPPool}
    (h : w.pools.lookup n = some p) : w.holder n x = p.status.holder x := by
  rw [holder, h, Option.bind_some]

theorem World.holder_setPool (w : World) (n n' x : String) (p : IPPool) :
    (w.setPool n p).holder n' x = if n' = n then p.status.holder x else w.holder n' x := by
  unfold holder
  rw [lookup_setPool]
  split_ifs <;> rfl

/-- Every address under which the pool holds an id is in canonical form. -/
def CanonicalKeys (p : IPPool) : Prop :=
  ∀ x id, p.status.holder x = some id → ∃ ip : IP, x = ip.string

section PoolSeen

variable {ext : Externals} {k : ObjectKey} {w w' : World} {v v' : View}

/-- A pool that a pass has seen is still the stored one if the version is the same. -/
structure PoolSeen (w : World) (v : View) : Prop where
  early : v.machine = none → v.pool = none
  seen : ∀ n p, v.pool = some (n, p) →
    ∃ stored, w.pools.lookup n = some stored ∧ p.resourceVersion ≤ stored.resourceVersion ∧
      (p.resourceVersion = stored.resourceVersion →
        ∀ x, p.status.holder x = stored.status.holder x)

/-- A pool was replaced by a newer one. -/
theorem PoolSeen.setPool (h : PoolSeen w v) {n : String} {p stored : IPPool}
    (hs : w.pools.lookup n = some stored)
    (hv : stored.resourceVersion < p.resourceVersion ∨
      stored.resourceVersion ≤ p.resourceVersion ∧
        ∀ x, p.status.holder x = stored.status.holder x) : PoolSeen (w.setPool n p) v := by
  refine ⟨h.early, fun n' p' hp' => ?_⟩
  obtain ⟨stored', hs', hle, hsame⟩ := h.seen n' p' hp'
  rw [lookup_setPool]
  split_ifs with hnn
  · subst hnn
    obtain rfl := Option.some.inj (hs.symm.trans hs')
    refine ⟨p, rfl, by omega, fun heq x => ?_⟩
    rcases hv with hv | ⟨hv, hh⟩
    · omega
    · rw [hh x]
      exact hsame (by omega) x
  · exact ⟨stored', hs', hle, hsame⟩

theorem PoolSeen.of_none (hp : v.pool = none) : PoolSeen w v := by
  refine ⟨fun _ => hp, fun n p hv => ?_⟩
  rw [hp] at hv
  cases hv

/-- What is stored under the version that the pass has read has the holders that it read. -/
theorem PoolSeen.stored_holder (h : PoolSeen w v) {n : String} {p stored : IPPool}
    (hread : v.pool = some (n, p)) (hs : w.pools.lookup n = some stored)
    (hv : stored.resourceVersion = p.resourceVersion) (x : String) :
    p.status.holder x = stored.status.holder x := by
  obtain ⟨stored', hs', -, hsame⟩ := h.seen n p hread
  obtain rfl := Option.some.inj (hs.symm.trans hs')
  exact hsame hv.symm x

/-- The view after an update of a pool that the server accepted. -/
theorem PoolSeen.update (hm : v.machine ≠ none) (n : String) (p' : IPPool)
    (x : Except ApiError Unit) :
    PoolSeen (w.setPool n p'.stored)
      (v.next (.updatePool n p') x) := by
  cases x with
  | error e => exact .of_none rfl
  | ok u =>
    refine ⟨fun hnone => absurd hnone hm, fun n' q hq => ?_⟩
    cases hq
    exact ⟨_, (lookup_setPool w n n _).trans (if_pos rfl), le_rfl, fun _ _ => rfl⟩

theorem Guard.machine_of_getPool {n : String} (hg : Guard ext k v (.getPool n)) :
    v.machine ≠ none := by
  rcases hg with ⟨m, ck, c, h, -⟩ | ⟨m, ck, c, h, -⟩
  · simp [h.machine]
  · simp [h.machine]

theorem PoolSeen.effect {r : Req} {x : Resp r} (h : PoolSeen w v)
    (he : Effect ext k w v r x w' v') : PoolSeen w' v' := by
  cases he with
  | readMachine _ hfirst =>
    refine ⟨fun hm => ?_, h.seen⟩
    cases hm
  | @readPool n p hg hn hs =>
    refine ⟨fun hm => absurd hm hg.machine_of_getPool, fun n' q hq => ?_⟩
    cases hq
    exact ⟨p, hs, le_rfl, fun _ _ => rfl⟩
  | readPoolFailed _ => exact .of_none rfl
  | updatePoolFailed _ => exact .of_none rfl
  | allocate ha hs hv => exact .update (by simp [ha.phase.machine]) _ _ _
  | release hr hs hv => exact .update (by simp [hr.phase.machine]) _ _ _
  | _ => exact ⟨h.early, h.seen⟩

/-- The view of another machine after an accepted update. -/
theorem PoolSeen.effect_ne {u : View} {r : Req} {x : Resp r} (h : PoolSeen w u)
    (he : Effect ext k w v r x w' v') : PoolSeen w' u := by
  cases he with
  | allocate ha hs hv => exact h.setPool hs (Or.inl (Nat.lt_succ_of_le hv.le))
  | release hr hs hv => exact h.setPool hs (Or.inl (Nat.lt_succ_of_le hv.le))
  | _ => exact ⟨h.early, h.seen⟩

theorem PoolSeen.envEffect (h : PoolSeen w v) (he : EnvEffect w w') : PoolSeen w' v := by
  cases he with
  | pool hs hv hh => exact h.setPool hs (Or.inr ⟨hv, hh⟩)
  | _ => exact ⟨h.early, h.seen⟩

def PoolsSeen (w : World) (v : ObjectKey → View) : Prop := ∀ k, PoolSeen w (v k)

theorem PoolsSeen.fresh {v : ObjectKey → View} (h : PoolsSeen w v) :
    PoolsSeen w (Function.update v k .fresh) :=
  forall_update (.of_none rfl) fun j _ => h j

theorem PoolsSeen.effect {v : ObjectKey → View} {r : Req} {x : Resp r} (h : PoolsSeen w v)
    (he : Effect ext k w (v k) r x w' v') : PoolsSeen w' (Function.update v k v') :=
  forall_update ((h k).effect he) fun j _ => (h j).effect_ne he

theorem PoolsSeen.envEffect {v : ObjectKey → View} (h : PoolsSeen w v) (he : EnvEffect w w') :
    PoolsSeen w' v := fun k => (h k).envEffect he

/-- What a request of machine `k` does to the holders of the stored pools. -/
inductive HolderStep (ext : Externals) (k : ObjectKey) (w : World) (v : View) (w' : World) :
    Req → Prop where
  | same {r : Req} (h : ∀ n x, w'.holder n x = w.holder n x) : HolderStep ext k w v w' r
  | allocate {n x : String} {p p' stored : IPPool} {m : HarvesterMachine} {ck : ObjectKey}
      {c : HarvesterCluster} (allocates : Allocates ext k v n p' m ck c p x)
      (lookup : w.pools.lookup n = some stored)
      (version : stored.resourceVersion = p'.resourceVersion)
      (entry : p'.status.holder x = some k.id) (free : w.holder n x = none)
      (machines : w'.machines = w.machines)
      (h : ∀ n' x', w'.holder n' x' = if n' = n ∧ x' = x then some k.id else w.holder n' x') :
      HolderStep ext k w v w' (.updatePool n p')
  | release {r : Req} {m : HarvesterMachine} {ck : ObjectKey} {c : HarvesterCluster} {ip : IP}
      (phase : v.Deleting m ck c) (address : parseIP m.status.allocatedIPAddress = some ip)
      (machines : w'.machines = w.machines)
      (h : ∀ n' x', w'.holder n' x' =
        if n' = releasePoolRef m c ∧ x' = ip.string then none else w.holder n' x') :
      HolderStep ext k w v w' r

theorem Effect.holderStep {r : Req} {x : Resp r} (he : Effect ext k w v r x w' v')
    (h : PoolSeen w v) : HolderStep ext k w v w' r := by
  cases he with
  | @allocate n ip p p' stored m ck c x ha hs hv =>
    obtain ⟨hfree, -, hver, hholder⟩ := allocateVMIPFromPool_ok ha.result
    have hsame := h.stored_holder ha.read hs (hv.trans hver)
    refine .allocate ha hs hv ((hholder ip).trans (if_pos rfl)) ?_ rfl fun n' x' => ?_
    · rw [World.holder_of_lookup hs, ← hsame]
      exact hfree
    · rw [World.holder_setPool]
      by_cases hn : n' = n
      · subst hn
        simp only [if_true, true_and, IPPool.holder_stored, hholder, World.holder_of_lookup hs,
          hsame]
      · simp only [hn, if_false, false_and]
  | @release n ip p p' stored m ck c x hr hs hv =>
    have hsame := h.stored_holder hr.read hs (by rw [hv, hr.result])
    refine .release hr.phase hr.address rfl fun n' x' => ?_
    rw [World.holder_setPool, ← hr.name]
    by_cases hn : n' = n
    · subst hn
      simp only [if_true, true_and, hr.result, IPPool.holder_stored, holder_release, ipString,
        hsame, World.holder_of_lookup hs]
    · simp only [hn, if_false, false_and]
  | _ => exact .same fun _ _ => rfl

/-- An id is where it was, or the machine of the request has just been given the address. -/
theorem Effect.holder_origin {r : Req} {y : Resp r} (he : Effect ext k w v r y w' v')
    (h : PoolSeen w v) {n x id : String} (hx : w'.holder n x = some id) :
    w.holder n x = some id ∨
      id = k.id ∧ ∃ p' m ck c p, Allocates ext k v n p' m ck c p x := by
  cases he.holderStep h with
  | same hsame => exact Or.inl (by rw [← hsame, hx])
  | @allocate n₀ x₀ p p' _ m ck c ha _ _ _ _ _ hstep =>
    rw [hstep] at hx
    split_ifs at hx with hnx
    · obtain ⟨rfl, rfl⟩ := hnx
      exact Or.inr ⟨(Option.some.inj hx).symm, p', m, ck, c, p, ha⟩
    · exact Or.inl hx
  | release _ _ _ hstep =>
    rw [hstep] at hx
    split_ifs at hx
    exact Or.inl hx

theorem EnvEffect.holder (he : EnvEffect w w') (n x : String) : w'.holder n x = w.holder n x := by
  cases he with
  | @pool n' p p' hs _ hh =>
    rw [World.holder_setPool]
    split_ifs with hn
    · rw [hn, World.holder_of_lookup hs, hh]
    · rfl
  | _ => rfl

end PoolSeen

section PoolKeys

variable {ext : Externals} {k : ObjectKey} {w w' : World} {v : ObjectKey → View} {v' : View}

/-- Every pool, as stored and as seen by a pass, holds canonical addresses, and no pass uses a
pool without a name. -/
structure PoolKeys (w : World) (v : ObjectKey → View) : Prop where
  stored : ∀ n p, w.pools.lookup n = some p → CanonicalKeys p
  seen : ∀ k n p, (v k).pool = some (n, p) → n ≠ "" ∧ CanonicalKeys p

theorem canonicalKeys_allocate {a : Allocator} {p p' : IPPool} {id x : String}
    (hp : CanonicalKeys p) (h : allocateVMIPFromPool a p id = .ok (x, p')) : CanonicalKeys p' := by
  obtain ⟨-, hx, -, hholder⟩ := allocateVMIPFromPool_ok h
  intro y id' hy
  rw [hholder y] at hy
  split_ifs at hy with hyx
  · exact hyx ▸ hx
  · exact hp y id' hy

theorem canonicalKeys_release {p : IPPool} (hp : CanonicalKeys p) (ip : Option IP) :
    CanonicalKeys { p with status := Store.release p.status ip } := by
  intro y id hy
  simp only [holder_release] at hy
  split_ifs at hy
  exact hp y id hy

theorem PoolKeys.fresh (h : PoolKeys w v) : PoolKeys w (Function.update v k .fresh) := by
  refine ⟨h.stored, forall_update (Q := fun _ (u : View) => ∀ n p, u.pool = some (n, p) →
    n ≠ "" ∧ CanonicalKeys p) (fun n p hp => ?_) fun j _ => h.seen j⟩
  cases hp

/-- An accepted update with canonical addresses. -/
theorem PoolKeys.update (h : PoolKeys w v) {n : String} {p' : IPPool} (hn : n ≠ "")
    (hk : CanonicalKeys p') (x : Except ApiError Unit) :
    PoolKeys (w.setPool n p'.stored)
      (Function.update v k ((v k).next (.updatePool n p') x)) := by
  have hk' : CanonicalKeys p'.stored := fun y id hy => hk y id (p'.holder_stored y ▸ hy)
  refine ⟨fun a p hp => ?_, forall_update (Q := fun _ (u : View) => ∀ n p, u.pool = some (n, p) →
    n ≠ "" ∧ CanonicalKeys p) (fun a p hp => ?_) fun j _ => h.seen j⟩
  · rw [lookup_setPool] at hp
    split_ifs at hp
    · exact Option.some.inj hp ▸ hk'
    · exact h.stored a p hp
  · cases x with
    | error e => cases hp
    | ok u =>
      cases hp
      exact ⟨hn, hk'⟩

theorem PoolKeys.effect {r : Req} {x : Resp r} (h : PoolKeys w v)
    (he : Effect ext k w (v k) r x w' v') : PoolKeys w' (Function.update v k v') := by
  have hview : v'.pool = (v k).pool → ∀ j n p, (Function.update v k v' j).pool = some (n, p) →
      n ≠ "" ∧ CanonicalKeys p := fun hv =>
    forall_update (Q := fun _ (u : View) => ∀ n p, u.pool = some (n, p) → n ≠ "" ∧ CanonicalKeys p)
      (fun n p hp => h.seen k n p (hv ▸ hp)) fun j _ => h.seen j
  have hnone : v'.pool = none → ∀ j n p, (Function.update v k v' j).pool = some (n, p) →
      n ≠ "" ∧ CanonicalKeys p := fun hv =>
    forall_update (Q := fun _ (u : View) => ∀ n p, u.pool = some (n, p) → n ≠ "" ∧ CanonicalKeys p)
      (fun n p hp => by rw [hv] at hp; cases hp) fun j _ => h.seen j
  cases he with
  | @readPool n p _ hn hs =>
    refine ⟨h.stored, forall_update (Q := fun _ (u : View) => ∀ n p, u.pool = some (n, p) →
      n ≠ "" ∧ CanonicalKeys p) (fun a q hq => ?_) fun j _ => h.seen j⟩
    cases hq
    exact ⟨hn, h.stored n p hs⟩
  | readPoolFailed _ => exact ⟨h.stored, hnone rfl⟩
  | updatePoolFailed _ => exact ⟨h.stored, hnone rfl⟩
  | allocate ha _ _ =>
    obtain ⟨hn, hk⟩ := h.seen k _ _ ha.read
    exact h.update hn (canonicalKeys_allocate hk ha.result) _
  | release hr _ _ =>
    obtain ⟨hn, hk⟩ := h.seen k _ _ hr.read
    exact h.update hn (hr.result ▸ canonicalKeys_release hk _) _
  | _ => exact ⟨h.stored, hview rfl⟩

theorem PoolKeys.envEffect (h : PoolKeys w v) (he : EnvEffect w w') : PoolKeys w' v := by
  cases he with
  | @pool n p p' hs _ hh =>
    refine ⟨fun a q hq => ?_, h.seen⟩
    rw [lookup_setPool] at hq
    split_ifs at hq
    · obtain rfl := Option.some.inj hq
      exact fun x id hx => h.stored n p hs x id (hh x ▸ hx)
    · exact h.stored a q hq
  | _ => exact ⟨h.stored, h.seen⟩

end PoolKeys

section Status

variable {ext : Externals} {k j : ObjectKey} {w w' : World} {v v' : View}
  {m m' : HarvesterMachine}

theorem allocation_eq_some {st : HarvesterMachineStatus} {n x : String} :
    st.allocation = some (n, x) ↔
      st.allocatedIPAddress ≠ "" ∧ st.allocatedPoolRef = n ∧ st.allocatedIPAddress = x := by
  unfold HarvesterMachineStatus.allocation
  split_ifs with h
  · simp [h]
  · simp [h]

theorem SameAllocation.allocation {s : HarvesterMachine} (h : SameAllocation m s) :
    s.status.allocation = m.status.allocation := by
  rw [HarvesterMachineStatus.allocation, HarvesterMachineStatus.allocation, h.1, h.2]

/-- An address recorded since the pass read none is one that it has seen held. -/
theorem View.Records.holds {st : HarvesterMachineStatus} {n x : String} (h : v.Records k m st)
    (hun : m.status.allocatedIPAddress = "") (hst : st.allocation = some (n, x)) :
    v.Holds k n x := by
  obtain ⟨hne, rfl, rfl⟩ := allocation_eq_some.mp hst
  rcases h with ⟨hip, -⟩ | ⟨-, -, -, hh⟩
  · exact absurd (hip.trans hun) hne
  · exact hh

/-- The stored machine was there before the request, and records the address it recorded,
unless its own pass wrote one that it has seen held. -/
theorem Effect.status_origin {r : Req} {x : Resp r} (he : Effect ext k w v r x w' v')
    (hseen : MachineSeen k w v) (hs' : w'.machines.lookup j = some m') :
    ∃ m, w.machines.lookup j = some m ∧ m'.deleting = m.deleting ∧
      (m'.status.allocation = m.status.allocation ∨
        j = k ∧ ∃ read, v.machine = some read ∧ read.deleting = false ∧
          ∀ n x, m.status.allocation = some (n, x) ∨ m'.status.allocation = some (n, x) →
            v.Holds k n x) := by
  by_cases hj : j = k
  · subst hj
    cases he with
    | @patchConditions _ _ _ m₀ hs =>
      cases (lookup_setMachine_self _ _ _).symm.trans hs'
      exact ⟨m₀, hs, rfl, Or.inl rfl⟩
    | @patchObject _ _ _ _ m₀ _ _ _ _ _ _ hs _ =>
      cases (lookup_setMachine_self _ _ _).symm.trans hs'
      exact ⟨m₀, hs, rfl, Or.inl rfl⟩
    | patchObjectLast _ _ _ _ _ _ _ => cases (AList.lookup_erase _ _).symm.trans hs'
    | @patchStatus p _ read m₀ st hm hp hrec hs =>
      cases (lookup_setMachine_self _ _ _).symm.trans hs'
      refine ⟨m₀, hs, rfl, ?_⟩
      have hrec' := hrec
      rcases hrec with hsame | ⟨hd, hf, hun, -⟩
      · left
        simp [hp, StatusPatch.apply, StatusPatch.between, changedTo, hsame.1, hsame.2,
          HarvesterMachineStatus.allocation]
      · obtain ⟨m₁, hs₁, -, -, hrec₁, -⟩ := hseen.stored read hm (List.ne_nil_of_mem hf)
          (Or.inr ⟨hd, hf⟩)
        obtain rfl := Option.some.inj (hs.symm.trans hs₁)
        refine Or.inr ⟨rfl, read, hm, hd, fun n x hnx => ?_⟩
        rcases hnx with h | h
        · exact hrec₁.holds hun h
        · exact (hp ▸ hrec'.patch hrec₁ : v.Records _ _ _).holds hun h
    | _ => exact ⟨m', hs', rfl, Or.inl rfl⟩
  · rw [he.machines_ne hj] at hs'
    exact ⟨m', hs', rfl, Or.inl rfl⟩

/-- The machine of a view is the one from before, or was just read. -/
theorem Effect.machine_origin {r : Req} {x : Resp r} (he : Effect ext k w v r x w' v')
    (hm : v'.machine = some m) :
    v.machine = some m ∨ v.machine = none ∧ w.machines.lookup k = some m ∧ w' = w := by
  cases he with
  | readMachine hs hfirst =>
    cases hm
    exact Or.inr ⟨hfirst, hs, rfl⟩
  | @allocate _ _ _ _ _ _ _ _ x _ _ _ => cases x <;> exact Or.inl hm
  | @release _ _ _ _ _ _ _ _ x _ _ _ => cases x <;> exact Or.inl hm
  | _ => exact Or.inl hm

/-- The pool of a view is the one from before, or is the one that is stored now. -/
theorem Effect.pool_origin {r : Req} {x : Resp r} (he : Effect ext k w v r x w' v')
    {n : String} {p : IPPool} (hp : v'.pool = some (n, p)) :
    v.pool = some (n, p) ∨ w'.pools.lookup n = some p := by
  cases he with
  | readPool _ _ hs =>
    cases hp
    exact Or.inr hs
  | readPoolFailed _ => cases hp
  | updatePoolFailed _ => cases hp
  | @allocate _ _ _ _ _ _ _ _ x _ _ _ =>
    cases x with
    | error e => cases hp
    | ok u =>
      cases hp
      exact Or.inr ((lookup_setPool _ _ _ _).trans (if_pos rfl))
  | @release _ _ _ _ _ _ _ _ x _ _ _ =>
    cases x with
    | error e => cases hp
    | ok u =>
      cases hp
      exact Or.inr ((lookup_setPool _ _ _ _).trans (if_pos rfl))
  | _ => exact Or.inl hp

end Status

/-- An installation before the first machine, whose pools hold canonical addresses. -/
structure Pristine (s : MachineState) : Prop extends Starts s where
  machines : s.world.machines = ∅
  keys : ∀ n p, s.world.pools.lookup n = some p → CanonicalKeys p

theorem poolsSeen_of_unseen {s : MachineState} (h : ∀ k, s.view k = .fresh) :
    PoolsSeen s.world s.view := by
  intro k
  rw [h k]
  exact .of_none rfl

theorem Pristine.poolKeys {s : MachineState} (h : Pristine s) : PoolKeys s.world s.view := by
  refine ⟨h.keys, fun k n p hp => ?_⟩
  rw [h.unseen k] at hp
  cases hp

end Caphv.Machine
