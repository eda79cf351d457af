import Caphv.CreationPass
import Caphv.FinalizerSafety

namespace Caphv.Machine

open Body (Leads)

/-- The world during a call of `allocateVMIP`, the pools read so far with what was returned for
each, and whether an update was applied and its response lost. -/
structure Session where
  world : World
  reads : List (String × Except ApiError IPPool)
  lost : Bool

def noteRead (reads : List (String × Except ApiError IPPool)) :
    (r : Req) → Resp r → List (String × Except ApiError IPPool)
  | .getPool n, x => reads.concat (n, x)
  | _, _ => reads

def losesResponse : Fault → Bool
  | .lose _ => true
  | _ => false

def losesUpdate : (r : Req) → Answer r → Bool
  | .updatePool _ _, f => losesResponse f
  | _, _ => false

def Watched (k : ObjectKey) (t : Session) (r : Req) (x : Resp r) (t' : Session) : Prop :=
  ∃ a : Answer r, exec k r a t.world = (x, t'.world) ∧ t'.reads = noteRead t.reads r x ∧
    t'.lost = (t.lost || losesUpdate r a)

/-- A reference that the loop leaves for the next one: the pool could not be read, or it has no
address of the machine and is for other networks or cannot give one. -/
def PassedOver (a : Allocator) (id : String) (networks : List String) (w : World)
    (c : String × Except ApiError IPPool) : Prop :=
  ∀ pool, c.2 = .ok pool → w.pools.lookup c.1 = some pool ∧ (∀ x, pool.status.holder x ≠ some id) ∧
    (poolMatchesNetworks pool networks = false ∨ (allocateVMIPFromPool a pool id).isOk = false)

/-- The pool `p`, and no other, has changed: it has the address `x` for the id in addition. -/
def Gains (p x id : String) (w w' : World) : Prop :=
  ∃ pool pool', w.pools.lookup p = some pool ∧ pool.status.holder x = none ∧
    w'.pools = w.pools.insert p pool' ∧
    ∀ y, pool'.status.holder y = if y = x then some id else pool.status.holder y

/-- The address `x` comes from the first reference `p` that is not passed over: the machine has it
there already, and nothing has changed, or the pool is for its networks and now has it. -/
def Selected (a : Allocator) (id : String) (networks refs : List String) (t t' : Session)
    (p x : String) : Prop :=
  ∃ passed after pool, refs = passed.map Prod.fst ++ p :: after ∧
    t'.reads = t.reads ++ (passed ++ [(p, .ok pool)]) ∧
    (∀ c ∈ passed, PassedOver a id networks t.world c) ∧
    t.world.pools.lookup p = some pool ∧
    (pool.status.holder x = some id ∧ t'.world = t.world ∨
      poolMatchesNetworks pool networks = true ∧ Gains p x id t.world t'.world)

/-- What `allocateVMIP` leaves when it ends, with an error or a panic as well. -/
def Allocated (a : Allocator) (id : String) (refs : List String) (t : Session)
    (s : HarvesterMachine) (t' : Session) (out : Option (Except String Unit))
    (s' : HarvesterMachine) : Prop :=
  match out with
  | some (.ok ()) => ∃ p x, s' = { s with status :=
      { s.status with allocatedIPAddress := x, allocatedPoolRef := p } } ∧
      Selected a id s.spec.networks refs t t' p x
  | some (.error _) => s' = s ∧ (t'.world = t.world ∨
      t'.lost = true ∧ ∃ p ∈ refs, ∃ x, Gains p x id t.world t'.world)
  | none => s' = s ∧ t'.world = t.world

section Loop

variable {ext : Externals} {sc : Scope} {k : ObjectKey} {t t' : Session} {s : HarvesterMachine}

theorem Watched.getPool {n : String} {x : Except ApiError IPPool}
    (h : Watched k t (.getPool n) x t') :
    t' = ⟨t.world, t.reads ++ [(n, x)], t.lost⟩ ∧
      ∀ pool, x = .ok pool → t.world.pools.lookup n = some pool := by
  obtain ⟨f, hexec, hreads, hlost⟩ := h
  obtain ⟨hx, hw⟩ := Prod.mk.inj hexec
  obtain ⟨w', reads', lost'⟩ := t'
  dsimp only at hw hreads hlost
  subst hw hreads
  refine ⟨by simp [hlost, losesUpdate, noteRead], fun pool hpool => ?_⟩
  have hget := Fault.reply_eq_ok (hx.trans hpool)
  unfold World.getPool at hget
  split_ifs at hget
  exact found_eq_ok hget

theorem Watched.updatePool {n : String} {pool pool' : IPPool} {x : Except ApiError Unit}
    (h : Watched k t (.updatePool n pool') x t') (hstored : t.world.pools.lookup n = some pool)
    (hversion : pool'.resourceVersion = pool.resourceVersion) :
    t'.reads = t.reads ∧
      (t'.world = t.world ∧ t'.lost = t.lost ∧ (∃ e, x = .error e) ∨
        t'.world = t.world.setPool n pool'.stored ∧
          (t'.lost = t.lost ∧ x = .ok () ∨ t'.lost = true ∧ ∃ e, x = .error e)) := by
  obtain ⟨f, hexec, hreads, hlost⟩ := h
  have hupdate : t.world.write k (.updatePool n pool') = .ok
      (t.world.setPool n pool'.stored) := by
    simp [World.write, World.updatePool, hstored, hversion]
  have hunder : Fault.write f t.world
      ((t.world.write k (.updatePool n pool')).map fun w' => ((), w')) = (x, t'.world) := hexec
  rw [hupdate] at hunder
  obtain ⟨hx, hw⟩ := Prod.mk.inj hunder
  refine ⟨hreads, ?_⟩
  cases f with
  | none =>
    have hkept : t'.lost = t.lost := hlost.trans (Bool.or_false _)
    exact Or.inr ⟨hw.symm, Or.inl ⟨hkept, hx.symm⟩⟩
  | reject msg =>
    have hkept : t'.lost = t.lost := hlost.trans (Bool.or_false _)
    exact Or.inl ⟨hw.symm, hkept, _, hx.symm⟩
  | lose msg => exact Or.inr ⟨hw.symm, Or.inr ⟨hlost.trans (Bool.or_true _), _, hx.symm⟩⟩

/-- The loop goes on with the next reference. -/
theorem Allocated.cons {a : Allocator} {id n : String} {refs : List String}
    {x : Except ApiError IPPool} (hpassed : PassedOver a id s.spec.networks t.world (n, x))
    {out : Option (Except String Unit)} {s' : HarvesterMachine}
    (h : Allocated a id refs ⟨t.world, t.reads ++ [(n, x)], t.lost⟩ s t' out s') :
    Allocated a id (n :: refs) t s t' out s' := by
  rcases out with _ | e | ⟨⟩
  · exact h
  · refine ⟨h.1, h.2.imp_right ?_⟩
    rintro ⟨hlost, p, hp, hgains⟩
    exact ⟨hlost, p, List.mem_cons_of_mem _ hp, hgains⟩
  · obtain ⟨p, ip, hs', passed, after, pool, rfl, hreads, hall, hpool, hcase⟩ := h
    refine ⟨p, ip, hs', (n, x) :: passed, after, pool, rfl, ?_, ?_, hpool, hcase⟩
    · rw [hreads, List.append_assoc]
      rfl
    · intro c hc
      rcases List.mem_cons.mp hc with rfl | hc
      · exact hpassed
      · exact hall c hc

theorem leads_allocateFrom (refs all : List String) (lastErr : Option String) (skipped : ℕ)
    (hrefs : refs = [] → lastErr ≠ none ∨ 0 < skipped) :
    Leads (Watched k) t (allocateFrom ext sc all refs lastErr skipped) s
      (Allocated ext.allocator sc.key.id refs t s) := by
  -- The session moves on with every read; a reference that is passed over changes nothing else.
  induction refs generalizing t lastErr skipped with
  | nil =>
    unfold allocateFrom
    refine .get_bind ?_
    cases lastErr with
    | none =>
      have hskipped : 0 < skipped := (hrefs rfl).resolve_left fun h => h rfl
      dsimp only
      rw [if_pos hskipped]
      exact .pure ⟨rfl, Or.inl rfl⟩
    | some e => exact .pure ⟨rfl, Or.inl rfl⟩
  | cons n refs ih =>
    have hnext : ∀ {x : Except ApiError IPPool} (lastErr : Option String) (skipped : ℕ),
        lastErr ≠ none ∨ 0 < skipped →
        PassedOver ext.allocator sc.key.id s.spec.networks t.world (n, x) →
        Leads (Watched k) ⟨t.world, t.reads ++ [(n, x)], t.lost⟩
          (allocateFrom ext sc all refs lastErr skipped) s
          (Allocated ext.allocator sc.key.id (n :: refs) t s) :=
      fun lastErr skipped h hpassed =>
        (ih lastErr skipped fun _ => h).mono fun _ _ _ h => h.cons hpassed
    have hfirst : ∀ c ∈ ([] : List (String × Except ApiError IPPool)),
        PassedOver ext.allocator sc.key.id s.spec.networks t.world c :=
      fun _ hc => absurd hc List.not_mem_nil
    unfold allocateFrom
    refine leads_harvester (fun got t₁ hgot => ?_) ⟨rfl, rfl⟩
    obtain ⟨rfl, hstored⟩ := Watched.getPool hgot
    cases got with
    | error e =>
      refine hnext _ _ (Or.inl (Option.some_ne_none _)) ?_
      rintro _ ⟨⟩
    | ok pool =>
      have hpool : t.world.pools.lookup n = some pool := hstored pool rfl
      dsimp only
      cases hex : existingAllocation pool sc.key.id with
      | some ip =>
        refine .modify_bind (.pure ⟨n, ip, rfl, [], refs, pool, rfl, rfl, hfirst, hpool, ?_⟩)
        exact Or.inl ⟨holder_of_existingAllocation hex, rfl⟩
      | none =>
        have hnone := existingAllocation_eq_none hex
        refine .get_bind ?_
        cases hnet : poolMatchesNetworks pool s.spec.networks with
        | false =>
          refine hnext _ _ (Or.inr (Nat.succ_pos _)) ?_
          rintro _ ⟨⟩
          exact ⟨hpool, hnone, Or.inl hnet⟩
        | true =>
          cases halloc : allocateVMIPFromPool ext.allocator pool sc.key.id with
          | panic => exact .panic ⟨rfl, rfl⟩
          | err e =>
            refine hnext _ _ (Or.inl (Option.some_ne_none _)) ?_
            rintro _ ⟨⟩
            exact ⟨hpool, hnone, Or.inr (by rw [halloc]; rfl)⟩
          | ok result =>
            obtain ⟨ip, pool'⟩ := result
            obtain ⟨hfree, -, hversion, hholder⟩ := allocateVMIPFromPool_ok halloc
            have hgains : ∀ {w' : World}, w' = t.world.setPool n pool'.stored →
                Gains n ip sc.key.id t.world w' := by
              rintro _ rfl
              refine ⟨pool, _, hpool, hfree, rfl, fun y => ?_⟩
              rw [pool'.holder_stored, hholder]
            refine leads_harvester (fun updated t₂ hupdated => ?_) ⟨rfl, rfl⟩
            obtain ⟨hreads, hupdate⟩ := Watched.updatePool hupdated hpool hversion
            -- Rejected, applied, or applied with the response lost.
            rcases hupdate with ⟨hw, -, e, rfl⟩ | ⟨hw, ⟨-, rfl⟩ | ⟨hlost, e, rfl⟩⟩
            · exact .pure ⟨rfl, Or.inl hw⟩
            · exact .modify_bind (.pure ⟨n, ip, rfl, [], refs, pool, rfl, hreads, hfirst, hpool,
                Or.inr ⟨hnet, hgains hw⟩⟩)
            · exact .pure ⟨rfl, Or.inr ⟨hlost, n, List.mem_cons_self, ip, hgains hw⟩⟩

end Loop

/-- Every call of `allocateVMIP` for a machine without an address, on any references and pools and
however its requests are answered. -/
theorem allocateVMIP_selects (ext : Externals) {sc : Scope} {s : HarvesterMachine} (w : World)
    (hs : s.status.allocatedIPAddress = "") :
    Leads (Watched sc.key) ⟨w, [], false⟩ (allocateVMIP ext sc) s
      (Allocated ext.allocator sc.key.id
        ((effectiveVMNetworkConfig s sc.harvesterCluster).elim [] VMNetworkConfig.getIPPoolRefs)
        ⟨w, [], false⟩ s) := by
  unfold allocateVMIP
  refine .get_bind ?_
  rw [if_neg (not_not.mpr hs)]
  cases effectiveVMNetworkConfig s sc.harvesterCluster with
  | none => exact .pure ⟨rfl, Or.inl rfl⟩
  | some cfg =>
    dsimp only
    split_ifs with hempty
    · exact .pure ⟨rfl, Or.inl rfl⟩
    · exact leads_allocateFrom _ _ _ _ fun h => absurd h hempty

namespace Sample

def watch (answer : (r : Req) → Answer r) (t : Session) (r : Req) : Resp r × Session :=
  let out := exec keyA r (answer r) t.world
  (out.1, ⟨out.2, noteRead t.reads r out.1, t.lost || losesUpdate r (answer r)⟩)

def scopeQP : Scope := { scopeA with harvesterCluster := clusterWith ["q", "p"] }

def unallocated : HarvesterMachine := { machineA with status := HarvesterMachineStatus.empty }

def loseUpdates : Req → Fault
  | .updatePool _ _ => .lose "timeout"
  | _ => .none

def selection (answer : (r : Req) → Answer r) :
    (Option (Except String Unit) × HarvesterMachine) × Session :=
  Prog.serve (watch answer) ⟨world ["p"], [], false⟩ (allocateVMIP ext scopeQP unallocated)

theorem executes_selection (answer : (r : Req) → Answer r) :
    Prog.Executes (Watched keyA) ⟨world ["p"], [], false⟩ (allocateVMIP ext scopeQP unallocated)
      (selection answer).2 (selection answer).1 :=
  Prog.Complies.executes (D := fun _ _ => True) (fun _ r _ => ⟨answer r, rfl, rfl, rfl⟩)
    (Prog.complies_of_forall (fun _ _ => trivial) _)

end Sample

open Sample in
/-- The first reference is unreachable, the second gives its address. -/
theorem allocateVMIP_selects_sample :
    (selection (answers fun _ => .none)).1.1 = some (.ok ()) ∧
      Allocated ext.allocator keyA.id ["q", "p"] ⟨world ["p"], [], false⟩ unallocated
        (selection (answers fun _ => .none)).2 (selection (answers fun _ => .none)).1.1
        (selection (answers fun _ => .none)).1.2 :=
  ⟨by decide +kernel, @allocateVMIP_selects ext scopeQP unallocated (world ["p"]) rfl _ _
    (executes_selection (answers fun _ => .none))⟩

open Sample in
/-- The update of the pool is applied and its response lost: the call returns an error, and the
stored pool has changed. -/
theorem allocateVMIP_error_changes_pool :
    unallocated.status.allocatedIPAddress = "" ∧
    (selection (answers loseUpdates)).1 =
      (some (.error "failed to update VM IP pool p after allocation: timeout"), unallocated) ∧
    (selection (answers loseUpdates)).2.world.pools.lookup "p" ≠
      (world ["p"]).pools.lookup "p" := by
  decide +kernel

end Caphv.Machine
