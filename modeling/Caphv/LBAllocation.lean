import Caphv.HostLocal
import Caphv.PoolOwnership

namespace Caphv

open Net (IP parseIP)
open Store

def IPPoolStatus.entriesOf (st : IPPoolStatus) (id : String) : ℕ := (getByID st id).length

def IPPoolStatus.historyOf (st : IPPoolStatus) (id : String) : ℕ :=
  ((Table.ofNil st.allocatedHistory).entries.filter fun e => e.2 = id).length

theorem entriesOf_eq (st : IPPoolStatus) (id : String) :
    st.entriesOf id = ((Table.ofNil st.allocated).entries.filter fun e => e.2 = id).length := by
  unfold IPPoolStatus.entriesOf getByID
  cases st.allocated with
  | none => rfl
  | some m => rw [List.length_map, Table.ofNil_some]

theorem entriesOf_stored (st : IPPoolStatus) (id : String) :
    st.stored.entriesOf id = st.entriesOf id := by
  rw [entriesOf_eq, entriesOf_eq, IPPoolStatus.stored, Table.ofNil_omitEmpty]

theorem entriesOf_reserve {st : IPPoolStatus} {ip : IP} (h : st.holder ip.string = none)
    (id : String) : (reserve st id (some ip)).2.entriesOf id = st.entriesOf id + 1 := by
  have hfree : ip.string ∉ Table.ofNil st.allocated := AList.lookup_eq_none.mp h
  simp only [entriesOf_eq, reserve, ipString, h, Option.isSome_none, Bool.false_eq_true, if_false,
    Table.ofNil_some, AList.entries_insert_of_notMem hfree]
  simp

namespace Cluster

section Choice

variable {a : Allocator} {id : String} {pool pool' : IPPool} {ip : IP}

/-- Each entry of the history for the id is reserved once more. -/
theorem allocateHistory_ok {ranges : List AllocatorRange} {hist : List (String × String)}
    {ip ip' : Option IP} {st st' : IPPoolStatus}
    (h : allocateHistory a ranges id hist ip st = .ok (ip', st')) :
    st'.entriesOf id = st.entriesOf id + (hist.filter fun e => e.2 = id).length ∧
      (ip' = none ↔ ip = none ∧ hist.filter (fun e => e.2 = id) = []) := by
  induction hist generalizing ip st with
  | nil =>
    cases h
    exact ⟨rfl, by simp⟩
  | cons e rest ih =>
    obtain ⟨k, v⟩ := e
    unfold allocateHistory at h
    split_ifs at h with hv
    · obtain ⟨⟨ip₁, st₁⟩, hget, h⟩ := GoResult.bind_eq_ok.mp h
      obtain ⟨hfree, rfl⟩ := Allocator.get_eq_ok hget
      obtain ⟨hcount, hnone⟩ := ih h
      rw [entriesOf_reserve hfree] at hcount
      subst hv
      rw [List.filter_cons_of_pos (by simp), List.length_cons]
      exact ⟨by omega, by simpa using hnone⟩
    · rw [List.filter_cons_of_neg (by simpa using Ne.symm hv)]
      exact ih h

/-- A choice adds an entry for each entry of the history, and one if there is none. -/
theorem chooseIPFromPool_ok (h : chooseIPFromPool a pool id = .ok (ip, pool')) :
    pool' = { pool with status := pool'.status } ∧
      pool'.status.entriesOf id = pool.status.entriesOf id + max 1 (pool.status.historyOf id) := by
  unfold chooseIPFromPool at h
  obtain ⟨ranges, -, h⟩ := GoResult.bind_eq_ok.mp h
  obtain ⟨⟨chosen, st⟩, hhist, h⟩ := GoResult.bind_eq_ok.mp h
  obtain ⟨hcount, hnone⟩ := allocateHistory_ok hhist
  have hlen : (((Table.ofNil pool.status.allocatedHistory).entries.map fun e =>
      (e.1, e.2)).filter fun e => e.2 = id).length = pool.status.historyOf id := by
    rw [List.filter_map, List.length_map]
    rfl
  cases chosen with
  | some ip₁ =>
    cases h
    have hpos : 0 < pool.status.historyOf id := by
      rw [← hlen, List.length_pos_iff]
      exact fun hempty => nomatch hnone.mpr ⟨rfl, hempty⟩
    rw [hlen] at hcount
    exact ⟨rfl, by rwa [Nat.max_eq_right hpos]⟩
  | none =>
    obtain ⟨⟨ip₁, st₁⟩, hget, h⟩ := GoResult.bind_eq_ok.mp h
    obtain ⟨hfree, rfl⟩ := Allocator.get_eq_ok hget
    cases h
    have hempty := congrArg List.length (hnone.mp rfl).2
    rw [hlen] at hempty hcount
    refine ⟨rfl, ?_⟩
    rw [entriesOf_reserve hfree, hcount, hempty]
    rfl

end Choice

def returned : Option (Except String String) → Option String
  | some (.ok ip) => some ip
  | _ => none

/-- A call of `getIPFromIPPool`: the cluster it is made for, and what becomes of its requests. -/
structure LBCall where
  cluster : HarvesterCluster
  create : Fault
  get : Fault
  update : Fault
  others : (r : Req) → Answer r

namespace LBCall

variable (call : LBCall)

def answer : (r : Req) → Answer r
  | .createPool _ _ => call.create
  | .getPool _ => call.get
  | .updatePool _ _ => call.update
  | r => call.others r

def run (ext : Externals) (sc : Scope) (lbNamespacedName : String) (w : World) :
    Option String × World :=
  let out := Prog.serve (fun w r => exec sc.key r (call.answer r) w) w
    (getIPFromIPPool ext sc lbNamespacedName call.cluster)
  (returned out.1.1, out.2)

def RefersTo (sc : Scope) (name : String) : Prop :=
  let lb := call.cluster.spec.loadBalancerConfig
  if lb.ipPoolRef = "" then checkValidIpPoolDefinition lb.ipPool = true ∧ sc.key.lbPoolName = name
  else lb.ipPoolRef = name

def reads : Bool :=
  call.get = .none ∧ (call.cluster.spec.loadBalancerConfig.ipPoolRef = "" → call.create = .none)

def fault : Option Fault := if call.reads then some call.update else none

end LBCall

def poolAllocate (a : Allocator) (id : String) (pool : IPPool) (f : Fault) :
    Option String × IPPool :=
  match chooseIPFromPool a pool id with
  | .ok (ip, pool') =>
    (if f = .none then some ip.string else none,
      f.world pool pool'.stored)
  | _ => (none, pool)

def poolCall (a : Allocator) (id : String) (pool : IPPool) : Option Fault → Option String × IPPool
  | none => (none, pool)
  | some f => if pool.status.available = 0 then (none, pool) else poolAllocate a id pool f

section Call

variable {ext : Externals} {sc : Scope} {id name : String} {w : World} {stored : StoredPool}
  {call : LBCall}

theorem exec_getPool (call : LBCall) (k : ObjectKey) (hname : name ≠ "")
    (hstored : w.pools.lookup name = some stored) :
    exec k (.getPool name) (call.answer (.getPool name)) w =
      (call.get.reply (.ok stored.pool), w) := by
  have hget : w.getPool name = .ok stored.pool := by
    simp [World.getPool, found, hname, hstored]
  show (call.get.reply (w.getPool name), w) = _
  rw [hget]

theorem exec_createPool (call : LBCall) (k : ObjectKey) (spec : PoolSpec) (hname : name ≠ "")
    (hstored : w.pools.lookup name = some stored) :
    exec k (.createPool name spec) (call.answer (.createPool name spec)) w =
      (call.create.reply (.error .alreadyExists), w) := by
  have hcreate : w.createPool k name spec = .error .alreadyExists := by
    simp [World.createPool, hname, hstored]
  have hexec : exec k (.createPool name spec) (call.answer (.createPool name spec)) w =
      ((call.create.write w (w.createPool k name spec)).1,
        (call.create.write w (w.createPool k name spec)).2.note k (.createPool name spec)
          (call.create.write w (w.createPool k name spec)).1) := rfl
  rw [hexec, hcreate]
  cases call.create <;> rfl

/-- What the routine has in its hands when it looks for the pool. -/
def LBCall.Got (call : LBCall) (name : String) (pool : IPPool)
    (got : Except String (String × IPPool)) : Prop :=
  if call.reads then got = .ok (name, pool) else ∃ e, got = .error e

theorem LBCall.got_error {e : String} {pool : IPPool} (h : call.reads = false) :
    call.Got name pool (.error e) := by
  simp [LBCall.Got, h]

theorem LBCall.got_ok {pool : IPPool} (h : call.reads = true) :
    call.Got name pool (.ok (name, pool)) := by
  simp [LBCall.Got, h]

/-- The pool that would be created is there already, and is read. -/
theorem serves_createIPPoolIfNotExists (hname : name ≠ "") (hlb : sc.key.lbPoolName = name)
    (hempty : call.cluster.spec.loadBalancerConfig.ipPoolRef = "")
    (hstored : w.pools.lookup name = some stored) :
    Body.Serves (fun w r => exec sc.key r (call.answer r) w) w (createIPPoolIfNotExists sc)
      call.cluster fun w' out _ => w' = w ∧ ∃ got, out = some got ∧
        call.Got name stored.pool got := by
  unfold createIPPoolIfNotExists
  -- Left in place, the generated name is evaluated where the code compares it with "".
  generalize sc.key.lbPoolName = lbPoolName at hlb
  subst hlb
  refine .get_bind (.request_bind ?_)
  rw [exec_createPool call _ _ hname hstored]
  cases hcreate : call.create with
  | none =>
    refine .request_bind ?_
    rw [exec_getPool call _ hname hstored]
    cases hget : call.get with
    | none => exact ⟨rfl, _, rfl, LBCall.got_ok (by simp [LBCall.reads, hget, hcreate])⟩
    | reject msg => exact ⟨rfl, _, rfl, LBCall.got_error (by simp [LBCall.reads, hget])⟩
    | lose msg => exact ⟨rfl, _, rfl, LBCall.got_error (by simp [LBCall.reads, hget])⟩
  | reject msg =>
    exact ⟨rfl, _, rfl, LBCall.got_error (by simp [LBCall.reads, hempty, hcreate])⟩
  | lose msg =>
    exact ⟨rfl, _, rfl, LBCall.got_error (by simp [LBCall.reads, hempty, hcreate])⟩

/-- The pool is read, whether it is referenced or would be created. -/
theorem serves_lbPool (hname : name ≠ "") (href : call.RefersTo sc name)
    (hstored : w.pools.lookup name = some stored) :
    Body.Serves (fun w r => exec sc.key r (call.answer r) w) w (lbPool sc) call.cluster
      fun w' out _ => w' = w ∧ ∃ got, out = some got ∧ call.Got name stored.pool got := by
  unfold lbPool
  refine .get_bind ?_
  by_cases hempty : call.cluster.spec.loadBalancerConfig.ipPoolRef = ""
  · obtain ⟨hvalid, hlb⟩ : checkValidIpPoolDefinition _ = true ∧ sc.key.lbPoolName = name := by
      simpa [LBCall.RefersTo, hempty] using href
    simp only [hempty, hvalid, if_true, Bool.not_true, Bool.false_eq_true, if_false]
    refine (serves_createIPPoolIfNotExists hname hlb hempty hstored).bind ?_ ?_
    · rintro w' got c ⟨rfl, _, hout, hgot⟩
      obtain rfl := Option.some.inj hout
      rcases got with e | ⟨name', pool⟩
      · exact ⟨rfl, _, rfl, hgot⟩
      · exact ⟨rfl, _, rfl, hgot⟩
    · rintro w' c ⟨-, got, hgot, -⟩
      cases hgot
  · obtain rfl : call.cluster.spec.loadBalancerConfig.ipPoolRef = name := by
      simpa [LBCall.RefersTo, hempty] using href
    simp only [if_neg hempty]
    refine .request_bind ?_
    rw [exec_getPool call _ hname hstored]
    cases hget : call.get with
    | none => exact ⟨rfl, _, rfl, LBCall.got_ok (by simp [LBCall.reads, hget, hempty])⟩
    | reject msg => exact ⟨rfl, _, rfl, LBCall.got_error (by simp [LBCall.reads, hget])⟩
    | lose msg => exact ⟨rfl, _, rfl, LBCall.got_error (by simp [LBCall.reads, hget])⟩

/-- The update is made under the version that was read. -/
theorem exec_updatePool (call : LBCall) (k : ObjectKey) {pool' : IPPool}
    (hversion : pool'.resourceVersion = stored.pool.resourceVersion)
    (hstored : w.pools.lookup name = some stored) :
    exec k (.updatePool name pool') (call.answer (.updatePool name pool')) w =
      (call.update.reply (.ok ()), call.update.world w (w.setPool name
        { stored with pool := pool'.stored })) := by
  have hupdate : w.updatePool name pool' = .ok ((), w.setPool name
      { stored with pool := pool'.stored }) := by
    simp [World.updatePool, hstored, hversion]
  show call.update.write w (w.updatePool name pool') = _
  rw [hupdate]
  rfl

theorem serves_allocateIPFromPool {c : HarvesterCluster}
    (hstored : w.pools.lookup name = some stored) :
    Body.Serves (fun w r => exec sc.key r (call.answer r) w) w
      (allocateIPFromPool ext name stored.pool id) c fun w' out _ =>
        returned out = (poolAllocate ext.allocator id stored.pool call.update).1 ∧
        w'.pools.lookup name = some
          { stored with pool := (poolAllocate ext.allocator id stored.pool call.update).2 } := by
  unfold allocateIPFromPool poolAllocate
  cases hchoose : chooseIPFromPool ext.allocator stored.pool id with
  | panic => exact ⟨rfl, hstored⟩
  | err e => exact ⟨rfl, hstored⟩
  | ok chosen =>
    obtain ⟨ip, pool'⟩ := chosen
    have hversion : pool'.resourceVersion = stored.pool.resourceVersion := by
      rw [(chooseIPFromPool_ok hchoose).1]
    refine .request_bind ?_
    rw [exec_updatePool call _ hversion hstored]
    cases call.update with
    | none => exact ⟨rfl, AList.lookup_insert _⟩
    | reject msg => exact ⟨rfl, hstored⟩
    | lose msg => exact ⟨rfl, AList.lookup_insert _⟩

/-- A call on the world is one on the pool that it refers to. -/
theorem run_poolCall (ext : Externals) (id : String) (hname : name ≠ "")
    (href : call.RefersTo sc name) (hstored : w.pools.lookup name = some stored) :
    (call.run ext sc id w).1 = (poolCall ext.allocator id stored.pool call.fault).1 ∧
      (call.run ext sc id w).2.pools.lookup name =
        some { stored with pool := (poolCall ext.allocator id stored.pool call.fault).2 } := by
  have h : Body.Serves (fun w r => exec sc.key r (call.answer r) w) w (getIPFromIPPool ext sc id)
      call.cluster fun w' out _ =>
        returned out = (poolCall ext.allocator id stored.pool call.fault).1 ∧
        w'.pools.lookup name =
          some { stored with pool := (poolCall ext.allocator id stored.pool call.fault).2 } := by
    unfold getIPFromIPPool
    refine .get_bind ((serves_lbPool hname href hstored).bind ?_ ?_)
    · rintro w' got c ⟨rfl, _, hout, hgot⟩
      obtain rfl := Option.some.inj hout
      unfold LBCall.fault
      cases hreads : call.reads with
      | true =>
        obtain rfl : got = .ok (name, stored.pool) := by simpa [LBCall.Got, hreads] using hgot
        by_cases havailable : stored.pool.status.available = 0
        · simp only [poolCall, if_true, if_pos havailable]
          exact ⟨rfl, hstored⟩
        · simp only [poolCall, if_true, if_neg havailable]
          exact serves_allocateIPFromPool hstored
      | false =>
        obtain ⟨e, rfl⟩ : ∃ e, got = .error e := by simpa [LBCall.Got, hreads] using hgot
        exact ⟨rfl, hstored⟩
    · rintro w' c ⟨-, got, hgot, -⟩
      cases hgot
  exact h

end Call

def Grants (a : Allocator) (id : String) (pool : IPPool) : Prop :=
  pool.status.available ≠ 0 ∧ (chooseIPFromPool a pool id).isOk = true

/-- The update of the pool, if it is reached, is applied. -/
def takesEffect : Option Fault → Bool
  | some .none => true
  | some (.lose _) => true
  | _ => false

section PoolCalls

variable {a : Allocator} {id : String} {pool : IPPool} {f : Option Fault} {fs : List (Option Fault)}

theorem poolCall_idle (h : ¬ (takesEffect f = true ∧ Grants a id pool)) :
    poolCall a id pool f = (none, pool) := by
  rcases f with _ | f
  · rfl
  unfold poolCall poolAllocate
  dsimp only
  by_cases havailable : pool.status.available = 0
  · rw [if_pos havailable]
  rw [if_neg havailable]
  cases hchoose : chooseIPFromPool a pool id with
  | panic => rfl
  | err e => rfl
  | ok chosen =>
    have hgrants : Grants a id pool := ⟨havailable, by rw [hchoose]; rfl⟩
    cases f with
    | none => exact absurd ⟨rfl, hgrants⟩ h
    | reject msg => rfl
    | lose msg => exact absurd ⟨rfl, hgrants⟩ h

/-- A call that takes effect adds one entry for the id, or as many as the history has. -/
theorem poolCall_granted (hf : takesEffect f = true) (h : Grants a id pool) :
    ((poolCall a id pool f).1.isSome = true ↔ f = some .none) ∧
      (poolCall a id pool f).2.status.entriesOf id =
        pool.status.entriesOf id + max 1 (pool.status.historyOf id) := by
  obtain ⟨havailable, hok⟩ := h
  cases hchoose : chooseIPFromPool a pool id with
  | panic =>
    rw [hchoose] at hok
    cases hok
  | err e =>
    rw [hchoose] at hok
    cases hok
  | ok chosen =>
    have hcount := (chooseIPFromPool_ok hchoose).2
    rcases f with _ | f
    · cases hf
    cases f with
    | none => simpa [poolCall, poolAllocate, havailable, hchoose, Fault.world, IPPool.stored,
        entriesOf_stored] using hcount
    | reject msg => cases hf
    | lose msg => simpa [poolCall, poolAllocate, havailable, hchoose, Fault.world, IPPool.stored,
        entriesOf_stored] using hcount

theorem poolCall_eq_some {ip : String} (h : (poolCall a id pool f).1 = some ip) :
    f = some .none ∧ Grants a id pool := by
  by_cases hg : takesEffect f = true ∧ Grants a id pool
  · exact ⟨(poolCall_granted hg.1 hg.2).1.mp (by rw [h]; rfl), hg.2⟩
  · rw [poolCall_idle hg] at h
    cases h

theorem entriesOf_le_poolCall (a : Allocator) (id : String) (pool : IPPool) (f : Option Fault) :
    pool.status.entriesOf id ≤ (poolCall a id pool f).2.status.entriesOf id := by
  by_cases hg : takesEffect f = true ∧ Grants a id pool
  · rw [(poolCall_granted hg.1 hg.2).2]
    exact Nat.le_add_right _ _
  · rw [poolCall_idle hg]

def poolCalls (a : Allocator) (id : String) :
    List (Option Fault) → IPPool → List (Option Fault × Option String × IPPool)
  | [], _ => []
  | f :: fs, pool => (f, poolCall a id pool f) :: poolCalls a id fs (poolCall a id pool f).2

theorem map_fst_poolCalls (a : Allocator) (id : String) (fs : List (Option Fault))
    (pool : IPPool) : (poolCalls a id fs pool).map Prod.fst = fs := by
  induction fs generalizing pool with
  | nil => rfl
  | cons f fs ih => rw [poolCalls, List.map_cons, ih]

/-- Calls without effect leave the pool to those that follow. -/
theorem poolCalls_append (h : ∀ f ∈ fs, poolCall a id pool f = (none, pool))
    (gs : List (Option Fault)) :
    poolCalls a id (fs ++ gs) pool =
      (fs.map fun f => (f, none, pool)) ++ poolCalls a id gs pool := by
  induction fs with
  | nil => rfl
  | cons f fs ih =>
    have hf := h f List.mem_cons_self
    rw [List.cons_append, poolCalls, hf, ih fun g hg => h g (List.mem_cons_of_mem _ hg),
      List.map_cons, List.cons_append]

/-- Without an update that is answered no address is returned. -/
theorem poolCalls_eq_none (h : some .none ∉ fs) :
    ∀ c ∈ poolCalls a id fs pool, c.2.1 = none := by
  induction fs generalizing pool with
  | nil => nofun
  | cons f fs ih =>
    intro c hc
    rcases List.mem_cons.mp hc with rfl | hc
    · cases hout : (poolCall a id pool f).1 with
      | none => rfl
      | some ip => exact absurd (by simp [(poolCall_eq_some hout).1]) h
    · exact ih (fun hmem => h (List.mem_cons_of_mem _ hmem)) c hc

/-- While the id holds an address, a call that returns one makes it hold two. -/
theorem poolCalls_two (hpos : 0 < pool.status.entriesOf id) :
    ∀ c ∈ poolCalls a id fs pool, ∀ ip ∈ c.2.1, 1 < c.2.2.status.entriesOf id := by
  induction fs generalizing pool with
  | nil => nofun
  | cons f fs ih =>
    intro c hc ip hip
    rcases List.mem_cons.mp hc with rfl | hc
    · obtain ⟨rfl, hgrants⟩ := poolCall_eq_some hip
      rw [(poolCall_granted rfl hgrants).2]
      have := Nat.le_max_left 1 (pool.status.historyOf id)
      omega
    · exact ih (hpos.trans_le (entriesOf_le_poolCall a id pool f)) c hc ip hip

/-- After each call that returns an address the id holds one, every such call returns the same,
and a call that returns none would return none from the pool as it was. -/
structure PoolSingle (a : Allocator) (id : String) (pool : IPPool) (fs : List (Option Fault)) :
    Prop where
  single : ∀ c ∈ poolCalls a id fs pool, ∀ ip ∈ c.2.1, c.2.2.status.entriesOf id = 1
  same : ∀ c ∈ poolCalls a id fs pool, ∀ c' ∈ poolCalls a id fs pool, ∀ ip ∈ c.2.1, ∀ ip' ∈ c'.2.1,
    ip = ip'
  unobstructed : ∀ c ∈ poolCalls a id fs pool, c.2.1 = none → (poolCall a id pool c.1).1 = none

/-- Only the first update that is applied is answered; if it is, the id held no address before,
and the history has at most one entry for it. -/
def Sparing (id : String) (pool : IPPool) (fs : List (Option Fault)) : Prop :=
  match fs.filter takesEffect with
  | [] => True
  | f :: rest =>
    (f = some .none → pool.status.entriesOf id = 0 ∧ pool.status.historyOf id ≤ 1) ∧
      some .none ∉ rest

theorem PoolSingle.of_idle (h : ∀ f ∈ fs, poolCall a id pool f = (none, pool)) :
    PoolSingle a id pool fs := by
  have htrace : poolCalls a id fs pool = fs.map fun f => (f, none, pool) := by
    simpa [poolCalls] using poolCalls_append h []
  refine ⟨?_, ?_, ?_⟩
  · rw [htrace]
    simp
  · rw [htrace]
    simp
  · rw [htrace]
    simp only [List.mem_map]
    rintro _ ⟨f, hf, rfl⟩ -
    rw [h f hf]

/-- The calls around the first one that takes effect. -/
theorem mem_poolCalls {before after : List (Option Fault)}
    (hbefore : ∀ g ∈ before, ¬ takesEffect g = true) {c : Option Fault × Option String × IPPool} :
    c ∈ poolCalls a id (before ++ f :: after) pool ↔
      (∃ g ∈ before, c = (g, none, pool)) ∨ c = (f, poolCall a id pool f) ∨
        c ∈ poolCalls a id after (poolCall a id pool f).2 := by
  rw [poolCalls_append fun g hg => poolCall_idle fun h => hbefore g hg h.1, List.mem_append,
    poolCalls, List.mem_cons, List.mem_map]
  simp only [eq_comm]

theorem PoolSingle.sparing {before after : List (Option Fault)} (hgrants : Grants a id pool)
    (hbefore : ∀ g ∈ before, ¬ takesEffect g = true) (hf : takesEffect f = true)
    (h : PoolSingle a id pool (before ++ f :: after)) :
    (f = some .none → pool.status.entriesOf id = 0 ∧ pool.status.historyOf id ≤ 1) ∧
      some .none ∉ after := by
  obtain ⟨hsome, hcount⟩ := poolCall_granted hf hgrants
  constructor
  · intro hnone
    obtain ⟨ip, hip⟩ := Option.isSome_iff_exists.mp (hsome.mpr hnone)
    have hone := h.single _ ((mem_poolCalls hbefore).mpr (Or.inr (Or.inl rfl))) ip hip
    have hmax := Nat.le_max_left 1 (pool.status.historyOf id)
    have hmax' := Nat.le_max_right 1 (pool.status.historyOf id)
    dsimp only at hone
    omega
  · intro hafter
    rw [← map_fst_poolCalls a id after (poolCall a id pool f).2] at hafter
    obtain ⟨c, hc, hcf⟩ := List.mem_map.mp hafter
    have hmem := (mem_poolCalls hbefore).mpr (Or.inr (Or.inr hc))
    cases hip : c.2.1 with
    | some ip =>
      -- The call returned a second address.
      have hpos : 0 < (poolCall a id pool f).2.status.entriesOf id := by
        have := Nat.le_max_left 1 (pool.status.historyOf id)
        omega
      exact absurd (h.single c hmem ip hip) (poolCalls_two hpos c hc ip hip).ne'
    | none =>
      -- The call failed, but the pool as it was would have granted it an address.
      have hobstructed := h.unobstructed c hmem hip
      rw [hcf, ← Option.not_isSome_iff_eq_none] at hobstructed
      exact hobstructed ((poolCall_granted rfl hgrants).1.mpr rfl)

theorem PoolSingle.of_sparing {before after : List (Option Fault)} (hgrants : Grants a id pool)
    (hbefore : ∀ g ∈ before, ¬ takesEffect g = true) (hf : takesEffect f = true)
    (hfirst : f = some .none → pool.status.entriesOf id = 0 ∧ pool.status.historyOf id ≤ 1)
    (hafter : some .none ∉ after) : PoolSingle a id pool (before ++ f :: after) := by
  -- Only the first call that takes effect may return an address.
  have honly : ∀ c ∈ poolCalls a id (before ++ f :: after) pool, ∀ ip ∈ c.2.1,
      c = (f, poolCall a id pool f) := by
    intro c hc ip hip
    rcases (mem_poolCalls hbefore).mp hc with ⟨g, -, rfl⟩ | hc | hc
    · cases hip
    · exact hc
    · rw [poolCalls_eq_none hafter c hc] at hip
      cases hip
  refine ⟨?_, ?_, ?_⟩
  · intro c hc ip hip
    obtain rfl := honly c hc ip hip
    obtain ⟨hempty, hhistory⟩ := hfirst (poolCall_eq_some hip).1
    have hmax : max 1 (pool.status.historyOf id) = 1 := Nat.max_eq_left hhistory
    rw [(poolCall_granted hf hgrants).2, hempty, hmax]
  · intro c hc c' hc' ip hip ip' hip'
    obtain rfl := honly c hc ip hip
    obtain rfl := honly c' hc' ip' hip'
    exact Option.mem_unique hip hip'
  · intro c hc hfail
    by_contra hgranted
    obtain ⟨ip, hip⟩ := Option.ne_none_iff_exists'.mp hgranted
    have hnone := (poolCall_eq_some hip).1
    rcases (mem_poolCalls hbefore).mp hc with ⟨g, hg, rfl⟩ | rfl | hc
    · obtain rfl : g = some .none := hnone
      exact hbefore _ hg rfl
    · exact hgranted hfail
    · have hmem := List.mem_map_of_mem (f := Prod.fst) hc
      rw [map_fst_poolCalls, hnone] at hmem
      exact hafter hmem

theorem poolSingle_iff : PoolSingle a id pool fs ↔ ¬ Grants a id pool ∨ Sparing id pool fs := by
  by_cases hgrants : Grants a id pool
  swap
  · exact iff_of_true (.of_idle fun f _ => poolCall_idle fun h => hgrants h.2) (Or.inl hgrants)
  rw [or_iff_right (not_not.mpr hgrants)]
  unfold Sparing
  cases hfs : fs.filter takesEffect with
  | nil =>
    have hnone : ∀ f ∈ fs, ¬ takesEffect f = true := List.filter_eq_nil_iff.mp hfs
    exact iff_of_true (.of_idle fun f hf => poolCall_idle fun h => hnone f hf h.1) trivial
  | cons f rest =>
    obtain ⟨before, after, rfl, hbefore, hf, rfl⟩ := List.filter_eq_cons_iff.mp hfs
    have hrest : some .none ∈ after.filter takesEffect ↔ some .none ∈ after := by
      rw [List.mem_filter]
      exact and_iff_left rfl
    dsimp only
    rw [hrest]
    exact ⟨PoolSingle.sparing hgrants hbefore hf, fun h => .of_sparing hgrants hbefore hf h.1 h.2⟩

end PoolCalls

def lbCalls (ext : Externals) (sc : Scope) (id : String) :
    List LBCall → World → List (LBCall × Option String × World)
  | [], _ => []
  | call :: calls, w =>
    (call, call.run ext sc id w) :: lbCalls ext sc id calls (call.run ext sc id w).2

/-- After each call that returns an address the pool holds one entry for the load balancer, every
such call returns the same address, and a call that fails would also fail in the world before the
first call. -/
structure SingleAddress (ext : Externals) (sc : Scope) (id name : String) (w : World)
    (calls : List LBCall) : Prop where
  single : ∀ c ∈ lbCalls ext sc id calls w, ∀ ip ∈ c.2.1,
    ∃ stored ∈ c.2.2.pools.lookup name, stored.pool.status.entriesOf id = 1
  same : ∀ c ∈ lbCalls ext sc id calls w, ∀ c' ∈ lbCalls ext sc id calls w, ∀ ip ∈ c.2.1,
    ∀ ip' ∈ c'.2.1, ip = ip'
  unobstructed : ∀ c ∈ lbCalls ext sc id calls w, c.2.1 = none → (c.1.run ext sc id w).1 = none

section Calls

variable {sc : Scope} {name : String} {w : World} {stored : StoredPool} {calls : List LBCall}

/-- The pool sees the calls as calls on itself. -/
theorem lbCalls_poolCalls (ext : Externals) (id : String) (hname : name ≠ "")
    (hstored : w.pools.lookup name = some stored) (hcalls : ∀ call ∈ calls, call.RefersTo sc name) :
    (lbCalls ext sc id calls w).map (fun c => (c.1.fault, c.2.1, c.2.2.pools.lookup name)) =
      (poolCalls ext.allocator id (calls.map LBCall.fault) stored.pool).map fun c =>
        (c.1, c.2.1, some { stored with pool := c.2.2 }) := by
  induction calls generalizing w stored with
  | nil => rfl
  | cons call calls ih =>
    obtain ⟨hresult, hpool⟩ :=
      run_poolCall ext id hname (hcalls call List.mem_cons_self) hstored
    have hrest := ih hpool fun c hc => hcalls c (List.mem_cons_of_mem _ hc)
    simp only [lbCalls, poolCalls, List.map_cons, hresult, hpool, hrest]

theorem mem_lbCalls {ext : Externals} {id : String} {c : LBCall × Option String × World}
    (hc : c ∈ lbCalls ext sc id calls w) : c.1 ∈ calls := by
  induction calls generalizing w with
  | nil => cases hc
  | cons call calls ih =>
    rcases List.mem_cons.mp hc with rfl | hc
    · exact List.mem_cons_self
    · exact List.mem_cons_of_mem _ (ih hc)

/-- The load balancer keeps to one address exactly if the pool refuses the first call, or it is
spared all but one. -/
theorem singleAddress_iff (ext : Externals) (id : String) (hname : name ≠ "")
    (hstored : w.pools.lookup name = some stored) (hcalls : ∀ call ∈ calls, call.RefersTo sc name) :
    SingleAddress ext sc id name w calls ↔
      ¬ Grants ext.allocator id stored.pool ∨
        Sparing id stored.pool (calls.map LBCall.fault) := by
  rw [← poolSingle_iff]
  have hview : ∀ Q : Option Fault × Option String × Option StoredPool → Prop,
      (∀ c ∈ lbCalls ext sc id calls w, Q (c.1.fault, c.2.1, c.2.2.pools.lookup name)) ↔
        ∀ c ∈ poolCalls ext.allocator id (calls.map LBCall.fault) stored.pool,
          Q (c.1, c.2.1, some { stored with pool := c.2.2 }) := by
    intro Q
    rw [← List.forall_mem_map (f := fun c : LBCall × Option String × World =>
      (c.1.fault, c.2.1, c.2.2.pools.lookup name)), lbCalls_poolCalls ext id hname hstored hcalls,
      List.forall_mem_map]
  have hsingle := hview fun d => ∀ ip ∈ d.2.1, ∃ stored ∈ d.2.2, stored.pool.status.entriesOf id = 1
  simp only [Option.mem_some_iff, exists_eq_left'] at hsingle
  have hsame : (∀ c ∈ lbCalls ext sc id calls w, ∀ c' ∈ lbCalls ext sc id calls w, ∀ ip ∈ c.2.1,
      ∀ ip' ∈ c'.2.1, ip = ip') ↔ _ :=
    (hview fun d => ∀ c' ∈ lbCalls ext sc id calls w, ∀ ip ∈ d.2.1, ∀ ip' ∈ c'.2.1, ip = ip').trans
      (forall₂_congr fun c _ => hview fun d => ∀ ip ∈ c.2.1, ∀ ip' ∈ d.2.1, ip = ip')
  have hfree := hview fun d =>
    d.2.1 = none → (poolCall ext.allocator id stored.pool d.1).1 = none
  have hrun : ∀ c ∈ lbCalls ext sc id calls w, (c.1.run ext sc id w).1 =
      (poolCall ext.allocator id stored.pool c.1.fault).1 := fun c hc =>
    (run_poolCall ext id hname (hcalls _ (mem_lbCalls hc)) hstored).1
  constructor
  · intro h
    exact ⟨hsingle.mp h.single, hsame.mp h.same,
      hfree.mp fun c hc hfail => hrun c hc ▸ h.unobstructed c hc hfail⟩
  · intro h
    exact ⟨hsingle.mpr h.single, hsame.mpr h.same,
      fun c hc hfail => (hrun c hc).trans (hfree.mpr h.unobstructed c hc hfail)⟩

end Calls

namespace Sample

def lbExt : Externals := { ext with allocator := RangeSample.hostLocal }

def lbScope : Scope := ⟨keyX, ⟨keyX, ∅⟩⟩

def lbCluster : HarvesterCluster :=
  ⟨[], false, { spec with loadBalancerConfig := ⟨.pool, "lb", ⟨"", "", "", "", ""⟩, []⟩ }, .empty⟩

def answered : LBCall := ⟨lbCluster, .none, .none, .none, answers noFault⟩

def lbStatus : IPPoolStatus := ⟨2, "", none, none⟩

def lbWorld (st : IPPoolStatus) : World := empty.world.setPool "lb"
  ⟨⟨1, "", [⟨"10.0.0.0/29", "10.0.0.1", "10.0.0.2", "10.0.0.3"⟩], st⟩, none⟩

def formerBoth : IPPoolStatus := { lbStatus with
  allocatedHistory := some (((∅ : Table String String).insert "10.0.0.2" "target/ns-x-lb").insert
    "10.0.0.3" "target/ns-x-lb") }

end Sample

open Sample in
/-- One call that is answered, for a load balancer that the pool does not know. -/
theorem singleAddress_sample :
    (answered.run lbExt lbScope "target/ns-x-lb" (lbWorld lbStatus)).1 = some "10.0.0.2" ∧
      SingleAddress lbExt lbScope "target/ns-x-lb" "lb" (lbWorld lbStatus) [answered] := by
  refine ⟨by decide +kernel, (singleAddress_iff lbExt "target/ns-x-lb" (by decide)
    (AList.lookup_insert _) ?_).mpr (Or.inr ?_)⟩
  · simp [LBCall.RefersTo, answered, lbCluster]
  · exact ⟨fun _ => by decide +kernel, nofun⟩

namespace Sample

def lbWorldAfter (st : IPPoolStatus) : World :=
  (answered.run lbExt lbScope "target/ns-x-lb" (lbWorld st)).2

def lbEntries (w : World) : Option ℕ :=
  (w.pools.lookup "lb").map fun stored => stored.pool.status.entriesOf "target/ns-x-lb"

end Sample

open Sample in
/-- The second of two calls fails on the entry of the first. With two entries in the history one
call takes both addresses. -/
theorem lb_allocates_twice :
    ((answered.run lbExt lbScope "target/ns-x-lb" (lbWorld lbStatus)).1 = some "10.0.0.2" ∧
      (answered.run lbExt lbScope "target/ns-x-lb" (lbWorldAfter lbStatus)).1 = none ∧
      ¬ SingleAddress lbExt lbScope "target/ns-x-lb" "lb" (lbWorld lbStatus)
        [answered, answered]) ∧
    lbEntries (lbWorld formerBoth) = some 0 ∧
      (answered.run lbExt lbScope "target/ns-x-lb" (lbWorld formerBoth)).1 = some "10.0.0.2" ∧
      lbEntries (lbWorldAfter formerBoth) = some 2 ∧
      ¬ SingleAddress lbExt lbScope "target/ns-x-lb" "lb" (lbWorld formerBoth) [answered] := by
  have hruns :
      ((answered.run lbExt lbScope "target/ns-x-lb" (lbWorld lbStatus)).1 = some "10.0.0.2" ∧
        (answered.run lbExt lbScope "target/ns-x-lb" (lbWorldAfter lbStatus)).1 = none) ∧
      lbEntries (lbWorld formerBoth) = some 0 ∧
        (answered.run lbExt lbScope "target/ns-x-lb" (lbWorld formerBoth)).1 = some "10.0.0.2" ∧
        lbEntries (lbWorldAfter formerBoth) = some 2 := by
    decide +kernel
  obtain ⟨⟨hfirst, hsecond⟩, hempty, hboth, htwo⟩ := hruns
  refine ⟨⟨hfirst, hsecond, fun h => ?_⟩, hempty, hboth, htwo, fun h => ?_⟩
  · have hfail := h.unobstructed (answered, _)
      (List.mem_cons_of_mem _ List.mem_cons_self) hsecond
    rw [hfirst] at hfail
    cases hfail
  · obtain ⟨stored, hstored, hone⟩ := h.single (answered, _) List.mem_cons_self _ hboth
    have hlookup : (lbWorldAfter formerBoth).pools.lookup "lb" = some stored := hstored
    rw [lbEntries, hlookup, Option.map_some, hone] at htwo
    cases htwo

end Cluster

end Caphv
