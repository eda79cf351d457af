import Caphv.HostLocal

namespace Caphv

open Net (IP parseIP)
open Store

/-- The entry of the history that the loop finds first. -/
def historyEntry (st : IPPoolStatus) (machineID : String) : Option ((_ : String) × String) :=
  (Table.ofNil st.allocatedHistory).entries.find? fun e => e.2 = machineID

/-- `AllocateVMIPFromPool` on the pool object that the store writes to: what is returned, and the
pool after the call. The CNI plugins give the successor of an address and the allocator. -/
def allocateVMIPFromPoolInPlace (nextIP : IP → GoResult IP) (get : Get) (pool : IPPool)
    (machineID : String) : GoResult String × IPPool :=
  match makeRanges nextIP 0 pool.ranges with
  | .panic => (.panic, pool)
  | .err e => (.err e, pool)
  | .ok rangeSet =>
    match historyEntry pool.status machineID with
    | some e =>
      let out := get rangeSet pool.status machineID (parseIP e.1)
      (IP.string <$> out.1.wrap ("failed to reuse historical IP " ++ e.1),
        { pool with status := out.2 })
    | none =>
      let out := get rangeSet pool.status machineID none
      (IP.string <$> out.1.wrap "failed to allocate new IP from pool",
        { pool with status := out.2 })

section InPlace

variable {nextIP : IP → GoResult IP} {pool : IPPool} {id : String} {ranges : List AllocatorRange}

/-- Every element of the range set is built from a range of the pool. -/
theorem mem_makeRanges {i : ℕ} {rs : List PoolRange} (h : makeRanges nextIP i rs = .ok ranges)
    {r : AllocatorRange} (hr : r ∈ ranges) : ∃ pr ∈ rs, makeRange nextIP pr = .ok r := by
  induction rs generalizing i ranges with
  | nil =>
    cases h
    cases hr
  | cons pr rs ih =>
    obtain ⟨element, helement, h⟩ := GoResult.bind_eq_ok.mp h
    obtain ⟨rest, hrest, h⟩ := GoResult.bind_eq_ok.mp h
    cases h
    rcases List.mem_cons.mp hr with rfl | hr
    · exact ⟨pr, List.mem_cons_self, GoResult.wrap_eq_ok.mp helement⟩
    · obtain ⟨pr', hpr', hmake⟩ := ih hrest hr
      exact ⟨pr', List.mem_cons_of_mem _ hpr', hmake⟩

/-- What one call of the allocator leaves in the pool. -/
theorem wrap_allocates {out : GoResult IP × IPPoolStatus} (h : Allocates ranges pool.status id out)
    (msg : String) :
    (∃ ip, Eligible ranges ip ∧ pool.status.holder ip.string = none ∧
      (IP.string <$> out.1.wrap msg, { pool with status := out.2 }) =
        (GoResult.ok ip.string, { pool with status := (reserve pool.status id (some ip)).2 })) ∨
    (∀ x, IP.string <$> out.1.wrap msg ≠ GoResult.ok x) ∧
      { pool with status := out.2 } = pool := by
  obtain ⟨out, st⟩ := out
  rcases h with ⟨ip, heq, helig, hfree⟩ | ⟨hst, hno⟩
  · obtain ⟨rfl, rfl⟩ := Prod.mk.inj heq
    exact Or.inl ⟨ip, helig, hfree, rfl⟩
  · obtain rfl : st = pool.status := hst
    cases out with
    | ok ip => exact absurd rfl (hno ip)
    | err e => exact Or.inr ⟨fun _ => nofun, rfl⟩
    | panic => exact Or.inr ⟨fun _ => nofun, rfl⟩

/-- One call is one `Get` of the allocator on the range set of the pool, or it fails early. -/
theorem inPlace_cases (nextIP : IP → GoResult IP) (get : Get) (pool : IPPool) (id : String) :
    (∃ ranges req msg, makeRanges nextIP 0 pool.ranges = .ok ranges ∧
      allocateVMIPFromPoolInPlace nextIP get pool id =
        (IP.string <$> (get ranges pool.status id req).1.wrap msg,
          { pool with status := (get ranges pool.status id req).2 })) ∨
    (∀ x, (allocateVMIPFromPoolInPlace nextIP get pool id).1 ≠ .ok x) ∧
      (allocateVMIPFromPoolInPlace nextIP get pool id).2 = pool := by
  unfold allocateVMIPFromPoolInPlace
  cases makeRanges nextIP 0 pool.ranges with
  | panic => exact Or.inr ⟨fun _ => nofun, rfl⟩
  | err e => exact Or.inr ⟨fun _ => nofun, rfl⟩
  | ok ranges =>
    cases historyEntry pool.status id with
    | some e => exact Or.inl ⟨ranges, parseIP e.1, _, rfl, rfl⟩
    | none => exact Or.inl ⟨ranges, none, _, rfl, rfl⟩

/-- For every allocator that offers only addresses of the ranges other than their gateways and
commits only through `Reserve`: what the call returns is a free address between the ends of a
range of the pool, which is not the gateway of that range, and the status has the reservation of
it; a call that returns none has left the pool as it was. -/
theorem allocation_sound (nextIP : IP → GoResult IP) {get : Get} (hget : get.Sound)
    (pool : IPPool) (machineID : String) :
    match allocateVMIPFromPoolInPlace nextIP get pool machineID with
    | (.ok x, pool') =>
      pool.status.holder x = none ∧
      (∃ pr ∈ pool.ranges, ∃ r, makeRange nextIP pr = .ok r ∧
        ∃ ip : IP, x = ip.string ∧ r.Between ip ∧ r.isGateway ip = false) ∧
      pool' = { pool with status := { pool.status with
        allocated := some ((Table.ofNil pool.status.allocated).insert x machineID)
        lastAllocated := x
        available := pool.status.available - 1 } }
    | (_, pool') => pool' = pool := by
  rcases inPlace_cases nextIP get pool machineID with
    ⟨ranges, req, msg, hranges, heq⟩ | ⟨hno, hpool⟩
  · -- A requested and a new address are reserved by the same contract of the allocator.
    rw [heq]
    rcases wrap_allocates (hget ranges pool.status machineID req) msg with
      ⟨ip, ⟨r, hr, hin, hgw⟩, hfree, hout⟩ | ⟨hno, hpool⟩
    · rw [hout]
      obtain ⟨pr, hpr, hmake⟩ := mem_makeRanges hranges hr
      refine ⟨hfree, ⟨pr, hpr, r, hmake, ip, rfl, hin, hgw⟩, ?_⟩
      simp [reserve, ipString, hfree]
    · split
      · exact absurd (congrArg Prod.fst ‹_›) (hno _)
      · exact (congrArg Prod.snd ‹_›).symm.trans hpool
  · split
    · exact absurd (congrArg Prod.fst ‹_›) (hno _)
    · exact (congrArg Prod.snd ‹_›).symm.trans hpool

/-- A call that returns the updated pool, on the pool object: a failed call has not touched it. -/
def onObject (pool : IPPool) : GoResult (String × IPPool) → GoResult String × IPPool
  | .ok (x, pool') => (.ok x, pool')
  | .err e => (.err e, pool)
  | .panic => (.panic, pool)

/-- With the allocator of a controller, the call is the one that the controllers make. -/
theorem inPlace_eq (a : Allocator) (pool : IPPool) (id : String) :
    allocateVMIPFromPoolInPlace a.nextIP a.inPlace pool id =
      onObject pool (allocateVMIPFromPool a pool id) := by
  have hget : ∀ ranges req msg, (IP.string <$> (a.inPlace ranges pool.status id req).1.wrap msg,
      { pool with status := (a.inPlace ranges pool.status id req).2 }) =
      onObject pool (do
        let out ← (a.get ranges pool.status id req).wrap msg
        pure (out.1.string, { pool with status := out.2 })) := by
    intro ranges req msg
    unfold Allocator.inPlace
    cases a.get ranges pool.status id req <;> rfl
  unfold allocateVMIPFromPoolInPlace allocateVMIPFromPool getHistoricalOrNew historyEntry
  cases makeRanges a.nextIP 0 pool.ranges with
  | panic => rfl
  | err e => rfl
  | ok ranges =>
    cases (Table.ofNil pool.status.allocatedHistory).entries.find? fun e => e.2 = id with
    | none => exact hget ranges none _
    | some e => exact hget ranges (parseIP e.1) _

/-- The call does not fail on the history: the entry of the machine that is met first, if there is
one and its key is an address, is for an address that may be handed out on request. -/
def HistoryUsable (contains : AllocatorRange → IP → Bool) (ranges : List AllocatorRange)
    (st : IPPoolStatus) (id : String) : Prop :=
  ∀ e ∈ historyEntry st id, ∀ ip ∈ parseIP e.1, Requestable contains ranges st ip

theorem isOk_string (x : GoResult IP) (msg : String) :
    (IP.string <$> x.wrap msg).isOk = x.isOk := by
  cases x <;> rfl

/-- With an allocator that visits every address of the ranges before it gives up, and grants a
request for an address that may be handed out: a machine that holds nothing gets an address from a
pool that has one left exactly when its history does not stand in the way. -/
theorem allocation_succeeds_iff {nextIP : IP → GoResult IP} {get : Get}
    {contains : AllocatorRange → IP → Bool} {pool : IPPool} {machineID : String}
    {ranges : List AllocatorRange} (hranges : makeRanges nextIP 0 pool.ranges = .ok ranges)
    (hvisits : get.VisitsAll ranges) (hgrants : get.GrantsRequests contains ranges)
    (hid : ∀ a, pool.status.holder a ≠ some machineID)
    (hroom : ∃ r ∈ ranges, ∃ ip : IP, r.Between ip ∧ r.isGateway ip = false ∧
      pool.status.holder ip.string = none) :
    (allocateVMIPFromPoolInPlace nextIP get pool machineID).1.isOk = true ↔
      HistoryUsable contains ranges pool.status machineID := by
  obtain ⟨r, hr, ip, hin, hgw, hfree⟩ := hroom
  -- Without an entry of the history any free address does.
  have hnew : (get ranges pool.status machineID none).1.isOk = true :=
    hvisits pool.status machineID hid ⟨ip, ⟨r, hr, hin, hgw⟩, hfree⟩
  unfold allocateVMIPFromPoolInPlace HistoryUsable
  rw [hranges]
  cases historyEntry pool.status machineID with
  | none =>
    simp only [isOk_string]
    exact ⟨fun _ => nofun, fun _ => hnew⟩
  | some e =>
    simp only [isOk_string, Option.mem_some_iff, forall_eq']
    cases parseIP e.1 with
    | none => exact ⟨fun _ => nofun, fun _ => hnew⟩
    | some ip' =>
      simp only [Option.mem_some_iff, forall_eq']
      exact hgrants pool.status machineID ip'

end InPlace

namespace VMSample

def vmRange : PoolRange := ⟨"10.0.0.0/29", "10.0.0.1", "10.0.0.2", "10.0.0.3"⟩

def vmPool : IPPool where
  resourceVersion := 1
  selectorNetwork := ""
  ranges := [vmRange]
  status := ⟨2, "", none, none⟩

def released (pool : IPPool) (id : String) : IPPool :=
  { pool with status := releaseByID pool.status id }

def allocate : IPPool → String → GoResult String × IPPool :=
  allocateVMIPFromPoolInPlace RangeSample.nextIP RangeSample.hostLocal.inPlace

def allocated (pool : IPPool) (id : String) : IPPool := (allocate pool id).2

/-- The address of the first machine has gone to a third one; the second has left. -/
def reassigned : IPPool :=
  released (allocated (allocated (released (allocated vmPool "ns/a") "ns/a") "ns/b") "ns/c") "ns/b"

def returning : IPPool := released (allocated vmPool "ns/a") "ns/a"

def rangeSet : List AllocatorRange :=
  match makeRanges RangeSample.nextIP 0 [vmRange] with
  | .ok ranges => ranges
  | _ => []

def lastAddress : IP := ⟨[10, 0, 0, 3], Or.inl rfl⟩

end VMSample

open VMSample in
theorem allocation_sound_sample :
    allocate vmPool "ns/a" = (.ok "10.0.0.2", allocated vmPool "ns/a") ∧
      ∃ pr ∈ vmPool.ranges, ∃ r, makeRange RangeSample.nextIP pr = .ok r ∧
        ∃ ip : IP, "10.0.0.2" = ip.string ∧ r.Between ip ∧ r.isGateway ip = false := by
  have hout : allocate vmPool "ns/a" = (.ok "10.0.0.2", allocated vmPool "ns/a") := by
    decide +kernel
  have hsound := allocation_sound RangeSample.nextIP RangeSample.sound_hostLocal vmPool "ns/a"
  rw [show allocateVMIPFromPoolInPlace _ _ vmPool "ns/a" = _ from hout] at hsound
  exact ⟨hout, hsound.2.1⟩

theorem makeRanges_sample :
    makeRanges RangeSample.nextIP 0 [VMSample.vmRange] = .ok VMSample.rangeSet ∧
      ∃ r ∈ VMSample.rangeSet, r.Between VMSample.lastAddress ∧
        r.isGateway VMSample.lastAddress = false := by
  decide +kernel

open VMSample in
/-- A machine that returns to its former pool gets its former address. -/
theorem allocation_succeeds_returning :
    (allocate returning "ns/a").1 = .ok "10.0.0.2" ∧
      ((allocate returning "ns/a").1.isOk = true ↔
        HistoryUsable RangeSample.contains rangeSet returning.status "ns/a") := by
  obtain ⟨hresult, hid, hfree⟩ : (allocate returning "ns/a").1 = .ok "10.0.0.2" ∧
      getByID returning.status "ns/a" = [] ∧
      returning.status.holder lastAddress.string = none := by decide +kernel
  obtain ⟨hranges, r, hr, hin, hgw⟩ := makeRanges_sample
  exact ⟨hresult, allocation_succeeds_iff hranges (RangeSample.visitsAll_hostLocal _)
    (RangeSample.grantsRequests_hostLocal _) (getByID_eq_nil_iff.mp hid)
    ⟨r, hr, lastAddress, hin, hgw, hfree⟩⟩

open VMSample in
/-- The first machine left and its address was given to the third. The address of the second is
free, but no allocator that grants only requests for free addresses gives it to the first. -/
theorem allocation_fails_reassigned :
    makeRanges RangeSample.nextIP 0 reassigned.ranges = .ok rangeSet ∧
      (∀ a, reassigned.status.holder a ≠ some "ns/a") ∧
      (∃ r ∈ rangeSet, ∃ ip : IP, r.Between ip ∧ r.isGateway ip = false ∧
        reassigned.status.holder ip.string = none) ∧
      ∀ (get : Get) (contains : AllocatorRange → IP → Bool), get.GrantsRequests contains rangeSet →
        (allocateVMIPFromPoolInPlace RangeSample.nextIP get reassigned "ns/a").1.isOk = false := by
  obtain ⟨hid, hfree, hentry, ip, hip, hheld⟩ : getByID reassigned.status "ns/a" = [] ∧
      reassigned.status.holder lastAddress.string = none ∧
      historyEntry reassigned.status "ns/a" = some ⟨"10.0.0.2", "ns/a"⟩ ∧
      ∃ ip ∈ parseIP "10.0.0.2", reassigned.status.holder ip.string = some "ns/c" := by
    decide +kernel
  obtain ⟨hranges, r, hr, hin, hgw⟩ := makeRanges_sample
  refine ⟨hranges, getByID_eq_nil_iff.mp hid, ⟨r, hr, lastAddress, hin, hgw, hfree⟩, ?_⟩
  intro get contains hgrants
  have hranges' : makeRanges RangeSample.nextIP 0 reassigned.ranges = .ok rangeSet := hranges
  unfold allocateVMIPFromPoolInPlace
  rw [hranges', hentry]
  simp only [isOk_string]
  rw [Option.mem_def.mp hip]
  refine Bool.eq_false_iff.mpr fun hok => ?_
  obtain ⟨-, hnone⟩ := (hgrants _ _ _).mp hok
  rw [hheld] at hnone
  cases hnone

end Caphv
