import Caphv.NetIPRoundTrip
import Caphv.PoolRange
import Caphv.PoolStore

namespace Caphv

open Net (IP parseIP)
open Store

/-- The fields of a Harvester `IPPool` that the controllers use. The status is not a
subresource: one update writes spec and status. -/
structure IPPool where
  resourceVersion : ℕ
  selectorNetwork : String
  ranges : List PoolRange
  status : IPPoolStatus
  deriving DecidableEq

/-- The pool after an update that the API server has accepted. -/
def IPPool.stored (p : IPPool) : IPPool :=
  { p with
    resourceVersion := p.resourceVersion + 1
    status := p.status.stored }

@[simp] theorem IPPool.holder_stored (p : IPPool) (a : String) :
    p.stored.status.holder a = p.status.holder a := p.status.holder_stored a

def splitNetworkRef (ref : String) : String × String :=
  match ref.toList.reverse.dropWhile (· ≠ '/') with
  | [] => ("", ref)
  | _ :: ns => (String.ofList ns.reverse,
      String.ofList (ref.toList.reverse.takeWhile (· ≠ '/')).reverse)

def networkRefsEqual (a b : String) : Bool :=
  if a = b then true
  else
    let (aNS, aName) := splitNetworkRef a
    let (bNS, bName) := splitNetworkRef b
    if aNS = "" ∨ bNS = "" then aName = bName else false

/-- `PoolMatchesNetworks`: a pool without a selector network matches any machine. -/
def poolMatchesNetworks (pool : IPPool) (machineNetworks : List String) : Bool :=
  if pool.selectorNetwork = "" then true
  else machineNetworks.any fun network => networkRefsEqual pool.selectorNetwork network

/-- The host-local allocator of the CNI plugins: the successor of an address, the address that is
chosen for an id, and the error about a chosen address that the store does not reserve. -/
structure Allocator where
  nextIP : IP → GoResult IP
  pick : List AllocatorRange → IPPoolStatus → String → Option IP → Except String IP
  unavailable : List AllocatorRange → IP → String

/-- `IPAllocator.Get`: the chosen address is handed out only if the store reserves it. -/
def Allocator.get (a : Allocator) (ranges : List AllocatorRange) (st : IPPoolStatus)
    (id : String) (requestedIP : Option IP) : GoResult (IP × IPPoolStatus) :=
  match a.pick ranges st id requestedIP with
  | .error e => .err e
  | .ok ip =>
    match reserve st id (some ip) with
    | (true, st') => .ok (ip, st')
    | (false, _) => .err (a.unavailable ranges ip)

def makeRanges (nextIP : IP → GoResult IP) : ℕ → List PoolRange → GoResult (List AllocatorRange)
  | _, [] => .ok []
  | i, r :: rs => do
    let element ← (makeRange nextIP r).wrap ("failed to parse range " ++ toString i)
    let rest ← makeRanges nextIP (i + 1) rs
    pure (element :: rest)

/-- An address the machine held before, else a new one. -/
def getHistoricalOrNew (a : Allocator) (rangeSet : List AllocatorRange) (st : IPPoolStatus)
    (machineID : String) : GoResult (IP × IPPoolStatus) :=
  match (Table.ofNil st.allocatedHistory).entries.find? fun e => e.2 = machineID with
  | some e =>
    (a.get rangeSet st machineID (parseIP e.1)).wrap ("failed to reuse historical IP " ++ e.1)
  | none => (a.get rangeSet st machineID none).wrap "failed to allocate new IP from pool"

/-- `AllocateVMIPFromPool`. Returns the address as text and the pool with its status
updated. -/
def allocateVMIPFromPool (a : Allocator) (pool : IPPool) (machineID : String) :
    GoResult (String × IPPool) := do
  let rangeSet ← makeRanges a.nextIP 0 pool.ranges
  let (ip, st) ← getHistoricalOrNew a rangeSet pool.status machineID
  pure (ip.string, { pool with status := st })

theorem GoResult.bind_eq_ok {α β : Type} {x : GoResult α} {f : α → GoResult β} {b : β} :
    x >>= f = .ok b ↔ ∃ a, x = .ok a ∧ f a = .ok b := by
  cases x with
  | ok a => exact ⟨fun h => ⟨a, rfl, h⟩, fun ⟨_, ha, hf⟩ => (GoResult.ok.inj ha) ▸ hf⟩
  | err e => exact ⟨nofun, fun ⟨_, ha, _⟩ => nomatch ha⟩
  | panic => exact ⟨nofun, fun ⟨_, ha, _⟩ => nomatch ha⟩

theorem GoResult.wrap_eq_ok {α : Type} {x : GoResult α} {msg : String} {a : α} :
    x.wrap msg = .ok a ↔ x = .ok a := by
  cases x <;> simp [GoResult.wrap]

theorem Allocator.get_eq_ok {a : Allocator} {ranges : List AllocatorRange} {st st' : IPPoolStatus}
    {id : String} {req : Option IP} {ip : IP} (h : a.get ranges st id req = .ok (ip, st')) :
    st.holder ip.string = none ∧ st' = (reserve st id (some ip)).2 := by
  unfold Allocator.get at h
  split at h
  · cases h
  · rename_i ip' _
    unfold reserve at h ⊢
    simp only [ipString] at h ⊢
    cases hh : st.holder ip'.string with
    | some v => simp [hh] at h
    | none =>
      simp only [hh, Option.isSome_none, Bool.false_eq_true, if_false, GoResult.ok.injEq,
        Prod.mk.injEq] at h
      obtain ⟨rfl, rfl⟩ := h
      simp [hh]

/-- A successful allocation adds one entry, for a free address in canonical form, and
changes nothing else in the allocation map of the pool. -/
theorem allocateVMIPFromPool_ok {a : Allocator} {pool pool' : IPPool} {id x : String}
    (h : allocateVMIPFromPool a pool id = .ok (x, pool')) :
    pool.status.holder x = none ∧ (∃ ip : IP, x = ip.string) ∧
      pool'.resourceVersion = pool.resourceVersion ∧
      ∀ y, pool'.status.holder y = if y = x then some id else pool.status.holder y := by
  unfold allocateVMIPFromPool at h
  obtain ⟨rangeSet, -, h⟩ := GoResult.bind_eq_ok.mp h
  obtain ⟨⟨ip, st⟩, hget, h⟩ := GoResult.bind_eq_ok.mp h
  have hst : pool.status.holder ip.string = none ∧
      st = (reserve pool.status id (some ip)).2 := by
    unfold getHistoricalOrNew at hget
    split at hget
    · exact Allocator.get_eq_ok (GoResult.wrap_eq_ok.mp hget)
    · exact Allocator.get_eq_ok (GoResult.wrap_eq_ok.mp hget)
  obtain ⟨hfree, rfl⟩ := hst
  obtain ⟨rfl, rfl⟩ := Prod.mk.inj (GoResult.ok.inj h)
  refine ⟨hfree, ⟨ip, rfl⟩, rfl, fun y => ?_⟩
  simp only [holder_reserve, ipString, hfree, and_true]

end Caphv
