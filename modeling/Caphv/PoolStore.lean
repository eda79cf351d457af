import Mathlib.Tactic.Common
import Caphv.NetIP
import Caphv.Table

namespace Caphv

open Net (IP parseIP)

/-- The fields of `IPPoolStatus` that the store reads and writes; a nil map is `none`. -/
structure IPPoolStatus where
  available : Int64
  lastAllocated : String
  allocated : Option (Table String String)
  allocatedHistory : Option (Table String String)
  deriving DecidableEq

namespace IPPoolStatus

def holder (st : IPPoolStatus) (a : String) : Option String :=
  (Table.ofNil st.allocated).lookup a

def history (st : IPPoolStatus) (a : String) : Option String :=
  (Table.ofNil st.allocatedHistory).lookup a

def count (st : IPPoolStatus) : ℕ := Table.size (Table.ofNil st.allocated)

/-- The status as the API server gives it back: both maps are `omitempty`, so an empty one is read
as nil. -/
def stored (st : IPPoolStatus) : IPPoolStatus :=
  { st with
    allocated := Table.omitEmpty st.allocated
    allocatedHistory := Table.omitEmpty st.allocatedHistory }

@[simp] theorem holder_stored (st : IPPoolStatus) (a : String) :
    st.stored.holder a = st.holder a := by
  unfold holder stored
  rw [Table.ofNil_omitEmpty]

end IPPoolStatus

def ipString : Option IP → String
  | none => "<nil>"
  | some ip => ip.string

namespace Store

variable (st : IPPoolStatus)

/-- `Store.Reserve`: false when the address is already held. -/
def reserve (id : String) (ip : Option IP) : Bool × IPPoolStatus :=
  let ipStr := ipString ip
  if (st.holder ipStr).isSome then (false, st)
  else (true, { st with
    allocated := some ((Table.ofNil st.allocated).insert ipStr id)
    lastAllocated := ipStr
    available := st.available - 1 })

def lastReservedIP : Option IP := parseIP st.lastAllocated

/-- The three writes that free an address: history, allocation map, counter. -/
def free (ipStr applicant : String) : IPPoolStatus :=
  { st with
    allocatedHistory := some ((Table.ofNil st.allocatedHistory).insert ipStr applicant)
    allocated := st.allocated.map fun m => m.erase ipStr
    available := st.available + 1 }

/-- `Store.Release`. A key that is missing from a Go map reads as the empty string. -/
def release (ip : Option IP) : IPPoolStatus :=
  if st.allocated = none then st
  else free st (ipString ip) ((st.holder (ipString ip)).getD "")

def releaseByID (id : String) : IPPoolStatus :=
  match st.allocated with
  | none => st
  | some m => m.entries.foldl (fun st e => if e.2 = id then free st e.1 e.2 else st) st

/-- `Store.GetByID`, with `none` for a key that does not parse. -/
def getByID (id : String) : List (Option IP) :=
  match st.allocated with
  | none => []
  | some m => (m.entries.filter fun e => e.2 = id).map fun e => parseIP e.1

end Store

open Store

section Calls

variable (st : IPPoolStatus) (a k id applicant : String) (ip : Option IP)

theorem holder_free :
    (free st k applicant).holder a = if a = k then none else st.holder a := by
  simp only [free, IPPoolStatus.holder, Table.ofNil_map_erase, Table.lookup_erase_eq]

theorem history_free :
    (free st k applicant).history a = if a = k then some applicant else st.history a := by
  simp only [free, IPPoolStatus.history, Table.ofNil_some, Table.lookup_insert_eq]

theorem count_free_of_held {st : IPPoolStatus} {k v : String} (h : st.holder k = some v)
    (applicant : String) : (free st k applicant).count + 1 = st.count := by
  simp only [free, IPPoolStatus.count, Table.ofNil_map_erase]
  exact Table.size_erase h

/-- The released address is free afterwards, the others are as before. -/
theorem holder_release (b : String) :
    (release st ip).holder b = if b = ipString ip then none else st.holder b := by
  unfold release
  split_ifs with h hb hb
  · simp [IPPoolStatus.holder, Table.ofNil, h]
  · rfl
  · rw [holder_free, if_pos hb]
  · rw [holder_free, if_neg hb]

theorem holder_reserve :
    (reserve st id ip).2.holder a =
      if a = ipString ip ∧ st.holder (ipString ip) = none then some id else st.holder a := by
  cases h : st.holder (ipString ip) with
  | some v => simp [reserve, h]
  | none =>
    simp only [reserve, h, Option.isSome_none, Bool.false_eq_true, if_false, and_true]
    simp only [IPPoolStatus.holder, Table.ofNil_some, Table.lookup_insert_eq]

theorem count_reserve (h : st.holder (ipString ip) = none) :
    (reserve st id ip).2.count = st.count + 1 := by
  simp only [reserve, h, Option.isSome_none, Bool.false_eq_true, if_false, IPPoolStatus.count,
    Table.ofNil_some]
  exact Table.size_insert h id

@[simp] theorem history_reserve : (reserve st id ip).2.history a = st.history a := by
  unfold reserve
  dsimp only
  split_ifs <;> rfl

theorem available_reserve :
    (reserve st id ip).2.available =
      if st.holder (ipString ip) = none then st.available - 1 else st.available := by
  cases h : st.holder (ipString ip) with
  | some v => simp [reserve, h]
  | none => simp [reserve, h]

end Calls

end Caphv
