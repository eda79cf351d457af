import Caphv.AddressBytes
import Caphv.PoolAllocation

namespace Caphv

open Net (IP parseIP)
open Store

namespace AllocatorRange

variable (r : AllocatorRange)

def Between (ip : IP) : Prop := r.rangeStart.value ≤ ip.value ∧ ip.value ≤ r.rangeEnd.value

instance (ip : IP) : Decidable (r.Between ip) := inferInstanceAs (Decidable (_ ∧ _))

def isGateway (ip : IP) : Bool := r.gateway.any fun gateway => gateway.to16 = ip.to16

def addresses : List IP :=
  (List.range (r.rangeEnd.value + 1 - r.rangeStart.value)).map fun i =>
    IP.ofValue (r.rangeStart.value + i)

def assignable : List IP := r.addresses.filter fun ip => !r.isGateway ip

end AllocatorRange

theorem mem_addresses {r : AllocatorRange} {ip : IP} :
    ip ∈ r.addresses ↔ r.Between ip ∧ ip.to16 = ip := by
  unfold AllocatorRange.addresses AllocatorRange.Between
  simp only [List.mem_map, List.mem_range]
  have hlast := value_lt r.rangeEnd
  constructor
  · rintro ⟨i, hi, rfl⟩
    rw [value_ofValue (by omega)]
    refine ⟨by omega, ?_⟩
    simp [IP.to16, IP.ofValue, length_beBytes]
  · rintro ⟨h, hwide⟩
    refine ⟨ip.value - r.rangeStart.value, by omega, ?_⟩
    rw [Nat.add_sub_cancel' h.1, ofValue_value, hwide]

/-- `IPAllocator.Get` of the CNI plugins over the store: what it returns for an id and a requested
address, and the status that it leaves. -/
abbrev Get := List AllocatorRange → IPPoolStatus → String → Option IP → GoResult IP × IPPoolStatus

/-- The address is one that the allocator may hand out. -/
def Eligible (ranges : List AllocatorRange) (ip : IP) : Prop :=
  ∃ r ∈ ranges, r.Between ip ∧ r.isGateway ip = false

/-- A call returned an address that was free, is within a range and not its gateway, and has
reserved it; or it returned none and has left the status. -/
def Allocates (ranges : List AllocatorRange) (st : IPPoolStatus) (id : String)
    (out : GoResult IP × IPPoolStatus) : Prop :=
  (∃ ip, out = (.ok ip, (reserve st id (some ip)).2) ∧ Eligible ranges ip ∧
    st.holder ip.string = none) ∨ out.2 = st ∧ ∀ ip, out.1 ≠ .ok ip

/-- The allocator offers only eligible addresses and commits only through `Reserve`. -/
def Get.Sound (get : Get) : Prop :=
  ∀ ranges st id req, Allocates ranges st id (get ranges st id req)

/-- The allocator visits every address of the ranges before it gives up on an id that holds
nothing. -/
def Get.VisitsAll (get : Get) (ranges : List AllocatorRange) : Prop :=
  ∀ st id, (∀ a, st.holder a ≠ some id) →
    (∃ ip, Eligible ranges ip ∧ st.holder ip.string = none) →
    (get ranges st id none).1.isOk = true

/-- The address may be handed out on request: the first range that contains it does not have it
as its gateway, and nobody holds it. -/
def Requestable (contains : AllocatorRange → IP → Bool) (ranges : List AllocatorRange)
    (st : IPPoolStatus) (ip : IP) : Prop :=
  (∃ r ∈ ranges.find? fun r => contains r ip, r.isGateway ip = false) ∧
    st.holder ip.string = none

/-- The allocator grants a request exactly if the address is requestable; `contains` is its
`Range.Contains`. -/
def Get.GrantsRequests (get : Get) (contains : AllocatorRange → IP → Bool)
    (ranges : List AllocatorRange) : Prop :=
  ∀ st id ip, (get ranges st id (some ip)).1.isOk = true ↔ Requestable contains ranges st ip

section Store

variable {st : IPPoolStatus} {id : String}

theorem reserve_of_free {ip : IP} (h : st.holder ip.string = none) :
    reserve st id (some ip) = (true, (reserve st id (some ip)).2) := by
  simp [reserve, ipString, h]

theorem reserve_of_held {ip : IP} {v : String} (h : st.holder ip.string = some v) :
    reserve st id (some ip) = (false, st) := by
  simp [reserve, ipString, h]

theorem mem_getByID {a : Option IP} :
    a ∈ getByID st id ↔ ∃ x, st.holder x = some id ∧ parseIP x = a := by
  unfold getByID IPPoolStatus.holder
  cases hm : st.allocated with
  | none => simp [Table.ofNil]
  | some m =>
    simp only [Table.ofNil_some, List.mem_map, List.mem_filter, decide_eq_true_eq]
    constructor
    · rintro ⟨e, ⟨he, rfl⟩, rfl⟩
      exact ⟨e.1, AList.mem_lookup_iff.mpr he, rfl⟩
    · rintro ⟨x, hx, rfl⟩
      exact ⟨⟨x, id⟩, ⟨AList.mem_lookup_iff.mp hx, rfl⟩, rfl⟩

theorem getByID_eq_nil_iff : getByID st id = [] ↔ ∀ a, st.holder a ≠ some id := by
  rw [List.eq_nil_iff_forall_not_mem]
  constructor
  · intro h a ha
    exact h (parseIP a) (mem_getByID.mpr ⟨a, ha, rfl⟩)
  · intro h a ha
    obtain ⟨x, hx, -⟩ := mem_getByID.mp ha
    exact h x hx

end Store

namespace Allocator

variable {a : Allocator} {ranges : List AllocatorRange} {st : IPPoolStatus} {id : String}

def inPlace (a : Allocator) : Get := fun ranges st id req =>
  match a.get ranges st id req with
  | .ok (ip, st') => (.ok ip, st')
  | .err e => (.err e, st)
  | .panic => (.panic, st)

theorem sound_inPlace
    (h : ∀ ranges st id req ip, a.pick ranges st id req = .ok ip → Eligible ranges ip) :
    a.inPlace.Sound := by
  intro ranges st id req
  unfold inPlace get
  cases hpick : a.pick ranges st id req with
  | error e => exact Or.inr ⟨rfl, fun _ => nofun⟩
  | ok ip =>
    cases hfree : st.holder ip.string with
    | some v =>
      simp only [reserve_of_held hfree]
      exact Or.inr ⟨rfl, fun _ => nofun⟩
    | none =>
      dsimp only
      rw [reserve_of_free hfree]
      exact Or.inl ⟨ip, rfl, h _ _ _ _ _ hpick, hfree⟩

theorem isOk_inPlace {req : Option IP} :
    (a.inPlace ranges st id req).1.isOk = true ↔
      ∃ ip, a.pick ranges st id req = .ok ip ∧ st.holder ip.string = none := by
  unfold inPlace get
  cases a.pick ranges st id req with
  | error e => simp [GoResult.isOk]
  | ok ip =>
    cases hfree : st.holder ip.string with
    | some v => simp [reserve_of_held hfree, GoResult.isOk, hfree]
    | none =>
      dsimp only
      rw [reserve_of_free hfree]
      simp [GoResult.isOk, hfree]

end Allocator

namespace RangeSample

def contains (r : AllocatorRange) (ip : IP) : Bool := r.Between ip

def offers (ranges : List AllocatorRange) : List IP :=
  ranges.flatMap AllocatorRange.assignable

/-- A round robin from the address that was reserved last. -/
def hostLocal : Allocator where
  nextIP := nextIP
  pick ranges st id req :=
    match req with
    | some ip =>
      match ranges.find? fun r => contains r ip with
      | none => .error "not in a range"
      | some r => if r.isGateway ip then .error "the gateway" else .ok ip
    | none =>
      if getByID st id ≠ [] then .error "already allocated"
      else
        let all := offers ranges
        let after := all.drop (all.findIdx (fun ip => ip.string = st.lastAllocated) + 1)
        match (after ++ all).find? fun ip => st.holder ip.string = none with
        | none => .error "no address left"
        | some ip => .ok ip
  unavailable _ ip := ip.string

theorem mem_offers {ranges : List AllocatorRange} {ip : IP} :
    ip ∈ offers ranges ↔ ip.to16 = ip ∧ Eligible ranges ip := by
  unfold offers Eligible AllocatorRange.assignable
  simp only [List.mem_flatMap, List.mem_filter, mem_addresses, Bool.not_eq_true']
  constructor
  · rintro ⟨r, hr, ⟨hin, hwide⟩, hgw⟩
    exact ⟨hwide, r, hr, hin, hgw⟩
  · rintro ⟨hwide, r, hr, hin, hgw⟩
    exact ⟨r, hr, ⟨hin, hwide⟩, hgw⟩

theorem sound_hostLocal : hostLocal.inPlace.Sound := by
  refine Allocator.sound_inPlace fun ranges st id req ip hpick => ?_
  unfold hostLocal at hpick
  cases req with
  | some ip' =>
    dsimp only at hpick
    split at hpick
    · cases hpick
    · rename_i r hr
      split_ifs at hpick with hgw
      obtain rfl := Except.ok.inj hpick
      exact ⟨r, List.mem_of_find?_eq_some hr, by simpa [contains] using List.find?_some hr,
        by simpa using hgw⟩
  | none =>
    dsimp only at hpick
    split_ifs at hpick
    split at hpick
    · cases hpick
    · rename_i hfind
      obtain rfl := Except.ok.inj hpick
      rcases List.mem_append.mp (List.mem_of_find?_eq_some hfind) with hmem | hmem
      · exact (mem_offers.mp (List.mem_of_mem_drop hmem)).2
      · exact (mem_offers.mp hmem).2

theorem visitsAll_hostLocal (ranges : List AllocatorRange) :
    hostLocal.inPlace.VisitsAll ranges := by
  rintro st id hid ⟨ip, ⟨r, hr, hin, hgw⟩, hfree⟩
  -- The wide form of the address is offered, under the same key of the store.
  have hoffer : ip.to16 ∈ offers ranges := by
    refine mem_offers.mpr ⟨to16_to16 ip, r, hr, ?_, ?_⟩
    · simpa [AllocatorRange.Between, value_to16] using hin
    · simpa [AllocatorRange.isGateway, to16_to16] using hgw
  apply Allocator.isOk_inPlace.mpr
  unfold hostLocal
  dsimp only
  rw [if_neg (by simpa using getByID_eq_nil_iff.mpr hid)]
  split
  · rename_i hnone
    have hheld := List.find?_eq_none.mp hnone _ (List.mem_append_right _ hoffer)
    simp [hfree] at hheld
  · rename_i ip' hfind
    exact ⟨ip', rfl, by simpa using List.find?_some hfind⟩

theorem grantsRequests_hostLocal (ranges : List AllocatorRange) :
    hostLocal.inPlace.GrantsRequests contains ranges := by
  intro st id ip
  rw [Allocator.isOk_inPlace]
  unfold hostLocal Requestable
  dsimp only
  cases ranges.find? fun r => contains r ip with
  | none => simp
  | some r =>
    cases hgw : r.isGateway ip with
    | true => simp [hgw]
    | false => simp [hgw]

end RangeSample

end Caphv
