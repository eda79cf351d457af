import Caphv.RangeSpec

namespace Caphv

open Net (IP parseIP)
open AlignedBlocks

def ipToInt (ip : IP) : ℕ := bytesToNat (ip.to4.getD ip.to16.bytes)

/-- `CountIP`; `contains` is `Range.Contains` of the CNI plugins. The narrowing keeps the low 64
bits. -/
def countIP (contains : AllocatorRange → IP → Bool) (r : AllocatorRange) : Int64 :=
  let count := Int64.ofInt ((ipToInt r.rangeEnd : ℤ) - ipToInt r.rangeStart + 1)
  if r.gateway.any (contains r) then count - 1 else count

/-- What the CNI plugins do with a range: `NextIP` gives the successor of the address of the
network, `Range.Contains` takes the gateway if it is of the subnet and between start and end, and
the iterator of the allocator offers every address but the gateway once. -/
structure Conventional (next : IP → GoResult IP) (contains : AllocatorRange → IP → Bool)
    (offers : AllocatorRange → List IP) (r : AllocatorRange) : Prop where
  next : ∀ ip, next r.subnet.ip = .ok ip → ip.value = r.subnet.first + 1
  contains : ∀ g, r.gateway = some g →
    (contains r g = true ↔ r.subnet.contains g = true ∧ r.Between g)
  offers : ((offers r).map IP.to16).Perm r.assignable

/-- Range, count and allocator agree. -/
structure Agrees (contains : AllocatorRange → IP → Bool) (offers : AllocatorRange → List IP)
    (r : AllocatorRange) : Prop where
  inside : ∀ ip, r.Between ip → r.subnet.Covers ip
  counted : (countIP contains r).toInt = r.assignable.length
  handedOut : (countIP contains r).toInt = (offers r).length

section Values

variable {ip a b : IP}

theorem ipToInt_eq_short : ipToInt ip = bytesToNat ip.short := by
  unfold ipToInt IP.short
  cases h : ip.to4 with
  | some bs => rfl
  | none =>
    have hne : ip.bytes.length ≠ 4 := by
      have hlen := (to4_eq_none h).1
      omega
    rw [IP.to16, dif_neg hne]

theorem ipToInt_of_mapped (h : IsMapped ip.value) : ipToInt ip + mappedBase = ip.value := by
  obtain ⟨-, hvalue⟩ := short_of_mapped h
  rw [ipToInt_eq_short]
  omega

theorem ipToInt_of_not_mapped (h : ¬ IsMapped ip.value) : ipToInt ip = ip.value := by
  rw [ipToInt_eq_short, (short_of_not_mapped h).2]

theorem ipToInt_sub (h : IsMapped a.value ↔ IsMapped b.value) :
    (ipToInt b : ℤ) - ipToInt a = (b.value : ℤ) - a.value := by
  by_cases hmapped : IsMapped a.value
  · have ha := ipToInt_of_mapped hmapped
    have hb := ipToInt_of_mapped (h.mp hmapped)
    omega
  · rw [ipToInt_of_not_mapped hmapped, ipToInt_of_not_mapped (mt h.mpr hmapped)]

end Values

namespace AllocatorRange

variable {r : AllocatorRange} {contains : AllocatorRange → IP → Bool}

theorem length_addresses (r : AllocatorRange) :
    r.addresses.length = r.rangeEnd.value + 1 - r.rangeStart.value := by
  rw [addresses, List.length_map, List.length_range]

theorem length_filter_ne (m j : ℕ) :
    ((List.range m).filter (· != j)).length = m - if j < m then 1 else 0 := by
  rw [← List.nodup_range.erase_eq_filter, List.length_erase]
  simp only [List.mem_range, List.length_range]
  split_ifs <;> rfl

theorem isGateway_ofValue {g : IP} {v : ℕ} (hgw : r.gateway = some g) (hv : v < 2 ^ 128) :
    r.isGateway (IP.ofValue v) = decide (g.value = v) := by
  rw [isGateway, hgw, Option.any_some]
  exact decide_eq_decide.mpr (to16_eq_iff.trans (by rw [value_ofValue hv]))

theorem length_assignable_of_gateway {g : IP} (hgw : r.gateway = some g) :
    r.assignable.length = r.rangeEnd.value + 1 - r.rangeStart.value -
      if r.Between g then 1 else 0 := by
  have hlast := value_lt r.rangeEnd
  rw [assignable, addresses, List.filter_map, List.length_map]
  -- The gateway is at this place, which is after all addresses when it is before or after them.
  obtain ⟨j, hj⟩ : ∃ j, ∀ i < r.rangeEnd.value + 1 - r.rangeStart.value,
      g.value = r.rangeStart.value + i ↔ i = j := by
    by_cases hle : r.rangeStart.value ≤ g.value
    · exact ⟨g.value - r.rangeStart.value, by omega⟩
    · exact ⟨r.rangeEnd.value + 1 - r.rangeStart.value, by omega⟩
  have hplace : j < r.rangeEnd.value + 1 - r.rangeStart.value ↔ r.Between g := by
    constructor
    · intro hlt
      have hvalue := (hj j hlt).mpr rfl
      unfold Between
      omega
    · rintro ⟨hlo, hhi⟩
      have hvalue := (hj (g.value - r.rangeStart.value) (by omega)).mp (by omega)
      omega
  have hfilter : ∀ i ∈ List.range (r.rangeEnd.value + 1 - r.rangeStart.value),
      ((fun ip => !r.isGateway ip) ∘ fun i => IP.ofValue (r.rangeStart.value + i)) i =
        (i != j) := by
    intro i hi
    rw [List.mem_range] at hi
    rw [Function.comp_apply, isGateway_ofValue hgw (by omega), bne, Bool.beq_eq_decide_eq]
    simp only [hj i hi]
  rw [List.filter_congr hfilter, length_filter_ne]
  simp only [hplace]

/-- All addresses but the gateway, if it is among them. -/
theorem length_assignable (r : AllocatorRange) :
    r.assignable.length = r.rangeEnd.value + 1 - r.rangeStart.value -
      if r.gateway.any (r.Between ·) then 1 else 0 := by
  cases hgw : r.gateway with
  | none =>
    have hall : ∀ ip ∈ r.addresses, (!r.isGateway ip) = true := by
      intro ip _
      rw [isGateway, hgw]
      rfl
    rw [assignable, List.filter_eq_self.mpr hall, length_addresses]
    rfl
  | some g =>
    rw [length_assignable_of_gateway hgw, Option.any_some]
    simp only [decide_eq_true_eq]

theorem toInt_countIP (contains : AllocatorRange → IP → Bool) (r : AllocatorRange) :
    (countIP contains r).toInt = ((ipToInt r.rangeEnd : ℤ) - ipToInt r.rangeStart + 1 -
      if r.gateway.any (contains r) then 1 else 0).bmod (2 ^ 64) := by
  unfold countIP
  split_ifs with hgw
  · rw [Int64.toInt_sub, Int64.toInt_ofInt, Int64.toInt_one]
    exact Int.bmod_sub_bmod
  · rw [Int64.toInt_ofInt, Int.sub_zero]
    rfl

/-- In one family, with the gateway left out when it is one of the addresses, the count is right
as long as it fits. -/
theorem counted_iff (hordered : r.rangeStart.value ≤ r.rangeEnd.value)
    (hfamily : IsMapped r.rangeStart.value ↔ IsMapped r.rangeEnd.value)
    (hgw : r.gateway.any (contains r) = r.gateway.any (r.Between ·)) :
    (countIP contains r).toInt = r.assignable.length ↔ r.assignable.length < 2 ^ 63 := by
  have hlength : (r.rangeEnd.value : ℤ) - r.rangeStart.value + 1 -
      (if r.gateway.any (r.Between ·) then 1 else 0) = r.assignable.length := by
    rw [length_assignable]
    split_ifs <;> omega
  rw [toInt_countIP, ipToInt_sub hfamily, hgw, hlength, Int.bmod_def]
  split_ifs <;> omega

theorem inside_iff (hordered : r.rangeStart.value ≤ r.rangeEnd.value) :
    (∀ ip, r.Between ip → r.subnet.Covers ip) ↔
      r.subnet.Covers r.rangeStart ∧ r.subnet.Covers r.rangeEnd := by
  constructor
  · exact fun h => ⟨h _ ⟨le_rfl, hordered⟩, h _ ⟨hordered, le_rfl⟩⟩
  · rintro ⟨hstart, hend⟩ ip ⟨hlo, hhi⟩
    exact ⟨hstart.1.trans hlo, hhi.trans hend.2⟩

theorem any_gateway_congr {P Q : IP → Bool} (h : ∀ g, r.gateway = some g → P g = Q g) :
    r.gateway.any P = r.gateway.any Q := by
  cases hgw : r.gateway with
  | none => rfl
  | some g => exact h g hgw

end AllocatorRange

section Conventional

variable {next : IP → GoResult IP} {contains : AllocatorRange → IP → Bool}
  {offers : AllocatorRange → List IP} {r : AllocatorRange} {p : ℕ}

/-- The gateway is left out of the count just when it is one of the addresses. -/
theorem Conventional.counts_gateway (h : Conventional next contains offers r)
    (hn : r.subnet.IsCIDR p) (hgw : ∀ g, r.gateway = some g → r.Between g →
      r.subnet.Covers g ∧ (IsMapped g.value ↔ IsMapped r.subnet.first)) :
    r.gateway.any (contains r) = r.gateway.any (r.Between ·) := by
  refine AllocatorRange.any_gateway_congr fun g hg => Bool.eq_iff_iff.mpr ?_
  rw [h.contains g hg, decide_eq_true_eq, hn.contains_iff]
  exact and_iff_right_of_imp (hgw g hg)

/-- Within its subnet and in one family, a range has the right count as long as it fits. -/
theorem Conventional.agrees_iff (h : Conventional next contains offers r) (hn : r.subnet.IsCIDR p)
    (hordered : r.rangeStart.value ≤ r.rangeEnd.value)
    (hcovers : r.subnet.Covers r.rangeStart ∧ r.subnet.Covers r.rangeEnd)
    (hfamily : IsMapped r.rangeStart.value ↔ IsMapped r.rangeEnd.value)
    (hgw : ∀ g, r.gateway = some g → r.Between g →
      r.subnet.Covers g ∧ (IsMapped g.value ↔ IsMapped r.subnet.first)) :
    Agrees contains offers r ↔ r.assignable.length < 2 ^ 63 := by
  have hcounted := AllocatorRange.counted_iff hordered hfamily (h.counts_gateway hn hgw)
  have hoffers := h.offers.length_eq
  rw [List.length_map] at hoffers
  refine ⟨fun hagrees => hcounted.mp hagrees.counted, fun hfits => ?_⟩
  refine ⟨(AllocatorRange.inside_iff hordered).mpr hcovers, hcounted.mpr hfits, ?_⟩
  rw [hoffers, hcounted.mpr hfits]

/-- An end that is counted without the front of an IPv4-mapped address makes the count wrong. -/
theorem Conventional.not_agrees_of_mapped_end (h : Conventional next contains offers r)
    (hn : r.subnet.IsCIDR p) (hordered : r.rangeStart.value ≤ r.rangeEnd.value)
    (hstart : ¬ IsMapped r.rangeStart.value) (hend : IsMapped r.rangeEnd.value)
    (hgw : ∀ g, r.gateway = some g → r.Between g →
      r.subnet.Covers g ∧ (IsMapped g.value ↔ IsMapped r.subnet.first)) :
    ¬ Agrees contains offers r := by
  intro hagrees
  have hcounted := hagrees.counted
  have hshort := ipToInt_of_mapped hend
  rw [AllocatorRange.toInt_countIP, AllocatorRange.length_assignable, h.counts_gateway hn hgw,
    ipToInt_of_not_mapped hstart, Int.bmod_def] at hcounted
  unfold IsMapped mappedBase at *
  split_ifs at hcounted <;> omega

theorem length_assignable_le (r : AllocatorRange) :
    r.assignable.length ≤ r.rangeEnd.value + 1 - r.rangeStart.value := by
  rw [← AllocatorRange.length_addresses]
  exact List.length_filter_le _ _

/-- A subnet of IPv4 addresses, in either form, is small enough. -/
theorem Conventional.agrees_of_mapped (h : Conventional next contains offers r)
    (hn : r.subnet.IsCIDR p) (hmapped : IsMapped r.subnet.first)
    (hordered : r.rangeStart.value ≤ r.rangeEnd.value)
    (hcovers : r.subnet.Covers r.rangeStart ∧ r.subnet.Covers r.rangeEnd)
    (hgw : ∀ g, r.gateway = some g → r.subnet.Covers g) : Agrees contains offers r := by
  have hstart := hn.isMapped_of_covers hmapped hcovers.1
  have hend := hn.isMapped_of_covers hmapped hcovers.2
  refine (h.agrees_iff hn hordered hcovers (iff_of_true hstart hend) fun g hg _ => ?_).mpr ?_
  · exact ⟨hgw g hg, iff_of_true (hn.isMapped_of_covers hmapped (hgw g hg)) hmapped⟩
  · have hle := length_assignable_le r
    unfold IsMapped at hstart hend
    omega

end Conventional

section Fields

variable {next : IP → GoResult IP} {contains : AllocatorRange → IP → Bool}
  {offers : AllocatorRange → List IP} {spec : PoolRange} {ip : IP} {n : IPNet} {p : ℕ}
  {d : IP × IP × Option IP} {start end_ : IP} {gateway : Option IP}

theorem IPv4Range.agrees {r : AllocatorRange} (h : IPv4Range next spec ip n r)
    (hcni : Conventional next contains offers r) (hn : n.IsCIDR p)
    (hfour : n.ip.bytes.length = 4) : Agrees contains offers r := by
  obtain rfl := h.subnet
  exact hcni.agrees_of_mapped hn (isMapped_of_four hfour) h.ordered
    ⟨h.startInside, h.endInside⟩ h.gatewayInside

/-- The defaults of a subnet in sixteen bytes. -/
theorem rangeDefaults_sixteen (hnext : ∀ a, next n.ip = .ok a → a.value = n.first + 1)
    (hsixteen : n.ip.bytes.length = 16) (hd : rangeDefaults next ip n = .ok d) :
    d.1.value = n.first + 1 ∧ d.2.1.value = (lastIP n).value ∧ d.2.2 = some d.1 := by
  have hmask : n.mask ≠ [0xff, 0xff, 0xff, 0xff] := by
    intro h
    have hlen := n.size.trans hsixteen
    rw [h] at hlen
    cases hlen
  rw [rangeDefaults, if_neg hmask] at hd
  obtain ⟨a, ha, hd⟩ := GoResult.bind_eq_ok.mp hd
  obtain rfl := GoResult.ok.inj hd
  exact ⟨(value_to16 _).trans (hnext a ha), value_to16 _, rfl⟩

structure MappedFields (spec : PoolRange) (n : IPNet) (start end_ g : IP) : Prop where
  start : n.first < start.value ∧ (start.value ≤ n.last ∨ start.value = n.first + 1)
  omitted : spec.rangeEnd = "" → n.last < end_.value
  given : spec.rangeEnd ≠ "" → n.first < end_.value ∧ end_.value < n.last
  gateway : n.first < g.value ∧ (g.value ≤ n.last ∨ g.value = n.first + 1)

theorem Fields.mapped (hn : n.IsCIDR p) (hsixteen : n.ip.bytes.length = 16)
    (hmapped : IsMapped n.first) (hnext : ∀ a, next n.ip = .ok a → a.value = n.first + 1)
    (hd : rangeDefaults next ip n = .ok d) (hf : Fields spec n d start end_ gateway) :
    ∃ g, gateway = some g ∧ MappedFields spec n start end_ g := by
  obtain ⟨hdefault, hlast, hgw⟩ := rangeDefaults_sixteen hnext hsixteen hd
  have hgateway := hf.ofGateway
  rw [hgw] at hgateway
  obtain ⟨g, rfl⟩ := hgateway.eq_some
  have hread : ∀ {s a}, Field n s (some d.1) (some a) →
      n.first < a.value ∧ (a.value ≤ n.last ∨ a.value = n.first + 1) := by
    intro s a h
    refine h.imp (P := fun a => n.first < a.value ∧ (a.value ≤ n.last ∨ a.value = n.first + 1))
      ?_ fun a _ hu => ?_
    · rintro - _ ⟨⟩
      omega
    · obtain ⟨hlo, hhi⟩ := hu.bounds hn
      exact ⟨hlo, Or.inl hhi.le⟩
  refine ⟨g, rfl, hread hf.ofStart, fun hempty => ?_, fun hne => ?_, hread hgateway⟩
  · rw [hf.ofEnd.eq_default hempty, hlast, hn.value_lastIP_of_mapped hsixteen hmapped]
    omega
  · exact hf.ofEnd.imp (P := fun a => n.first < a.value ∧ a.value < n.last)
      (fun hempty => absurd hempty hne) fun a _ hu => hu.bounds hn

theorem agrees_mapped_iff
    (hcni : Conventional next contains offers (orderedRange start end_ n gateway))
    (hn : n.IsCIDR p) (hsixteen : n.ip.bytes.length = 16) (hmapped : IsMapped n.first)
    (hd : rangeDefaults next ip n = .ok d) (hf : Fields spec n d start end_ gateway) :
    Agrees contains offers (orderedRange start end_ n gateway) ↔ spec.rangeEnd ≠ "" := by
  have hnext := hcni.next
  rw [orderedRange_subnet] at hnext
  obtain ⟨g, rfl, hm⟩ := hf.mapped hn hsixteen hmapped hnext hd
  obtain ⟨hlo, hhi⟩ := hm.start
  have hsubnet := orderedRange_subnet start end_ n (some g)
  have hgateway := orderedRange_gateway start end_ n (some g)
  have hfrom := orderedRange_start start end_ n (some g)
  have hto := orderedRange_end start end_ n (some g)
  generalize orderedRange start end_ n (some g) = r at hcni hsubnet hgateway hfrom hto ⊢
  subst hsubnet
  have hordered : r.rangeStart.value ≤ r.rangeEnd.value := by omega
  by_cases hempty : spec.rangeEnd = ""
  · -- The default end is not in the subnet.
    refine iff_of_false (fun h => ?_) (not_not.mpr hempty)
    have hcovers := ((AllocatorRange.inside_iff hordered).mp h.inside).2.2
    have hpast := hm.omitted hempty
    omega
  obtain ⟨hend, hend'⟩ := hm.given hempty
  have hcovers : r.subnet.Covers r.rangeStart ∧ r.subnet.Covers r.rangeEnd := by
    unfold IPNet.Covers
    omega
  refine iff_of_true (hcni.agrees_of_mapped hn hmapped hordered hcovers fun g' hg' => ?_) hempty
  obtain rfl := Option.some.inj (hgateway.symm.trans hg')
  have hg := hm.gateway
  unfold IPNet.Covers
  omega

/-- When range, count and allocator agree for an IPv6 subnet. -/
structure WideAgreement (spec : PoolRange) (r : AllocatorRange) : Prop where
  /-- The range of a subnet of one address runs to the address after it. -/
  notSingle : r.subnet.ones ≤ 127
  /-- The default end is not counted as an IPv4 address. -/
  end_ : spec.rangeEnd = "" → ¬ IsMapped r.subnet.last
  fits : r.assignable.length < 2 ^ 63

structure WideFields (spec : PoolRange) (n : IPNet) (start end_ g : IP) : Prop where
  start : 0 < n.hostBits ∧ n.Covers start ∧ ¬ IsMapped start.value ∨
    n.last < start.value ∧ n.hostBits = 0
  endInside : n.Covers end_
  omitted : spec.rangeEnd = "" → end_.value = n.last
  given : spec.rangeEnd ≠ "" → ¬ IsMapped end_.value
  gateway : n.Covers g ∧ ¬ IsMapped g.value ∨ n.last < g.value

/-- The default start and gateway of an IPv6 subnet. -/
theorem wide_default (hn : n.IsCIDR p) (hmapped : ¬ IsMapped n.first)
    (hdefault : d.1.value = n.first + 1) :
    0 < n.hostBits ∧ n.Covers d.1 ∧ ¬ IsMapped d.1.value ∨
      n.last < d.1.value ∧ n.hostBits = 0 := by
  rcases Nat.eq_zero_or_pos n.hostBits with hzero | hbits
  · refine Or.inr ⟨?_, hzero⟩
    rw [IPNet.last, hzero]
    omega
  · -- The first IPv4-mapped address is even, and so is the first of the subnet.
    have heven := hn.even_first hbits
    have hlt := IPNet.first_lt_last hbits
    refine Or.inl ⟨hbits, ?_⟩
    unfold IPNet.Covers
    unfold IsMapped mappedBase at hmapped ⊢
    omega

theorem Fields.wide (hn : n.IsCIDR p) (hsixteen : n.ip.bytes.length = 16)
    (hmapped : ¬ IsMapped n.first) (hnext : ∀ a, next n.ip = .ok a → a.value = n.first + 1)
    (hd : rangeDefaults next ip n = .ok d) (hf : Fields spec n d start end_ gateway) :
    ∃ g, gateway = some g ∧ WideFields spec n start end_ g := by
  obtain ⟨hvalue, hend, hgw⟩ := rangeDefaults_sixteen hnext hsixteen hd
  rw [hn.value_lastIP_of_not_mapped hmapped] at hend
  have hdefault := wide_default hn hmapped hvalue
  have hle : n.first ≤ n.last := Nat.le_add_right _ _
  have husable : ∀ a, Usable n a → n.Covers a ∧ ¬ IsMapped a.value := by
    intro a h
    obtain ⟨hin, hfamily⟩ := hn.contains_iff.mp h.inside
    exact ⟨hin, mt hfamily.mp hmapped⟩
  have hgateway := hf.ofGateway
  rw [hgw] at hgateway
  obtain ⟨g, rfl⟩ := hgateway.eq_some
  refine ⟨g, rfl, ?_, ?_, ?_, ?_, ?_⟩
  · refine hf.ofStart.imp (P := fun a => 0 < n.hostBits ∧ n.Covers a ∧ ¬ IsMapped a.value ∨
      n.last < a.value ∧ n.hostBits = 0) ?_ fun a _ h => Or.inl ⟨?_, husable a h⟩
    · rintro - _ ⟨⟩
      exact hdefault
    · have hbounds := h.bounds hn
      refine Nat.pos_of_ne_zero fun hzero => ?_
      unfold IPNet.last at hbounds
      rw [hzero] at hbounds
      omega
  · refine hf.ofEnd.imp ?_ fun a _ h => (husable a h).1
    rintro - _ ⟨⟩
    rw [IPNet.Covers, hend]
    exact ⟨hle, le_rfl⟩
  · intro hempty
    rw [hf.ofEnd.eq_default hempty, hend]
  · intro hne
    exact hf.ofEnd.imp (P := fun a => ¬ IsMapped a.value) (fun hempty => absurd hempty hne)
      fun a _ h => (husable a h).2
  · refine hgateway.imp (P := fun a => n.Covers a ∧ ¬ IsMapped a.value ∨ n.last < a.value) ?_
      fun a _ h => Or.inl (husable a h)
    rintro - _ ⟨⟩
    exact hdefault.imp And.right And.left

/-- Only the default end may be an IPv4-mapped address, and no address of the subnet is after
it. -/
theorem WideFields.families {g : IP} (h : WideFields spec n start end_ g) (hin : n.Covers start)
    (hstart : ¬ IsMapped start.value) :
    ¬ IsMapped (min start.value end_.value) ∧
      (IsMapped (max start.value end_.value) ↔ spec.rangeEnd = "" ∧ IsMapped n.last) := by
  have hle := hin.2
  by_cases hempty : spec.rangeEnd = ""
  · have hvalue := h.omitted hempty
    rw [min_eq_left (by omega), max_eq_right (by omega), hvalue]
    exact ⟨hstart, (and_iff_right hempty).symm⟩
  · have hend := h.given hempty
    have hnot : ¬ (spec.rangeEnd = "" ∧ IsMapped n.last) := fun h => hempty h.1
    rcases le_total start.value end_.value with hle | hle
    · rw [min_eq_left hle, max_eq_right hle]
      exact ⟨hstart, iff_of_false hend hnot⟩
    · rw [min_eq_right hle, max_eq_left hle]
      exact ⟨hend, iff_of_false hstart hnot⟩

theorem agrees_wide_iff
    (hcni : Conventional next contains offers (orderedRange start end_ n gateway))
    (hn : n.IsCIDR p) (hsixteen : n.ip.bytes.length = 16) (hmapped : ¬ IsMapped n.first)
    (hd : rangeDefaults next ip n = .ok d) (hf : Fields spec n d start end_ gateway) :
    Agrees contains offers (orderedRange start end_ n gateway) ↔
      WideAgreement spec (orderedRange start end_ n gateway) := by
  have hnext := hcni.next
  rw [orderedRange_subnet] at hnext
  obtain ⟨g, rfl, hw⟩ := hf.wide hn hsixteen hmapped hnext hd
  have hsubnet := orderedRange_subnet start end_ n (some g)
  have hgateway := orderedRange_gateway start end_ n (some g)
  have hfrom := orderedRange_start start end_ n (some g)
  have hto := orderedRange_end start end_ n (some g)
  generalize orderedRange start end_ n (some g) = r at hcni hsubnet hgateway hfrom hto ⊢
  subst hsubnet
  have hordered : r.rangeStart.value ≤ r.rangeEnd.value := by omega
  have hones : r.subnet.hostBits = 128 - r.subnet.ones := by
    rw [IPNet.hostBits, r.subnet.size, hsixteen]
  have hend := hw.endInside
  rcases hw.start with ⟨hbits, hstart, hfamily⟩ | ⟨hpast, hzero⟩
  swap
  · -- The range runs past the subnet.
    refine iff_of_false (fun h => ?_) fun h => ?_
    · have hcovers := ((AllocatorRange.inside_iff hordered).mp h.inside).2.2
      omega
    · have hsingle := h.notSingle
      omega
  have hcovers : r.subnet.Covers r.rangeStart ∧ r.subnet.Covers r.rangeEnd := by
    unfold IPNet.Covers at *
    omega
  obtain ⟨hfirst, hlast⟩ := hw.families hstart hfamily
  rw [← hfrom] at hfirst
  rw [← hto] at hlast
  have hgw : ∀ g', r.gateway = some g' → r.Between g' →
      r.subnet.Covers g' ∧ (IsMapped g'.value ↔ IsMapped r.subnet.first) := by
    intro g' hg' hbetween
    obtain rfl := Option.some.inj (hgateway.symm.trans hg')
    rcases hw.gateway with ⟨hin, hnot⟩ | hpast
    · exact ⟨hin, iff_of_false hnot hmapped⟩
    · have hle := hbetween.2.trans hcovers.2.2
      omega
  by_cases hmappedEnd : IsMapped r.rangeEnd.value
  · refine iff_of_false (hcni.not_agrees_of_mapped_end hn hordered hfirst hmappedEnd hgw)
      fun h => ?_
    obtain ⟨hempty, hfamily⟩ := hlast.mp hmappedEnd
    exact h.end_ hempty hfamily
  rw [hcni.agrees_iff hn hordered hcovers (iff_of_false hfirst hmappedEnd) hgw]
  refine ⟨fun hfits => ⟨by omega, fun hempty hfamily => ?_, hfits⟩, fun h => h.fits⟩
  exact hmappedEnd (hlast.mpr ⟨hempty, hfamily⟩)

end Fields

namespace RangeSample

def offersOf (r : AllocatorRange) : List IP := offers [r]

theorem perm_offersOf (r : AllocatorRange) : ((offersOf r).map IP.to16).Perm r.assignable := by
  have hall : ∀ ip ∈ r.assignable, ip.to16 = ip := fun ip hip =>
    (mem_addresses.mp (List.mem_of_mem_filter hip)).2
  have hmap : (offersOf r).map IP.to16 = r.assignable := by
    rw [offersOf, offers, List.flatMap_cons, List.flatMap_nil, List.append_nil]
    exact (List.map_congr_left hall).trans (List.map_id' _)
  rw [hmap]

def wideRange (bits : ℕ) (mask : List UInt8) (size : mask.length = 16) : AllocatorRange where
  rangeStart := IP.ofValue (0xfd00 * 2 ^ 112 + 1)
  rangeEnd := IP.ofValue (0xfd00 * 2 ^ 112 + (2 ^ bits - 1))
  subnet := ⟨IP.ofValue (0xfd00 * 2 ^ 112), mask, size.trans (length_beBytes _ _).symm⟩
  gateway := some (IP.ofValue (0xfd00 * 2 ^ 112 + 1))

def range112 : AllocatorRange :=
  wideRange 16 (List.replicate 14 255 ++ List.replicate 2 0) rfl

def range64 : AllocatorRange :=
  wideRange 64 (List.replicate 8 255 ++ List.replicate 8 0) rfl

def range128 : AllocatorRange where
  rangeStart := IP.ofValue (0xfd00 * 2 ^ 112 + 2)
  rangeEnd := IP.ofValue (0xfd00 * 2 ^ 112 + 3)
  subnet := ⟨IP.ofValue (0xfd00 * 2 ^ 112 + 2), List.replicate 16 255,
    (length_beBytes _ _).symm⟩
  gateway := some (IP.ofValue (0xfd00 * 2 ^ 112 + 3))

end RangeSample

end Caphv
