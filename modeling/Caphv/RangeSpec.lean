import Caphv.HostLocal
import Caphv.Subnets

namespace Caphv

open Net (IP parseIP)
open AlignedBlocks

/-- An address that a field may give: one of the subnet other than its first and its last. -/
structure Usable (n : IPNet) (ip : IP) : Prop where
  inside : n.contains ip = true
  notFirst : ip.value ≠ n.first
  notLast : ip.value ≠ n.last

def Refused (n : IPNet) (ipStr : String) : Prop :=
  ipStr ≠ "" ∧ ∀ ip, parseIP ipStr = some ip → ¬ Usable n ip

/-- What a field is read as: the default, or the address that it gives. -/
inductive Field (n : IPNet) : String → Option IP → Option IP → Prop
  | omitted (defaultIP : Option IP) : Field n "" defaultIP defaultIP
  | given {ipStr : String} {ip : IP} (hne : ipStr ≠ "") (hparse : parseIP ipStr = some ip)
      (husable : Usable n ip) (defaultIP : Option IP) : Field n ipStr defaultIP (some ip)

section Fields

variable {n : IPNet} {p : ℕ} {ipStr : String} {defaultIP x : Option IP} {ip : IP}

/-- `parseIP` on a text that is not empty. -/
theorem parseRangeIP_of_given (hn : n.IsCIDR p) (hne : ipStr ≠ "") :
    (∃ ip, parseIP ipStr = some ip ∧ Usable n ip ∧
      parseRangeIP ipStr n defaultIP = .ok (some ip)) ∨
    Refused n ipStr ∧ ∃ e, parseRangeIP ipStr n defaultIP = .err e := by
  unfold parseRangeIP
  rw [if_neg hne]
  cases hparse : parseIP ipStr with
  | none => exact Or.inr ⟨⟨hne, fun ip hip => nomatch hparse.symm.trans hip⟩, _, rfl⟩
  | some ip =>
    have hrefused : ¬ Usable n ip → Refused n ipStr := by
      intro hnot
      refine ⟨hne, fun a ha => ?_⟩
      rwa [← Option.some.inj (hparse.symm.trans ha)]
    have hnetwork : ip.to16 = n.networkIP.to16 ↔ ip.value = n.first := by
      rw [to16_eq_iff, hn.value_networkIP]
    have hbroadcast : ip.to16 = n.broadcastIP.to16 ↔ ip.value = n.last := by
      rw [to16_eq_iff, hn.value_broadcastIP]
    dsimp only
    split_ifs with houtside hfirst hlast
    · exact Or.inr ⟨hrefused fun h => by simp [h.inside] at houtside, _, rfl⟩
    · exact Or.inr ⟨hrefused fun h => h.notFirst (hnetwork.mp hfirst), _, rfl⟩
    · exact Or.inr ⟨hrefused fun h => h.notLast (hbroadcast.mp hlast), _, rfl⟩
    · exact Or.inl ⟨ip, rfl, ⟨by simpa using houtside, mt hnetwork.mpr hfirst,
        mt hbroadcast.mpr hlast⟩, rfl⟩

theorem parseRangeIP_eq_ok_iff (hn : n.IsCIDR p) :
    parseRangeIP ipStr n defaultIP = .ok x ↔ Field n ipStr defaultIP x := by
  constructor
  · intro h
    by_cases hne : ipStr = ""
    · subst hne
      obtain rfl : defaultIP = x := GoResult.ok.inj h
      exact .omitted _
    · rcases parseRangeIP_of_given hn hne with ⟨ip, hparse, husable, hok⟩ | ⟨-, e, herr⟩
      · obtain rfl := GoResult.ok.inj (hok.symm.trans h)
        exact .given hne hparse husable _
      · exact nomatch herr.symm.trans h
  · rintro (- | ⟨hne, hparse, husable⟩)
    · rfl
    · rcases parseRangeIP_of_given hn hne with ⟨ip, hparse', -, hok⟩ | ⟨hrefused, -⟩
      · rw [hok, ← hparse', hparse]
      · exact absurd husable (hrefused.2 _ hparse)

theorem parseRangeIP_cases (hn : n.IsCIDR p) (ipStr : String) (defaultIP : Option IP) :
    (∃ x, Field n ipStr defaultIP x ∧ ¬ Refused n ipStr) ∨
    Refused n ipStr ∧ ∃ e, parseRangeIP ipStr n defaultIP = .err e := by
  by_cases hne : ipStr = ""
  · subst hne
    exact Or.inl ⟨_, .omitted _, fun h => h.1 rfl⟩
  · rcases parseRangeIP_of_given hn hne with ⟨ip, hparse, husable, -⟩ | hrefused
    · exact Or.inl ⟨_, .given hne hparse husable _, fun h => h.2 _ hparse husable⟩
    · exact Or.inr hrefused

theorem Field.eq_some {d : IP} (h : Field n ipStr (some d) x) : ∃ ip, x = some ip := by
  cases h with
  | omitted => exact ⟨_, rfl⟩
  | given => exact ⟨_, rfl⟩

/-- What holds of the default and of every usable address. -/
theorem Field.imp {P : IP → Prop} (h : Field n ipStr defaultIP (some ip))
    (hdefault : ipStr = "" → ∀ d, defaultIP = some d → P d)
    (hgiven : ∀ a, parseIP ipStr = some a → Usable n a → P a) : P ip := by
  cases h with
  | omitted => exact hdefault rfl ip rfl
  | given _ hparse husable => exact hgiven ip hparse husable

theorem Field.sixteen (h : Field n ipStr defaultIP (some ip))
    (hdefault : ∀ d, defaultIP = some d → d.bytes.length = 16) : ip.bytes.length = 16 :=
  h.imp (fun _ => hdefault) fun _ hparse _ => (parseIP_eq_some hparse).1

theorem Field.of_omitted (h : Field n ipStr defaultIP x) (hempty : ipStr = "") :
    x = defaultIP := by
  cases h with
  | omitted => rfl
  | given hne => exact absurd hempty hne

theorem Field.eq_default {d : IP} (h : Field n ipStr (some d) (some ip)) (hempty : ipStr = "") :
    ip = d := Option.some.inj (h.of_omitted hempty)

/-- A field that is not empty does not depend on the default. -/
theorem Field.of_ne (h : Field n ipStr defaultIP x) (hne : ipStr ≠ "") (other : Option IP) :
    Field n ipStr other x := by
  cases h with
  | omitted => exact absurd rfl hne
  | given hne hparse husable => exact .given hne hparse husable _

theorem Usable.bounds (hn : n.IsCIDR p) (h : Usable n ip) :
    n.first < ip.value ∧ ip.value < n.last := by
  have hin := (hn.contains_iff.mp h.inside).1
  have hfirst := h.notFirst
  have hlast := h.notLast
  unfold IPNet.Covers at hin
  omega

end Fields

def rangeDefaults (next : IP → GoResult IP) (ip : IP) (n : IPNet) :
    GoResult (IP × IP × Option IP) :=
  if n.mask = [0xff, 0xff, 0xff, 0xff] then pure (ip.to16, ip.to16, none)
  else do
    let start ← next n.ip
    pure (start.to16, (lastIP n).to16, some start.to16)

/-- The range between two addresses, whatever their order. -/
def orderedRange (start end_ : IP) (n : IPNet) (gateway : Option IP) : AllocatorRange :=
  if end_.value < start.value then ⟨end_, start, n, gateway⟩ else ⟨start, end_, n, gateway⟩

section Ordered

variable (start end_ : IP) (n : IPNet) (gateway : Option IP)

@[simp]
theorem orderedRange_subnet : (orderedRange start end_ n gateway).subnet = n := by
  unfold orderedRange
  split_ifs <;> rfl

@[simp]
theorem orderedRange_gateway : (orderedRange start end_ n gateway).gateway = gateway := by
  unfold orderedRange
  split_ifs <;> rfl

@[simp]
theorem orderedRange_start :
    (orderedRange start end_ n gateway).rangeStart.value = min start.value end_.value := by
  unfold orderedRange
  split_ifs <;> dsimp only <;> omega

@[simp]
theorem orderedRange_end :
    (orderedRange start end_ n gateway).rangeEnd.value = max start.value end_.value := by
  unfold orderedRange
  split_ifs <;> dsimp only <;> omega

end Ordered

theorem orderedRange_comm {a b : IP} (ha : a.bytes.length = 16) (hb : b.bytes.length = 16)
    (n : IPNet) (gateway : Option IP) :
    orderedRange a b n gateway = orderedRange b a n gateway := by
  unfold orderedRange
  split_ifs with hlt hlt' hlt'
  · omega
  · rfl
  · rfl
  · -- Equal values in sixteen bytes are equal addresses.
    have hvalue : a.value = b.value := by omega
    have hsame : a = b := by
      have hto16 := to16_eq_iff.mpr hvalue
      rwa [IP.to16, IP.to16, dif_neg (by omega), dif_neg (by omega)] at hto16
    rw [hsame]

def fillRange (r : PoolRange) (n : IPNet) (defaults : IP × IP × Option IP) :
    GoResult AllocatorRange := do
  let start ← (parseRangeIP r.rangeStart n (some defaults.1)).wrap
    ("invalid range start " ++ r.rangeStart)
  let end_ ← (parseRangeIP r.rangeEnd n (some defaults.2.1)).wrap
    ("invalid range end " ++ r.rangeEnd)
  let gateway ← (parseRangeIP r.gateway n defaults.2.2).wrap ("invalid gateway " ++ r.gateway)
  match start, end_ with
  | some start, some end_ =>
    if bytesToNat end_.bytes < bytesToNat start.bytes then pure ⟨end_, start, n, gateway⟩
    else pure ⟨start, end_, n, gateway⟩
  | none, _ => .err "invalid start IP address: <nil>"
  | _, none => .err "invalid end IP address: <nil>"

section Filling

variable {next : IP → GoResult IP} {r : PoolRange} {n : IPNet} {p : ℕ} {ip : IP}
  {d : IP × IP × Option IP}

theorem makeRange_eq (h : parseCIDR r.subnet = some (ip, n)) :
    makeRange next r = rangeDefaults next ip n >>= fillRange r n := by
  unfold makeRange rangeDefaults
  rw [h]
  dsimp only
  split_ifs with hsingle
  · rfl
  · cases next n.ip <;> rfl

theorem length_rangeDefaults (h : rangeDefaults next ip n = .ok d) :
    d.1.bytes.length = 16 ∧ d.2.1.bytes.length = 16 := by
  unfold rangeDefaults at h
  split_ifs at h with hsingle
  · obtain rfl := GoResult.ok.inj h
    exact ⟨length_to16 _, length_to16 _⟩
  · obtain ⟨next, -, h⟩ := GoResult.bind_eq_ok.mp h
    obtain rfl := GoResult.ok.inj h
    exact ⟨length_to16 _, length_to16 _⟩

structure Fields (r : PoolRange) (n : IPNet) (d : IP × IP × Option IP) (start end_ : IP)
    (gateway : Option IP) : Prop where
  ofStart : Field n r.rangeStart (some d.1) (some start)
  ofEnd : Field n r.rangeEnd (some d.2.1) (some end_)
  ofGateway : Field n r.gateway d.2.2 gateway
  startSixteen : start.bytes.length = 16
  endSixteen : end_.bytes.length = 16

variable {start end_ : IP} {gateway : Option IP}

theorem fillRange_of_fields (hn : n.IsCIDR p) (h : Fields r n d start end_ gateway) :
    fillRange r n d = .ok (orderedRange start end_ n gateway) := by
  have hstart := value_of_sixteen h.startSixteen
  have hend := value_of_sixteen h.endSixteen
  unfold fillRange orderedRange
  rw [(parseRangeIP_eq_ok_iff hn).mpr h.ofStart, (parseRangeIP_eq_ok_iff hn).mpr h.ofEnd,
    (parseRangeIP_eq_ok_iff hn).mpr h.ofGateway, hstart, hend]
  change (if _ then GoResult.ok _ else GoResult.ok _) = GoResult.ok (if _ then _ else _)
  split_ifs <;> rfl

/-- Either all three fields are read or one is refused. -/
theorem fillRange_cases (hn : n.IsCIDR p) (hd : rangeDefaults next ip n = .ok d) :
    (∃ start end_ gateway, Fields r n d start end_ gateway ∧
      ¬ ∃ s ∈ [r.rangeStart, r.rangeEnd, r.gateway], Refused n s) ∨
    (∃ s ∈ [r.rangeStart, r.rangeEnd, r.gateway], Refused n s) ∧
      ∃ e, fillRange r n d = .err e := by
  obtain ⟨hstart16, hend16⟩ := length_rangeDefaults hd
  rcases parseRangeIP_cases hn r.rangeStart (some d.1) with ⟨x, hx, hxr⟩ | ⟨hxr, e, he⟩
  swap
  · have herr : fillRange r n d = .err ("invalid range start " ++ r.rangeStart ++ ": " ++ e) := by
      unfold fillRange
      rw [he]
      rfl
    exact Or.inr ⟨⟨r.rangeStart, by simp, hxr⟩, _, herr⟩
  rcases parseRangeIP_cases hn r.rangeEnd (some d.2.1) with ⟨y, hy, hyr⟩ | ⟨hyr, e, he⟩
  swap
  · have herr : fillRange r n d = .err ("invalid range end " ++ r.rangeEnd ++ ": " ++ e) := by
      unfold fillRange
      rw [(parseRangeIP_eq_ok_iff hn).mpr hx, he]
      rfl
    exact Or.inr ⟨⟨r.rangeEnd, by simp, hyr⟩, _, herr⟩
  rcases parseRangeIP_cases hn r.gateway d.2.2 with ⟨z, hz, hzr⟩ | ⟨hzr, e, he⟩
  swap
  · have herr : fillRange r n d = .err ("invalid gateway " ++ r.gateway ++ ": " ++ e) := by
      unfold fillRange
      rw [(parseRangeIP_eq_ok_iff hn).mpr hx, (parseRangeIP_eq_ok_iff hn).mpr hy, he]
      rfl
    exact Or.inr ⟨⟨r.gateway, by simp, hzr⟩, _, herr⟩
  obtain ⟨start, rfl⟩ := hx.eq_some
  obtain ⟨end_, rfl⟩ := hy.eq_some
  have hfields : Fields r n d start end_ z :=
    ⟨hx, hy, hz, hx.sixteen fun _ h => Option.some.inj h ▸ hstart16,
      hy.sixteen fun _ h => Option.some.inj h ▸ hend16⟩
  exact Or.inl ⟨start, end_, z, hfields, by simp [hxr, hyr, hzr]⟩

theorem makeRange_of_fields (hn : n.IsCIDR p) (h : parseCIDR r.subnet = some (ip, n))
    (hd : rangeDefaults next ip n = .ok d) (hf : Fields r n d start end_ gateway) :
    makeRange next r = .ok (orderedRange start end_ n gateway) := by
  rw [makeRange_eq h, hd]
  exact fillRange_of_fields hn hf

/-- What a range that was made says about its specification. -/
theorem makeRange_eq_ok {x : AllocatorRange} (h : makeRange next r = .ok x) :
    ∃ ip n p d start end_ gateway, parseCIDR r.subnet = some (ip, n) ∧ n.IsCIDR p ∧
      rangeDefaults next ip n = .ok d ∧ Fields r n d start end_ gateway ∧
      x = orderedRange start end_ n gateway := by
  cases hparse : parseCIDR r.subnet with
  | none =>
    unfold makeRange at h
    rw [hparse] at h
    cases h
  | some parsed =>
    obtain ⟨ip, n⟩ := parsed
    obtain ⟨p, hn, -⟩ := parseCIDR_eq_some hparse
    rw [makeRange_eq hparse] at h
    obtain ⟨d, hd, h⟩ := GoResult.bind_eq_ok.mp h
    rcases fillRange_cases (r := r) hn hd with ⟨start, end_, gateway, hf, -⟩ | ⟨-, e, he⟩
    · have hx := GoResult.ok.inj (h.symm.trans (fillRange_of_fields hn hf))
      exact ⟨ip, n, p, d, start, end_, gateway, rfl, hn, hd, hf, hx⟩
    · exact nomatch he.symm.trans h

end Filling

/-- `cnip.NextIP` gives the successor of an IPv4 address. -/
def NextIPv4 (next : IP → GoResult IP) : Prop :=
  ∀ ip, ip.bytes.length = 4 → IsMapped (ip.value + 1) →
    ∃ ip', next ip = .ok ip' ∧ ip'.value = ip.value + 1

section IPv4

variable {next : IP → GoResult IP} {n : IPNet} {p : ℕ} {ip : IP} {r : PoolRange}

theorem isMapped_of_four (hfour : n.ip.bytes.length = 4) : IsMapped n.first := by
  rw [IPNet.first, ← isSome_to4_iff, IP.to4, if_pos hfour]
  rfl

theorem mask_eq_single_iff (hn : n.IsCIDR p) (hfour : n.ip.bytes.length = 4) :
    n.mask = [0xff, 0xff, 0xff, 0xff] ↔ n.hostBits = 0 := by
  have hlen : n.mask.length = 4 := n.size.trans hfour
  have hle := hn.le
  have hmask := hn.mask
  rw [hlen] at hle hmask
  have hall : ∀ p ≤ 32, cidrMask p 32 = [0xff, 0xff, 0xff, 0xff] ↔ p = 32 := by decide +kernel
  rw [hn.hostBits_eq, hlen, hmask, hall p hle]
  omega

structure IPv4Defaults (next : IP → GoResult IP) (ip : IP) (n : IPNet)
    (d : IP × IP × Option IP) : Prop where
  eq : rangeDefaults next ip n = .ok d
  startInside : n.Covers d.1
  endInside : n.Covers d.2.1
  gateway : ∀ g, d.2.2 = some g → g = d.1
  large : 2 ≤ n.hostBits → d.1.value = n.first + 1 ∧ d.2.1.value = n.last - 1 ∧ d.2.2 = some d.1
  single : n.hostBits = 0 → d.2.2 = none

theorem ipv4Defaults_of_eq {d : IP × IP × Option IP} (hn : n.IsCIDR p)
    (hfour : n.ip.bytes.length = 4) (hfirst : n.first = base n.hostBits ip.value)
    (hnext : 0 < n.hostBits → ∀ a, next n.ip = .ok a → a.value = n.first + 1)
    (hd : rangeDefaults next ip n = .ok d) : IPv4Defaults next ip n d := by
  have heq := hd
  unfold rangeDefaults at hd
  split_ifs at hd with hmask
  · obtain rfl := GoResult.ok.inj hd
    have hbits : n.hostBits = 0 := (mask_eq_single_iff hn hfour).mp hmask
    have hvalue : ip.to16.value = n.first := by
      rw [hfirst, hbits, value_to16, base_of_dvd (Nat.one_dvd _)]
    have hin : n.Covers ip.to16 := by
      rw [IPNet.Covers, hvalue, IPNet.last]
      omega
    exact ⟨heq, hin, hin, fun g hg => absurd hg.symm (Option.some_ne_none g), by omega,
      fun _ => rfl⟩
  · obtain ⟨start, hok, hd⟩ := GoResult.bind_eq_ok.mp hd
    obtain rfl := GoResult.ok.inj hd
    have hbits : 0 < n.hostBits :=
      Nat.pos_of_ne_zero (mt (mask_eq_single_iff hn hfour).mpr hmask)
    have hlt := IPNet.first_lt_last hbits
    have hstart : start.to16.value = n.first + 1 := (value_to16 _).trans (hnext hbits start hok)
    have hend : (lastIP n).to16.value = n.last - 1 := by
      rw [value_to16, hn.value_lastIP_of_four hfour hbits]
    refine ⟨heq, ?_, ?_, fun g hg => (Option.some.inj hg).symm, fun _ => ⟨hstart, hend, rfl⟩,
      by omega⟩
    · rw [IPNet.Covers, hstart]
      omega
    · rw [IPNet.Covers, hend]
      omega

theorem exists_ipv4Defaults (hnext : NextIPv4 next) (hn : n.IsCIDR p)
    (hfour : n.ip.bytes.length = 4) (hfirst : n.first = base n.hostBits ip.value) :
    ∃ d, IPv4Defaults next ip n d := by
  have hsucc : 0 < n.hostBits → ∃ a, next n.ip = .ok a ∧ a.value = n.first + 1 := by
    intro hbits
    have hlt := IPNet.first_lt_last hbits
    -- The second address of the subnet is an IPv4 address too.
    have hlast := hn.isMapped_of_covers (isMapped_of_four hfour) hn.covers_broadcastIP
    rw [hn.value_broadcastIP] at hlast
    have hmapped := isMapped_of_four hfour
    refine hnext n.ip hfour ?_
    unfold IsMapped IPNet.first at *
    omega
  have hvalue : 0 < n.hostBits → ∀ a, next n.ip = .ok a → a.value = n.first + 1 := by
    intro hbits a ha
    obtain ⟨a', ha', hvalue⟩ := hsucc hbits
    rw [GoResult.ok.inj (ha.symm.trans ha'), hvalue]
  obtain ⟨d, hd⟩ : ∃ d, rangeDefaults next ip n = .ok d := by
    unfold rangeDefaults
    split_ifs with hmask
    · exact ⟨_, rfl⟩
    · obtain ⟨a, ha, -⟩ := hsucc (Nat.pos_of_ne_zero (mt (mask_eq_single_iff hn hfour).mpr hmask))
      rw [ha]
      exact ⟨_, rfl⟩
  exact ⟨d, ipv4Defaults_of_eq hn hfour hfirst hvalue hd⟩

structure IPv4Range (next : IP → GoResult IP) (r : PoolRange) (ip : IP) (n : IPNet)
    (x : AllocatorRange) : Prop where
  subnet : x.subnet = n
  ordered : x.rangeStart.value ≤ x.rangeEnd.value
  startInside : n.Covers x.rangeStart
  endInside : n.Covers x.rangeEnd
  gatewayInside : ∀ g, x.gateway = some g → n.Covers g
  proper : n.ones ≤ 30 → ∀ a, a = x.rangeStart ∨ a = x.rangeEnd ∨ x.gateway = some a →
    a.value ≠ n.first ∧ a.value ≠ n.last
  defaultStart : n.ones ≤ 30 → r.rangeStart = "" → x.rangeStart.value = n.first + 1
  defaultEnd : n.ones ≤ 30 → r.rangeEnd = "" → x.rangeEnd.value = n.last - 1
  defaultGateway : n.ones ≤ 30 → r.gateway = "" → x.gateway.map IP.value = some (n.first + 1)
  single : n.ones = 32 → x.rangeStart.value = ip.value ∧ x.rangeEnd.value = ip.value ∧
    (r.gateway = "" → x.gateway = none)
  exchanged : r.rangeStart ≠ "" → r.rangeEnd ≠ "" →
    makeRange next {r with rangeStart := r.rangeEnd, rangeEnd := r.rangeStart} = .ok x

theorem hostBits_of_four (hn : n.IsCIDR p) (hfour : n.ip.bytes.length = 4) :
    n.ones ≤ 32 ∧ n.hostBits = 32 - n.ones := by
  have hle := hn.le
  rw [n.size, hfour] at hle
  rw [IPNet.hostBits, n.size, hfour, hn.ones_eq]
  exact ⟨hle, rfl⟩

section Made

variable {d : IP × IP × Option IP} {start end_ : IP} {gateway : Option IP}

/-- What holds of the defaults and of every usable address holds of all that is read. -/
theorem Fields.all {P : IP → Prop} (hd : IPv4Defaults next ip n d)
    (hf : Fields r n d start end_ gateway) (hstart : P d.1) (hend : P d.2.1)
    (husable : ∀ a, Usable n a → P a) :
    P start ∧ P end_ ∧ ∀ g, gateway = some g → P g := by
  refine ⟨hf.ofStart.imp ?_ fun a _ => husable a, hf.ofEnd.imp ?_ fun a _ => husable a, ?_⟩
  · rintro - _ ⟨⟩
    exact hstart
  · rintro - _ ⟨⟩
    exact hend
  · rintro g rfl
    exact hf.ofGateway.imp (fun _ a ha => hd.gateway a ha ▸ hstart) fun a _ => husable a

theorem Fields.covers (hn : n.IsCIDR p) (hd : IPv4Defaults next ip n d)
    (hf : Fields r n d start end_ gateway) :
    n.Covers start ∧ n.Covers end_ ∧ ∀ g, gateway = some g → n.Covers g :=
  hf.all hd hd.startInside hd.endInside fun _ h => (hn.contains_iff.mp h.inside).1

/-- With four addresses or more, none that is read is the first or the last. -/
theorem Fields.proper (hn : n.IsCIDR p) (hd : IPv4Defaults next ip n d)
    (hf : Fields r n d start end_ gateway) (hbits : 2 ≤ n.hostBits) :
    (n.first < start.value ∧ start.value < n.last) ∧
    (n.first < end_.value ∧ end_.value < n.last) ∧
    ∀ g, gateway = some g → n.first < g.value ∧ g.value < n.last := by
  obtain ⟨hstart, hend, -⟩ := hd.large hbits
  have hlarge : 2 ^ 2 ≤ 2 ^ n.hostBits := Nat.pow_le_pow_right (by decide) hbits
  have hlast : n.last = n.first + (2 ^ n.hostBits - 1) := rfl
  exact hf.all (P := fun a => n.first < a.value ∧ a.value < n.last) hd (by omega) (by omega)
    fun _ h => h.bounds hn

theorem ipv4Range_of_fields (hn : n.IsCIDR p) (hfour : n.ip.bytes.length = 4)
    (hparse : parseCIDR r.subnet = some (ip, n)) (hfirst : n.first = base n.hostBits ip.value)
    (hd : IPv4Defaults next ip n d) (hf : Fields r n d start end_ gateway) :
    IPv4Range next r ip n (orderedRange start end_ n gateway) := by
  obtain ⟨hones, hbits⟩ := hostBits_of_four hn hfour
  have hlast : n.last = n.first + (2 ^ n.hostBits - 1) := rfl
  obtain ⟨⟨hstart, hstart'⟩, ⟨hend, hend'⟩, hgateway⟩ := hf.covers hn hd
  refine ⟨orderedRange_subnet .., ?_, ?_, ?_, ?_, ?_, ?_, ?_, ?_, ?_, ?_⟩
  · rw [orderedRange_start, orderedRange_end]
    omega
  · rw [IPNet.Covers, orderedRange_start]
    omega
  · rw [IPNet.Covers, orderedRange_end]
    omega
  · rwa [orderedRange_gateway]
  · intro hp
    obtain ⟨hstart, hend, hgateway⟩ := hf.proper hn hd (by omega)
    rintro a (rfl | rfl | ha)
    · rw [orderedRange_start]
      omega
    · rw [orderedRange_end]
      omega
    · obtain ⟨hlo, hhi⟩ := hgateway a ((orderedRange_gateway ..).symm.trans ha)
      exact ⟨hlo.ne', hhi.ne⟩
  · intro hp hempty
    obtain ⟨-, hend, -⟩ := hf.proper hn hd (by omega)
    have hvalue := (hd.large (by omega)).1
    rw [← hf.ofStart.eq_default hempty] at hvalue
    rw [orderedRange_start]
    omega
  · intro hp hempty
    obtain ⟨hstart, -, -⟩ := hf.proper hn hd (by omega)
    have hvalue := (hd.large (by omega)).2.1
    rw [← hf.ofEnd.eq_default hempty] at hvalue
    rw [orderedRange_end]
    omega
  · intro hp hempty
    obtain ⟨hvalue, -, hsome⟩ := hd.large (by omega)
    rw [orderedRange_gateway, hf.ofGateway.of_omitted hempty, hsome, Option.map_some, hvalue]
  · intro hp
    have hzero : n.hostBits = 0 := by omega
    have hvalue : ip.value = n.first := by
      rw [hfirst, hzero, base_of_dvd (Nat.one_dvd _)]
    rw [hlast, hzero] at hstart' hend'
    rw [orderedRange_start, orderedRange_end, orderedRange_gateway]
    refine ⟨by omega, by omega, fun hempty => ?_⟩
    rw [hf.ofGateway.of_omitted hempty, hd.single hzero]
  · intro hs he
    rw [orderedRange_comm hf.startSixteen hf.endSixteen]
    exact makeRange_of_fields hn hparse hd.eq ⟨hf.ofEnd.of_ne he _, hf.ofStart.of_ne hs _,
      hf.ofGateway, hf.endSixteen, hf.startSixteen⟩

end Made

/-- For an address in an IPv4 subnet, to be refused is to be no usable address. -/
theorem refused_iff (hn : n.IsCIDR p) (hfour : n.ip.bytes.length = 4) {s : String} :
    Refused n s ↔ s ≠ "" ∧ (parseIP s = none ∨ ∃ a, parseIP s = some a ∧
      (¬ n.Covers a ∨ a.value = n.first ∨ a.value = n.last)) := by
  have hmapped := isMapped_of_four hfour
  refine and_congr_right fun _ => ?_
  cases hparse : parseIP s with
  | none => simp
  | some a =>
    have husable : Usable n a ↔ n.Covers a ∧ a.value ≠ n.first ∧ a.value ≠ n.last := by
      constructor
      · exact fun h => ⟨(hn.contains_iff.mp h.inside).1, h.notFirst, h.notLast⟩
      · rintro ⟨hin, hfirst, hlast⟩
        have hfamily := hn.isMapped_of_covers hmapped hin
        exact ⟨hn.contains_iff.mpr ⟨hin, iff_of_true hfamily hmapped⟩, hfirst, hlast⟩
    simp only [Option.some.injEq, forall_eq', reduceCtorEq, false_or, exists_eq_left', husable]
    tauto

/-- `MakeRange` on IPv4: when it fails, and what it makes otherwise. -/
theorem makeRange_ipv4 {next : IP → GoResult IP} (hnext : NextIPv4 next) (r : PoolRange) :
    (parseCIDR r.subnet = none → ∃ e, makeRange next r = .err e) ∧
    ∀ ip n, parseCIDR r.subnet = some (ip, n) → n.ip.bytes.length = 4 →
      (n.ones ≤ 32 ∧ n.first = base (32 - n.ones) ip.value ∧
        n.last = n.first + (2 ^ (32 - n.ones) - 1)) ∧
      makeRange next r ≠ .panic ∧
      ((∃ e, makeRange next r = .err e) ↔
        ∃ s ∈ [r.rangeStart, r.rangeEnd, r.gateway], s ≠ "" ∧
          (parseIP s = none ∨ ∃ a, parseIP s = some a ∧
            (¬ n.Covers a ∨ a.value = n.first ∨ a.value = n.last))) ∧
      ∀ x, makeRange next r = .ok x → IPv4Range next r ip n x := by
  constructor
  · intro hparse
    unfold makeRange
    rw [hparse]
    exact ⟨_, rfl⟩
  intro ip n hparse hfour
  obtain ⟨p, hn, -, hfirst⟩ := parseCIDR_eq_some hparse
  obtain ⟨hones, hbits⟩ := hostBits_of_four hn hfour
  obtain ⟨d, hd⟩ := exists_ipv4Defaults hnext hn hfour hfirst
  refine ⟨⟨hones, hbits ▸ hfirst, hbits ▸ rfl⟩, ?_⟩
  simp only [← refused_iff hn hfour]
  rcases fillRange_cases (r := r) hn hd.eq with ⟨start, end_, gateway, hf, hnone⟩ | ⟨hsome, e, he⟩
  · have hok := makeRange_of_fields hn hparse hd.eq hf
    rw [hok]
    refine ⟨nofun, iff_of_false nofun hnone, ?_⟩
    rintro x ⟨⟩
    exact ipv4Range_of_fields hn hfour hparse hfirst hd hf
  · have herr : makeRange next r = .err e := by
      rw [makeRange_eq hparse, hd.eq]
      exact he
    rw [herr]
    exact ⟨nofun, iff_of_true ⟨e, rfl⟩ hsome, nofun⟩

end IPv4

namespace RangeSample

def successor (ip : IP) : GoResult IP := .ok (IP.ofValue (ip.value + 1))

theorem nextIPv4_successor : NextIPv4 successor := by
  intro ip _ h
  refine ⟨_, rfl, value_ofValue ?_⟩
  unfold IsMapped mappedBase at h
  omega

def range24 : PoolRange := ⟨"192.168.0.0/24", "", "192.168.0.10", ""⟩

end RangeSample

open RangeSample in
theorem makeRange_ipv4_sample :
    ∃ ip n x, parseCIDR range24.subnet = some (ip, n) ∧ makeRange successor range24 = .ok x ∧
      IPv4Range successor range24 ip n x := by
  obtain ⟨⟨⟨ip, n⟩, hparse, hfour⟩, hok⟩ :
      (∃ q ∈ parseCIDR range24.subnet, q.2.ip.bytes.length = 4) ∧
        (makeRange successor range24).isOk = true := by decide +kernel
  cases hmade : makeRange successor range24 with
  | ok x =>
    obtain ⟨-, -, -, hrange⟩ := (makeRange_ipv4 nextIPv4_successor range24).2 ip n hparse hfour
    exact ⟨ip, n, x, hparse, rfl, hrange x hmade⟩
  | err e => simp [hmade, GoResult.isOk] at hok
  | panic => simp [hmade, GoResult.isOk] at hok

end Caphv
