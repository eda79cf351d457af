import Caphv.AddressBytes

namespace Caphv

open Net (IP parseIP v4InV6Prefix)
open AlignedBlocks

def popCount (b : UInt8) : ℕ := ((List.range 8).filter fun i => b.toNat.testBit i).length

theorem maskByte_spec {j : ℕ} (hj : j ≤ 8) :
    (UInt8.ofNat (256 - 2 ^ (8 - j))).toNat = 256 - 2 ^ (8 - j) ∧
    popCount (UInt8.ofNat (256 - 2 ^ (8 - j))) = j := by
  have hall : ∀ j ≤ 8, (UInt8.ofNat (256 - 2 ^ (8 - j))).toNat = 256 - 2 ^ (8 - j) ∧
      popCount (UInt8.ofNat (256 - 2 ^ (8 - j))) = j := by decide
  exact hall j hj

theorem cidrMask_succ (p k : ℕ) : cidrMask p (8 * (k + 1)) =
    cidrMask p (8 * k) ++ [UInt8.ofNat (256 - 2 ^ (8 - min 8 (p - 8 * k)))] := by
  have hbytes : ∀ k, 8 * k / 8 = k := fun k => Nat.mul_div_cancel_left k (by decide)
  rw [cidrMask, cidrMask, hbytes, hbytes, List.range_succ, List.map_append]
  rfl

/-- The last byte is zero or all bits of the others are set. -/
theorem bytesToNat_cidrMask (p k : ℕ) :
    bytesToNat (cidrMask p (8 * k)) = 2 ^ (8 * k) - 2 ^ (8 * k - p) := by
  induction k with
  | zero =>
    rw [Nat.mul_zero, Nat.zero_sub, Nat.sub_self]
    rfl
  | succ k ih =>
    have hwide : 2 ^ (8 * (k + 1)) = 2 ^ (8 * k) * 256 := pow_add 2 (8 * k) 8
    rw [cidrMask_succ, bytesToNat_concat, ih, (maskByte_spec (min_le_left _ _)).1, hwide,
      Nat.sub_mul]
    rcases le_total p (8 * k) with hle | hle
    · have hshift : 2 ^ (8 * (k + 1) - p) = 2 ^ (8 * k - p) * 256 := by
        rw [show 8 * (k + 1) - p = 8 * k - p + 8 by omega]
        exact pow_add 2 (8 * k - p) 8
      rw [Nat.sub_eq_zero_of_le hle, Nat.min_zero, hshift]
      rfl
    · have hpos := Nat.two_pow_pos (8 * k)
      have hbits : 8 * (k + 1) - p = 8 - min 8 (p - 8 * k) := by omega
      have hle' : 2 ^ (8 - min 8 (p - 8 * k)) ≤ 2 ^ 8 :=
        Nat.pow_le_pow_right (by decide) (Nat.sub_le _ _)
      rw [Nat.sub_eq_zero_of_le hle, hbits]
      omega

theorem popCount_cidrMask (p k : ℕ) :
    ((cidrMask p (8 * k)).map popCount).sum = min p (8 * k) := by
  induction k with
  | zero =>
    rw [Nat.mul_zero, Nat.min_zero]
    rfl
  | succ k ih =>
    rw [cidrMask_succ, List.map_append, List.sum_append, ih, List.map_singleton,
      List.sum_singleton, (maskByte_spec (min_le_left _ _)).2]
    omega

/-- Two addresses agree under a mask exactly if they are in one block. -/
theorem zipWith_and_eq_iff {k h : ℕ} {xs ys m : List UInt8} (hx : xs.length = k)
    (hy : ys.length = k) (hm : m.length = k) (hh : h ≤ 8 * k)
    (hmask : bytesToNat m = 2 ^ (8 * k) - 2 ^ h) :
    List.zipWith (· &&& ·) xs m = List.zipWith (· &&& ·) ys m ↔
      base h (bytesToNat xs) = base h (bytesToNat ys) := by
  have hvalue : ∀ zs : List UInt8, zs.length = k →
      bytesToNat (List.zipWith (· &&& ·) zs m) = base h (bytesToNat zs) := by
    intro zs hz
    have hlt := bytesToNat_lt zs
    rw [hz, pow_256] at hlt
    rw [bytesToNat_and (hz.trans hm.symm), hmask, and_mask hlt hh]
  rw [← hvalue xs hx, ← hvalue ys hy]
  constructor
  · exact congrArg bytesToNat
  · intro h
    apply bytesToNat_inj _ h
    rw [List.length_zipWith, List.length_zipWith, hx, hy]

namespace IPNet

/-- The number of bits that the mask leaves to hosts. -/
def hostBits (n : IPNet) : ℕ := 8 * n.mask.length - n.ones

def first (n : IPNet) : ℕ := n.ip.value

def last (n : IPNet) : ℕ := n.first + (2 ^ n.hostBits - 1)

theorem first_lt_last {n : IPNet} (hbits : 0 < n.hostBits) : n.first < n.last := by
  have hlarge : 2 ≤ 2 ^ n.hostBits := Nat.le_self_pow hbits.ne' 2
  unfold last
  omega

def Covers (n : IPNet) (ip : IP) : Prop := n.first ≤ ip.value ∧ ip.value ≤ n.last

instance (n : IPNet) (ip : IP) : Decidable (n.Covers ip) := inferInstanceAs (Decidable (_ ∧ _))

/-- A subnet with a prefix of `p` bits and no others in its address. -/
structure IsCIDR (n : IPNet) (p : ℕ) : Prop where
  le : p ≤ 8 * n.mask.length
  mask : n.mask = cidrMask p (8 * n.mask.length)
  masked : n.networkIP = n.ip

namespace IsCIDR

variable {n : IPNet} {p : ℕ} {ip : IP}

section

variable (hn : n.IsCIDR p)

include hn

theorem ones_eq : n.ones = p := by
  have hcount := popCount_cidrMask p n.mask.length
  rwa [← hn.mask, min_eq_left hn.le] at hcount

theorem hostBits_eq : n.hostBits = 8 * n.mask.length - p := by
  rw [hostBits, hn.ones_eq]

theorem bytesToNat_mask : bytesToNat n.mask = 2 ^ (8 * n.mask.length) - 2 ^ n.hostBits := by
  have hvalue := bytesToNat_cidrMask p n.mask.length
  rwa [← hn.mask, ← hn.hostBits_eq] at hvalue

theorem hostBits_le : n.hostBits ≤ 8 * n.mask.length := by
  rw [hn.hostBits_eq]
  exact Nat.sub_le _ _

theorem dvd_bytes : 2 ^ n.hostBits ∣ bytesToNat n.ip.bytes := by
  have hlt := bytesToNat_lt n.ip.bytes
  rw [← n.size, pow_256] at hlt
  have hbytes : bytesToNat n.networkIP.bytes = base n.hostBits (bytesToNat n.ip.bytes) := by
    rw [networkIP, combine, bytesToNat_and n.size.symm, hn.bytesToNat_mask,
      and_mask hlt hn.hostBits_le]
  rw [← hn.masked, hbytes]
  exact dvd_base _ _

theorem dvd_first : 2 ^ n.hostBits ∣ n.first := by
  rcases n.ip.size with hfour | hsixteen
  · have hle := hn.hostBits_le
    rw [n.size, hfour] at hle
    rw [first, value_of_four hfour]
    exact Nat.dvd_add (dvd_mul_of_dvd_right (Nat.pow_dvd_pow 2 hle) _) hn.dvd_bytes
  · rw [first, value_of_sixteen hsixteen]
    exact hn.dvd_bytes

/-- A subnet of IPv4 addresses leaves at most 32 bits to hosts. -/
theorem hostBits_le_of_mapped (hmapped : IsMapped n.first) : n.hostBits ≤ 32 := by
  apply le_of_dvd_of_odd hn.dvd_first
  unfold IsMapped mappedBase at hmapped
  omega

theorem covers_iff : n.Covers ip ↔ base n.hostBits ip.value = n.first := by
  have hpos := Nat.two_pow_pos n.hostBits
  rw [base_eq_iff hn.dvd_first, Covers, last]
  omega

theorem isMapped_of_covers (hmapped : IsMapped n.first) (hin : n.Covers ip) :
    IsMapped ip.value := by
  have hend := add_le_of_nested (hn.hostBits_le_of_mapped hmapped) hn.dvd_first
    (b := mappedBase) (Nat.dvd_mul_left _ _) hmapped.2
  have hpos := Nat.two_pow_pos n.hostBits
  unfold Covers last at hin
  unfold IsMapped at hmapped ⊢
  omega

theorem value_networkIP : n.networkIP.value = n.first := by
  rw [hn.masked, first]

theorem value_broadcastIP : n.broadcastIP.value = n.last := by
  have hlen : n.ip.bytes.length = (n.mask.map (~~~ ·)).length := by rw [List.length_map, n.size]
  have hpow := Nat.pow_le_pow_right (Nat.two_pos) hn.hostBits_le
  have hpos := Nat.two_pow_pos n.hostBits
  have hbytes : bytesToNat n.broadcastIP.bytes =
      bytesToNat n.ip.bytes + (2 ^ n.hostBits - 1) := by
    have hcombine : n.broadcastIP.bytes =
        List.zipWith (· ||| ·) n.ip.bytes (n.mask.map (~~~ ·)) := by
      rw [List.zipWith_map_right]
      rfl
    have hones : bytesToNat (n.mask.map (~~~ ·)) = 2 ^ n.hostBits - 1 := by
      rw [bytesToNat_not, hn.bytesToNat_mask, pow_256]
      omega
    rw [hcombine, bytesToNat_or hlen, hones, or_ones hn.dvd_bytes]
  have hsize : n.broadcastIP.bytes.length = n.ip.bytes.length := by
    rw [broadcastIP, combine, List.length_zipWith, n.size, Nat.min_self]
  rw [last, first]
  rcases n.ip.size with hfour | hsixteen
  · rw [value_of_four (hsize.trans hfour), value_of_four hfour, hbytes, Nat.add_assoc]
  · rw [value_of_sixteen (hsize.trans hsixteen), value_of_sixteen hsixteen, hbytes]

/-- The part of the mask that `IPNet.Contains` uses. -/
theorem bytesToNat_shortMask :
    (n.mask.drop (n.mask.length - n.ip.short.length)).length = n.ip.short.length ∧
      n.hostBits ≤ 8 * n.ip.short.length ∧
      bytesToNat (n.mask.drop (n.mask.length - n.ip.short.length)) =
        2 ^ (8 * n.ip.short.length) - 2 ^ n.hostBits := by
  have hbits := hn.bytesToNat_mask
  by_cases hmapped : IsMapped n.first
  · have hle := hn.hostBits_le_of_mapped hmapped
    have hpow : 2 ^ n.hostBits ≤ 2 ^ 32 := Nat.pow_le_pow_right Nat.two_pos hle
    have hpos := Nat.two_pow_pos n.hostBits
    rw [(short_of_mapped hmapped).1]
    rcases n.ip.size with hfour | hsixteen
    · rw [n.size, hfour] at hbits ⊢
      exact ⟨n.size.trans hfour, hle, hbits⟩
    · -- The first twelve bytes of the mask are set.
      have hcut := bytesToNat_append (n.mask.take 12) (n.mask.drop 12)
      have hlow := bytesToNat_lt (n.mask.drop 12)
      have hlen : (n.mask.drop 12).length = 4 := by rw [List.length_drop, n.size, hsixteen]
      rw [n.size, hsixteen] at hbits ⊢
      rw [List.take_append_drop, hbits, hlen] at hcut
      rw [hlen] at hlow
      refine ⟨hlen, hle, ?_⟩
      show bytesToNat (n.mask.drop 12) = 2 ^ 32 - 2 ^ n.hostBits
      omega
  · have hlen := (short_of_not_mapped hmapped).1
    have hsize : n.mask.length = 16 := n.size.trans (to4_eq_none (to4_eq_none_iff.mpr hmapped)).1
    rw [hlen, hsize, Nat.sub_self, List.drop_zero]
    rw [hsize] at hbits
    exact ⟨hsize, hsize ▸ hn.hostBits_le, hbits⟩

/-- `IPNet.Contains` tells the subnet's addresses among those of its own family. -/
theorem contains_iff : n.contains ip = true ↔
    n.Covers ip ∧ (IsMapped ip.value ↔ IsMapped n.first) := by
  obtain ⟨hmask, hle, hbits⟩ := hn.bytesToNat_shortMask
  have hcontains : n.contains ip = true ↔ ip.short.length = n.ip.short.length ∧
      List.zipWith (· &&& ·) ip.short (n.mask.drop (n.mask.length - n.ip.short.length)) =
        List.zipWith (· &&& ·) n.ip.short
          (n.mask.drop (n.mask.length - n.ip.short.length)) := decide_eq_true_iff
  rw [hcontains, length_short_eq_iff]
  refine (and_congr_right fun hfamily => ?_).trans and_comm
  rw [zipWith_and_eq_iff (length_short_eq_iff.mpr hfamily) rfl hmask hle hbits, hn.covers_iff]
  have hfirst := base_of_dvd hn.dvd_first
  by_cases hmapped : IsMapped n.first
  · have hvalue := (short_of_mapped hmapped).2
    have hvalue' := (short_of_mapped (hfamily.mpr hmapped)).2
    have hdvd : 2 ^ n.hostBits ∣ mappedBase :=
      dvd_mul_of_dvd_right (Nat.pow_dvd_pow 2 (hn.hostBits_le_of_mapped hmapped)) _
    rw [← hfirst, first, hvalue, hvalue', base_add hdvd, base_add hdvd, Nat.add_left_cancel_iff]
  · have hvalue := (short_of_not_mapped hmapped).2
    have hvalue' := (short_of_not_mapped (mt hfamily.mp hmapped)).2
    rw [← hfirst, first, hvalue, hvalue']

theorem covers_broadcastIP : n.Covers n.broadcastIP := by
  rw [Covers, hn.value_broadcastIP]
  exact ⟨Nat.le_add_right _ _, le_rfl⟩

end

section

variable (hn : n.IsCIDR p)

include hn

theorem even_first (hbits : 0 < n.hostBits) : n.first % 2 = 0 :=
  Nat.mod_eq_zero_of_dvd ((dvd_pow_self 2 hbits.ne').trans hn.dvd_first)

end

theorem value_lastIP_of_not_mapped (hn : n.IsCIDR p) (hmapped : ¬ IsMapped n.first) :
    (lastIP n).value = n.last := by
  rw [lastIP, if_pos (to4_eq_none_iff.mpr hmapped), hn.value_broadcastIP]

theorem length_broadcastIP (n : IPNet) : n.broadcastIP.bytes.length = n.ip.bytes.length := by
  rw [broadcastIP, combine, List.length_zipWith, n.size, Nat.min_self]

/-- In four bytes the last one is lowered, which is not zero. -/
theorem value_lastIP_of_four (hn : n.IsCIDR p) (hfour : n.ip.bytes.length = 4)
    (hbits : 0 < n.hostBits) : (lastIP n).value = n.last - 1 := by
  have hsize : n.broadcastIP.bytes.length = 4 := (length_broadcastIP n).trans hfour
  have hsome : n.ip.to4 ≠ none := by
    rw [IP.to4, if_pos hfour]
    exact Option.some_ne_none _
  have hvalue := value_of_four hsize
  obtain ⟨front, b, hb⟩ := (List.eq_nil_or_concat n.broadcastIP.bytes).resolve_left
    (List.ne_nil_of_length_pos (by omega))
  rw [List.concat_eq_append] at hb
  have hfront : front.length = 3 := by
    rw [hb, List.length_append, List.length_singleton] at hsize
    omega
  have hget : n.broadcastIP.bytes[3]? = some b := by
    rw [hb, List.getElem?_append_right hfront.le, hfront]
    rfl
  have hcut := bytesToNat_concat front b
  rw [← hb] at hcut
  -- The broadcast address is odd.
  have hodd : b.toNat % 2 = 1 := by
    obtain ⟨q, hq⟩ := hn.dvd_first
    obtain ⟨h, hh⟩ := Nat.exists_eq_succ_of_ne_zero hbits.ne'
    have hpos := Nat.two_pow_pos h
    have heven : 2 ^ h * 2 * q = 2 * (2 ^ h * q) := by
      rw [Nat.mul_comm (2 ^ h) 2, Nat.mul_assoc]
    rw [hn.value_broadcastIP, last, hq, hh, pow_succ, heven, mappedBase] at hvalue
    omega
  have hlower : (b - 1).toNat = b.toNat - 1 := by
    have hlt := b.toNat_lt
    rw [UInt8.toNat_sub]
    simp only [UInt8.reduceToNat]
    omega
  have hmodify := bytesToNat_modify (· - 1) (k := 0) hsize hget
  have hlen : (n.broadcastIP.bytes.modify 3 (· - 1)).length = 4 := by
    rw [List.length_modify, hsize]
  rw [lastIP, if_neg hsome, value_of_four hlen, ← hn.value_broadcastIP, hvalue]
  simp only [hlower] at hmodify ⊢
  omega

/-- In sixteen bytes it is the fourth of them, which is zero. -/
theorem value_lastIP_of_mapped (hn : n.IsCIDR p) (hsixteen : n.ip.bytes.length = 16)
    (hmapped : IsMapped n.first) : (lastIP n).value = n.last + 255 * 2 ^ 96 := by
  have hsize : n.broadcastIP.bytes.length = 16 := (length_broadcastIP n).trans hsixteen
  have hsome : n.ip.to4 ≠ none := fun hnone => to4_eq_none_iff.mp hnone hmapped
  have hget : n.broadcastIP.bytes[3]? = some 0 := by
    have hto4 := isSome_to4_iff.mpr (hn.isMapped_of_covers hmapped hn.covers_broadcastIP)
    unfold IP.to4 at hto4
    rw [if_neg (by omega)] at hto4
    split_ifs at hto4 with hfront
    · have hfourth : (n.broadcastIP.bytes.take 12)[3]? = some 0 := by rw [hfront]; rfl
      rwa [List.getElem?_take, if_pos (by decide)] at hfourth
    · cases hto4
  have hmodify := bytesToNat_modify (· - 1) (k := 12) hsize hget
  have hlen : (n.broadcastIP.bytes.modify 3 (· - 1)).length = 16 := by
    rw [List.length_modify, hsize]
  have hlower : ((0 : UInt8) - 1).toNat = 255 := by decide
  have hcleared : (0 : UInt8).toNat = 0 := by decide
  rw [lastIP, if_neg hsome, value_of_sixteen hlen, ← hn.value_broadcastIP, value_of_sixteen hsize]
  simp only [hlower, hcleared] at hmodify
  omega

end IsCIDR

end IPNet

section Parse

variable {s : String} {ip : IP} {n : IPNet}

theorem length_expand {x : List UInt8 × Option ℕ} {bs : List UInt8} (h : Net.expand x = some bs) :
    16 ≤ bs.length := by
  obtain ⟨front, ell⟩ := x
  unfold Net.expand at h
  dsimp only at h
  split_ifs at h with hshort hell
  · obtain ⟨e, -, rfl⟩ := Option.map_eq_some_iff.mp h
    simp only [List.length_append, List.length_take, List.length_drop, List.length_replicate]
    omega
  · obtain rfl := Option.some.inj h
    omega

theorem ofBytes_eq_some {bs : List UInt8} (h : Net.ofBytes bs = some ip) : ip.bytes = bs := by
  unfold Net.ofBytes at h
  split_ifs at h
  rw [← Option.some.inj h]

/-- `net.ParseIP` returns sixteen bytes, and a text without a colon is an IPv4 address. -/
theorem parseIP_eq_some (h : parseIP s = some ip) :
    ip.bytes.length = 16 ∧ (':' ∉ s.toList → IsMapped ip.value) := by
  unfold parseIP at h
  split at h
  next hfind =>
    obtain ⟨f, -, hof⟩ := Option.bind_eq_some_iff.mp h
    have hbytes := ofBytes_eq_some hof
    have hsize := ip.size
    have hlen : ip.bytes.length = 12 + f.length := by
      rw [hbytes, List.length_append]
      rfl
    have hsixteen : ip.bytes.length = 16 := by omega
    refine ⟨hsixteen, fun _ => ?_⟩
    have hfour : f.length = 4 := by omega
    have hlt := bytesToNat_lt f
    rw [hfour] at hlt
    rw [value_of_sixteen hsixteen, hbytes, bytesToNat_mapped hfour]
    exact ⟨Nat.le_add_right _ _, Nat.add_lt_add_left hlt _⟩
  next hfind =>
    obtain ⟨bs, hparse, hof⟩ := Option.bind_eq_some_iff.mp h
    have hbytes := ofBytes_eq_some hof
    have hsize := ip.size
    have hwide : 16 ≤ bs.length := by
      unfold Net.parseIPv6 at hparse
      split_ifs at hparse
      split at hparse
      · obtain rfl := Option.some.inj hparse
        decide
      · obtain ⟨x, -, hx⟩ := Option.bind_eq_some_iff.mp hparse
        exact length_expand hx
      · obtain ⟨x, -, hx⟩ := Option.bind_eq_some_iff.mp hparse
        exact length_expand hx
    rw [hbytes] at hsize ⊢
    exact ⟨by omega, fun hcolon => absurd (List.mem_of_find?_eq_some hfind) hcolon⟩
  next => cases h

theorem networkIP_masked (n : IPNet) : n.masked.networkIP = n.masked.ip := by
  have hand : ∀ a m : UInt8, a &&& m &&& m = a &&& m := fun a m => by
    rw [UInt8.and_assoc, UInt8.and_self]
  rw [IP.mk.injEq]
  show List.zipWith _ (List.zipWith _ n.ip.bytes n.mask) n.mask = List.zipWith _ n.ip.bytes n.mask
  have hsize := n.size
  generalize n.ip.bytes = bs at hsize
  generalize n.mask = m at hsize
  induction bs generalizing m with
  | nil => rfl
  | cons b bs ih =>
    cases m with
    | nil => cases hsize
    | cons c m => simp [hand, ih m (by simpa using hsize)]

theorem isCIDR_masked {p bits : ℕ} (hp : p ≤ bits) (hmask : n.mask = cidrMask p bits)
    (hbits : bits = 8 * n.mask.length) : n.masked.IsCIDR p := by
  subst hbits
  exact ⟨hp, hmask, networkIP_masked n⟩

theorem bytesToNat_masked {p : ℕ} (hn : n.masked.IsCIDR p) :
    bytesToNat n.masked.ip.bytes = base n.masked.hostBits (bytesToNat n.ip.bytes) := by
  have hlt := bytesToNat_lt n.ip.bytes
  rw [← n.size, pow_256] at hlt
  have hbits : bytesToNat n.mask = 2 ^ (8 * n.mask.length) - 2 ^ n.masked.hostBits :=
    hn.bytesToNat_mask
  have hle : n.masked.hostBits ≤ 8 * n.mask.length := hn.hostBits_le
  show bytesToNat (List.zipWith (· &&& ·) n.ip.bytes n.mask) = _
  rw [bytesToNat_and n.size.symm, hbits, and_mask hlt hle]

theorem length_masked (n : IPNet) : n.masked.ip.bytes.length = n.ip.bytes.length := by
  show (List.zipWith _ n.ip.bytes n.mask).length = n.ip.bytes.length
  rw [List.length_zipWith, n.size, Nat.min_self]

/-- The network of an address under a mask is the block that the address lies in. -/
theorem first_masked {p : ℕ} (hn : n.masked.IsCIDR p) :
    n.masked.first = base n.masked.hostBits n.ip.value := by
  rcases n.ip.size with hfour | hsixteen
  · have hle : n.masked.hostBits ≤ 8 * n.mask.length := hn.hostBits_le
    rw [n.size, hfour] at hle
    have hdvd : 2 ^ n.masked.hostBits ∣ mappedBase :=
      dvd_mul_of_dvd_right (Nat.pow_dvd_pow 2 hle) _
    rw [IPNet.first, value_of_four ((length_masked n).trans hfour), bytesToNat_masked hn,
      value_of_four hfour, base_add hdvd]
  · rw [IPNet.first, value_of_sixteen ((length_masked n).trans hsixteen), bytesToNat_masked hn,
      value_of_sixteen hsixteen]

/-- The last four bytes of an IPv4 address in its long form. -/
theorem value_drop (hsixteen : ip.bytes.length = 16) (hmapped : IsMapped ip.value)
    (hsize : (ip.bytes.drop 12).length = 4 ∨ (ip.bytes.drop 12).length = 16) :
    (⟨ip.bytes.drop 12, hsize⟩ : IP).value = ip.value := by
  have hlen : (ip.bytes.drop 12).length = 4 := by rw [List.length_drop, hsixteen]
  have hto4 : ip.to4 = some (ip.bytes.drop 12) := by
    have hsome := isSome_to4_iff.mpr hmapped
    unfold IP.to4 at hsome ⊢
    rw [if_neg (by omega)] at hsome ⊢
    split_ifs at hsome ⊢ with hfront
    · rfl
    · cases hsome
  rw [(to4_eq_some hto4).2]
  exact value_of_four hlen

/-- What `net.ParseCIDR` returns: the address, and the block that it lies in. -/
theorem parseCIDR_eq_some (h : parseCIDR s = some (ip, n)) :
    ∃ p, n.IsCIDR p ∧ ip.bytes.length = 16 ∧ n.first = base n.hostBits ip.value := by
  unfold parseCIDR at h
  dsimp only at h
  split at h
  · cases h
  next mask _ =>
    split at h
    next addr p haddr hdigits =>
      obtain ⟨hsixteen, hmapped⟩ := parseIP_eq_some haddr
      rw [String.toList_ofList] at hmapped
      split_ifs at h with hcolon hcond hcond
      · obtain ⟨rfl, rfl⟩ := Prod.mk.inj (Option.some.inj h)
        have hmask : (cidrMask p 128).length = 16 := hcond.2.1.trans hsixteen
        have hn := isCIDR_masked (n := ⟨⟨_, hcond.2.2⟩, cidrMask p 128, hcond.2.1⟩) hcond.1 rfl
          (congrArg (8 * ·) hmask.symm)
        exact ⟨p, hn, hsixteen, first_masked hn⟩
      · obtain ⟨rfl, rfl⟩ := Prod.mk.inj (Option.some.inj h)
        have hdrop : (addr.bytes.drop 12).length = 4 := by rw [List.length_drop, hsixteen]
        have hmask : (cidrMask p 32).length = 4 := hcond.2.1.trans hdrop
        have hn := isCIDR_masked (n := ⟨⟨_, hcond.2.2⟩, cidrMask p 32, hcond.2.1⟩) hcond.1 rfl
          (congrArg (8 * ·) hmask.symm)
        refine ⟨p, hn, hsixteen, ?_⟩
        rw [first_masked hn]
        exact congrArg _ (value_drop hsixteen (hmapped hcolon) hcond.2.2)
    next => cases h

end Parse

end Caphv
