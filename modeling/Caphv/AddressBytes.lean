import Mathlib.Data.List.Induction
import Caphv.AlignedBlocks
import Caphv.PoolRange

namespace Caphv

open Net (IP v4InV6Prefix)
open AlignedBlocks

def beBytes : ℕ → ℕ → List UInt8
  | 0, _ => []
  | k + 1, n => beBytes k (n / 256) ++ [UInt8.ofNat n]

theorem length_beBytes (k n : ℕ) : (beBytes k n).length = k := by
  induction k generalizing n with
  | zero => rfl
  | succ k ih => simp [beBytes, ih]

theorem bytesToNat_concat (bs : List UInt8) (b : UInt8) :
    bytesToNat (bs ++ [b]) = bytesToNat bs * 256 + b.toNat := by
  simp [bytesToNat, List.foldl_append]

theorem bytesToNat_beBytes (k n : ℕ) : bytesToNat (beBytes k n) = n % 256 ^ k := by
  induction k generalizing n with
  | zero => simp [beBytes, bytesToNat, Nat.mod_one]
  | succ k ih =>
    rw [beBytes, bytesToNat_concat, ih, UInt8.toNat_ofNat', pow_succ' 256 k, Nat.mod_mul]
    omega

theorem bytesToNat_lt (bs : List UInt8) : bytesToNat bs < 256 ^ bs.length := by
  induction bs using List.reverseRecOn with
  | nil => simp [bytesToNat]
  | append_singleton bs b ih =>
    have hb := b.toNat_lt
    rw [bytesToNat_concat, List.length_append, List.length_singleton, pow_succ]
    omega

theorem beBytes_bytesToNat (bs : List UInt8) : beBytes bs.length (bytesToNat bs) = bs := by
  induction bs using List.reverseRecOn with
  | nil => rfl
  | append_singleton bs b ih =>
    have hb := b.toNat_lt
    have hdiv : (bytesToNat bs * 256 + b.toNat) / 256 = bytesToNat bs := by omega
    have hlast : UInt8.ofNat (bytesToNat bs * 256 + b.toNat) = b := by
      apply UInt8.toNat_inj.mp
      rw [UInt8.toNat_ofNat']
      omega
    rw [bytesToNat_concat, List.length_append, List.length_singleton, beBytes, hdiv, ih, hlast]

def Net.IP.value (ip : IP) : ℕ := bytesToNat ip.to16.bytes

def Net.IP.ofValue (n : ℕ) : IP := ⟨beBytes 16 n, Or.inr (length_beBytes 16 n)⟩

theorem length_to16 (ip : IP) : ip.to16.bytes.length = 16 := by
  unfold IP.to16
  split_ifs with h
  · simp [Net.v4InV6Prefix, h]
  · exact ip.size.resolve_left h

theorem to16_to16 (ip : IP) : ip.to16.to16 = ip.to16 := by
  have h : ip.to16.bytes.length ≠ 4 := by
    rw [length_to16]
    decide
  rw [IP.to16, dif_neg h]

theorem value_to16 (ip : IP) : ip.to16.value = ip.value := by
  rw [IP.value, IP.value, to16_to16]

theorem value_lt (ip : IP) : ip.value < 256 ^ 16 := by
  have h := bytesToNat_lt ip.to16.bytes
  rwa [length_to16] at h

theorem value_ofValue {n : ℕ} (h : n < 256 ^ 16) : (IP.ofValue n).value = n := by
  have hto16 : (IP.ofValue n).to16 = IP.ofValue n := by simp [IP.to16, IP.ofValue, length_beBytes]
  rw [IP.value, hto16, IP.ofValue, bytesToNat_beBytes, Nat.mod_eq_of_lt h]

theorem ofValue_value (ip : IP) : IP.ofValue ip.value = ip.to16 := by
  have h := beBytes_bytesToNat ip.to16.bytes
  rw [length_to16] at h
  exact (IP.mk.injEq _ _ _ ip.to16.size).mpr h

section Bytes

variable {as bs : List UInt8}

theorem pow_256 (k : ℕ) : 256 ^ k = 2 ^ (8 * k) := by
  rw [pow_mul]
  rfl

theorem bytesToNat_inj (hlen : as.length = bs.length) (h : bytesToNat as = bytesToNat bs) :
    as = bs := by
  rw [← beBytes_bytesToNat as, hlen, h, beBytes_bytesToNat]

theorem bytesToNat_append (as bs : List UInt8) :
    bytesToNat (as ++ bs) = bytesToNat as * 256 ^ bs.length + bytesToNat bs := by
  induction bs using List.reverseRecOn with
  | nil => simp [bytesToNat]
  | append_singleton bs b ih =>
    rw [← List.append_assoc, bytesToNat_concat, ih, bytesToNat_concat, List.length_append,
      List.length_singleton, pow_succ, Nat.add_mul, Nat.mul_assoc, Nat.add_assoc]

theorem bytesToNat_cons (b : UInt8) (bs : List UInt8) :
    bytesToNat (b :: bs) = b.toNat * 256 ^ bs.length + bytesToNat bs := by
  have hbyte : bytesToNat [b] = b.toNat := by simp [bytesToNat]
  rw [← List.singleton_append, bytesToNat_append, hbyte]

/-- A bitwise operation on the bytes is one on the numbers. -/
theorem bytesToNat_zipWith {f : UInt8 → UInt8 → UInt8} {g : ℕ → ℕ → ℕ} (hzero : g 0 0 = 0)
    (hbyte : ∀ a b, (f a b).toNat = g a.toNat b.toNat)
    (hdigits : ∀ a b x y, x < 2 ^ 8 → y < 2 ^ 8 →
      g (2 ^ 8 * a + x) (2 ^ 8 * b + y) = 2 ^ 8 * g a b + g x y)
    (hlen : as.length = bs.length) :
    bytesToNat (List.zipWith f as bs) = g (bytesToNat as) (bytesToNat bs) := by
  induction as using List.reverseRecOn generalizing bs with
  | nil =>
    obtain rfl := List.length_eq_zero_iff.mp hlen.symm
    exact hzero.symm
  | append_singleton as a ih =>
    rcases List.eq_nil_or_concat bs with rfl | ⟨bs, b, rfl⟩
    · simp at hlen
    · rw [List.concat_eq_append] at hlen ⊢
      have hrest : as.length = bs.length := by simpa using hlen
      rw [List.zipWith_append hrest, List.zipWith_cons_cons, List.zipWith_nil_left,
        bytesToNat_concat, bytesToNat_concat, bytesToNat_concat, ih hrest, hbyte,
        Nat.mul_comm _ 256, Nat.mul_comm _ 256, Nat.mul_comm _ 256]
      exact (hdigits _ _ _ _ a.toNat_lt b.toNat_lt).symm

theorem bytesToNat_and (hlen : as.length = bs.length) :
    bytesToNat (List.zipWith (· &&& ·) as bs) = bytesToNat as &&& bytesToNat bs :=
  bytesToNat_zipWith (g := (· &&& ·)) rfl UInt8.toNat_and (fun _ _ _ _ => and_digits) hlen

theorem bytesToNat_or (hlen : as.length = bs.length) :
    bytesToNat (List.zipWith (· ||| ·) as bs) = bytesToNat as ||| bytesToNat bs :=
  bytesToNat_zipWith (g := (· ||| ·)) rfl UInt8.toNat_or (fun _ _ _ _ => or_digits) hlen

theorem bytesToNat_not (bs : List UInt8) :
    bytesToNat (bs.map (~~~ ·)) = 256 ^ bs.length - 1 - bytesToNat bs := by
  induction bs using List.reverseRecOn with
  | nil => rfl
  | append_singleton bs b ih =>
    have hlt := bytesToNat_lt bs
    have hb := b.toNat_lt
    rw [List.map_append, List.map_singleton, bytesToNat_concat, ih, bytesToNat_concat,
      List.length_append, List.length_singleton, pow_succ, UInt8.toNat_not]
    simp only [UInt8.size]
    omega

/-- The number after one byte has been replaced. -/
theorem bytesToNat_modify (f : UInt8 → UInt8) {i k : ℕ} {b : UInt8}
    (hlen : bs.length = i + (k + 1)) (hb : bs[i]? = some b) :
    bytesToNat (bs.modify i f) + b.toNat * 256 ^ k = bytesToNat bs + (f b).toNat * 256 ^ k := by
  obtain ⟨hi, rfl⟩ := List.getElem?_eq_some_iff.mp hb
  have hcut : bs = bs.take i ++ bs[i] :: bs.drop (i + 1) := by simp
  have hdrop : (bs.drop (i + 1)).length = k := by
    rw [List.length_drop]
    omega
  have hvalue : bytesToNat bs = bytesToNat (bs.take i ++ bs[i] :: bs.drop (i + 1)) :=
    congrArg bytesToNat hcut
  rw [List.modify_eq_take_cons_drop hi, hvalue, bytesToNat_append, bytesToNat_append,
    bytesToNat_cons, bytesToNat_cons, List.length_cons, List.length_cons, hdrop]
  omega

end Bytes

/-- The value of `0.0.0.0`. An IPv4 address has the value of the IPv4-mapped one. -/
def mappedBase : ℕ := 0xffff * 2 ^ 32

def IsMapped (v : ℕ) : Prop := mappedBase ≤ v ∧ v < mappedBase + 2 ^ 32

instance (v : ℕ) : Decidable (IsMapped v) := inferInstanceAs (Decidable (_ ∧ _))

def Net.IP.short (ip : IP) : List UInt8 := ip.to4.getD ip.bytes

section Values

variable {ip ip' : IP} {bs : List UInt8}

theorem bytesToNat_mapped (h : bs.length = 4) :
    bytesToNat (v4InV6Prefix ++ bs) = mappedBase + bytesToNat bs := by
  rw [bytesToNat_append, h]
  rfl

theorem value_of_four (h : ip.bytes.length = 4) : ip.value = mappedBase + bytesToNat ip.bytes := by
  rw [IP.value, IP.to16, dif_pos h, bytesToNat_mapped h]

theorem value_of_sixteen (h : ip.bytes.length = 16) : ip.value = bytesToNat ip.bytes := by
  rw [IP.value, IP.to16, dif_neg (by rw [h]; decide)]

theorem to16_eq_iff : ip.to16 = ip'.to16 ↔ ip.value = ip'.value := by
  constructor
  · intro h
    rw [IP.value, IP.value, h]
  · intro h
    rw [← ofValue_value, ← ofValue_value, h]

theorem to4_eq_some (h : ip.to4 = some bs) :
    bs.length = 4 ∧ ip.value = mappedBase + bytesToNat bs := by
  unfold IP.to4 at h
  split_ifs at h with hfour hmapped
  · obtain rfl := Option.some.inj h
    exact ⟨hfour, value_of_four hfour⟩
  · obtain rfl := Option.some.inj h
    have hsize := ip.size.resolve_left hfour
    have hlen : (ip.bytes.drop 12).length = 4 := by rw [List.length_drop, hsize]
    refine ⟨hlen, ?_⟩
    rw [value_of_sixteen hsize, ← bytesToNat_mapped hlen, ← hmapped, List.take_append_drop]

theorem to4_eq_none (h : ip.to4 = none) :
    ip.bytes.length = 16 ∧ ip.value = bytesToNat ip.bytes ∧ ¬ IsMapped ip.value := by
  unfold IP.to4 at h
  split_ifs at h with hfour hmapped
  have hsize := ip.size.resolve_left hfour
  refine ⟨hsize, value_of_sixteen hsize, fun hm => hmapped ?_⟩
  -- The first twelve bytes are the number without its last 32 bits.
  have hlast : (ip.bytes.drop 12).length = 4 := by rw [List.length_drop, hsize]
  have hlow := bytesToNat_lt (ip.bytes.drop 12)
  have hcut := bytesToNat_append (ip.bytes.take 12) (ip.bytes.drop 12)
  rw [List.take_append_drop, ← value_of_sixteen hsize] at hcut
  rw [hlast] at hlow hcut
  apply bytesToNat_inj
  · rw [List.length_take, hsize]
    rfl
  · have hfront : bytesToNat v4InV6Prefix = 0xffff := by decide
    rw [hfront]
    unfold IsMapped mappedBase at hm
    omega

theorem isSome_to4_iff : ip.to4.isSome = true ↔ IsMapped ip.value := by
  cases h : ip.to4 with
  | none => simpa using (to4_eq_none h).2.2
  | some bs =>
    obtain ⟨hlen, hvalue⟩ := to4_eq_some h
    have hlt := bytesToNat_lt bs
    rw [hlen] at hlt
    refine iff_of_true rfl ?_
    rw [hvalue]
    exact ⟨Nat.le_add_right _ _, Nat.add_lt_add_left hlt _⟩

theorem to4_eq_none_iff : ip.to4 = none ↔ ¬ IsMapped ip.value := by
  rw [← isSome_to4_iff, Bool.not_eq_true, Option.isSome_eq_false_iff, Option.isNone_iff_eq_none]

theorem short_of_mapped (h : IsMapped ip.value) :
    ip.short.length = 4 ∧ ip.value = mappedBase + bytesToNat ip.short := by
  obtain ⟨bs, hbs⟩ := Option.isSome_iff_exists.mp (isSome_to4_iff.mpr h)
  rw [IP.short, hbs]
  exact to4_eq_some hbs

theorem short_of_not_mapped (h : ¬ IsMapped ip.value) :
    ip.short.length = 16 ∧ ip.value = bytesToNat ip.short := by
  have hnone := to4_eq_none_iff.mpr h
  rw [IP.short, hnone]
  exact ⟨(to4_eq_none hnone).1, (to4_eq_none hnone).2.1⟩

theorem length_short_eq_iff :
    ip.short.length = ip'.short.length ↔ (IsMapped ip.value ↔ IsMapped ip'.value) := by
  by_cases h : IsMapped ip.value
  · by_cases h' : IsMapped ip'.value
    · simp [(short_of_mapped h).1, (short_of_mapped h').1, h, h']
    · simp [(short_of_mapped h).1, (short_of_not_mapped h').1, h, h']
  · by_cases h' : IsMapped ip'.value
    · simp [(short_of_not_mapped h).1, (short_of_mapped h').1, h, h']
    · simp [(short_of_not_mapped h).1, (short_of_not_mapped h').1, h, h']

end Values

end Caphv
