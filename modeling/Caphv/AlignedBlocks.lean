import Mathlib.Algebra.Order.Ring.Nat
import Mathlib.Data.Nat.Bitwise

/-! The numbers fall into blocks of `2 ^ h` that begin at its multiples. A number under a mask whose
lowest `h` bits are clear is where its block begins; with these bits set it is where the block
ends. -/

namespace Caphv.AlignedBlocks

variable {a b h w x y : ℕ}

def base (h a : ℕ) : ℕ := 2 ^ h * (a / 2 ^ h)

theorem base_le (h a : ℕ) : base h a ≤ a := Nat.mul_div_le a _

theorem lt_base_add (h a : ℕ) : a < base h a + 2 ^ h := by
  have hmod := Nat.mod_lt a (Nat.two_pow_pos h)
  have hdiv := Nat.div_add_mod a (2 ^ h)
  unfold base
  omega

theorem dvd_base (h a : ℕ) : 2 ^ h ∣ base h a := Nat.dvd_mul_right _ _

theorem base_of_dvd (ha : 2 ^ h ∣ a) : base h a = a := Nat.mul_div_cancel' ha

/-- The numbers of a block are those from its beginning on. -/
theorem base_eq_iff (hb : 2 ^ h ∣ b) : base h a = b ↔ b ≤ a ∧ a < b + 2 ^ h := by
  constructor
  · rintro rfl
    exact ⟨base_le h a, lt_base_add h a⟩
  · rintro ⟨hle, hlt⟩
    obtain ⟨q, rfl⟩ := hb
    have hq : a / 2 ^ h = q := by
      apply Nat.div_eq_of_lt_le
      · rwa [Nat.mul_comm]
      · rwa [Nat.succ_mul, Nat.mul_comm]
    rw [base, hq]

/-- A multiple of the size of a block can be put in front. -/
theorem base_add (hb : 2 ^ h ∣ b) (a : ℕ) : base h (b + a) = b + base h a := by
  rw [base_eq_iff (Nat.dvd_add hb (dvd_base h a))]
  have hle := base_le h a
  have hlt := lt_base_add h a
  omega

/-- A block that begins in a larger one ends in it. -/
theorem add_le_of_nested (hh : h ≤ w) (ha : 2 ^ h ∣ a) (hb : 2 ^ w ∣ b) (hlt : a < b + 2 ^ w) :
    a + 2 ^ h ≤ b + 2 ^ w := by
  have hend : 2 ^ h ∣ b + 2 ^ w :=
    (Nat.pow_dvd_pow 2 hh).trans (Nat.dvd_add hb (Nat.dvd_refl _))
  obtain ⟨q, rfl⟩ := ha
  obtain ⟨t, ht⟩ := hend
  rw [ht] at hlt ⊢
  have hq : q + 1 ≤ t := Nat.lt_of_mul_lt_mul_left hlt
  calc 2 ^ h * q + 2 ^ h
    _ = 2 ^ h * (q + 1) := by rw [Nat.mul_add, Nat.mul_one]
    _ ≤ 2 ^ h * t := Nat.mul_le_mul_left _ hq

/-- A multiple of `2 ^ h` that is no multiple of the next power bounds `h`. -/
theorem le_of_dvd_of_odd (ha : 2 ^ h ∣ a) (hodd : a / 2 ^ w % 2 = 1) : h ≤ w := by
  by_contra hlt
  have hnext : 2 ^ w * 2 ∣ a := (pow_succ 2 w ▸ Nat.pow_dvd_pow 2 (not_le.mp hlt)).trans ha
  obtain ⟨q, rfl⟩ := hnext
  rw [Nat.mul_assoc, Nat.mul_div_cancel_left _ (Nat.two_pow_pos w), Nat.mul_mod_right] at hodd
  cases hodd

theorem and_mask (ha : a < 2 ^ w) (hh : h ≤ w) : a &&& (2 ^ w - 2 ^ h) = base h a := by
  have hsplit : 2 ^ w - 2 ^ h = 2 ^ h * (2 ^ (w - h) - 1) := by
    rw [Nat.mul_sub, ← pow_add, Nat.add_sub_cancel' hh, Nat.mul_one]
  have hquot : a / 2 ^ h < 2 ^ (w - h) := by
    apply Nat.div_lt_of_lt_mul
    rwa [← pow_add, Nat.add_sub_cancel' hh]
  have hdiv : (a &&& (2 ^ w - 2 ^ h)) / 2 ^ h = a / 2 ^ h := by
    rw [Nat.and_div_two_pow, hsplit, Nat.mul_div_cancel_left _ (Nat.two_pow_pos h),
      Nat.and_two_pow_sub_one_eq_mod, Nat.mod_eq_of_lt hquot]
  have hmod : (a &&& (2 ^ w - 2 ^ h)) % 2 ^ h = 0 := by
    rw [Nat.and_mod_two_pow, hsplit, Nat.mul_mod_right, Nat.and_zero]
  rw [← Nat.div_add_mod (a &&& (2 ^ w - 2 ^ h)) (2 ^ h), hdiv, hmod, Nat.add_zero, base]

theorem or_ones (ha : 2 ^ h ∣ a) : a ||| (2 ^ h - 1) = a + (2 ^ h - 1) := by
  obtain ⟨q, rfl⟩ := ha
  have hones : 2 ^ h - 1 < 2 ^ h := Nat.sub_lt (Nat.two_pow_pos h) Nat.one_pos
  exact (Nat.two_pow_add_eq_or_of_lt hones q).symm

theorem and_digits (hx : x < 2 ^ h) (hy : y < 2 ^ h) :
    (2 ^ h * a + x) &&& (2 ^ h * b + y) = 2 ^ h * (a &&& b) + (x &&& y) := by
  refine Nat.eq_of_testBit_eq fun i => ?_
  rw [Nat.testBit_and, Nat.testBit_two_pow_mul_add a hx, Nat.testBit_two_pow_mul_add b hy,
    Nat.testBit_two_pow_mul_add _ (Nat.and_lt_two_pow x hy), Nat.testBit_and, Nat.testBit_and]
  split_ifs
  · rfl
  · rfl

theorem or_digits (hx : x < 2 ^ h) (hy : y < 2 ^ h) :
    (2 ^ h * a + x) ||| (2 ^ h * b + y) = 2 ^ h * (a ||| b) + (x ||| y) := by
  refine Nat.eq_of_testBit_eq fun i => ?_
  rw [Nat.testBit_or, Nat.testBit_two_pow_mul_add a hx, Nat.testBit_two_pow_mul_add b hy,
    Nat.testBit_two_pow_mul_add _ (Nat.or_lt_two_pow hx hy), Nat.testBit_or, Nat.testBit_or]
  split_ifs
  · rfl
  · rfl

end Caphv.AlignedBlocks
