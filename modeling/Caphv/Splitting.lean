import Mathlib.Data.List.Basic

/-! A list is put together from parts with a mark between them or after each of them. These lemmas
say when the parts can be read back. -/

namespace Caphv.Splitting

variable {α : Type}

/-- A run of elements with a property ends at the first one without it, so the run and what
follows it can be told from the whole. -/
theorem append_inj_of_run {p : α → Prop} {a b r s : List α} (ha : ∀ x ∈ a, p x)
    (hb : ∀ x ∈ b, p x) (hr : ∀ x ∈ r.head?, ¬ p x) (hs : ∀ x ∈ s.head?, ¬ p x)
    (h : a ++ r = b ++ s) : a = b ∧ r = s := by
  induction a generalizing b with
  | nil =>
    cases b with
    | nil => exact ⟨rfl, h⟩
    | cons y b =>
      have hy : y ∈ r.head? := by
        rw [List.nil_append] at h
        rw [h]
        rfl
      exact absurd (hb y List.mem_cons_self) (hr y hy)
  | cons x a ih =>
    cases b with
    | nil =>
      have hx : x ∈ s.head? := by
        rw [List.nil_append] at h
        rw [← h]
        rfl
      exact absurd (ha x List.mem_cons_self) (hs x hx)
    | cons y b =>
      obtain ⟨rfl, htail⟩ := List.cons.inj h
      obtain ⟨rfl, hrs⟩ := ih (fun z hz => ha z (List.mem_cons_of_mem _ hz))
        (fun z hz => hb z (List.mem_cons_of_mem _ hz)) htail
      exact ⟨rfl, hrs⟩

/-- The first mark divides a list in one way. -/
theorem append_mark_inj {c : α} {a b r s : List α} (ha : c ∉ a) (hb : c ∉ b)
    (h : a ++ c :: r = b ++ c :: s) : a = b ∧ r = s := by
  have hmark : ∀ (l : List α) (x : α), x ∈ (c :: l).head? → ¬ x ≠ c :=
    fun _ _ hx => not_not.mpr (Option.some.inj hx).symm
  obtain ⟨hab, hrs⟩ := append_inj_of_run (p := (· ≠ c)) (fun x hx hc => ha (hc ▸ hx))
    (fun x hx hc => hb (hc ▸ hx)) (hmark r) (hmark s) h
  exact ⟨hab, (List.cons.inj hrs).2⟩

/-- Two divisions at a mark are of one list if they are the same, or if the first part of one goes
on with a mark behind the first part of the other. -/
theorem append_mark_eq_iff {c : α} {a b r s : List α} :
    a ++ c :: r = b ++ c :: s ↔ a = b ∧ r = s ∨ (∃ x, b = a ++ c :: x ∧ r = x ++ c :: s) ∨
      ∃ x, a = b ++ c :: x ∧ s = x ++ c :: r := by
  constructor
  · intro h
    rcases List.append_eq_append_iff.mp h with ⟨m, hb, hm⟩ | ⟨m, ha, hm⟩
    · cases m with
      | nil => exact Or.inl ⟨by rw [hb, List.append_nil], (List.cons.inj hm).2⟩
      | cons y m =>
        obtain ⟨rfl, hr⟩ := List.cons.inj hm
        exact Or.inr (Or.inl ⟨m, hb, hr⟩)
    · cases m with
      | nil => exact Or.inl ⟨by rw [ha, List.append_nil], (List.cons.inj hm).2.symm⟩
      | cons y m =>
        obtain ⟨rfl, hs⟩ := List.cons.inj hm
        exact Or.inr (Or.inr ⟨m, ha, hs⟩)
  · rintro (⟨rfl, rfl⟩ | ⟨x, rfl, rfl⟩ | ⟨x, rfl, rfl⟩)
    · rfl
    · rw [List.append_assoc, List.cons_append]
    · rw [List.append_assoc, List.cons_append]

/-- So does the last one; any other division puts its mark further to the front. -/
theorem append_last_mark {c : α} {a b r s : List α} (hr : c ∉ r)
    (h : a ++ c :: r = b ++ c :: s) : a = b ∧ r = s ∨ b ++ [c] <+: a := by
  rcases List.append_eq_append_iff.mp h with ⟨m, hb, hm⟩ | ⟨m, ha, hm⟩
  · cases m with
    | nil =>
      rw [List.append_nil] at hb
      exact Or.inl ⟨hb.symm, (List.cons.inj hm).2⟩
    | cons y m =>
      -- The mark of the second division would stand in `r`.
      have hmem : c ∈ r := by
        rw [(List.cons.inj hm).2]
        exact List.mem_append_right _ List.mem_cons_self
      exact absurd hmem hr
  · cases m with
    | nil =>
      rw [List.append_nil] at ha
      exact Or.inl ⟨ha, (List.cons.inj hm).2.symm⟩
    | cons y m =>
      refine Or.inr ⟨m, ?_⟩
      rw [ha, ← (List.cons.inj hm).1, List.append_assoc]
      rfl

def endEach (c : α) (parts : List (List α)) : List α := parts.flatMap fun part => part ++ [c]

@[simp] theorem endEach_nil (c : α) : endEach c [] = [] := rfl

@[simp] theorem endEach_cons (c : α) (part : List α) (parts : List (List α)) :
    endEach c (part :: parts) = part ++ c :: endEach c parts := by
  simp [endEach]

/-- Parts without the mark can be read back. -/
theorem endEach_inj {c : α} {ps qs : List (List α)} (hp : ∀ part ∈ ps, c ∉ part)
    (hq : ∀ part ∈ qs, c ∉ part) (h : endEach c ps = endEach c qs) : ps = qs := by
  induction ps generalizing qs with
  | nil =>
    cases qs with
    | nil => rfl
    | cons q qs => simp at h
  | cons part ps ih =>
    cases qs with
    | nil => simp at h
    | cons q qs =>
      rw [endEach_cons, endEach_cons] at h
      obtain ⟨rfl, hrest⟩ :=
        append_mark_inj (hp part List.mem_cons_self) (hq q List.mem_cons_self) h
      rw [ih (fun l hl => hp l (List.mem_cons_of_mem _ hl))
        (fun l hl => hq l (List.mem_cons_of_mem _ hl)) hrest]

/-- A number is written with digits only. -/
theorem notMem_toString {c : Char} (hc : c.isDigit = false) (i : ℕ) : c ∉ (toString i).toList := by
  intro h
  rw [Nat.toString_eq_repr, Nat.toList_repr] at h
  rw [Nat.isDigit_of_mem_toDigits (by decide) (by decide) h] at hc
  cases hc

theorem toString_inj {i j : ℕ} (h : toString i = toString j) : i = j := by
  have hdigits : Nat.toDigits 10 i = Nat.toDigits 10 j := by
    rw [← Nat.toList_repr, ← Nat.toList_repr, ← Nat.toString_eq_repr, h, Nat.toString_eq_repr]
  rw [← @Nat.ofDigitChars_ten_toDigits i, hdigits, Nat.ofDigitChars_ten_toDigits]

theorem toString_ne_nil (i : ℕ) : (toString i).toList ≠ [] := by
  rw [Nat.toString_eq_repr, Nat.toList_repr]
  exact Nat.toDigits_ne_nil

end Caphv.Splitting
