import Caphv.Table

namespace Caphv

/-- How the version of a stored object is read, and the content that a version stands for. -/
structure Versioning (ν ω : Type) where
  version : ν → ℕ
  content : ν → ω

namespace Versioning

variable {κ ν ω : Type} [DecidableEq κ] (V : Versioning ν ω) {t t' t'' : Table κ ν} {n : κ}
  {x y : ν}

/-- The object is as old as `x` or newer, with the content of `x` if it has the version of `x`. -/
structure Follows (x y : ν) : Prop where
  version : V.version x ≤ V.version y
  content : V.version x = V.version y → V.content y = V.content x

/-- What was read under the key `n` is still stored there, or something newer is. -/
def Read (t : Table κ ν) (n : κ) (x : ν) : Prop := ∃ y, t.lookup n = some y ∧ V.Follows x y

/-- No object goes away, and a new content comes with a new version. -/
def Advances (t t' : Table κ ν) : Prop := ∀ n x, t.lookup n = some x → V.Read t' n x

variable {V}

theorem Follows.refl (x : ν) : V.Follows x x := ⟨le_rfl, fun _ => rfl⟩

theorem Follows.of_lt (h : V.version x < V.version y) : V.Follows x y :=
  ⟨Nat.le_of_lt h, fun heq => absurd heq (Nat.ne_of_lt h)⟩

theorem Follows.trans {z : ν} (h : V.Follows x y) (h' : V.Follows y z) : V.Follows x z := by
  have hxy := h.version
  have hyz := h'.version
  refine ⟨by omega, fun heq => ?_⟩
  rw [h'.content (by omega), h.content (by omega)]

theorem Read.of_lookup (h : t.lookup n = some x) : V.Read t n x := ⟨x, h, .refl x⟩

/-- An update that is accepted under the version that was read replaces the content that was
read. -/
theorem Read.content_eq (h : V.Read t n x) (hy : t.lookup n = some y)
    (hv : V.version y = V.version x) : V.content y = V.content x := by
  obtain ⟨z, hz, hfollows⟩ := h
  obtain rfl := Option.some.inj (hy.symm.trans hz)
  exact hfollows.content hv.symm

theorem Read.advance (h : V.Read t n x) (ht : V.Advances t t') : V.Read t' n x := by
  obtain ⟨y, hy, hxy⟩ := h
  obtain ⟨z, hz, hyz⟩ := ht n y hy
  exact ⟨z, hz, hxy.trans hyz⟩

theorem Advances.refl (t : Table κ ν) : V.Advances t t := fun _ _ h => .of_lookup h

theorem Advances.of_lookup_eq (h : ∀ n, t'.lookup n = t.lookup n) : V.Advances t t' :=
  fun n _ hx => .of_lookup ((h n).trans hx)

/-- One object was created. -/
theorem Advances.create (habsent : t.lookup n = none)
    (hlookup : ∀ m, t'.lookup m = if m = n then some y else t.lookup m) : V.Advances t t' := by
  intro m x hx
  have hm : m ≠ n := by
    rintro rfl
    rw [habsent] at hx
    cases hx
  exact .of_lookup ((hlookup m).trans ((if_neg hm).trans hx))

/-- One object was replaced by one that follows it. -/
theorem Advances.replace (hs : t.lookup n = some x)
    (hlookup : ∀ m, t'.lookup m = if m = n then some y else t.lookup m) (h : V.Follows x y) :
    V.Advances t t' := by
  intro m z hz
  by_cases hm : m = n
  · subst hm
    obtain rfl := Option.some.inj (hs.symm.trans hz)
    exact ⟨y, (hlookup m).trans (if_pos rfl), h⟩
  · exact .of_lookup ((hlookup m).trans ((if_neg hm).trans hz))

end Versioning

end Caphv
