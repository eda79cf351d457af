import Mathlib.Data.List.AList

namespace Caphv

/-- A Go map or an object store: a finite table with one value for each key. -/
abbrev Table (κ ν : Type) := AList fun _ : κ => ν

namespace Table

variable {κ ν : Type} [DecidableEq κ]

-- Mathlib's instance is defined by rewriting, which blocks evaluation.
instance [DecidableEq ν] : DecidableEq (Table κ ν) := fun a b =>
  decidable_of_iff (a.entries = b.entries) AList.ext_iff.symm

def size (t : Table κ ν) : ℕ := t.entries.length

theorem lookup_insert_eq (t : Table κ ν) (k a : κ) (v : ν) :
    (t.insert k v).lookup a = if a = k then some v else t.lookup a := by
  by_cases h : a = k
  · subst h
    rw [if_pos rfl]
    exact AList.lookup_insert t
  · rw [if_neg h]
    exact AList.lookup_insert_ne h

theorem lookup_erase_eq (t : Table κ ν) (k a : κ) :
    (t.erase k).lookup a = if a = k then none else t.lookup a := by
  by_cases h : a = k
  · subst h
    rw [if_pos rfl]
    exact AList.lookup_erase a t
  · rw [if_neg h]
    exact AList.lookup_erase_ne h

theorem size_insert {t : Table κ ν} {k : κ} (h : t.lookup k = none) (v : ν) :
    size (t.insert k v) = size t + 1 := by
  rw [size, AList.entries_insert_of_notMem (AList.lookup_eq_none.mp h), List.length_cons, size]

theorem size_erase {t : Table κ ν} {k : κ} {v : ν} (h : t.lookup k = some v) :
    size (t.erase k) + 1 = size t := by
  have hk : k ∈ t.entries.keys := AList.lookup_isSome.mp (by rw [h]; rfl)
  obtain ⟨b, l₁, l₂, -, hl, he⟩ := List.exists_of_kerase hk
  have hentries : (t.erase k).entries = l₁ ++ l₂ := he
  rw [size, size, hentries, hl]
  simp only [List.length_append, List.length_cons]
  omega

theorem erase_of_lookup_none {t : Table κ ν} {k : κ} (h : t.lookup k = none) : t.erase k = t :=
  AList.ext (List.kerase_of_notMem_keys (AList.lookup_eq_none.mp h))

def mapValues (f : ν → ν) (t : Table κ ν) : Table κ ν :=
  ⟨t.entries.map (Sigma.map id fun _ => f), t.nodupKeys.map₂ (fun _ => f) t.entries⟩

theorem lookup_mapValues (f : ν → ν) (t : Table κ ν) (a : κ) :
    (mapValues f t).lookup a = (t.lookup a).map f := List.dlookup_map₂ a

def mapWithKey {μ : Type} (f : κ → ν → μ) (t : Table κ ν) : Table κ μ :=
  ⟨t.entries.map (Sigma.map id f), t.nodupKeys.map₂ f t.entries⟩

theorem lookup_mapWithKey {μ : Type} (f : κ → ν → μ) (t : Table κ ν) (a : κ) :
    (mapWithKey f t).lookup a = (t.lookup a).map (f a) := List.dlookup_map₂ a

/-- Reading a map that may be nil: a nil map reads as the empty one. -/
def ofNil (t : Option (Table κ ν)) : Table κ ν := t.getD ∅

omit [DecidableEq κ] in
@[simp] theorem ofNil_some (t : Table κ ν) : ofNil (some t) = t := rfl

/-- A map that JSON leaves out when it is empty. -/
def omitEmpty (t : Option (Table κ ν)) : Option (Table κ ν) :=
  t.filter fun m => !m.entries.isEmpty

omit [DecidableEq κ] in
@[simp] theorem ofNil_omitEmpty (t : Option (Table κ ν)) : ofNil (omitEmpty t) = ofNil t := by
  cases t with
  | none => rfl
  | some m =>
    cases he : m.entries with
    | nil =>
      have hm : m = ∅ := AList.ext he
      subst hm
      rfl
    | cons e rest => simp [omitEmpty, Option.filter, he]

@[simp] theorem ofNil_map_erase (t : Option (Table κ ν)) (k : κ) :
    ofNil (t.map fun m => m.erase k) = (ofNil t).erase k := by
  cases t with
  | none => rfl
  | some m => rfl

end Table

end Caphv
