import Caphv.ControllerRuntime
import Caphv.Prog

namespace Caphv

namespace Conditions

theorem changed_self (cs : Conditions) : cs.changed cs = [] :=
  List.filter_eq_nil_iff.mpr fun t _ => by simp

/-- A merge on the version that the changes were made from never conflicts. -/
theorem exists_merge (before after : Conditions) : ∃ cs, merge before after before = some cs := by
  have gen : ∀ (ts : List String) (latest : Conditions), ts.Nodup →
      (∀ t ∈ ts, latest.lookup t = before.lookup t) →
        ∃ cs, ts.foldlM (mergeOne before after) latest = some cs := by
    intro ts
    induction ts with
    | nil => exact fun latest _ _ => ⟨latest, rfl⟩
    | cons t ts ih =>
      intro latest hnd hsame
      have hone : ∃ cs, mergeOne before after latest t = some cs := by
        unfold mergeOne
        rw [if_pos (hsame t List.mem_cons_self)]
        split_ifs <;> exact ⟨_, rfl⟩
      obtain ⟨cs, hcs⟩ := hone
      rw [List.foldlM_cons, hcs]
      refine ih cs hnd.of_cons fun t' ht' => ?_
      have hne : t' ≠ t := fun heq => hnd.notMem (heq ▸ ht')
      rw [lookup_mergeOne hcs, if_neg hne]
      exact hsame t' (List.mem_cons_of_mem t ht')
  exact gen _ before ((List.nodup_dedup _).filter _) fun _ _ => rfl

end Conditions

/-- One table of objects among all that a world holds. -/
structure TableIn (W κ ν : Type) [DecidableEq κ] where
  table : W → Table κ ν
  put : W → Table κ ν → W
  put_table : ∀ w, put w (table w) = w
  table_put : ∀ w t, table (put w t) = t
  put_put : ∀ w t t', put (put w t) t' = put w t'

namespace TableIn

variable {W κ ν : Type} [DecidableEq κ]

/-- Nothing but the entry of `k` may have changed. -/
structure Written (L : TableIn W κ ν) (k : κ) (w : W) (entry : Option ν) (w' : W) : Prop where
  rest : w' = L.put w (L.table w')
  entries : ∀ j, (L.table w').lookup j = if j = k then entry else (L.table w).lookup j

section Written

variable {L : TableIn W κ ν} {k : κ} {w w' w'' : W} {entry entry' : Option ν}

theorem Written.refl (h : (L.table w).lookup k = entry) : L.Written k w entry w := by
  refine ⟨(L.put_table w).symm, fun j => ?_⟩
  split_ifs with hj
  · rw [hj, h]
  · rfl

theorem Written.insert (L : TableIn W κ ν) (w : W) (v : ν) :
    L.Written k w (some v) (L.put w ((L.table w).insert k v)) := by
  refine ⟨by rw [L.table_put], fun j => ?_⟩
  rw [L.table_put, Table.lookup_insert_eq]

theorem Written.erase (L : TableIn W κ ν) (w : W) :
    L.Written k w none (L.put w ((L.table w).erase k)) := by
  refine ⟨by rw [L.table_put], fun j => ?_⟩
  rw [L.table_put, Table.lookup_erase_eq]

theorem Written.lookup (h : L.Written k w entry w') : (L.table w').lookup k = entry := by
  rw [h.entries, if_pos rfl]

theorem Written.trans (h : L.Written k w entry w') (h' : L.Written k w' entry' w'') :
    L.Written k w entry' w'' := by
  refine ⟨?_, fun j => ?_⟩
  · rw [h'.rest, h.rest, L.put_put, L.table_put]
  · rw [h'.entries, h.entries]
    split_ifs <;> rfl

end Written

section Sends

variable {Req : Type} {Resp : Req → Type}

/-- Served by `S`, a part of a patch reports no error and leaves `entry` under `k`. -/
def Sends (L : TableIn W κ ν) (S : W → (r : Req) → Resp r × W) (k : κ) (w : W)
    (p : Prog Req Resp (Option String)) (entry : Option ν) : Prop :=
  ∃ w', Prog.serve S w p = (none, w') ∧ L.Written k w entry w'

variable {L : TableIn W κ ν} {S : W → (r : Req) → Resp r × W} {k : κ} {w : W}
  {entry entry' : Option ν} {same : Prop} [Decidable same]
  {ask : Prog Req Resp (Except ApiError Unit)}
  {f : Except ApiError Unit → Prog Req Resp (Option String)}

/-- A part is sent unless it changes nothing. -/
theorem sends_unless (hsame : same → (L.table w).lookup k = entry) (hf : f (.ok ()) = pure none)
    (hask : ¬ same → ∃ w', Prog.serve S w ask = (.ok (), w') ∧ L.Written k w entry w') :
    L.Sends S k w (if same then pure none else ask >>= f) entry := by
  split_ifs with h
  · exact ⟨w, rfl, .refl (hsame h)⟩
  · obtain ⟨w', hserve, hw'⟩ := hask h
    refine ⟨w', (Prog.serve_bind _ _ _).trans ?_, hw'⟩
    rw [hserve, hf]
    rfl

/-- The patch of the conditions, on the version that they were read from. -/
theorem sends_conditions {before after : Conditions} (put : Conditions → ν)
    (hold : (L.table w).lookup k = some (put before))
    (hask : ∀ cs, Conditions.merge before after before = some cs →
      Prog.serve S w ask = (.ok (), L.put w ((L.table w).insert k (put cs)))) :
    ∃ cs, (∀ type, cs.lookup type = after.lookup type) ∧ (after = before → cs = before) ∧
      L.Sends S k w (if Conditions.changed before after = [] then pure none
        else ask >>= fun out => pure (errorOf out)) (some (put cs)) := by
  by_cases hsame : Conditions.changed before after = []
  · refine ⟨before, fun type => ?_, fun _ => rfl, ?_⟩
    · by_contra hne
      exact List.not_mem_nil (hsame ▸ Conditions.mem_changed.mpr hne)
    · rw [if_pos hsame]
      exact ⟨w, rfl, .refl hold⟩
  · obtain ⟨cs, hcs⟩ := Conditions.exists_merge before after
    refine ⟨cs, fun type => ?_, fun heq => ?_, ?_⟩
    · rw [Conditions.lookup_merge hcs]
      split_ifs with heq
      · exact heq
      · rfl
    · exact absurd (heq ▸ Conditions.changed_self _) hsame
    · exact sends_unless (fun h => absurd h hsame) rfl fun _ => ⟨_, hask cs hcs, .insert L w _⟩

/-- The patch of the status of an object that went away. -/
theorem sends_missing (hold : (L.table w).lookup k = none)
    (hask : Prog.serve S w ask = (.error .notFound, w)) (hf : f (.error .notFound) = pure none) :
    L.Sends S k w (if same then pure none else ask >>= f) none := by
  split_ifs
  · exact ⟨w, rfl, .refl hold⟩
  · refine ⟨w, (Prog.serve_bind _ _ _).trans ?_, .refl hold⟩
    rw [hask, hf]
    rfl

/-- The three parts of a patch, one after the other. -/
theorem Sends.parts {p₁ p₂ p₃ : Prog Req Resp (Option String)} {v : ν}
    (h₁ : L.Sends S k w p₁ (some v))
    (h₂ : ∀ w₁, (L.table w₁).lookup k = some v → L.Sends S k w₁ p₂ entry)
    (h₃ : ∀ w₂, (L.table w₂).lookup k = entry → L.Sends S k w₂ p₃ entry') :
    L.Sends S k w (do
      let e₁ ← p₁
      let e₂ ← p₂
      let e₃ ← p₃
      pure (e₁.or (e₂.or e₃))) entry' := by
  obtain ⟨w₁, hserve₁, hw₁⟩ := h₁
  obtain ⟨w₂, hserve₂, hw₂⟩ := h₂ w₁ hw₁.lookup
  obtain ⟨w₃, hserve₃, hw₃⟩ := h₃ w₂ hw₂.lookup
  refine ⟨w₃, ?_, (hw₁.trans hw₂).trans hw₃⟩
  refine (Prog.serve_bind _ _ _).trans ?_
  rw [hserve₁]
  refine (Prog.serve_bind _ _ _).trans ?_
  rw [hserve₂]
  refine (Prog.serve_bind _ _ _).trans ?_
  rw [hserve₃]
  rfl

end Sends

end TableIn

end Caphv
