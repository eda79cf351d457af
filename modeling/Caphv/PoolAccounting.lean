import Caphv.PoolStore

namespace Caphv

open Net (IP)
open Store

inductive StoreCall where
  | reserve (id : String) (ip : Option IP)
  | release (ip : Option IP)
  | releaseByID (id : String)

namespace StoreCall

def apply (st : IPPoolStatus) : StoreCall → IPPoolStatus
  | reserve id ip => (Store.reserve st id ip).2
  | release ip => Store.release st ip
  | releaseByID id => Store.releaseByID st id

def run (st : IPPoolStatus) (calls : List StoreCall) : IPPoolStatus := calls.foldl apply st

@[simp] theorem run_nil (st : IPPoolStatus) : run st [] = st := rfl

@[simp] theorem run_cons (st : IPPoolStatus) (c : StoreCall) (calls : List StoreCall) :
    run st (c :: calls) = run (c.apply st) calls := rfl

def Along (P : IPPoolStatus → StoreCall → Prop) : IPPoolStatus → List StoreCall → Prop
  | _, [] => True
  | st, c :: calls => P st c ∧ Along P (c.apply st) calls

end StoreCall

/-- The counter agrees with the allocation map for the capacity `C`, as machine integers. -/
def Accounts (C : Int64) (st : IPPoolStatus) : Prop := st.available = C - Int64.ofNat st.count

instance (C : Int64) (st : IPPoolStatus) : Decidable (Accounts C st) :=
  inferInstanceAs (Decidable (_ = _))

/-- The id that held `a` immediately before the last call that freed it. -/
def lastHolder (a : String) : IPPoolStatus → List StoreCall → Option String
  | _, [] => none
  | st, c :: calls =>
    (lastHolder a (c.apply st) calls).or
      (if (c.apply st).holder a = none then st.holder a else none)

/-- `Release` does nothing when its address is not allocated. -/
def IdleRelease (st : IPPoolStatus) : StoreCall → Prop
  | .release ip => st.holder (ipString ip) = none → release st ip = st
  | _ => True

/-- The accounting of a pool over a sequence of calls: the counter is right at the end, a
release of a free address changes nothing, and the history names the last holder. -/
structure PoolAccounting (C : Int64) (st : IPPoolStatus) (calls : List StoreCall) : Prop where
  capacity : Accounts C (StoreCall.run st calls)
  idle : StoreCall.Along IdleRelease st calls
  history : ∀ a, (StoreCall.run st calls).history a = (lastHolder a st calls).or (st.history a)

/-- A release of an address that is held, or on a pool that never allocated. -/
def HeldRelease (st : IPPoolStatus) : StoreCall → Prop
  | .release ip => st.allocated = none ∨ st.holder (ipString ip) ≠ none
  | _ => True

instance (st : IPPoolStatus) : DecidablePred (HeldRelease st) := fun e => by
  unfold HeldRelease
  casesm StoreCall <;> infer_instance

instance StoreCall.Along.decidable {P : IPPoolStatus → StoreCall → Prop}
    [∀ st c, Decidable (P st c)] : (st : IPPoolStatus) → (calls : List StoreCall) →
      Decidable (Along P st calls)
  | _, [] => isTrue trivial
  | st, c :: calls =>
    have : Decidable (Along P (c.apply st) calls) := decidable (c.apply st) calls
    inferInstanceAs (Decidable (_ ∧ _))

theorem Accounts.free {C : Int64} {st : IPPoolStatus} (h : Accounts C st) {k v : String}
    (hk : st.holder k = some v) (applicant : String) : Accounts C (free st k applicant) := by
  have hc := count_free_of_held hk applicant
  have hsucc : Int64.ofNat st.count = Int64.ofNat (Store.free st k applicant).count + 1 := by
    rw [← hc, Int64.ofNat_add]
    rfl
  have hav : (Store.free st k applicant).available = st.available + 1 := rfl
  simp only [Accounts, hsucc] at h ⊢
  rw [hav, h]
  grind

theorem Accounts.reserve {C : Int64} {st : IPPoolStatus} (h : Accounts C st) (id : String)
    (ip : Option IP) : Accounts C (reserve st id ip).2 := by
  by_cases hk : st.holder (ipString ip) = none
  · simp only [Accounts, available_reserve, if_pos hk, count_reserve st id ip hk] at h ⊢
    rw [h, Int64.ofNat_add]
    grind
  · have hst : (Store.reserve st id ip).2 = st := by
      simp [Store.reserve, Option.isSome_iff_ne_none, hk]
    rwa [hst]

/-- The loop of `releaseByID` over entries that are all held. -/
theorem foldl_free_spec (id : String) (l : List (Sigma fun _ : String => String)) (hl : l.NodupKeys)
    (st : IPPoolStatus) (hst : ∀ e ∈ l, st.holder e.1 = some e.2) :
    let st' := l.foldl (fun st e => if e.2 = id then free st e.1 e.2 else st) st
    (∀ a, st'.holder a = if ⟨a, id⟩ ∈ l then none else st.holder a) ∧
      (∀ a, st'.history a = if ⟨a, id⟩ ∈ l then some id else st.history a) ∧
      ∀ C, Accounts C st → Accounts C st' := by
  induction l generalizing st with
  | nil => simp
  | cons e l ih =>
    obtain ⟨k, v⟩ := e
    have hk : k ∉ l.keys := List.notMem_keys_of_nodupKeys_cons hl
    have hnot : ∀ u, (⟨k, u⟩ : Sigma fun _ : String => String) ∉ l := fun u hu =>
      hk (List.mem_keys_of_mem hu)
    have htail : ∀ st' : IPPoolStatus, (∀ a, a ≠ k → st'.holder a = st.holder a) →
        ∀ e ∈ l, st'.holder e.1 = some e.2 := by
      intro st' hst' e he
      have hne : e.1 ≠ k := fun h => hnot e.2 (h ▸ he)
      rw [hst' _ hne]
      exact hst e (List.mem_cons_of_mem _ he)
    by_cases hv : v = id
    · subst hv
      obtain ⟨h1, h2, h3⟩ := ih (List.nodupKeys_of_nodupKeys_cons hl) (free st k v)
        (htail _ fun a ha => by rw [holder_free, if_neg ha])
      simp only [List.foldl_cons, if_pos]
      refine ⟨fun a => ?_, fun a => ?_, fun C hC => h3 C (hC.free (hst ⟨k, v⟩ (by simp)) v)⟩
      · rw [h1, holder_free]
        by_cases ha : a = k
        · subst ha
          simp
        · simp [ha]
      · rw [h2, history_free]
        by_cases ha : a = k
        · subst ha
          simp
        · simp [ha]
    · obtain ⟨h1, h2, h3⟩ := ih (List.nodupKeys_of_nodupKeys_cons hl) st (htail _ fun _ _ => rfl)
      have hcons : ∀ a, (⟨a, id⟩ : Sigma fun _ : String => String) ∈ ⟨k, v⟩ :: l ↔ ⟨a, id⟩ ∈ l := by
        intro a
        simp [Ne.symm hv]
      simp only [List.foldl_cons, if_neg hv, hcons]
      exact ⟨h1, h2, h3⟩

section Calls

variable (st : IPPoolStatus) (a id : String)

theorem mem_allocated_iff {m : Table String String} (hm : st.allocated = some m) :
    ⟨a, id⟩ ∈ m.entries ↔ st.holder a = some id := by
  rw [IPPoolStatus.holder, hm, Table.ofNil_some]
  exact AList.mem_lookup_iff.symm

theorem holder_releaseByID :
    (releaseByID st id).holder a = if st.holder a = some id then none else st.holder a := by
  cases hm : st.allocated with
  | none =>
    have ha : st.holder a = none := by rw [IPPoolStatus.holder, hm]; rfl
    simp [releaseByID, hm, ha]
  | some m =>
    have hspec := foldl_free_spec id m.entries m.nodupKeys st
      fun e he => (mem_allocated_iff st e.1 e.2 hm).mp he
    simp only [releaseByID, hm, hspec.1, mem_allocated_iff st a id hm]

theorem history_releaseByID :
    (releaseByID st id).history a = if st.holder a = some id then some id else st.history a := by
  cases hm : st.allocated with
  | none =>
    have ha : st.holder a = none := by rw [IPPoolStatus.holder, hm]; rfl
    simp [releaseByID, hm, ha]
  | some m =>
    have hspec := foldl_free_spec id m.entries m.nodupKeys st
      fun e he => (mem_allocated_iff st e.1 e.2 hm).mp he
    simp only [releaseByID, hm, hspec.2.1, mem_allocated_iff st a id hm]

theorem Accounts.releaseByID {C : Int64} {st : IPPoolStatus} (h : Accounts C st) (id : String) :
    Accounts C (releaseByID st id) := by
  cases hm : st.allocated with
  | none => simpa [Store.releaseByID, hm] using h
  | some m =>
    have hspec := foldl_free_spec id m.entries m.nodupKeys st
      fun e he => (mem_allocated_iff st e.1 e.2 hm).mp he
    simpa only [Store.releaseByID, hm] using hspec.2.2 C h

end Calls

/-- Releasing an address that is not held counts it as available all the same. -/
theorem idleRelease_iff_heldRelease (st : IPPoolStatus) (c : StoreCall) :
    IdleRelease st c ↔ HeldRelease st c := by
  cases c with
  | release ip =>
    simp only [IdleRelease, HeldRelease]
    constructor
    · intro hidle
      by_contra hheld
      push Not at hheld
      obtain ⟨hnil, hfree⟩ := hheld
      have hav := congrArg IPPoolStatus.available (hidle hfree)
      simp only [release, if_neg hnil, free] at hav
      grind
    · rintro (hnil | hheld) hfree
      · simp [release, hnil]
      · exact absurd hfree hheld
  | reserve id ip => exact Iff.rfl
  | releaseByID id => exact Iff.rfl

theorem Accounts.apply {C : Int64} {st : IPPoolStatus} (h : Accounts C st) {c : StoreCall}
    (hc : HeldRelease st c) : Accounts C (c.apply st) := by
  cases c with
  | reserve id ip => exact h.reserve id ip
  | releaseByID id => exact h.releaseByID id
  | release ip =>
    simp only [StoreCall.apply, release]
    split_ifs with hnil
    · exact h
    · obtain ⟨v, hv⟩ := Option.ne_none_iff_exists'.mp (hc.resolve_left hnil)
      exact h.free hv _

/-- A call writes to the history exactly the holders of the addresses it frees. -/
theorem history_apply {st : IPPoolStatus} {c : StoreCall} (hc : HeldRelease st c) (a : String) :
    (c.apply st).history a =
      (if (c.apply st).holder a = none then st.holder a else none).or (st.history a) := by
  cases c with
  | reserve id ip =>
    simp only [StoreCall.apply, history_reserve, holder_reserve]
    have hkeep : (if (if a = ipString ip ∧ st.holder (ipString ip) = none then some id
        else st.holder a) = none then st.holder a else none) = none := by
      split_ifs <;> simp_all
    rw [hkeep, Option.none_or]
  | releaseByID id =>
    simp only [StoreCall.apply, history_releaseByID, holder_releaseByID]
    cases ha : st.holder a with
    | none => simp
    | some v =>
      by_cases hv : v = id
      · simp [hv]
      · simp [hv]
  | release ip =>
    by_cases hnil : st.allocated = none
    · have ha : st.holder a = none := by rw [IPPoolStatus.holder, hnil]; rfl
      simp [StoreCall.apply, release, hnil, ha]
    · obtain ⟨v, hv⟩ := Option.ne_none_iff_exists'.mp (hc.resolve_left hnil)
      simp only [StoreCall.apply, release, if_neg hnil, hv, history_free, holder_free]
      by_cases ha : a = ipString ip
      · simp [ha, hv]
      · cases h : st.holder a with
        | none => simp [ha]
        | some u => simp [ha]

theorem StoreCall.Along.accounts {C : Int64} {st : IPPoolStatus} {calls : List StoreCall}
    (hc : Along HeldRelease st calls) (h : Accounts C st) : Accounts C (run st calls) := by
  induction calls generalizing st with
  | nil => exact h
  | cons c calls ih => exact ih hc.2 (h.apply hc.1)

theorem StoreCall.Along.history {st : IPPoolStatus} {calls : List StoreCall}
    (hc : Along HeldRelease st calls) (a : String) :
    (run st calls).history a = (lastHolder a st calls).or (st.history a) := by
  induction calls generalizing st with
  | nil => rfl
  | cons c calls ih =>
    rw [run_cons, ih hc.2, history_apply hc.1, lastHolder, Option.or_assoc]

/-- The accounting of a pool holds over a sequence of calls if and only if no call of the
sequence releases an address that is free. -/
theorem poolAccounting_iff {C : Int64} {st : IPPoolStatus} (h : Accounts C st)
    (calls : List StoreCall) :
    PoolAccounting C st calls ↔ StoreCall.Along HeldRelease st calls := by
  have hidle : IdleRelease = HeldRelease := by
    funext st c
    exact propext (idleRelease_iff_heldRelease st c)
  constructor
  · intro hp
    rw [← hidle]
    exact hp.idle
  · intro hc
    exact ⟨hc.accounts h, hidle ▸ hc, hc.history⟩

section Sample

def twoAddressPool : IPPoolStatus where
  available := 1
  lastAllocated := "10.0.0.1"
  allocated := some (AList.insert "10.0.0.1" "ns/a" ∅)
  allocatedHistory := none

theorem poolAccounting_sample :
    PoolAccounting 2 twoAddressPool
      [.releaseByID "ns/a", .reserve "ns/b" (some ⟨[10, 0, 0, 2], by decide⟩),
        .release (some ⟨[10, 0, 0, 2], by decide⟩)] :=
  (poolAccounting_iff (by decide +kernel) _).mpr (by decide +kernel)

/-- Releasing the free address `10.0.0.2` leaves two available addresses next to a held one
in a pool of two, and an empty holder in the history. -/
theorem release_of_free_address_counts :
    Accounts 2 twoAddressPool ∧
      ¬ PoolAccounting 2 twoAddressPool [.release (some ⟨[10, 0, 0, 2], by decide⟩)] := by
  refine ⟨by decide +kernel, fun h => ?_⟩
  exact absurd h.capacity (by decide +kernel)

end Sample

end Caphv
