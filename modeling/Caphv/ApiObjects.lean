import Mathlib.Data.List.Dedup
import Mathlib.Tactic.Common
import Caphv.Splitting
import Caphv.Table

namespace Caphv

/-- Errors of an API call, as far as the controllers tell them apart. -/
inductive ApiError where
  | notFound
  | alreadyExists
  | conflict
  | other (msg : String)
  deriving DecidableEq

namespace ApiError

def isNotFound : ApiError → Bool
  | notFound => true
  | _ => false

def isAlreadyExists : ApiError → Bool
  | alreadyExists => true
  | _ => false

def message : ApiError → String
  | notFound => "not found"
  | alreadyExists => "already exists"
  | conflict => "the object has been modified"
  | other msg => msg

end ApiError

/-- Namespace and name of an object of the management cluster; the API server admits no
slash in either. -/
structure ObjectKey where
  ns : String
  name : String
  noSlash : '/' ∉ ns.toList ∧ '/' ∉ name.toList
  deriving DecidableEq

/-- `machine.Namespace + "/" + machine.Name`, the id under which addresses are held. -/
def ObjectKey.id (k : ObjectKey) : String := k.ns ++ "/" ++ k.name

theorem ObjectKey.id_injective : Function.Injective ObjectKey.id := by
  intro k₁ k₂ h
  have hl : k₁.ns.toList ++ '/' :: k₁.name.toList =
      k₂.ns.toList ++ '/' :: k₂.name.toList := by
    have := congrArg String.toList h
    simpa [ObjectKey.id] using this
  obtain ⟨hns, hn⟩ := Splitting.append_mark_inj k₁.noSlash.1 k₂.noSlash.1 hl
  rw [ObjectKey.mk.injEq]
  exact ⟨String.toList_inj.mp hns, String.toList_inj.mp hn⟩

structure NamespacedName where
  ns : String
  name : String
  deriving DecidableEq, Inhabited

inductive ConditionStatus where
  | true_
  | false_
  | unknown
  deriving DecidableEq

/-- `metav1.Condition` without its type, which is the key it is stored under, and without
the transition time. -/
structure Condition where
  status : ConditionStatus
  reason : String
  message : String
  deriving DecidableEq

abbrev Conditions := Table String Condition

namespace Conditions

def set (cs : Conditions) (type : String) (c : Condition) : Conditions :=
  if cs.lookup type = some c then cs else cs.insert type c

def delete (cs : Conditions) (type : String) : Conditions := cs.erase type

def isTrue (cs : Conditions) (type : String) : Bool :=
  (cs.lookup type).any fun c => c.status = .true_

theorem lookup_set (cs : Conditions) (type a : String) (c : Condition) :
    (cs.set type c).lookup a = if a = type then some c else cs.lookup a := by
  rw [set]
  split_ifs with h ha ha
  · rw [ha, h]
  · rfl
  · rw [Table.lookup_insert_eq, if_pos ha]
  · rw [Table.lookup_insert_eq, if_neg ha]

theorem isTrue_iff (cs : Conditions) (type : String) :
    cs.isTrue type = true ↔ ∃ c, cs.lookup type = some c ∧ c.status = .true_ := by
  simp [isTrue, Option.any_eq_true]

theorem isTrue_lookup {cs cs' : Conditions} {type : String}
    (h : cs'.lookup type = cs.lookup type) : cs'.isTrue type = cs.isTrue type := by
  simp only [isTrue, h]

def changed (before after : Conditions) : List String :=
  (before.keys ++ after.keys).dedup.filter fun t => before.lookup t ≠ after.lookup t

/-- One entry of the condition patch on the latest object: nothing to do when it already
has the new state, `none` (a merge conflict) when someone else moved it. -/
def mergeOne (before after latest : Conditions) (t : String) : Option Conditions :=
  if latest.lookup t = after.lookup t then some latest
  else if latest.lookup t = before.lookup t then
    some (match after.lookup t with
      | some c => latest.insert t c
      | none => latest.erase t)
  else none

/-- The three-way merge of the patch helper: the changes from `before` to `after`, on
whatever is stored now. -/
def merge (before after latest : Conditions) : Option Conditions :=
  (changed before after).foldlM (mergeOne before after) latest

theorem mem_changed {before after : Conditions} {t : String} :
    t ∈ changed before after ↔ before.lookup t ≠ after.lookup t := by
  simp only [changed, List.mem_filter, List.mem_dedup, List.mem_append, decide_eq_true_eq,
    and_iff_right_iff_imp]
  intro h
  by_contra hmem
  push Not at hmem
  exact h ((AList.lookup_eq_none.mpr hmem.1).trans (AList.lookup_eq_none.mpr hmem.2).symm)

theorem lookup_mergeOne {before after latest m : Conditions} {t : String}
    (h : mergeOne before after latest t = some m) (a : String) :
    m.lookup a = if a = t then after.lookup t else latest.lookup a := by
  unfold mergeOne at h
  split_ifs at h with h₁ h₂
  · obtain rfl := Option.some_inj.mp h
    split_ifs with ha
    · rw [ha, h₁]
    · rfl
  · obtain rfl := Option.some_inj.mp h
    cases hc : after.lookup t with
    | some c => exact Table.lookup_insert_eq latest t a c
    | none => exact Table.lookup_erase_eq latest t a

/-- A successful merge takes the new state of every condition this writer changed and
leaves every other condition as it is stored. -/
theorem lookup_merge {before after latest m : Conditions}
    (h : merge before after latest = some m) (a : String) :
    m.lookup a =
      if before.lookup a = after.lookup a then latest.lookup a else after.lookup a := by
  have gen : ∀ (ts : List String) (latest : Conditions),
      ts.foldlM (mergeOne before after) latest = some m →
        m.lookup a = if a ∈ ts then after.lookup a else latest.lookup a := by
    intro ts
    induction ts with
    | nil =>
      intro latest h
      obtain rfl := Option.some_inj.mp h
      rfl
    | cons t ts ih =>
      intro latest h
      rw [List.foldlM_cons] at h
      obtain ⟨m', h₁, h₂⟩ := Option.bind_eq_some_iff.mp h
      rw [ih m' h₂, lookup_mergeOne h₁]
      by_cases ha : a = t
      · subst ha
        simp
      · simp [ha]
  rw [gen _ _ h]
  simp only [mem_changed, ne_eq, ite_not]

theorem changed_set {cs : Conditions} {type : String} {c : Condition}
    (h : cs.lookup type ≠ some c) : changed cs (cs.set type c) = [type] := by
  have hmem : ∀ t, t ∈ changed cs (cs.set type c) ↔ t ∈ [type] := by
    intro t
    rw [mem_changed, lookup_set, List.mem_singleton]
    split_ifs with ht
    · exact iff_of_true (ht ▸ h) ht
    · exact iff_of_false (fun hne => hne rfl) ht
  have hnodup : (changed cs (cs.set type c)).Nodup := (List.nodup_dedup _).filter _
  exact List.perm_singleton.mp
    ((List.perm_ext_iff_of_nodup hnodup (List.nodup_singleton type)).mpr hmem)

/-- The patch of one new condition sets it on what is stored. -/
theorem merge_set {cs latest m : Conditions} {type : String} {c : Condition}
    (hnew : cs.lookup type ≠ some c) (h : merge cs (cs.set type c) latest = some m) :
    m = latest.set type c := by
  have hafter : (cs.set type c).lookup type = some c := by rw [lookup_set, if_pos rfl]
  rw [merge, changed_set hnew, List.foldlM_cons] at h
  obtain ⟨m', hone, hm⟩ := Option.bind_eq_some_iff.mp h
  obtain rfl := Option.some_inj.mp hm
  unfold mergeOne at hone
  rw [hafter] at hone
  unfold set
  split_ifs at hone ⊢
  · exact (Option.some_inj.mp hone).symm
  · exact (Option.some_inj.mp hone).symm

end Conditions

end Caphv
