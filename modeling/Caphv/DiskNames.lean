import Mathlib.Data.Set.Function
import Caphv.DiskCleanup
import Caphv.Splitting

namespace Caphv.Machine

open Splitting

/-- The characters of a `RandomID`: `[a-z]{3}[0-9][a-z]`, or nothing when the generator fails. -/
def randomIDChars : List Char → Bool
  | [] => true
  | [a, b, c, d, e] => a.isLower && b.isLower && c.isLower && d.isDigit && e.isLower
  | _ => false

def IsRandomID (randomID : String) : Prop := randomIDChars randomID.toList = true

instance (randomID : String) : Decidable (IsRandomID randomID) :=
  inferInstanceAs (Decidable (_ = _))

/-- The name `n` is neither `m-disk` nor does it start with `m-disk-`. -/
def Apart (m n : String) : Prop := ¬ (diskPrefix m).toList <+: n.toList ++ ['-']

instance (m n : String) : Decidable (Apart m n) := inferInstanceAs (Decidable (¬ _))

section Names

variable {m n randomID : String}

theorem IsRandomID.noDash (h : IsRandomID randomID) : '-' ∉ randomID.toList := by
  intro hdash
  unfold IsRandomID at h
  generalize randomID.toList = chars at h hdash
  unfold randomIDChars at h
  split at h
  · cases hdash
  · simp only [Bool.and_eq_true] at h
    obtain ⟨⟨⟨⟨ha, hb⟩, hc⟩, hd⟩, he⟩ := h
    simp only [List.mem_cons, List.not_mem_nil, or_false] at hdash
    rcases hdash with rfl | rfl | rfl | rfl | rfl
    · exact absurd ha (by decide)
    · exact absurd hb (by decide)
    · exact absurd hc (by decide)
    · exact absurd hd (by decide)
    · exact absurd he (by decide)
  · cases h

theorem toList_diskPrefix (m : String) :
    (diskPrefix m).toList = m.toList ++ "-disk".toList ++ ['-'] := by
  simp [diskPrefix]

theorem toList_pvcName (n : String) (i : ℕ) (randomID : String) :
    (pvcName n i randomID).toList = (n.toList ++ ['-']) ++
      ("disk".toList ++ '-' :: (toString i).toList ++ '-' :: randomID.toList) := by
  simp [pvcName, diskPrefix]

/-- What stands before a dash in `disk-i-r`. -/
theorem before_dash {i : ℕ} {a b : List Char} (h : '-' ∉ randomID.toList)
    (hab : "disk".toList ++ '-' :: (toString i).toList ++ '-' :: randomID.toList = a ++ '-' :: b) :
    a = "disk".toList ++ '-' :: (toString i).toList ∨ a = "disk".toList := by
  rcases append_last_mark h hab with ⟨ha, -⟩ | hpre
  · exact Or.inl ha.symm
  · obtain ⟨s, hs⟩ := hpre
    have hcut : "disk".toList ++ '-' :: (toString i).toList = a ++ '-' :: s := by
      rw [← hs, List.append_assoc]
      rfl
    rcases append_last_mark (notMem_toString (by decide) i) hcut with ⟨ha, -⟩ | hpre
    · exact Or.inr ha.symm
    · exact absurd (hpre.subset (List.mem_append_right _ List.mem_cons_self)) (by decide)

/-- A claim of another machine starts with `m-disk-` only if the name of that machine is in the
way. -/
theorem Apart.not_prefix (h : Apart m n) (hmn : m ≠ n) (hr : '-' ∉ randomID.toList) (i : ℕ) :
    ¬ (diskPrefix m).toList <+: (pvcName n i randomID).toList := by
  intro hpre
  have hname : n.toList ++ ['-'] <+: (pvcName n i randomID).toList := by
    rw [toList_pvcName]
    exact List.prefix_append _ _
  -- Two starts of one name: either `m-disk-` reaches into `n-` or it goes beyond.
  rcases List.prefix_or_prefix_of_prefix hpre hname with hlong | ⟨t, ht⟩
  · exact h hlong
  -- `m-disk-` is `n-` followed by `t`, and `t` is a part of `disk-i-r` that ends with a dash.
  obtain ⟨s, hs⟩ := hpre
  rw [← ht, toList_pvcName, List.append_assoc, List.append_cancel_left_eq] at hs
  rw [toList_diskPrefix] at ht
  rcases List.eq_nil_or_concat t with rfl | ⟨a, c, rfl⟩
  · rw [List.append_nil] at ht
    apply h
    rw [toList_diskPrefix, ht]
  · rw [List.concat_eq_append, ← List.append_assoc] at ht
    obtain ⟨hbody, hc⟩ := List.append_inj' ht rfl
    obtain rfl := List.singleton_inj.mp hc
    rw [List.concat_eq_append, List.append_assoc] at hs
    rcases before_dash hr hs.symm with rfl | rfl
    · -- The number `i` would end with the `k` of `disk`.
      obtain ⟨d, k, hd⟩ := (List.eq_nil_or_concat (toString i).toList).resolve_left
        (toString_ne_nil i)
      rw [List.concat_eq_append] at hd
      have hends : (m.toList ++ "-dis".toList) ++ ['k'] =
          (n.toList ++ "-disk-".toList ++ d) ++ [k] := by
        rw [hd] at hbody
        simpa using hbody.symm
      obtain ⟨-, hk⟩ := List.append_inj' hends rfl
      have hmem : 'k' ∈ (toString i).toList := by
        rw [hd, List.singleton_inj.mp hk]
        exact List.mem_append_right _ List.mem_cons_self
      exact notMem_toString (by decide) i hmem
    · apply hmn
      apply String.toList_inj.mp
      have hcut : n.toList ++ "-disk".toList = m.toList ++ "-disk".toList := by
        rw [← hbody]
        simp
      exact (List.append_cancel_right hcut).symm

theorem not_prefix_iff (hmn : m ≠ n) :
    (∀ i randomID, IsRandomID randomID →
      (diskPrefix m).toList.isPrefixOf (pvcName n i randomID).toList = false) ↔ Apart m n := by
  constructor
  · intro hfree hin
    -- The empty id is one that `RandomID` can return, and any other would do.
    have hpre : (diskPrefix m).toList <+: (pvcName n 0 "").toList := by
      rw [toList_pvcName]
      exact hin.trans (List.prefix_append _ _)
    rw [← List.isPrefixOf_iff_prefix, hfree 0 "" (by decide)] at hpre
    cases hpre
  · intro h i randomID hr
    rw [Bool.eq_false_iff, Ne, List.isPrefixOf_iff_prefix]
    exact h.not_prefix hmn hr.noDash i

end Names

section Sweep

variable {k : ObjectKey} {sc : Scope} {ns pfx : String} {w w' : World} {m : HarvesterMachine}

/-- A call of machine `k` that leaves nothing undone. -/
def Sweeping (k : ObjectKey) (w : World) (r : Req) (x : Resp r) (w' : World) : Prop :=
  Answered k w r x w' ∧ claimCallOk r x = true

theorem Sweeping.listPVCs {x : Resp (.listPVCs ns)} (h : Sweeping k w (.listPVCs ns) x w') :
    x = .ok (w.listPVCs ns) ∧ w' = w := by
  obtain ⟨⟨f, hexec⟩, hok⟩ := h
  obtain ⟨rfl, rfl⟩ := Prod.mk.inj hexec
  cases f with
  | none => exact ⟨rfl, rfl⟩
  | reject msg => cases hok
  | lose msg => cases hok

theorem Sweeping.deletePVC {n : NamespacedName} {x : Resp (.deletePVC n)}
    (h : Sweeping k w (.deletePVC n) x w') (a : NamespacedName) :
    w'.pvcs.lookup a = if a = n then none else w.pvcs.lookup a := by
  obtain ⟨⟨f, hexec⟩, hok⟩ := h
  obtain ⟨rfl, rfl⟩ := Prod.mk.inj hexec
  refine writeUnder_rule (E := fun x w' => gone x = true →
    w'.pvcs.lookup a = if a = n then none else w.pvcs.lookup a) ?_ ?_ hok
  · intro x w' hw _
    simp only [World.write, World.deletePVC] at hw
    split at hw
    · cases hw
    · cases hw
      exact Table.lookup_erase_eq _ _ _
  · intro e hnf he
    have hnone := hnf he
    simp only [World.write, World.deletePVC] at hnone
    split at hnone
    next habsent =>
      split_ifs with heq
      · rw [heq, habsent]
      · rfl
    next => cases hnone

def swept (pfx : String) (names : List String) : List String :=
  names.filter fun name => pfx.toList.isPrefixOf name.toList

theorem leads_deletePVCs (hclient : sc.harvesterClient = true) (names : List String) :
    Body.Leads (Sweeping k) w (deletePVCs sc ns pfx names) m fun w' _ _ => ∀ n : NamespacedName,
      w'.pvcs.lookup n = if n.ns = ns ∧ n.name ∈ swept pfx names then none
        else w.pvcs.lookup n := by
  induction names generalizing w with
  | nil => exact .pure fun n => by simp [swept]
  | cons name names ih =>
    unfold deletePVCs
    by_cases hpre : pfx.toList.isPrefixOf name.toList = true
    · rw [if_neg (by simp [hpre]), Scope.harvester, if_pos hclient]
      have hswept : swept pfx (name :: names) = name :: swept pfx names :=
        List.filter_cons_of_pos hpre
      refine .request_bind fun x w' hx => ih.mono fun w'' _ _ h n => ?_
      rw [h n, hx.deletePVC n, hswept]
      obtain ⟨nns, nname⟩ := n
      by_cases hns : nns = ns
      · by_cases hname : nname = name
        · simp [hns, hname]
        · simp [hns, hname]
      · simp [hns]
    · rw [Bool.not_eq_true] at hpre
      rw [if_pos (by rw [hpre]; rfl)]
      have hswept : swept pfx (name :: names) = swept pfx names :=
        List.filter_cons_of_neg (by rw [hpre]; exact Bool.false_ne_true)
      rw [hswept]
      exact ih

/-- Of the claims in the namespace, those with the prefix go and the others stay. -/
theorem leads_deletePVCsByPrefix (hclient : sc.harvesterClient = true) :
    Body.Leads (Sweeping k) w (deletePVCsByPrefix sc ns pfx) m fun w' _ _ =>
      ∀ (n : NamespacedName) (owner : ObjectKey), w.pvcs.lookup n = some owner → n.ns = ns →
        (w'.pvcs.lookup n = none ↔ pfx.toList.isPrefixOf n.name.toList = true) := by
  unfold deletePVCsByPrefix
  rw [Scope.harvester, if_pos hclient]
  refine .request_bind fun x w₁ hx => ?_
  obtain ⟨rfl, rfl⟩ := hx.listPVCs
  refine (leads_deletePVCs hclient _).mono fun w' _ _ h n owner hn hns => ?_
  have hlisted : n.name ∈ w₁.listPVCs ns := hns ▸ mem_listPVCs hn
  rw [h n, hn]
  simp [swept, hns, hlisted]

/-- A server without faults lets the loop run to its end. -/
theorem exists_deletePVCs (hclient : sc.harvesterClient = true) (names : List String) :
    ∃ w' out, Prog.Executes (Sweeping k) w (deletePVCs sc ns pfx names m) w' out := by
  induction names generalizing w with
  | nil => exact ⟨w, _, .ret⟩
  | cons name names ih =>
    unfold deletePVCs
    split_ifs with hpre
    · exact ih
    · rw [Scope.harvester, if_pos hclient]
      have hfree : Sweeping k w (.deletePVC ⟨ns, name⟩)
          (exec k (.deletePVC ⟨ns, name⟩) Fault.none w).1
          (exec k (.deletePVC ⟨ns, name⟩) Fault.none w).2 := by
        refine ⟨⟨Fault.none, rfl⟩, ?_⟩
        show gone (exec k (.deletePVC ⟨ns, name⟩) Fault.none w).1 = true
        simp only [exec, World.writeUnder, World.write, World.deletePVC]
        split
        · rfl
        · rfl
      obtain ⟨w', out, hrest⟩ := ih (w := (exec k (.deletePVC ⟨ns, name⟩) Fault.none w).2)
      exact ⟨w', out, .call _ hfree hrest⟩

theorem exists_deletePVCsByPrefix (hclient : sc.harvesterClient = true) (ns pfx : String)
    (w : World) :
    ∃ w' out, Prog.Executes (Sweeping k) w (deletePVCsByPrefix sc ns pfx m) w' out := by
  unfold deletePVCsByPrefix
  rw [Scope.harvester, if_pos hclient]
  obtain ⟨w', out, hrest⟩ := exists_deletePVCs hclient (w.listPVCs ns)
  exact ⟨w', out, .call (.ok (w.listPVCs ns)) ⟨⟨Fault.none, rfl⟩, rfl⟩ hrest⟩

/-- The claims of a namespace, each created for one of these machines under a name that
`createVMFromHarvesterMachine` gives. -/
def ClaimsOf (machines : Set ObjectKey) (ns : String) (w : World) : Prop :=
  ∀ n owner, w.pvcs.lookup n = some owner → n.ns = ns → owner ∈ machines ∧
    ∃ i randomID, IsRandomID randomID ∧ n.name = pvcName owner.name i randomID

/-- When machine `sc.key` is deleted and no List or Delete of claims fails, exactly its claims
go from the namespace. -/
def SweepsOwn (sc : Scope) (m : HarvesterMachine) (ns : String) (w : World) : Prop :=
  ∀ w' out, Prog.Executes (Sweeping sc.key) w
      (deletePVCsByPrefix sc ns (diskPrefix sc.key.name) m) w' out →
    ∀ n owner, w.pvcs.lookup n = some owner → n.ns = ns →
      (w'.pvcs.lookup n = none ↔ owner = sc.key)

variable {machines : Set ObjectKey}

theorem sweepsOwn_of_apart (hclient : sc.harvesterClient = true)
    (hnames : ∀ j ∈ machines, j.name = sc.key.name → j = sc.key)
    (hapart : ∀ j ∈ machines, j ≠ sc.key → Apart sc.key.name j.name)
    (hw : ClaimsOf machines ns w) : SweepsOwn sc m ns w := by
  intro w' out he n owner hn hns
  rw [leads_deletePVCsByPrefix hclient w' out he n owner hn hns]
  obtain ⟨hmem, i, randomID, hr, hname⟩ := hw n owner hn hns
  rw [hname]
  constructor
  · intro hpre
    by_contra hne
    have hdiff : sc.key.name ≠ owner.name := fun h => hne (hnames owner hmem h.symm)
    rw [(not_prefix_iff hdiff).mpr (hapart owner hmem hne) i randomID hr] at hpre
    cases hpre
  · rintro rfl
    exact isPrefixOf_pvcName _ _ _

def oneClaim (n : NamespacedName) (owner : ObjectKey) : World where
  machines := ∅
  clusters := ∅
  pools := ∅
  vms := ∅
  secrets := ∅
  pvcs := (∅ : Table NamespacedName ObjectKey).insert n owner
  nextUID := 0

theorem lookup_oneClaim (n a : NamespacedName) (owner : ObjectKey) :
    (oneClaim n owner).pvcs.lookup a = if a = n then some owner else none :=
  Table.lookup_insert_eq _ _ _ _

theorem apart_of_sweepsOwn (hclient : sc.harvesterClient = true)
    (h : ∀ w, ClaimsOf machines ns w → SweepsOwn sc m ns w) {j : ObjectKey} (hj : j ∈ machines)
    (hne : j ≠ sc.key) : Apart sc.key.name j.name := by
  intro hin
  -- The world with one claim of `j` is swept empty.
  let n : NamespacedName := ⟨ns, pvcName j.name 0 ""⟩
  have hclaims : ClaimsOf machines ns (oneClaim n j) := by
    intro a owner ha _
    rw [lookup_oneClaim] at ha
    split_ifs at ha with heq
    rw [heq, ← Option.some.inj ha]
    exact ⟨hj, 0, "", by decide, rfl⟩
  have hstored : (oneClaim n j).pvcs.lookup n = some j := by
    rw [lookup_oneClaim, if_pos rfl]
  have hpre : (diskPrefix sc.key.name).toList.isPrefixOf n.name.toList = true := by
    rw [List.isPrefixOf_iff_prefix, toList_pvcName]
    exact hin.trans (List.prefix_append _ _)
  obtain ⟨w', out, he⟩ := exists_deletePVCsByPrefix (k := sc.key) (m := m) hclient ns
    (diskPrefix sc.key.name) (oneClaim n j)
  have hgone := (leads_deletePVCsByPrefix hclient w' out he n j hstored rfl).mpr hpre
  exact hne ((h _ hclaims w' out he n j hstored rfl).mp hgone)

end Sweep

/-- The claims of another machine never start with the prefix of the machine that is deleted exactly
if its name is apart from that one; and the deletion takes the machine's own claims and no others,
whatever claims a set of machines has, exactly if the names of all the others are. -/
theorem prefix_cleanup_exact_iff (sc : Scope) (m : HarvesterMachine) (ns : String)
    (machines : Set ObjectKey) (hclient : sc.harvesterClient = true)
    (hinj : Set.InjOn ObjectKey.name (insert sc.key machines)) :
    (∀ n, sc.key.name ≠ n → ((∀ i randomID, IsRandomID randomID →
      (diskPrefix sc.key.name).toList.isPrefixOf (pvcName n i randomID).toList = false) ↔
        Apart sc.key.name n)) ∧
    ((∀ w, ClaimsOf machines ns w → SweepsOwn sc m ns w) ↔
      ∀ j ∈ machines, j ≠ sc.key → Apart sc.key.name j.name) := by
  refine ⟨fun n hn => not_prefix_iff hn, ?_⟩
  have hnames : ∀ j ∈ machines, j.name = sc.key.name → j = sc.key := fun j hj hname =>
    hinj (Set.mem_insert_of_mem _ hj) (Set.mem_insert _ _) hname
  exact ⟨fun h j hj hne => apart_of_sweepsOwn hclient h hj hne,
    fun hapart w hw => sweepsOwn_of_apart hclient hnames hapart hw⟩

def isLabel (l : List Char) : Bool :=
  !l.isEmpty && l.all (fun c => c.isLower || c.isDigit || c == '-') &&
    l.head? != some '-' && l.getLast? != some '-'

def IsObjectName (name : String) : Prop :=
  name.length ≤ 253 ∧ (name.toList.splitOn '.').all isLabel = true

instance (name : String) : Decidable (IsObjectName name) := inferInstanceAs (Decidable (_ ∧ _))

namespace Sample

def keyDisk : ObjectKey := ⟨"ns", "a-disk-0", by decide⟩

end Sample

open Sample in
theorem prefix_cleanup_exact_sample :
    (∀ i randomID, IsRandomID randomID →
      (diskPrefix "a").toList.isPrefixOf (pvcName "b" i randomID).toList = false) ∧
    ∀ w, ClaimsOf {keyB} "target" w → SweepsOwn scopeA machineA "target" w := by
  have hinj : Set.InjOn ObjectKey.name (insert scopeA.key {keyB}) := by
    rintro j (rfl | rfl) k (rfl | rfl) hname
    · rfl
    · exact absurd hname (by decide)
    · exact absurd hname (by decide)
    · rfl
  obtain ⟨hstarts, hsweeps⟩ := prefix_cleanup_exact_iff scopeA machineA "target" {keyB} rfl hinj
  refine ⟨(hstarts "b" (by decide)).mpr (by decide), hsweeps.mpr ?_⟩
  rintro j rfl -
  decide

open Sample in
/-- The disk of machine `a-disk-0` goes with machine `a`. -/
theorem foreign_disk_deleted :
    let n : NamespacedName := ⟨"target", pvcName keyDisk.name 0 "abc1d"⟩
    let w := oneClaim n keyDisk
    let w' := (Prog.serve (fun w r => exec keyA r (answers (fun _ => .none) r) w) w
      (deletePVCsByPrefix scopeA "target" (diskPrefix keyA.name) machineA)).2
    IsObjectName keyA.name ∧ IsObjectName keyDisk.name ∧ keyA.name ≠ keyDisk.name ∧
      IsRandomID "abc1d" ∧ (diskPrefix keyA.name).toList.isPrefixOf n.name.toList = true ∧
      w.pvcs.lookup n = some keyDisk ∧ w'.pvcs.lookup n = none := by
  decide +kernel

end Caphv.Machine
