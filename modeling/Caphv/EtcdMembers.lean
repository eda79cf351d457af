import Mathlib.Data.Set.Basic
import Caphv.ControllerRuntime
import Caphv.Prog
import Caphv.Splitting

namespace Caphv.Etcd

open Splitting

inductive PodPhase where
  | pending
  | running
  | succeeded
  | failed
  | unknown
  deriving DecidableEq

structure Pod where
  name : String
  nodeName : String
  labels : Table String String
  phase : PodPhase
  conditions : List (String × ConditionStatus)
  deriving DecidableEq

structure EtcdMember where
  id : UInt64
  name : String
  deriving DecidableEq

def isPodReady (pod : Pod) : Bool :=
  pod.phase = .running ∧ pod.conditions.any fun cond => cond.1 = "Ready" ∧ cond.2 = .true_

/-- The calls of `RemoveEtcdMember`. Pods are listed with the selector
`component=etcd,tier=control-plane` or without one; the last two run `etcdctl` in a pod. -/
inductive Req where
  | newClient
  | listPods (labelled : Bool)
  | listEtcdMembers (pod : Pod)
  | removeEtcdMemberByID (pod : Pod) (memberID : UInt64)

def Value : Req → Type
  | .newClient => Unit
  | .listPods _ => List Pod
  | .listEtcdMembers _ => List EtcdMember
  | .removeEtcdMemberByID _ _ => Unit

abbrev Resp (r : Req) : Type := Except String (Value r)

def send (r : Req) : Prog Req Resp (Resp r) := Prog.request r

def healthyPod (deletedNodeName : String) (pods : List Pod) : Except String Pod :=
  match pods.find? fun pod => pod.nodeName ≠ deletedNodeName ∧ isPodReady pod with
  | some pod => .ok pod
  | none => .error ("no healthy etcd pod found (excluding node " ++ deletedNodeName ++ ")")

def isEtcdName (pod : Pod) : Bool := "etcd-".toList.isPrefixOf pod.name.toList

/-- `findHealthyEtcdPod`: pods with the labels, or by name if there are none. -/
def findHealthyEtcdPod (deletedNodeName : String) : Prog Req Resp (Except String Pod) := do
  let pods ← send (.listPods true)
  match pods with
  | .ok (pod :: pods) => pure (healthyPod deletedNodeName (pod :: pods))
  | _ => do
    -- A list that fails and one that is empty both lead to the scan.
    let allPods ← send (.listPods false)
    match allPods with
    | .error e => pure (.error ("failed to list pods in kube-system: " ++ e))
    | .ok pods => pure (healthyPod deletedNodeName (pods.filter isEtcdName))

/-- The name of a member is read as one of the node. -/
def readAs (deletedNodeName memberName : String) : Bool :=
  (deletedNodeName ++ "-").toList.isPrefixOf memberName.toList ∨ memberName = deletedNodeName

/-- `RemoveEtcdMember`: every error is only logged. -/
def removeEtcdMember (deletedNodeName : String) : Prog Req Resp Unit := do
  let client ← send .newClient
  match client with
  | .error _ => pure ()
  | .ok () => do
    let found ← findHealthyEtcdPod deletedNodeName
    match found with
    | .error _ => pure ()
    | .ok pod => do
      let listed ← send (.listEtcdMembers pod)
      match listed with
      | .error _ => pure ()
      | .ok members =>
        match members.find? fun member => readAs deletedNodeName member.name with
        | none => pure ()
        | some targetMember => do
          let _ ← send (.removeEtcdMemberByID pod targetMember.id)
          pure ()

/-- A name that a member on the node has: that of the node, or with a hash after it. -/
def IsMemberName (node name : String) : Prop :=
  name = node ∨ ∃ hash : String, hash ≠ "" ∧ '-' ∉ hash.toList ∧ name = node ++ "-" ++ hash

structure Member (nodes : Set String) extends EtcdMember where
  node : String
  known : node ∈ nodes
  named : IsMemberName node name

/-- A workload cluster on these nodes. -/
structure Workload (nodes : Set String) where
  pods : List Pod
  members : List (Member nodes)
  distinct : (members.map fun member => member.id).Nodup

def hasEtcdLabels (pod : Pod) : Bool :=
  pod.labels.lookup "component" = some "etcd" ∧ pod.labels.lookup "tier" = some "control-plane"

namespace Workload

variable {nodes : Set String} (w : Workload nodes)

def value : (r : Req) → Value r
  | .newClient => ()
  | .listPods labelled => if labelled then w.pods.filter hasEtcdLabels else w.pods
  | .listEtcdMembers _ => w.members.map Member.toEtcdMember
  | .removeEtcdMemberByID _ _ => ()

def etcdPods : List Pod :=
  if w.pods.filter hasEtcdLabels ≠ [] then w.pods.filter hasEtcdLabels
  else w.pods.filter isEtcdName

end Workload

def removal : Req → List (Pod × UInt64)
  | .removeEtcdMemberByID pod memberID => [(pod, memberID)]
  | _ => []

def isListing : Req → Bool
  | .removeEtcdMemberByID _ _ => false
  | _ => true

section Executions

variable {nodes : Set String} {w : Workload nodes} {d : String}

def Answered (w : Workload nodes) (t : List (Pod × UInt64)) (r : Req) (x : Resp r)
    (t' : List (Pod × UInt64)) : Prop :=
  (x = .ok (w.value r) ∨ ∃ e, x = .error e) ∧ t' = t ++ removal r

def Listed (w : Workload nodes) (t : List (Pod × UInt64)) (r : Req) (x : Resp r)
    (t' : List (Pod × UInt64)) : Prop :=
  Answered w t r x t' ∧ (isListing r = true → x = .ok (w.value r))

structure Healthy (d : String) (pod : Pod) : Prop where
  ready : isPodReady pod = true
  elsewhere : pod.nodeName ≠ d

theorem healthyPod_eq_ok {pods : List Pod} {pod : Pod} (h : healthyPod d pods = .ok pod) :
    pod ∈ pods ∧ Healthy d pod := by
  unfold healthyPod at h
  split at h
  next hfind =>
    cases h
    have hp := List.find?_some hfind
    rw [decide_eq_true_eq] at hp
    exact ⟨List.mem_of_find?_eq_some hfind, hp.2, hp.1⟩
  next => cases h

theorem exists_healthyPod {pods : List Pod} (h : ∃ pod ∈ pods, Healthy d pod) :
    ∃ pod, healthyPod d pods = .ok pod := by
  unfold healthyPod
  split
  next pod _ => exact ⟨pod, rfl⟩
  next hnone =>
    obtain ⟨pod, hpod, hh⟩ := h
    exact absurd (decide_eq_true ⟨hh.elsewhere, hh.ready⟩) (List.find?_eq_none.mp hnone pod hpod)

theorem Answered.of_silent {t t' : List (Pod × UInt64)} {r : Req} {x : Resp r}
    (h : Answered w t r x t') (hr : removal r = []) : t' = t := by
  rw [h.2, hr, List.append_nil]

/-- The search issues no removal, and a pod that it returns is a healthy one of the cluster. -/
theorem executes_findHealthyEtcdPod {t t' : List (Pod × UInt64)} {out : Except String Pod}
    (h : Prog.Executes (Answered w) t (findHealthyEtcdPod d) t' out) :
    t' = t ∧ ∀ pod, out = .ok pod → pod ∈ w.pods ∧ Healthy d pod := by
  obtain ⟨pods, t₁, hpods, hrest⟩ := Prog.executes_request_bind h
  obtain rfl := hpods.of_silent rfl
  split at hrest
  next pod pods =>
    obtain ⟨rfl, rfl⟩ := Prog.executes_pure hrest
    refine ⟨rfl, fun found hfound => ?_⟩
    obtain ⟨hmem, hh⟩ := healthyPod_eq_ok hfound
    obtain hok | ⟨e, he⟩ := hpods.1
    · have hlist : pod :: pods = w.pods.filter hasEtcdLabels := Except.ok.inj hok
      rw [hlist] at hmem
      exact ⟨List.mem_of_mem_filter hmem, hh⟩
    · cases he
  next =>
    obtain ⟨allPods, t₂, hall, hscan⟩ := Prog.executes_request_bind hrest
    obtain rfl := hall.of_silent rfl
    split at hscan
    next e =>
      obtain ⟨rfl, rfl⟩ := Prog.executes_pure hscan
      exact ⟨rfl, nofun⟩
    next pods =>
      obtain ⟨rfl, rfl⟩ := Prog.executes_pure hscan
      refine ⟨rfl, fun found hfound => ?_⟩
      obtain ⟨hmem, hh⟩ := healthyPod_eq_ok hfound
      obtain hok | ⟨e, he⟩ := hall.1
      · have hlist : pods = w.pods := Except.ok.inj hok
        rw [hlist] at hmem
        exact ⟨List.mem_of_mem_filter hmem, hh⟩
      · cases he

/-- With its lists answered the search finds a healthy pod of etcd. -/
theorem executes_findHealthyEtcdPod_listed {t t' : List (Pod × UInt64)} {out : Except String Pod}
    (h : Prog.Executes (Listed w) t (findHealthyEtcdPod d) t' out)
    (hpod : ∃ pod ∈ w.etcdPods, Healthy d pod) : ∃ pod, out = .ok pod := by
  obtain ⟨pods, t₁, hpods, hrest⟩ := Prog.executes_request_bind h
  obtain rfl : pods = .ok (w.pods.filter hasEtcdLabels) := hpods.2 rfl
  -- With the first list answered, the program scans exactly if no pod has the labels.
  unfold Workload.etcdPods at hpod
  split at hrest
  next pod pods hlist =>
    have hfilter : w.pods.filter hasEtcdLabels = pod :: pods := Except.ok.inj hlist
    obtain ⟨rfl, rfl⟩ := Prog.executes_pure hrest
    rw [hfilter, if_pos (List.cons_ne_nil _ _)] at hpod
    exact exists_healthyPod hpod
  next hnot =>
    have hfilter : w.pods.filter hasEtcdLabels = [] := by
      cases hl : w.pods.filter hasEtcdLabels with
      | nil => rfl
      | cons pod pods => exact absurd (congrArg Except.ok hl) (hnot pod pods)
    obtain ⟨allPods, t₂, hall, hscan⟩ := Prog.executes_request_bind hrest
    obtain rfl : allPods = .ok w.pods := hall.2 rfl
    obtain ⟨rfl, rfl⟩ := Prog.executes_pure hscan
    rw [hfilter, if_neg (not_not.mpr rfl)] at hpod
    exact exists_healthyPod hpod

/-- An execution removes nothing, or one member whose name is read as one of the node. -/
theorem executes_removeEtcdMember {removals : List (Pod × UInt64)}
    (h : Prog.Executes (Answered w) [] (removeEtcdMember d) removals ()) :
    removals = [] ∨ ∃ pod ∈ w.pods, Healthy d pod ∧ ∃ member ∈ w.members,
      readAs d member.name = true ∧ removals = [(pod, member.id)] := by
  obtain ⟨client, t₁, hclient, h₁⟩ := Prog.executes_request_bind h
  obtain rfl := hclient.of_silent rfl
  split at h₁
  · exact Or.inl (Prog.executes_pure h₁).1
  obtain ⟨t₂, found, hfound, h₂⟩ := Prog.executes_bind.mp h₁
  obtain ⟨rfl, hpod⟩ := executes_findHealthyEtcdPod hfound
  split at h₂
  · exact Or.inl (Prog.executes_pure h₂).1
  next pod =>
    obtain ⟨listed, t₃, hlisted, h₃⟩ := Prog.executes_request_bind h₂
    obtain rfl := hlisted.of_silent rfl
    split at h₃
    · exact Or.inl (Prog.executes_pure h₃).1
    next members =>
      split at h₃
      · exact Or.inl (Prog.executes_pure h₃).1
      next target htarget =>
        -- The one removal is recorded whether it succeeds or not.
        obtain ⟨removed, t₄, hremoved, h₄⟩ := Prog.executes_request_bind h₃
        obtain ⟨rfl, -⟩ := Prog.executes_pure h₄
        obtain hok | ⟨e, he⟩ := hlisted.1
        · have hmembers : members = w.members.map Member.toEtcdMember := Except.ok.inj hok
          rw [hmembers] at htarget
          obtain ⟨member, hmember, rfl⟩ := List.mem_map.mp (List.mem_of_find?_eq_some htarget)
          have hread := List.find?_some htarget
          obtain ⟨hmem, hh⟩ := hpod pod rfl
          exact Or.inr ⟨pod, hmem, hh, member, hmember, hread, hremoved.2⟩
        · cases he

/-- With its lists answered it removes a member, if one is read as one of the node. -/
theorem executes_removeEtcdMember_listed {removals : List (Pod × UInt64)}
    (h : Prog.Executes (Listed w) [] (removeEtcdMember d) removals ())
    (hpod : ∃ pod ∈ w.etcdPods, Healthy d pod)
    (hmember : ∃ member ∈ w.members, readAs d member.name = true) : removals ≠ [] := by
  obtain ⟨client, t₁, hclient, h₁⟩ := Prog.executes_request_bind h
  obtain rfl : client = .ok () := hclient.2 rfl
  obtain ⟨t₂, found, hfound, h₂⟩ := Prog.executes_bind.mp h₁
  obtain ⟨pod, rfl⟩ := executes_findHealthyEtcdPod_listed hfound hpod
  obtain ⟨listed, t₃, hlisted, h₃⟩ := Prog.executes_request_bind h₂
  obtain rfl : listed = .ok (w.members.map Member.toEtcdMember) := hlisted.2 rfl
  dsimp only at h₃
  split at h₃
  next hnone =>
    obtain ⟨member, hmem, hread⟩ := hmember
    exact absurd hread (List.find?_eq_none.mp hnone _ (List.mem_map_of_mem hmem))
  next target htarget =>
    obtain ⟨removed, t₄, hremoved, h₄⟩ := Prog.executes_request_bind h₃
    obtain ⟨rfl, -⟩ := Prog.executes_pure h₄
    rw [hremoved.1.2]
    exact List.append_ne_nil_of_right_ne_nil _ (List.cons_ne_nil _ _)

end Executions

section Names

variable {nodes : Set String} {d n name : String}

/-- No name of another node, nor one of a member on it, is read as one of the node `d`. -/
def Unambiguous (nodes : Set String) (d : String) : Prop :=
  ∀ n ∈ nodes, n ≠ d → ¬ (d ++ "-").toList <+: n.toList ∧ ¬ IsMemberName n d

theorem IsMemberName.readAs (h : IsMemberName d name) : readAs d name = true := by
  unfold Etcd.readAs
  rw [decide_eq_true_eq, List.isPrefixOf_iff_prefix]
  rcases h with rfl | ⟨hash, -, -, rfl⟩
  · exact Or.inr rfl
  · refine Or.inl ?_
    rw [String.toList_append (s := d ++ "-")]
    exact List.prefix_append _ _

/-- A member that is read as one of `d` is one, when the names of the nodes are unambiguous. -/
theorem Unambiguous.node_eq (hu : Unambiguous nodes d) (hn : n ∈ nodes)
    (hname : IsMemberName n name) (h : readAs d name = true) : n = d := by
  by_contra hne
  obtain ⟨hpre, hmember⟩ := hu n hn hne
  rw [readAs, decide_eq_true_eq, List.isPrefixOf_iff_prefix] at h
  rcases h with h | rfl
  · rcases hname with rfl | ⟨hash, -, hdash, rfl⟩
    · exact hpre h
    · -- The dash after `d` is the one before the hash, or it stands in `n`.
      obtain ⟨s, hs⟩ := h
      have hcut : n.toList ++ '-' :: hash.toList = d.toList ++ '-' :: s := by
        simpa using hs.symm
      rcases append_last_mark hdash hcut with ⟨heq, -⟩ | hin
      · exact hne (String.toList_inj.mp heq)
      · apply hpre
        simpa using hin
  · exact hmember hname

/-- Otherwise some member of another node is read as one of `d`. -/
theorem exists_misread (h : ¬ Unambiguous nodes d) :
    ∃ n ∈ nodes, n ≠ d ∧ ∃ name, IsMemberName n name ∧ readAs d name = true := by
  unfold Unambiguous at h
  push Not at h
  obtain ⟨n, hn, hne, hbad⟩ := h
  refine ⟨n, hn, hne, ?_⟩
  -- A member that is named as its node, or one whose hash completes the name `d`.
  by_cases hpre : (d ++ "-").toList <+: n.toList
  · refine ⟨n, Or.inl rfl, ?_⟩
    rw [readAs, decide_eq_true_eq, List.isPrefixOf_iff_prefix]
    exact Or.inl hpre
  · exact ⟨d, hbad hpre, by simp [readAs]⟩

end Names

section Removal

variable {nodes : Set String} {d n name : String}

def answering (w : Workload nodes) (t : List (Pod × UInt64)) (r : Req) :
    Resp r × List (Pod × UInt64) := (.ok (w.value r), t ++ removal r)

def readyPod (node : String) : Pod where
  name := "etcd-" ++ node
  nodeName := node
  labels := ((∅ : Table String String).insert "component" "etcd").insert "tier" "control-plane"
  phase := .running
  conditions := [("Ready", .true_)]

def oneMember (hn : n ∈ nodes) (hname : IsMemberName n name) : Workload nodes where
  pods := [readyPod n]
  members := [⟨⟨1, name⟩, n, hn, hname⟩]
  distinct := List.nodup_singleton _

theorem executes_answering (w : Workload nodes) (d : String) :
    Prog.Executes (Listed w) [] (removeEtcdMember d)
      (Prog.serve (answering w) [] (removeEtcdMember d)).2 () := by
  refine Prog.Complies.executes (D := fun _ _ => True) (fun t r _ => ?_)
    (Prog.complies_of_forall (fun _ _ => trivial) _)
  exact ⟨⟨Or.inl rfl, rfl⟩, fun _ => rfl⟩

theorem removals_of_oneMember (hn : n ∈ nodes) (hne : n ≠ d) (hname : IsMemberName n name)
    (hread : readAs d name = true) :
    (Prog.serve (answering (oneMember hn hname)) [] (removeEtcdMember d)).2 ≠ [] := by
  refine executes_removeEtcdMember_listed (executes_answering _ d) ⟨readyPod n, ?_, rfl, hne⟩
    ⟨_, List.mem_singleton_self _, hread⟩
  exact List.mem_singleton_self _

end Removal

/-- Whatever fails, a removal is of one of the members and runs in a ready pod on another node; it
is issued if the lists are answered, a member is on the deleted node and a ready pod of etcd on
another; and it is always of a member on the deleted node exactly if the names are unambiguous. -/
theorem removed_member_iff (nodes : Set String) (d : String) :
    (∀ (w : Workload nodes) (removals : List (Pod × UInt64)),
      Prog.Executes (Answered w) [] (removeEtcdMember d) removals () → ∀ c ∈ removals,
        c.1 ∈ w.pods ∧ isPodReady c.1 = true ∧ c.1.nodeName ≠ d ∧
          ∃ member ∈ w.members, member.id = c.2) ∧
    (∀ (w : Workload nodes) (removals : List (Pod × UInt64)),
      Prog.Executes (Listed w) [] (removeEtcdMember d) removals () →
        (∃ member ∈ w.members, member.node = d) → (∃ pod ∈ w.etcdPods, Healthy d pod) →
          removals ≠ []) ∧
    ((∀ (w : Workload nodes) (removals : List (Pod × UInt64)),
      Prog.Executes (Answered w) [] (removeEtcdMember d) removals () → ∀ c ∈ removals,
        ∀ member ∈ w.members, member.id = c.2 → member.node = d) ↔ Unambiguous nodes d) := by
  refine ⟨fun w removals h c hc => ?_, fun w removals h hmember hpod => ?_, fun hall => ?_,
    fun hu w removals h c hc member hmember hid => ?_⟩
  · rcases executes_removeEtcdMember h with rfl | ⟨pod, hpod, hh, member, hmember, -, rfl⟩
    · cases hc
    · obtain rfl := List.mem_singleton.mp hc
      exact ⟨hpod, hh.ready, hh.elsewhere, member, hmember, rfl⟩
  · obtain ⟨member, hmem, hnode⟩ := hmember
    exact executes_removeEtcdMember_listed h hpod
      ⟨member, hmem, (hnode ▸ member.named : IsMemberName d member.name).readAs⟩
  · by_contra hu
    -- A cluster with only the member that is misread removes it, though it is not on `d`.
    obtain ⟨n, hn, hne, name, hname, hread⟩ := exists_misread hu
    have hexec := (executes_answering (oneMember hn hname) d).mono fun h => h.1
    rcases executes_removeEtcdMember hexec with hnil | ⟨pod, -, -, member, hmember, -, hremovals⟩
    · exact removals_of_oneMember hn hne hname hread hnil
    · obtain rfl := List.mem_singleton.mp hmember
      exact hne (hall _ _ hexec (pod, 1) (hremovals ▸ List.mem_singleton_self _) _
        (List.mem_singleton_self _) rfl)
  · rcases executes_removeEtcdMember h with rfl | ⟨pod, -, -, target, htarget, hread, rfl⟩
    · cases hc
    · obtain rfl := List.mem_singleton.mp hc
      obtain rfl := List.inj_on_of_nodup_map w.distinct hmember htarget hid
      exact hu.node_eq member.known member.named hread

namespace Sample

def nodes : Set String := {"cp", "cp-1"}

def workload : Workload nodes where
  pods := [readyPod "cp", readyPod "cp-1"]
  members :=
    [⟨⟨1, "cp-1-5f3c"⟩, "cp-1", Or.inr rfl, Or.inr ⟨"5f3c", by decide, by decide, by decide⟩⟩,
      ⟨⟨2, "cp-a4b0"⟩, "cp", Or.inl rfl, Or.inr ⟨"a4b0", by decide, by decide, by decide⟩⟩]
  distinct := by decide

end Sample

theorem removed_member_sample :
    Unambiguous {"cp-1", "cp-2"} "cp-1" ∧
    ∀ (w : Workload {"cp-1", "cp-2"}) (removals : List (Pod × UInt64)),
      Prog.Executes (Answered w) [] (removeEtcdMember "cp-1") removals () → ∀ c ∈ removals,
        ∀ member ∈ w.members, member.id = c.2 → member.node = "cp-1" := by
  have hnames : Unambiguous {"cp-1", "cp-2"} "cp-1" := by
    rintro n (rfl | rfl) hne
    · exact absurd rfl hne
    · refine ⟨by decide, ?_⟩
      rintro (h | ⟨hash, -, -, h⟩)
      · exact absurd h (by decide)
      · simpa using congrArg String.toList h
  exact ⟨hnames, (removed_member_iff {"cp-1", "cp-2"} "cp-1").2.2.mpr hnames⟩

open Sample in
/-- Node `cp` is deleted, and the member on `cp-1` is removed. -/
theorem other_member_removed :
    "cp" ∈ nodes ∧
    (Prog.serve (answering workload) [] (removeEtcdMember "cp")).2 = [(readyPod "cp-1", 1)] ∧
    workload.members.map (fun member => (member.id, member.node)) = [(1, "cp-1"), (2, "cp")] :=
  ⟨Or.inl rfl, by decide +kernel, rfl⟩

end Caphv.Etcd
