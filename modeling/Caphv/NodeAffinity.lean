import Caphv.InfraTypes

namespace Caphv

/-! A node is seen through its labels and through the outcome of each requirement. Of the
operators only `In` with one value has a law: it is the one that the controller writes. -/

structure NodeMatching (N : Type) where
  label : N → String → Option String
  expression : N → NodeSelectorRequirement → Bool
  field : N → NodeSelectorRequirement → Bool
  expression_in : ∀ n key value,
    expression n ⟨key, .in_, [value]⟩ = true ↔ label n key = some value

namespace NodeSelectorTerm

def isEmpty (t : NodeSelectorTerm) : Bool := t.matchExpressions.isEmpty && t.matchFields.isEmpty

/-- `terms[i].MatchExpressions = append(terms[i].MatchExpressions, requirement)`. -/
def require (t : NodeSelectorTerm) (r : NodeSelectorRequirement) : NodeSelectorTerm :=
  { t with matchExpressions := t.matchExpressions ++ [r] }

end NodeSelectorTerm

namespace NodeMatching

variable {N : Type} (M : NodeMatching N) (n : N)

/-- Requirements are AND-ed, and a term without requirements matches no node. -/
def term (t : NodeSelectorTerm) : Bool :=
  !t.isEmpty && t.matchExpressions.all (M.expression n) && t.matchFields.all (M.field n)

/-- Terms are OR-ed, and a missing required part matches every node. -/
def required (affinity : Option NodeAffinity) : Bool :=
  match affinity.bind NodeAffinity.required with
  | none => true
  | some terms => terms.any (M.term n)

end NodeMatching

def hostnameTopologyLabel : String := "kubernetes.io/hostname"

/-- `failureDomainNodeSelector`: the label and the value that a node of the domain has. A
domain that is not published, or has no topology key, is taken for a host name. -/
def failureDomainNodeSelector (c : HarvesterCluster) (failureDomain : String) : String × String :=
  match c.status.failureDomains.find? fun domain => domain.name = failureDomain with
  | some domain =>
    if domain.topologyKey ≠ "" then (domain.topologyKey, failureDomain)
    else (hostnameTopologyLabel, failureDomain)
  | none => (hostnameTopologyLabel, failureDomain)

def failureDomainRequirement (owner : OwnerMachine) (c : HarvesterCluster) (m : HarvesterMachine) :
    Option NodeSelectorRequirement :=
  if effectiveFailureDomain owner m = "" then none
  else
    let selector := failureDomainNodeSelector c (effectiveFailureDomain owner m)
    some ⟨selector.1, .in_, [selector.2]⟩

/-- The node is in the failure domain of the machine, if it has one. -/
def NodeMatching.InDomain {N : Type} (M : NodeMatching N) (n : N) (owner : OwnerMachine)
    (c : HarvesterCluster) (m : HarvesterMachine) : Prop :=
  effectiveFailureDomain owner m ≠ "" →
    M.label n (failureDomainNodeSelector c (effectiveFailureDomain owner m)).1 =
      some (failureDomainNodeSelector c (effectiveFailureDomain owner m)).2

structure PodAntiAffinity where
  weight : ℤ
  topologyKey : String
  matchLabel : String × String
  deriving DecidableEq

structure Affinity where
  podAntiAffinity : PodAntiAffinity
  nodeAffinity : Option NodeAffinity
  podAffinity : Option PodAffinity
  deriving DecidableEq

/-- The node affinity once the requirement is in every term. A missing required part is first
made from one empty term. -/
def NodeAffinity.pin (na : NodeAffinity) (r : NodeSelectorRequirement) : NodeAffinity :=
  { na with required := some ((na.required.getD [⟨[], []⟩]).map fun t => t.require r) }

def builtNodeAffinity (user : Option NodeAffinity) :
    Option NodeSelectorRequirement → Option NodeAffinity
  | none => user
  | some r => some ((user.getD ⟨none, []⟩).pin r)

/-- What becomes of the machine's own node affinity, which the result shares. One that the machine
does not have is made for the result alone. -/
def sharedNodeAffinity (user : Option NodeAffinity) :
    Option NodeSelectorRequirement → Option NodeAffinity
  | none => user
  | some r => user.map fun na => na.pin r

/-- `buildAffinity`: the affinity, and the machine after it. -/
def buildAffinity (name : String) (owner : OwnerMachine) (c : HarvesterCluster)
    (m : HarvesterMachine) : Affinity × HarvesterMachine :=
  let requirement := failureDomainRequirement owner c m
  ({ podAntiAffinity := ⟨1, "kubernetes.io/hostname", ("harvesterhci.io/vmNamePrefix", name)⟩
     nodeAffinity := builtNodeAffinity m.spec.nodeAffinity requirement
     podAffinity := m.spec.workloadAffinity },
    { m with spec := { m.spec with
      nodeAffinity := sharedNodeAffinity m.spec.nodeAffinity requirement } })

namespace NodeAffinity

def hasEmptyTerm (na : NodeAffinity) : Bool :=
  na.required.any fun terms => terms.any NodeSelectorTerm.isEmpty

end NodeAffinity

namespace NodeMatching

variable {N : Type} (M : NodeMatching N) (n : N)

theorem term_require (t : NodeSelectorTerm) (r : NodeSelectorRequirement) :
    M.term n (t.require r) = (M.expression n r && (M.term n t || t.isEmpty)) := by
  have hne : (t.require r).isEmpty = false := by
    simp [NodeSelectorTerm.isEmpty, NodeSelectorTerm.require]
  unfold term
  rw [hne]
  -- An empty term turns from one that matches nothing into the new requirement alone.
  cases he : t.isEmpty with
  | false => simp [NodeSelectorTerm.require, Bool.and_comm, Bool.and_assoc, Bool.and_left_comm]
  | true =>
    obtain ⟨hexpr, hfields⟩ : t.matchExpressions = [] ∧ t.matchFields = [] := by
      simpa [NodeSelectorTerm.isEmpty] using he
    simp [NodeSelectorTerm.require, hexpr, hfields]

/-- A pinned affinity accepts the nodes of the domain that the user's affinity accepts, and
all of them if one of the user's terms is empty. -/
theorem required_pin (na : NodeAffinity) (r : NodeSelectorRequirement) :
    M.required n (some (na.pin r)) =
      (M.expression n r && (M.required n (some na) || na.hasEmptyTerm)) := by
  obtain ⟨required, preferred⟩ := na
  cases required with
  | none => simp [required, NodeAffinity.pin, NodeAffinity.hasEmptyTerm, term_require,
      NodeSelectorTerm.isEmpty]
  | some terms =>
    show (terms.map fun t => t.require r).any (M.term n) =
      (M.expression n r && (terms.any (M.term n) || terms.any NodeSelectorTerm.isEmpty))
    induction terms with
    | nil => simp
    | cons t terms ih =>
      simp only [List.map_cons, List.any_cons, ih, term_require]
      cases M.expression n r <;> cases M.term n t <;> cases t.isEmpty <;> simp

variable (name : String) (owner : OwnerMachine) (c : HarvesterCluster) (m : HarvesterMachine)

theorem buildAffinity_of_no_domain (h : effectiveFailureDomain owner m = "") :
    (buildAffinity name owner c m).1.nodeAffinity = m.spec.nodeAffinity := by
  simp [buildAffinity, builtNodeAffinity, failureDomainRequirement, h]

/-- With a failure domain the result accepts the nodes of the domain that the user's affinity
accepts, and every node of the domain if one of the user's terms is empty. -/
theorem required_buildAffinity (h : effectiveFailureDomain owner m ≠ "") :
    M.required n (buildAffinity name owner c m).1.nodeAffinity = true ↔
      M.InDomain n owner c m ∧ (M.required n m.spec.nodeAffinity = true ∨
        ∃ na ∈ m.spec.nodeAffinity, na.hasEmptyTerm = true) := by
  have hin : ∀ r ∈ failureDomainRequirement owner c m,
      M.expression n r = true ↔ M.InDomain n owner c m := by
    intro r hr
    simp only [failureDomainRequirement, if_neg h, Option.mem_def, Option.some.injEq] at hr
    rw [← hr, M.expression_in, InDomain, forall_prop_of_true h]
  obtain ⟨r, hr⟩ : ∃ r, failureDomainRequirement owner c m = some r := by
    simp [failureDomainRequirement, h]
  simp only [buildAffinity, builtNodeAffinity, hr, required_pin, Bool.and_eq_true,
    Bool.or_eq_true, hin r hr]
  cases m.spec.nodeAffinity with
  | none => simp [required, NodeAffinity.hasEmptyTerm]
  | some na => simp

/-- The failure domain is AND-ed with the user's placement unless an empty term of the user,
which accepts nothing, comes to accept nodes of the domain that no other term accepts. -/
theorem required_buildAffinity_iff :
    (∀ n, M.required n (buildAffinity name owner c m).1.nodeAffinity = true ↔
      M.required n m.spec.nodeAffinity = true ∧ M.InDomain n owner c m) ↔
    effectiveFailureDomain owner m = "" ∨
      (∀ na ∈ m.spec.nodeAffinity, na.hasEmptyTerm = false) ∨
      ∀ n, M.InDomain n owner c m → M.required n m.spec.nodeAffinity = true := by
  by_cases h : effectiveFailureDomain owner m = ""
  · refine iff_of_true (fun n => ?_) (Or.inl h)
    rw [buildAffinity_of_no_domain _ _ _ _ h]
    exact (and_iff_left fun hne => absurd h hne).symm
  have hsat := fun n => M.required_buildAffinity n name owner c m h
  constructor
  · intro hand
    refine Or.inr (or_iff_not_imp_left.mpr fun hempty n hn => ?_)
    obtain ⟨na, hna, he⟩ : ∃ na ∈ m.spec.nodeAffinity, na.hasEmptyTerm = true := by
      simpa using hempty
    exact ((hand n).mp ((hsat n).mpr ⟨hn, Or.inr ⟨na, hna, he⟩⟩)).1
  · rintro (hd | hok) n
    · exact absurd hd h
    rw [hsat n, and_comm]
    refine and_congr_left fun hn => or_iff_left_of_imp ?_
    rintro ⟨na, hna, he⟩
    rcases hok with hok | hok
    · rw [hok na hna] at he
      cases he
    · exact hok n hn

end NodeMatching

namespace Placement

def byZone : NodeMatching String where
  label zone key := if key = "topology.kubernetes.io/zone" then some zone else none
  expression zone r := r.operator = .in_ ∧ r.key = "topology.kubernetes.io/zone" ∧ zone ∈ r.values
  field _ _ := false
  expression_in zone key value := by
    by_cases h : key = "topology.kubernetes.io/zone"
    · simp [h]
    · simp [h]

def owner : OwnerMachine := ⟨⟨"ns", "m", by decide⟩, some "bootstrap", ""⟩

def cluster : HarvesterCluster :=
  { (default : HarvesterCluster) with
    status := { HarvesterClusterStatus.empty with
      failureDomains := [⟨"zone-a", true, "topology.kubernetes.io/zone"⟩] } }

def machine : HarvesterMachine where
  controlPlane := true
  finalizers := []
  deleting := false
  spec := ⟨"", "zone-a", "4Gi", "key", [], [], none, none, some ⟨some [⟨[], []⟩], []⟩, none⟩
  status := HarvesterMachineStatus.empty

end Placement

open Placement in
/-- The user's affinity accepts no node; the one that is built accepts those of the zone. -/
theorem empty_term_flips :
    effectiveFailureDomain owner machine = "zone-a" ∧
      byZone.required "zone-a" machine.spec.nodeAffinity = false ∧
      byZone.required "zone-a" (buildAffinity "m" owner cluster machine).1.nodeAffinity = true := by
  decide

end Caphv
