import Mathlib.Data.String.Basic
import Caphv.ClusterController
import Caphv.NodeAffinity

namespace Caphv.Cluster

/-- The zone label of a host; a missing one reads as the empty string. -/
def Node.zone (n : Node) : String := (n.labels.lookup "topology.kubernetes.io/zone").getD ""

def AllZoned (nodes : List Node) : Prop := ∀ n ∈ nodes, n.zone ≠ ""

instance (nodes : List Node) : Decidable (AllZoned nodes) :=
  inferInstanceAs (Decidable (∀ n ∈ _, _))

def topologyKey (nodes : List Node) : String :=
  if AllZoned nodes then "topology.kubernetes.io/zone" else "kubernetes.io/hostname"

def domainName (nodes : List Node) (n : Node) : String := if AllZoned nodes then n.zone else n.name

theorem failureDomainsFromNodes_eq (nodes : List Node) : failureDomainsFromNodes nodes =
    ((nodes.map (domainName nodes)).dedup.insertionSort (· ≤ ·)).map
      fun name => ⟨name, true, topologyKey nodes⟩ := by
  have hzoned : (nodes.all fun n =>
      (n.labels.lookup "topology.kubernetes.io/zone").getD "" ≠ "") = true ↔ AllZoned nodes := by
    simp [AllZoned, Node.zone]
  unfold failureDomainsFromNodes
  simp only [hzoned]
  rfl

/-- A domain is published for each name, with the key of the list. -/
theorem mem_failureDomainsFromNodes {nodes : List Node} {d : FailureDomain} :
    d ∈ failureDomainsFromNodes nodes ↔
      ∃ n ∈ nodes, d = ⟨domainName nodes n, true, topologyKey nodes⟩ := by
  rw [failureDomainsFromNodes_eq]
  simp [eq_comm]

theorem names_increasing (nodes : List Node) :
    ((failureDomainsFromNodes nodes).map FailureDomain.name).Pairwise (· < ·) := by
  rw [failureDomainsFromNodes_eq, List.map_map]
  show List.Pairwise _ (List.map id _)
  rw [List.map_id]
  have hnodup := (List.perm_insertionSort (· ≤ ·) _).nodup_iff.mpr
    (List.nodup_dedup (nodes.map (domainName nodes)))
  exact ((List.pairwise_insertionSort (· ≤ ·) _).sortedLE.sortedLT_of_nodup hnodup).pairwise

/-- The host has the label and the value that a machine of the domain must schedule on. -/
def Node.InDomain (n : Node) (c : HarvesterCluster) (d : FailureDomain) : Prop :=
  n.labels.lookup (failureDomainNodeSelector c d.name).1 =
    some (failureDomainNodeSelector c d.name).2

def publish (c : HarvesterCluster) (nodes : List Node) : HarvesterCluster :=
  { c with status := { c.status with failureDomains := failureDomainsFromNodes nodes } }

/-- Domains are listed by name, each host is in exactly one of them, and none is without. -/
structure Schedulable (c : HarvesterCluster) (nodes : List Node) : Prop where
  increasing : (c.status.failureDomains.map FailureDomain.name).Pairwise (· < ·)
  covers : ∀ n ∈ nodes, ∃! d, d ∈ c.status.failureDomains ∧ n.InDomain c d
  populated : ∀ d ∈ c.status.failureDomains, ∃ n ∈ nodes, n.InDomain c d

/-- The hostname labels of the hosts are, over the whole list, the names of the hosts. -/
def HostLabelsAreNames (nodes : List Node) : Prop :=
  (∀ n ∈ nodes, ∃ n' ∈ nodes, n.labels.lookup "kubernetes.io/hostname" = some n'.name) ∧
    ∀ n' ∈ nodes, ∃ n ∈ nodes, n.labels.lookup "kubernetes.io/hostname" = some n'.name

section Published

variable (c : HarvesterCluster) {nodes : List Node}

/-- A published domain is found again, under the key it was published with. -/
theorem failureDomainNodeSelector_publish {n : Node} (hn : n ∈ nodes) :
    failureDomainNodeSelector (publish c nodes) (domainName nodes n) =
      (topologyKey nodes, domainName nodes n) := by
  have hkey : topologyKey nodes ≠ "" := by
    unfold topologyKey
    split_ifs <;> decide
  obtain ⟨d, hd⟩ : ∃ d, (failureDomainsFromNodes nodes).find?
      (fun d => d.name = domainName nodes n) = some d := by
    rw [← Option.isSome_iff_exists, List.find?_isSome]
    exact ⟨_, mem_failureDomainsFromNodes.mpr ⟨n, hn, rfl⟩, by simp⟩
  obtain ⟨n', -, rfl⟩ := mem_failureDomainsFromNodes.mp (List.mem_of_find?_eq_some hd)
  unfold failureDomainNodeSelector publish
  simp only [hd, if_pos hkey]

theorem inDomain_publish {n n' : Node} (hn' : n' ∈ nodes) :
    n.InDomain (publish c nodes) ⟨domainName nodes n', true, topologyKey nodes⟩ ↔
      n.labels.lookup (topologyKey nodes) = some (domainName nodes n') := by
  rw [Node.InDomain, failureDomainNodeSelector_publish c hn']

/-- Publisher and scheduler agree if the values of the label are the names that were published. -/
theorem schedulable_publish_iff : Schedulable (publish c nodes) nodes ↔
    (∀ n ∈ nodes, ∃ n' ∈ nodes, n.labels.lookup (topologyKey nodes) = some (domainName nodes n')) ∧
      ∀ n' ∈ nodes, ∃ n ∈ nodes,
        n.labels.lookup (topologyKey nodes) = some (domainName nodes n') := by
  constructor
  · intro h
    refine ⟨fun n hn => ?_, fun n' hn' => ?_⟩
    · obtain ⟨d, ⟨hd, hin⟩, -⟩ := h.covers n hn
      obtain ⟨n', hn', rfl⟩ := mem_failureDomainsFromNodes.mp hd
      exact ⟨n', hn', (inDomain_publish c hn').mp hin⟩
    · obtain ⟨n, hn, hin⟩ := h.populated _ (mem_failureDomainsFromNodes.mpr ⟨n', hn', rfl⟩)
      exact ⟨n, hn, (inDomain_publish c hn').mp hin⟩
  · rintro ⟨hcovers, hpopulated⟩
    refine ⟨names_increasing nodes, fun n hn => ?_, fun d hd => ?_⟩
    · obtain ⟨n', hn', hlabel⟩ := hcovers n hn
      refine ⟨_, ⟨mem_failureDomainsFromNodes.mpr ⟨n', hn', rfl⟩,
        (inDomain_publish c hn').mpr hlabel⟩, ?_⟩
      -- The label has one value, and a value names one domain.
      rintro d ⟨hd, hin⟩
      obtain ⟨n'', hn'', rfl⟩ := mem_failureDomainsFromNodes.mp hd
      have hsame := ((inDomain_publish c hn'').mp hin).symm.trans hlabel
      rw [Option.some.inj hsame]
    · obtain ⟨n', hn', rfl⟩ := mem_failureDomainsFromNodes.mp hd
      obtain ⟨n, hn, hlabel⟩ := hpopulated n' hn'
      exact ⟨n, hn, (inDomain_publish c hn').mpr hlabel⟩

theorem lookup_zone {n : Node} (h : n.zone ≠ "") :
    n.labels.lookup "topology.kubernetes.io/zone" = some n.zone := by
  unfold Node.zone at h ⊢
  cases hl : n.labels.lookup "topology.kubernetes.io/zone" with
  | none => simp [hl] at h
  | some zone => rfl

/-- Domains made from zones can always be scheduled on. Domains made from host names can be
exactly if the hostname labels agree with them. -/
theorem published_schedulable_iff (nodes : List Node) :
    Schedulable (publish c nodes) nodes ↔ AllZoned nodes ∨ HostLabelsAreNames nodes := by
  rw [schedulable_publish_iff]
  by_cases hz : AllZoned nodes
  · have hlabel : ∀ n ∈ nodes,
        n.labels.lookup (topologyKey nodes) = some (domainName nodes n) := by
      intro n hn
      rw [topologyKey, domainName, if_pos hz, if_pos hz]
      exact lookup_zone (hz n hn)
    exact iff_of_true ⟨fun n hn => ⟨n, hn, hlabel n hn⟩, fun n hn => ⟨n, hn, hlabel n hn⟩⟩
      (Or.inl hz)
  · have hlabel : ∀ n : Node, n.labels.lookup (topologyKey nodes) =
        n.labels.lookup "kubernetes.io/hostname" := fun n => by rw [topologyKey, if_neg hz]
    have hname : ∀ n, domainName nodes n = n.name := fun n => if_neg hz
    simp only [hlabel, hname, HostLabelsAreNames, or_iff_right hz]

end Published

namespace Hosts

def node : Node :=
  ⟨"node-1", (∅ : Table String String).insert "kubernetes.io/hostname" "node-1.example"⟩

end Hosts

/-- The host is published as a domain that no host is in. -/
theorem host_not_schedulable :
    (failureDomainsFromNodes [Hosts.node]).map FailureDomain.name = ["node-1"] ∧
      ¬ Schedulable (publish default [Hosts.node]) [Hosts.node] := by
  refine ⟨by decide, fun h => ?_⟩
  obtain ⟨n, hn, hin⟩ := h.populated ⟨"node-1", true, "kubernetes.io/hostname"⟩ (by decide)
  obtain rfl : n = Hosts.node := by simpa using hn
  exact absurd hin (by unfold Node.InDomain; decide)

end Caphv.Cluster
