import Caphv.ClusterController

namespace Caphv.Cluster

def present : Except ApiError Unit → Bool
  | .ok () => true
  | .error _ => false

def absent : Except ApiError Unit → Bool
  | .ok () => false
  | .error e => e.isNotFound

/-- The calls of `getOwnedCPHarversterMachines`: the List succeeds or fails, with NotFound only if
there is nothing to list; the lookup for each listed machine ends as `look` says. The state holds
the machines that are still to be looked up. -/
def Looked (w : World) (targetNamespace : String) (look : ObjectKey → Except ApiError Unit)
    (t : List ObjectKey) : (r : Req) → Resp r → List ObjectKey → Prop
  | .listMachines name, x, t' =>
    x = .ok (w.listMachines name) ∧ t' = w.listMachines name ∨
      (∃ e : ApiError, (e.isNotFound = true → w.listMachines name = []) ∧ x = .error e) ∧ t' = []
  | .getVM n, x, t' =>
    ∃ machine, t = machine :: t' ∧ n = ⟨targetNamespace, machine.name⟩ ∧ x = look machine
  | _, _, _ => False

def kept (look : ObjectKey → Except ApiError Unit) (machines : List ObjectKey) : List ObjectKey :=
  machines.filter fun machine => !absent (look machine)

/-- The machines in the namespace of the HarvesterCluster whose VM was found. -/
def owned (k : ObjectKey) (look : ObjectKey → Except ApiError Unit) (machines : List ObjectKey) :
    List ObjectKey :=
  machines.filter fun machine => machine.ns = k.ns ∧ present (look machine)

section Loop

variable {w : World} {ns : String} {look : ObjectKey → Except ApiError Unit} {c : HarvesterCluster}

theorem existingInHarvester_cons (machine : ObjectKey) (machines acc : List ObjectKey) :
    existingInHarvester ns (machine :: machines) acc = (do
      let got ← call (.getVM ⟨ns, machine.name⟩)
      existingInHarvester ns machines (if absent got then acc else acc ++ [machine])) := by
  rw [existingInHarvester]
  refine bind_congr fun got => ?_
  cases got with
  | error e =>
    cases he : e.isNotFound with
    | true => simp [absent, he]
    | false => simp [absent, he]
  | ok u => rfl

theorem executes_existingInHarvester_iff {machines t : List ObjectKey} (acc : List ObjectKey)
    {out : Option (List ObjectKey) × HarvesterCluster} :
    Prog.Executes (Looked w ns look) machines (existingInHarvester ns machines acc c) t out ↔
      t = [] ∧ out = (some (acc ++ kept look machines), c) := by
  induction machines generalizing acc with
  | nil =>
    rw [kept, List.filter_nil, List.append_nil]
    exact Prog.executes_ret_iff
  | cons machine machines ih =>
    have hkept : (if absent (look machine) then acc else acc ++ [machine]) ++ kept look machines =
        acc ++ kept look (machine :: machines) := by
      rw [kept, kept, List.filter_cons]
      cases absent (look machine) with
      | true => rfl
      | false => simp
    rw [existingInHarvester_cons, ← hkept, ← ih]
    refine Prog.executes_call_iff.trans ?_
    constructor
    · rintro ⟨x, t', ⟨m, hm, -, rfl⟩, hrest⟩
      obtain ⟨rfl, rfl⟩ := List.cons.inj hm
      exact hrest
    · intro hrest
      exact ⟨look machine, machines, ⟨machine, rfl, rfl, rfl⟩, hrest⟩

/-- The function returns the machines that the loop keeps, or the error of the List. -/
theorem executes_getOwnedCPHarversterMachines_iff {sc : Scope} {t : List ObjectKey}
    {out : Option (Except String (List ObjectKey)) × HarvesterCluster} :
    Prog.Executes (Looked w c.spec.targetNamespace look) [] (getOwnedCPHarversterMachines sc c)
        t out ↔
      t = [] ∧ (out = (some (.ok (kept look (w.listMachines sc.cluster.key.name))), c) ∨
        ∃ e : ApiError, e.isNotFound = false ∧
          out = (some (.error ("unable to list owned ControlPlane Machines: " ++ e.message)),
            c)) := by
  -- What follows the List, in the two ways it ends.
  have hlisted : ∀ machines t out, Prog.Executes (Looked w c.spec.targetNamespace look) machines
      ((do
        let c ← Body.get
        let owned ← existingInHarvester c.spec.targetNamespace machines []
        pure (.ok owned) : Pass (Except String (List ObjectKey))) c) t out ↔
        t = [] ∧ out = (some (.ok (kept look machines)), c) := by
    intro machines t out
    rw [Body.get_bind_apply,
      Body.executes_bind_iff fun _ _ => executes_existingInHarvester_iff []]
    exact Body.executes_pure_iff
  have hfailed : ∀ e : ApiError, ∀ t out,
      Prog.Executes (Looked w c.spec.targetNamespace look) []
      ((if e.isNotFound then pure (.ok [])
        else pure (.error ("unable to list owned ControlPlane Machines: " ++ e.message)) :
          Pass (Except String (List ObjectKey))) c) t out ↔ t = [] ∧
        out = (some (if e.isNotFound then .ok []
          else .error ("unable to list owned ControlPlane Machines: " ++ e.message)), c) := by
    intro e t out
    split_ifs
    · exact Body.executes_pure_iff
    · exact Body.executes_pure_iff
  unfold getOwnedCPHarversterMachines
  rw [Body.executes_request_bind_iff]
  constructor
  · rintro ⟨x, t', ⟨rfl, rfl⟩ | ⟨⟨e, he, rfl⟩, rfl⟩, hrest⟩
    · obtain ⟨rfl, rfl⟩ := (hlisted _ _ _).mp hrest
      exact ⟨rfl, Or.inl rfl⟩
    · obtain ⟨rfl, rfl⟩ := (hfailed e _ _).mp hrest
      refine ⟨rfl, ?_⟩
      cases hnf : e.isNotFound with
      | true =>
        -- NotFound is answered only when nothing is listed, and the result is the same.
        rw [he hnf]
        exact Or.inl rfl
      | false => exact Or.inr ⟨e, hnf, rfl⟩
  · rintro ⟨rfl, rfl | ⟨e, he, rfl⟩⟩
    · exact ⟨_, _, Or.inl ⟨rfl, rfl⟩, (hlisted _ _ _).mpr ⟨rfl, rfl⟩⟩
    · have hnf : e.isNotFound = true → w.listMachines sc.cluster.key.name = [] := by
        rw [he]
        exact nofun
      refine ⟨.error e, [], Or.inr ⟨⟨e, hnf, rfl⟩, rfl⟩, (hfailed e _ _).mpr ⟨rfl, ?_⟩⟩
      rw [he]
      rfl

end Loop

section Exact

variable {k : ObjectKey} {look : ObjectKey → Except ApiError Unit} {machines : List ObjectKey}

/-- Every listed machine that is not answered with NotFound is one of the cluster's namespace, and
its VM was found. -/
def Attributable (k : ObjectKey) (look : ObjectKey → Except ApiError Unit)
    (machines : List ObjectKey) : Prop :=
  ∀ machine ∈ machines, absent (look machine) = false →
    machine.ns = k.ns ∧ present (look machine) = true

/-- Without an error exactly the owned machines are returned, and a lookup that fails with an error
other than NotFound gives an error. -/
structure Exact (sc : Scope) (c : HarvesterCluster) (w : World)
    (look : ObjectKey → Except ApiError Unit) : Prop where
  returned : ∀ t out, Prog.Executes (Looked w c.spec.targetNamespace look) []
    (getOwnedCPHarversterMachines sc c) t out → ∀ found, out.1 = some (.ok found) →
      found = owned sc.key look (w.listMachines sc.cluster.key.name)
  failed : ∀ t out, Prog.Executes (Looked w c.spec.targetNamespace look) []
    (getOwnedCPHarversterMachines sc c) t out →
      (∃ machine ∈ w.listMachines sc.cluster.key.name,
        present (look machine) = false ∧ absent (look machine) = false) →
      ∃ e, out.1 = some (.error e)

theorem not_absent_of_present {x : Except ApiError Unit} (h : present x = true) :
    absent x = false := by
  cases x with
  | ok u => rfl
  | error e => cases h

/-- The loop keeps exactly the owned machines if and only if all that it keeps are owned. -/
theorem kept_eq_owned_iff : kept look machines = owned k look machines ↔
    Attributable k look machines := by
  constructor
  · intro h machine hm hkept
    have hmem : machine ∈ kept look machines :=
      List.mem_filter.mpr ⟨hm, by rw [hkept]; rfl⟩
    rw [h, owned, List.mem_filter, decide_eq_true_eq] at hmem
    exact hmem.2
  · intro h
    refine List.filter_congr fun machine hm => ?_
    cases ha : absent (look machine) with
    | true =>
      have hp : present (look machine) = false := by
        by_contra hp
        rw [not_absent_of_present (Bool.not_eq_false _ ▸ hp)] at ha
        cases ha
      simp [hp]
    | false => simp [h machine hm ha]

variable {sc : Scope} {c : HarvesterCluster} {w w₁ w₂ : World}

theorem exact_iff :
    Exact sc c w look ↔ Attributable sc.key look (w.listMachines sc.cluster.key.name) := by
  rw [← kept_eq_owned_iff]
  constructor
  · intro h
    exact h.returned [] _ (executes_getOwnedCPHarversterMachines_iff.mpr ⟨rfl, Or.inl rfl⟩) _ rfl
  · intro h
    refine ⟨fun t out he found hfound => ?_, fun t out he hbad => ?_⟩
    · obtain ⟨-, rfl | ⟨e, -, rfl⟩⟩ := executes_getOwnedCPHarversterMachines_iff.mp he
      · rw [← Except.ok.inj (Option.some.inj hfound), h]
      · cases hfound
    · -- Such a machine would be kept, and then it is owned.
      obtain ⟨machine, hm, hpresent, habsent⟩ := hbad
      rw [(kept_eq_owned_iff.mp h machine hm habsent).2] at hpresent
      cases hpresent

/-- The two states have the same HarvesterMachines in the namespace, in the same order. -/
def SameOwn (ns : String) (w₁ w₂ : World) : Prop :=
  w₁.machines.entries.filter (fun e => e.1.ns = ns) =
    w₂.machines.entries.filter fun e => e.1.ns = ns

/-- The owned machines depend on the namespace of the cluster only. -/
theorem owned_congr {look₁ look₂ : ObjectKey → Except ApiError Unit} {name : String}
    (hw : SameOwn k.ns w₁ w₂)
    (hlook : ∀ machine, machine.ns = k.ns → look₁ machine = look₂ machine) :
    owned k look₁ (w₁.listMachines name) = owned k look₂ (w₂.listMachines name) := by
  -- The machines can be filtered by namespace first.
  have hview : ∀ (w : World) (look : ObjectKey → Except ApiError Unit),
      owned k look (w.listMachines name) =
        (((w.machines.entries.filter fun e => e.1.ns = k.ns).filter fun e =>
          (e.2.clusterName = some name ∧ e.2.controlPlane) ∧ present (look e.1)).map
            Sigma.fst) := by
    intro w look
    rw [owned, World.listMachines, List.filter_map, List.filter_filter, List.filter_filter]
    congr 1
    refine List.filter_congr fun e _ => ?_
    rw [Bool.eq_iff_iff]
    simp only [Bool.and_eq_true, decide_eq_true_eq, Function.comp_apply]
    tauto
  rw [hview, hview, hw]
  congr 1
  refine List.filter_congr fun e he => ?_
  rw [hlook e.1 (of_decide_eq_true (List.mem_filter.mp he).2)]

end Exact

/-- The machines are exactly the cluster's own with a VM, and failed lookups are reported, if and
only if every listed machine but those answered with NotFound is of the cluster's namespace and was
found; between two such states the machines of other namespaces make no difference. -/
theorem owned_machines_exact_iff (sc : Scope) (c : HarvesterCluster) (w : World)
    (look : ObjectKey → Except ApiError Unit) :
    (Exact sc c w look ↔ Attributable sc.key look (w.listMachines sc.cluster.key.name)) ∧
    ∀ (w' : World) (look' : ObjectKey → Except ApiError Unit), SameOwn sc.key.ns w w' →
      (∀ machine, machine.ns = sc.key.ns → look machine = look' machine) →
      Attributable sc.key look (w.listMachines sc.cluster.key.name) →
      Attributable sc.key look' (w'.listMachines sc.cluster.key.name) →
      ∀ t t' out out' found found',
        Prog.Executes (Looked w c.spec.targetNamespace look) []
          (getOwnedCPHarversterMachines sc c) t out →
        Prog.Executes (Looked w' c.spec.targetNamespace look') []
          (getOwnedCPHarversterMachines sc c) t' out' →
        out.1 = some (.ok found) → out'.1 = some (.ok found') → found = found' := by
  refine ⟨exact_iff, ?_⟩
  intro w' look' hw hlook h h' t t' out out' found found' he he' hf hf'
  rw [(exact_iff.mpr h).returned t out he found hf,
    (exact_iff.mpr h').returned t' out' he' found' hf']
  exact owned_congr hw hlook

namespace Sample

def ownMachine : ObjectKey := ⟨"ns", "cp", by decide⟩

def foreignMachine : ObjectKey := ⟨"other", "cp", by decide⟩

def ownScope : Scope := ⟨⟨"ns", "own", by decide⟩, ⟨⟨"ns", "prod", by decide⟩, ∅⟩⟩

def machinesWorld (machines : List ObjectKey) : World where
  clusters := ∅
  machines := machines.foldr (fun m t => t.insert m ⟨some "prod", true⟩) ∅
  configMaps := ∅
  fleetClusters := ∅
  pools := ∅
  services := ∅
  loadBalancers := ∅
  owed := []

def everythingFound : ObjectKey → Except ApiError Unit := fun _ => .ok ()

def timeout : ObjectKey → Except ApiError Unit := fun _ => .error (.other "timeout")

end Sample

open Sample in
theorem owned_machines_exact_sample :
    Exact ownScope default (machinesWorld [ownMachine]) everythingFound ∧
    ∀ t out found, Prog.Executes (Looked (machinesWorld [ownMachine]) "" everythingFound) []
      (getOwnedCPHarversterMachines ownScope default) t out → out.1 = some (.ok found) →
        found = [ownMachine] := by
  have hattr : Attributable ownScope.key everythingFound
      ((machinesWorld [ownMachine]).listMachines "prod") := by
    have hlist : (machinesWorld [ownMachine]).listMachines "prod" = [ownMachine] := by
      decide +kernel
    rw [hlist]
    intro machine hm _
    obtain rfl := List.mem_singleton.mp hm
    exact ⟨rfl, rfl⟩
  refine ⟨(owned_machines_exact_iff ownScope default _ everythingFound).1.mpr hattr, ?_⟩
  intro t out found he hfound
  have hsame := (owned_machines_exact_iff ownScope default (machinesWorld [ownMachine])
    everythingFound).2 (machinesWorld [ownMachine]) everythingFound rfl (fun _ _ => rfl) hattr
    hattr t [] out _ found _ he
    (executes_getOwnedCPHarversterMachines_iff.mpr ⟨rfl, Or.inl rfl⟩) hfound rfl
  rw [hsame]
  decide +kernel

open Sample in
/-- A machine of a cluster with the same name in another namespace is counted, and so is one whose
lookup timed out. -/
theorem foreign_and_unknown_machines_counted :
    Prog.Executes (Looked (machinesWorld [foreignMachine]) "" everythingFound) []
      (getOwnedCPHarversterMachines ownScope default) []
      (some (.ok [foreignMachine]), default) ∧
    foreignMachine.ns ≠ ownScope.key.ns ∧
    Prog.Executes (Looked (machinesWorld [ownMachine]) "" timeout) []
      (getOwnedCPHarversterMachines ownScope default) []
      (some (.ok [ownMachine]), default) := by
  have hforeign : kept everythingFound ((machinesWorld [foreignMachine]).listMachines "prod") =
      [foreignMachine] := by decide +kernel
  have hown : kept timeout ((machinesWorld [ownMachine]).listMachines "prod") = [ownMachine] := by
    decide +kernel
  refine ⟨(executes_getOwnedCPHarversterMachines_iff (c := default)).mpr ⟨rfl, Or.inl ?_⟩,
    by decide, (executes_getOwnedCPHarversterMachines_iff (c := default)).mpr ⟨rfl, Or.inl ?_⟩⟩
  · exact congrArg (fun found => (some (Except.ok found), default)) hforeign.symm
  · exact congrArg (fun found => (some (Except.ok found), default)) hown.symm

end Caphv.Cluster
