import Caphv.CreationPass
import Caphv.FinalizerSafety

namespace Caphv

/-- A `v1.NodeAffinity` in memory, with the pointer to its required part. -/
structure NodeAffinityObject where
  required : Option ℕ
  preferred : List PreferredSchedulingTerm
  deriving DecidableEq

/-- The objects that a node affinity reaches; a pointer is the index of its object. A
`v1.NodeSelector` holds a slice, that is, refers to an array of terms. The slices of requirements
are values: each is reached through one term, and what is appended is stored back into it. -/
structure Heap where
  nodeAffinities : List NodeAffinityObject
  nodeSelectors : List ℕ
  termArrays : List (List NodeSelectorTerm)
  deriving DecidableEq

namespace Heap

variable (h : Heap)

def terms (q : ℕ) : Option (List NodeSelectorTerm) :=
  h.nodeSelectors[q]?.bind fun a => h.termArrays[a]?

def load (p : ℕ) : Option NodeAffinity :=
  h.nodeAffinities[p]?.bind fun o =>
    match o.required with
    | none => some ⟨none, o.preferred⟩
    | some q => (h.terms q).map fun terms => ⟨some terms, o.preferred⟩

def Holds (p : Option ℕ) (v : Option NodeAffinity) : Prop := p.map h.load = v.map some

def ensureRequired (p : ℕ) : Option (ℕ × Heap) :=
  h.nodeAffinities[p]?.map fun o =>
    match o.required with
    | some q => (q, h)
    | none => (h.nodeSelectors.length,
      { nodeAffinities := h.nodeAffinities.set p ⟨some h.nodeSelectors.length, o.preferred⟩
        nodeSelectors := h.nodeSelectors ++ [h.termArrays.length]
        termArrays := h.termArrays ++ [[⟨[], []⟩]] })

/-- The loop over the terms of a selector, which writes to the array that the slice refers to. -/
def appendRequirement (q : ℕ) (r : NodeSelectorRequirement) : Option Heap :=
  h.nodeSelectors[q]?.bind fun a => h.termArrays[a]?.map fun terms =>
    { h with termArrays := h.termArrays.set a (terms.map fun t => t.require r) }

def takeOver : Option ℕ → ℕ × Heap
  | some p => (p, h)
  | none => (h.nodeAffinities.length,
    { h with nodeAffinities := h.nodeAffinities ++ [⟨none, []⟩] })

/-- The node affinity of `buildAffinity`: the pointer of the machine is taken over, and what is
behind it is extended in place. -/
def buildNodeAffinity (user : Option ℕ) :
    Option NodeSelectorRequirement → Option (Option ℕ × Heap)
  | none => some (user, h)
  | some r => do
    let (p, h₁) := h.takeOver user
    let (q, h₂) ← h₁.ensureRequired p
    let h₃ ← h₂.appendRequirement q r
    pure (some p, h₃)

/-- Calls in a row for one machine: what each of them returns, as it is then, and the memory
after the last. -/
def buildTimes (user : Option ℕ) (requirement : Option NodeSelectorRequirement) :
    ℕ → Heap → Option (List (Option NodeAffinity) × Heap)
  | 0, h => some ([], h)
  | n + 1, h => do
    let (p, h₁) ← h.buildNodeAffinity user requirement
    let (rest, h₂) ← buildTimes user requirement n h₁
    pure (p.bind h₁.load :: rest, h₂)

variable {h}

theorem Holds.unique {p : Option ℕ} {v v' : Option NodeAffinity} (hv : h.Holds p v)
    (hv' : h.Holds p v') : v = v' :=
  Option.map_injective (Option.some_injective _) (hv.symm.trans hv')

theorem Holds.load {p : Option ℕ} {v : Option NodeAffinity} (hv : h.Holds p v) :
    p.bind h.load = v := by
  cases p with
  | none => cases v with
    | none => rfl
    | some na => cases hv
  | some p => cases v with
    | none => cases hv
    | some na => exact Option.some.inj hv

theorem holds_some {p : ℕ} {na : NodeAffinity} : h.Holds (some p) (some na) ↔ h.load p = some na :=
  Option.some_inj

/-- A required part is there afterwards; one that was there is not touched. -/
theorem load_ensureRequired {p : ℕ} {na : NodeAffinity} (hp : h.load p = some na) :
    ∃ q h', h.ensureRequired p = some (q, h') ∧
      h'.nodeAffinities[p]? = some ⟨some q, na.preferred⟩ ∧
      h'.terms q = some (na.required.getD [⟨[], []⟩]) := by
  obtain ⟨o, ho, hna⟩ := Option.bind_eq_some_iff.mp hp
  obtain ⟨required, preferred⟩ := o
  cases required with
  | none =>
    -- A new selector with one empty term is allocated and hung into the object.
    obtain rfl := Option.some.inj hna
    refine ⟨_, _, by rw [ensureRequired, ho]; rfl, ?_, ?_⟩
    · simp [(List.getElem?_eq_some_iff.mp ho).1]
    · simp [terms]
  | some q =>
    obtain ⟨terms, hterms, rfl⟩ := Option.map_eq_some_iff.mp hna
    exact ⟨q, h, by rw [ensureRequired, ho]; rfl, ho, hterms⟩

theorem load_appendRequirement {p q : ℕ} {preferred : List PreferredSchedulingTerm}
    {terms : List NodeSelectorTerm} (r : NodeSelectorRequirement)
    (hp : h.nodeAffinities[p]? = some ⟨some q, preferred⟩) (hq : h.terms q = some terms) :
    ∃ h', h.appendRequirement q r = some h' ∧
      h'.load p = some ⟨some (terms.map fun t => t.require r), preferred⟩ := by
  obtain ⟨a, ha, hterms⟩ := Option.bind_eq_some_iff.mp hq
  refine ⟨_, by rw [appendRequirement, ha, Option.bind_some, hterms]; rfl, ?_⟩
  have hlt := (List.getElem?_eq_some_iff.mp hterms).1
  simp [load, hp, Heap.terms, ha, hlt]

/-- What is behind the pointer is extended in place. -/
theorem load_pin {p : ℕ} {na : NodeAffinity} (r : NodeSelectorRequirement)
    (hp : h.load p = some na) :
    ∃ q h₁ h', h.ensureRequired p = some (q, h₁) ∧ h₁.appendRequirement q r = some h' ∧
      h'.load p = some (na.pin r) := by
  obtain ⟨q, h₁, hq, hp₁, hterms⟩ := load_ensureRequired hp
  obtain ⟨h', happ, hload⟩ := load_appendRequirement r hp₁ hterms
  exact ⟨q, h₁, h', hq, happ, hload⟩

/-- The function on values is what the one on memory does: the pointer that is returned stands
for the node affinity that is built, and that of the machine for what becomes of its own. -/
theorem buildNodeAffinity_holds {user : Option ℕ} {v : Option NodeAffinity} (hv : h.Holds user v)
    (requirement : Option NodeSelectorRequirement) :
    ∃ p h', h.buildNodeAffinity user requirement = some (p, h') ∧
      h'.Holds p (builtNodeAffinity v requirement) ∧
      h'.Holds user (sharedNodeAffinity v requirement) := by
  cases requirement with
  | none => exact ⟨user, h, rfl, hv, hv⟩
  | some r =>
    cases user with
    | some p =>
      cases v with
      | none => cases hv
      | some na =>
        -- The pointer of the machine is returned, so both sides see the extended terms.
        obtain ⟨q, h₁, h', hq, happ, hload⟩ := load_pin r (holds_some.mp hv)
        exact ⟨some p, h', by simp [buildNodeAffinity, takeOver, hq, happ], holds_some.mpr hload,
          holds_some.mpr hload⟩
    | none =>
      cases v with
      | some na => cases hv
      | none =>
        have hnew : load { h with nodeAffinities := h.nodeAffinities ++ [⟨none, []⟩] }
            h.nodeAffinities.length = some ⟨none, []⟩ := by simp [load]
        obtain ⟨q, h₁, h', hq, happ, hload⟩ := load_pin r hnew
        exact ⟨_, h', by simp [buildNodeAffinity, takeOver, hq, happ], holds_some.mpr hload, rfl⟩

end Heap

/-- The machine has a failure domain and a node affinity of its own that it is written into. -/
def Pinned (owner : OwnerMachine) (m : HarvesterMachine) : Prop :=
  effectiveFailureDomain owner m ≠ "" ∧ ∃ na ∈ m.spec.nodeAffinity, na.required ≠ some []

instance (owner : OwnerMachine) (m : HarvesterMachine) : Decidable (Pinned owner m) :=
  inferInstanceAs (Decidable (_ ∧ _))

theorem NodeSelectorTerm.require_ne (t : NodeSelectorTerm) (r : NodeSelectorRequirement) :
    t.require r ≠ t := by
  intro h
  have hlen := congrArg (fun t => t.matchExpressions.length) h
  simp [NodeSelectorTerm.require] at hlen

/-- Only an empty list of terms has nothing to be extended. -/
theorem NodeAffinity.required_pin_eq_iff (na : NodeAffinity) (r : NodeSelectorRequirement) :
    (na.pin r).required = na.required ↔ na.required = some [] := by
  unfold NodeAffinity.pin
  rcases na.required with - | (- | ⟨t, ts⟩)
  · simp
  · simp
  · simp [t.require_ne r]

theorem NodeAffinity.pin_eq_iff (na : NodeAffinity) (r : NodeSelectorRequirement) :
    na.pin r = na ↔ na.required = some [] := by
  rw [← na.required_pin_eq_iff r]
  exact ⟨congrArg _, congrArg fun required => NodeAffinity.mk required na.preferred⟩

section Calls

variable (owner : OwnerMachine) (c : HarvesterCluster) (m : HarvesterMachine)

theorem sharedNodeAffinity_eq_iff :
    sharedNodeAffinity m.spec.nodeAffinity (failureDomainRequirement owner c m) =
      m.spec.nodeAffinity ↔ ¬ Pinned owner m := by
  unfold Pinned
  by_cases hd : effectiveFailureDomain owner m = ""
  · simp [failureDomainRequirement, sharedNodeAffinity, hd]
  · simp only [failureDomainRequirement, sharedNodeAffinity, if_neg hd]
    cases m.spec.nodeAffinity with
    | none => simp
    | some na => simp [na.pin_eq_iff, hd]

end Calls

namespace Heap

variable {h : Heap} {user : Option ℕ} {v : Option NodeAffinity}

/-- However often it is called, `buildAffinity` leaves the node affinity of the machine as it is
and returns the same. -/
def Stable (h : Heap) (user : Option ℕ) (v : Option NodeAffinity)
    (requirement : Option NodeSelectorRequirement) : Prop :=
  ∀ n, ∃ returned h', buildTimes user requirement n h = some (returned, h') ∧ h'.Holds user v ∧
    ∀ a ∈ returned, ∀ b ∈ returned, a = b

theorem buildTimes_of_shared {requirement : Option NodeSelectorRequirement}
    (hsame : sharedNodeAffinity v requirement = v) (n : ℕ) (hv : h.Holds user v) :
    ∃ returned h', buildTimes user requirement n h = some (returned, h') ∧ h'.Holds user v ∧
      ∀ a ∈ returned, a = builtNodeAffinity v requirement := by
  -- The memory changes with every call; what is behind the pointer of the machine does not.
  induction n generalizing h with
  | zero => exact ⟨[], h, rfl, hv, by simp⟩
  | succ n ih =>
    obtain ⟨p, h₁, hbuild, hp, huser⟩ := buildNodeAffinity_holds hv requirement
    rw [hsame] at huser
    obtain ⟨returned, h', hrest, hv', hall⟩ := ih huser
    refine ⟨p.bind h₁.load :: returned, h', by simp [buildTimes, hbuild, hrest], hv', ?_⟩
    rintro a (_ | ⟨_, ha⟩)
    · exact hp.load
    · exact hall a ha

theorem stable_iff (hv : h.Holds user v) (requirement : Option NodeSelectorRequirement) :
    h.Stable user v requirement ↔ sharedNodeAffinity v requirement = v := by
  constructor
  · -- One call is enough to see a change.
    intro hs
    obtain ⟨returned, h', hone, hkept, -⟩ := hs 1
    obtain ⟨p, h₁, hbuild, -, huser⟩ := buildNodeAffinity_holds hv requirement
    obtain rfl : h₁ = h' := by simpa [buildTimes, hbuild] using congrArg (Option.map Prod.snd) hone
    exact huser.unique hkept
  · intro hsame n
    obtain ⟨returned, h', hrun, hkept, hall⟩ := buildTimes_of_shared hsame n hv
    exact ⟨returned, h', hrun, hkept, fun a ha b hb => (hall a ha).trans (hall b hb).symm⟩

end Heap

namespace Machine

open Body (Leads)

def ensured : (r : Req) → Resp r → Bool
  | .getSecret _, .error e => !e.isNotFound
  | .createSecret _ _, .ok _ => true
  | .updateSecret _ _, .ok _ => true
  | _, _ => false

def Reaches (t : Bool) (r : Req) (x : Resp r) (t' : Bool) : Prop := t' = (t || ensured r x)

/-- Of the spec only the provider id has changed, from empty to non-empty, and the deferred patch
holds nothing else of it. -/
structure SpecKept (m s : HarvesterMachine) : Prop where
  spec : ∃ id, s.spec = { m.spec with providerID := id } ∧
    (id = m.spec.providerID ∨ m.spec.providerID = "" ∧ id ≠ "")
  patch : (ObjectPatch.between m s).requiredTerms = none

def SpecOf (sc : Scope) (m : HarvesterMachine) (t : Bool) (spec : HarvesterMachineSpec) : Prop :=
  ∃ id, (id = m.spec.providerID ∨ m.spec.providerID = "" ∧ id ≠ "") ∧
    spec = { m.spec with
      providerID := id
      nodeAffinity := if t then sharedNodeAffinity m.spec.nodeAffinity
        (failureDomainRequirement sc.machine sc.harvesterCluster m) else m.spec.nodeAffinity }

section Pass

variable {ext : Externals} {sc : Scope} {m s : HarvesterMachine} {t : Bool}

theorem hides_reaches : Hides Reaches (id : Bool → Bool) := by
  intro t r x t' hr hx
  have hno : ensured r x = false := by
    cases r with
    | getSecret n => cases hr
    | createSecret n d => cases hr
    | updateSecret n d => cases hr
    | _ => rfl
  rw [hx, hno, Bool.or_false]

/-- Before the template is built, the requirement of the machine in memory is that of `m`. -/
theorem SpecOf.buildAffinity (h : SpecOf sc m false s.spec) :
    SpecOf sc m true (Caphv.buildAffinity sc.key.name sc.machine sc.harvesterCluster s).2.spec := by
  obtain ⟨id, hid, hs⟩ := h
  refine ⟨id, hid, ?_⟩
  have hreq : failureDomainRequirement sc.machine sc.harvesterCluster s =
      failureDomainRequirement sc.machine sc.harvesterCluster m := by
    simp [failureDomainRequirement, effectiveFailureDomain, hs]
  simp [Caphv.buildAffinity, hreq, hs]

theorem leads_ensureCloudInitSecret (n : NamespacedName) (data : CloudInitSecret) :
    Leads Reaches false (ensureCloudInitSecret sc n data) s fun t' out s' =>
      s' = s ∧ (t' = true ↔ out = some (.ok ())) := by
  unfold ensureCloudInitSecret
  refine leads_harvester (fun got t₁ h₁ => ?_) ⟨rfl, nofun, nofun⟩
  cases got with
  | error e =>
    obtain rfl : t₁ = !e.isNotFound := h₁
    dsimp only
    split_ifs with hnf
    · rw [hnf]
      refine leads_harvester (fun created t₂ h₂ => ?_) ⟨rfl, nofun, nofun⟩
      cases created with
      | error e => exact .pure ⟨rfl, by rw [h₂]; exact nofun, nofun⟩
      | ok u => exact .pure ⟨rfl, fun _ => rfl, fun _ => h₂⟩
    · exact .pure ⟨rfl, fun _ => rfl, fun _ => by simpa using hnf⟩
  | ok old =>
    obtain rfl : t₁ = false := h₁
    refine leads_harvester (fun updated t₂ h₂ => ?_) ⟨rfl, nofun, nofun⟩
    cases updated with
    | error e => exact .pure ⟨rfl, by rw [h₂]; exact nofun, nofun⟩
    | ok u => exact .pure ⟨rfl, fun _ => rfl, fun _ => h₂⟩

theorem leads_buildVMTemplate (h : SpecOf sc m false s.spec) (dataSecretName : String)
    (netCfg : Option NetworkConfig) :
    Leads Reaches false (buildVMTemplate ext sc dataSecretName netCfg) s fun t' _ s' =>
      SpecOf sc m t' s'.spec := by
  unfold buildVMTemplate
  refine .get_bind ?_
  cases getNamespacedName s.spec.sshKeyPair sc.harvesterCluster.spec.targetNamespace with
  | error e => exact .pure h
  | ok keyPair =>
    refine leads_harvester (fun got t₁ h₁ => ?_) h
    obtain rfl : t₁ = false := h₁
    cases got with
    | error e =>
      dsimp only
      split_ifs
      · exact .pure h
      · exact .pure h
    | ok publicKey =>
      have hdata : Leads Reaches false (getCloudInitData sc dataSecretName) s fun t' _ s' =>
          t' = false ∧ s' = s := by
        refine .request_bind fun got t₂ h₂ => ?_
        obtain rfl : t₂ = false := h₂
        rcases got with e | (- | userData) <;> exact .pure ⟨rfl, rfl⟩
      refine hdata.bind ?_ fun t₂ s₂ h₂ => ?_
      · rintro t₂ (e | userData) s₂ ⟨rfl, rfl⟩
        · exact .pure h
        dsimp only
        cases cloudInitSecret ext sc s₂ netCfg publicKey userData with
        | error e => exact .pure h
        | ok secret =>
          refine (leads_ensureCloudInitSecret _ secret).bind ?_ fun t₃ s₃ h₃ => ?_
          · rintro t₃ (e | u) s₃ ⟨rfl, ht₃⟩
            · obtain rfl : t₃ = false := by simpa using ht₃
              exact .pure h
            · obtain rfl : t₃ = true := ht₃.mpr rfl
              refine .modify_bind ?_
              split_ifs
              · exact .pure h.buildAffinity
              · exact .panic h.buildAffinity
          · obtain ⟨rfl, ht₃⟩ := h₃
            obtain rfl : t₃ = false := by simpa using ht₃
            exact h
      · obtain ⟨rfl, rfl⟩ := h₂
        exact h

theorem leads_createVMFromHarvesterMachine (h : SpecOf sc m false s.spec) (dataSecretName : String)
    (netCfg : Option NetworkConfig) :
    Leads Reaches false (createVMFromHarvesterMachine ext sc dataSecretName netCfg) s
      fun t' _ s' => SpecOf sc m t' s'.spec := by
  unfold createVMFromHarvesterMachine
  refine .get_bind ?_
  refine ((aside_buildPVCs (I := fun s' => SpecOf sc m false s'.spec) _ _ _ _).leads hides_reaches
    h).bind ?_ ?_
  · rintro t₁ (e | disks) s₁ ⟨rfl, h₁⟩
    · exact .pure h₁
    refine (leads_buildVMTemplate h₁ dataSecretName netCfg).bind ?_ fun _ _ h => h
    rintro t₂ (e | u) s₂ h₂
    · exact .pure h₂
    refine leads_harvester (fun created t₃ h₃ => ?_) h₂
    obtain rfl : t₃ = t₂ := h₃.trans (Bool.or_false t₂)
    cases created with
    | error e => exact .pure h₂
    | ok u => exact .pure h₂
  · rintro t₁ s₁ ⟨rfl, h₁⟩
    exact h₁

/-- Every pass leaves the spec as built or as read. -/
theorem leads_specOf : Leads Reaches false (reconcileNormal ext sc) m fun t' _ s' =>
    SpecOf sc m t' s'.spec := by
  refine leads_reconcileNormal (f := id) (I := SpecOf sc m false) (Q := SpecOf sc m) hides_reaches
    ?_ (fun _ h => h) ?_ ⟨_, Or.inl rfl, rfl⟩
  · rintro spec id hno hne ⟨id', hid', rfl⟩
    refine ⟨id, Or.inr ⟨?_, hne⟩, rfl⟩
    rcases hid' with h | ⟨h, -⟩
    · exact h ▸ hno
    · exact h
  · intro t' s' dataSecretName ht h
    obtain rfl : t' = false := ht
    exact leads_createVMFromHarvesterMachine h _ _

theorem specKept_iff_of_specOf (h : SpecOf sc m t s.spec) :
    SpecKept m s ↔ ¬ Pinned sc.machine m ∨ t = false := by
  obtain ⟨id, hid, hs⟩ := h
  cases t with
  | false =>
    refine iff_of_true ⟨⟨id, by rw [hs]; rfl, hid⟩, ?_⟩ (Or.inr rfl)
    simp [ObjectPatch.between, changedTo, hs, HarvesterMachineSpec.requiredTerms]
  | true =>
    rw [or_iff_left (by simp), ← sharedNodeAffinity_eq_iff sc.machine sc.harvesterCluster m]
    constructor
    · rintro ⟨⟨id', hs', -⟩, -⟩
      have hna := congrArg HarvesterMachineSpec.nodeAffinity (hs.symm.trans hs')
      simpa using hna
    · intro hsame
      refine ⟨⟨id, by rw [hs]; simp [hsame], hid⟩, ?_⟩
      simp [ObjectPatch.between, changedTo, hs, HarvesterMachineSpec.requiredTerms, hsame]

end Pass

/-- A pass leaves the spec alone unless the machine has a failure domain and a node affinity of
its own and the pass gets as far as the template; and then every call of `buildAffinity` extends
what the call before it left. -/
theorem spec_kept_iff (ext : Externals) (sc : Scope) (m : HarvesterMachine) :
    (Leads Reaches false (reconcileNormal ext sc) m fun built _ s =>
      (SpecKept m s ↔ ¬ Pinned sc.machine m ∨ built = false)) ∧
    ∀ (h : Heap) (user : Option ℕ), h.Holds user m.spec.nodeAffinity →
      (h.Stable user m.spec.nodeAffinity
        (failureDomainRequirement sc.machine sc.harvesterCluster m) ↔ ¬ Pinned sc.machine m) := by
  refine ⟨leads_specOf.mono fun t _ s h => specKept_iff_of_specOf h, fun h user hv => ?_⟩
  rw [Heap.stable_iff hv]
  exact sharedNodeAffinity_eq_iff _ _ _

namespace Sample

def userAffinity : NodeAffinity := ⟨some [⟨[⟨"disk", .in_, ["ssd"]⟩], []⟩], []⟩

def awaitingVM (nodeAffinity : Option NodeAffinity) : HarvesterMachine :=
  { machineA with spec := { machineSpec with nodeAffinity := nodeAffinity } }

def zonedScope : Scope :=
  { scopeA with machine := { scopeA.machine with failureDomain := "zone-a" } }

def responseOf (r : Req) : Resp r := (exec keyA r (answers (fun _ => .none) r) (world ["p"])).1

def creatingPass (nodeAffinity : Option NodeAffinity) :
    (Option Outcome × HarvesterMachine) × Bool :=
  Prog.serve (fun t r => (responseOf r, t || ensured r (responseOf r))) false
    (reconcileNormal ext zonedScope (awaitingVM nodeAffinity))

theorem executes_creatingPass (nodeAffinity : Option NodeAffinity) :
    Prog.Executes Reaches false (reconcileNormal ext zonedScope (awaitingVM nodeAffinity))
      (creatingPass nodeAffinity).2 (creatingPass nodeAffinity).1 :=
  Prog.Complies.executes (fun _ _ _ => rfl) (Prog.complies_of_forall (fun _ _ => trivial) _)

def userHeap : Heap := ⟨[⟨some 0, []⟩], [0], [[⟨[⟨"disk", .in_, ["ssd"]⟩], []⟩]]⟩

end Sample

open Sample in
theorem spec_kept_sample :
    SpecKept (awaitingVM none) (creatingPass none).1.2 ∧
      ¬ userHeap.Stable (some 0) (some userAffinity)
        (failureDomainRequirement zonedScope.machine zonedScope.harvesterCluster
          (awaitingVM (some userAffinity))) := by
  refine ⟨((spec_kept_iff ext zonedScope (awaitingVM none)).1 _ _
    (executes_creatingPass none)).mpr (Or.inl (by decide)), fun hs => ?_⟩
  have hfree := ((spec_kept_iff ext zonedScope (awaitingVM (some userAffinity))).2 userHeap (some 0)
    rfl).mp hs
  exact absurd hfree (by decide)

open Sample in
/-- The zone becomes part of the user's affinity, and the deferred patch stores it. -/
theorem affinity_extended :
    Prog.Executes Reaches false (reconcileNormal ext zonedScope (awaitingVM (some userAffinity)))
        (creatingPass (some userAffinity)).2 (creatingPass (some userAffinity)).1 ∧
      ¬ SpecKept (awaitingVM (some userAffinity)) (creatingPass (some userAffinity)).1.2 ∧
      (ObjectPatch.between (awaitingVM (some userAffinity))
        (creatingPass (some userAffinity)).1.2).requiredTerms =
        some [⟨[⟨"disk", .in_, ["ssd"]⟩, ⟨"kubernetes.io/hostname", .in_, ["zone-a"]⟩], []⟩] := by
  have hpatch : (ObjectPatch.between (awaitingVM (some userAffinity))
      (creatingPass (some userAffinity)).1.2).requiredTerms =
      some [⟨[⟨"disk", .in_, ["ssd"]⟩, ⟨"kubernetes.io/hostname", .in_, ["zone-a"]⟩], []⟩] := by
    decide +kernel
  refine ⟨executes_creatingPass _, fun h => ?_, hpatch⟩
  have hnone := h.patch
  rw [hpatch] at hnone
  cases hnone

end Machine

end Caphv
