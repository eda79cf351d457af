import Caphv.MachineRoutines

namespace Caphv.Machine

open Body (Maintains Leads)

/-! One call of `createVMFromHarvesterMachine` at most is made in a pass, with the network
configuration that the pass has resolved. The rest of the pass issues none of the requests that
the definition of the VM is made with, and changes the spec only by adopting a provider id. -/

/-- The requests of `buildVMTemplate`, and those that write what it writes. -/
def Req.ofTemplate : Req → Bool
  | .getKeyPair _ => true
  | .getBootstrapSecret _ => true
  | .getSecret _ => true
  | .createSecret _ _ => true
  | .updateSecret _ _ => true
  | .deleteSecret _ => true
  | .createVM _ _ _ => true
  | _ => false

abbrev Aside {α : Type} (I : HarvesterMachine → Prop) (b : Pass α) : Prop :=
  Maintains (fun (_ : Unit) r => r.ofTemplate = false) (fun u _ _ => u) (fun _ s => I s) b

def effectiveNetworkConfig (sc : Scope) (s : HarvesterMachine) : Option NetworkConfig :=
  match effectiveVMNetworkConfig s sc.harvesterCluster, s.spec.networkConfig with
  | some vmNetCfg, none => some
    { address := s.status.allocatedIPAddress
      gateway := vmNetCfg.gateway
      dnsServers := vmNetCfg.dnsServers
      dnsSearch := vmNetCfg.dnsSearch }
  | _, cfg => cfg

section Aside

variable {α : Type} {I : HarvesterMachine → Prop} {ext : Externals} {sc : Scope}

theorem aside_request {r : Req} (h : r.ofTemplate = false) :
    Aside I (Body.request r : Pass (Resp r)) :=
  Maintains.request fun _ _ hi => ⟨h, fun _ => hi⟩

/-- A property that a pass keeps whatever it writes to the status beside the address, and when it
adopts a provider id. -/
structure Robust (I : HarvesterMachine → Prop) : Prop where
  status : ∀ {s : HarvesterMachine} {st : HarvesterMachineStatus},
    st.allocatedIPAddress = s.status.allocatedIPAddress → I s → I { s with status := st }
  providerID : ∀ {s : HarvesterMachine} {id : String}, s.spec.providerID = "" → id ≠ "" → I s →
    I { s with spec := { s.spec with providerID := id } }

theorem Robust.modifyStatus (hI : Robust I) {f : HarvesterMachineStatus → HarvesterMachineStatus}
    (hf : ∀ st, (f st).allocatedIPAddress = st.allocatedIPAddress) :
    Aside I (Machine.modifyStatus f) :=
  Maintains.modify fun _ s h => hI.status (hf s.status) h

theorem aside_allocateVMIP
    (hI : ∀ (s : HarvesterMachine) (st : HarvesterMachineStatus), I s → I { s with status := st }) :
    Aside I (allocateVMIP ext sc) :=
  maintains_allocateVMIP (fun _ => aside_request rfl) (fun _ _ => aside_request rfl)
    fun _ _ => Maintains.modify fun _ s h => hI s _ h

theorem aside_buildPVCs (vmName ns : String) (i : ℕ) (vols : List Volume) :
    Aside I (buildPVCs sc vmName ns i vols) :=
  maintains_buildPVCs (aside_request rfl) (fun _ => aside_request rfl) _ _ _ _

theorem aside_patchInitMachineCreated : Aside I (patchInitMachineCreated sc) :=
  maintains_patchInitMachineCreated fun _ _ => aside_request rfl

theorem aside_finishNormal
    (hI : ∀ (s : HarvesterMachine) (st : HarvesterMachineStatus), I s → I { s with status := st }) :
    Aside I (finishNormal sc) := by
  refine .bind (Maintains.modify fun _ s h => hI s _ h) fun _ =>
    .bind (maintains_initializeWorkloadNode (fun _ => aside_request rfl)
      fun _ _ => aside_request rfl) fun initialized => ?_
  split_ifs
  · exact .pure _
  · exact .pure _

theorem aside_reconcileExistingVM (hI : Robust I) (n : NamespacedName) (vm : VM) :
    Aside I (reconcileExistingVM sc n vm) := by
  have hst : ∀ {f : HarvesterMachineStatus → HarvesterMachineStatus},
      (∀ st, (f st).allocatedIPAddress = st.allocatedIPAddress) → Aside I (modifyStatus f) :=
    fun hf => hI.modifyStatus hf
  refine .bind (hst fun _ => rfl) fun _ => ?_
  split_ifs
  · exact .bind (hst fun _ => rfl) fun _ => .pure _
  refine .bind (maintains_harvester (aside_request rfl)) fun got => ?_
  cases got with
  | error e => exact .bind (hst fun _ => rfl) fun _ => .pure _
  | ok interfaces =>
    refine .bind (hst fun _ => rfl) fun _ => fun v s h => ?_
    refine Body.Conforms.get_bind ?_
    dsimp only
    split_ifs with _ _ hid
    · exact hI.status rfl h
    · exact hI.status rfl (hI.status rfl h)
    · -- The id that was found empty is still the one in memory when it is written.
      refine Body.Conforms.request_bind rfl fun node => ?_
      split_ifs with hne
      · exact hI.status rfl (hI.providerID hid hne h)
      · exact h
    · exact hI.status rfl (hI.status rfl h)

end Aside

section Leads

variable {α τ ρ : Type} {R : τ → (r : Req) → Resp r → τ → Prop} {f : τ → ρ} {t : τ}
  {s : HarvesterMachine} {ext : Externals} {sc : Scope}

def Hides (R : τ → (r : Req) → Resp r → τ → Prop) (f : τ → ρ) : Prop :=
  ∀ t r x t', r.ofTemplate = false → R t r x t' → f t' = f t

theorem Aside.leads {I : HarvesterMachine → Prop} {b : Pass α} (hb : Aside I b) (hR : Hides R f)
    (hs : I s) : Leads R t b s fun t' _ s' => f t' = f t ∧ I s' := by
  have hleads := Body.Maintains.leads (v := ()) (J := fun _ u => f u = f t) hb
    (fun _ u r x u' hr hx hu => (hR u r x u' hr hx).trans hu) hs rfl
  exact hleads.mono fun _ _ _ ⟨_, hi, hf⟩ => ⟨hf, hi⟩

theorem leads_harvester {r : Req} {g : Resp r → Pass α} {Q : τ → Option α → HarvesterMachine → Prop}
    (hg : ∀ x t', R t r x t' → Leads R t' (g x) s Q) (hn : Q t none s) :
    Leads R t (sc.harvester r >>= g) s Q := by
  unfold Scope.harvester
  split_ifs
  · exact .request_bind hg
  · exact Leads.panic hn

/-- The configuration that is resolved is the effective one of the machine in memory. -/
theorem leads_resolveNetworkConfig (hR : Hides R f) :
    Leads R t (resolveNetworkConfig ext sc) s fun t' out s' => f t' = f t ∧ s'.spec = s.spec ∧
      ∀ cfg, out = some (.ok cfg) → cfg = effectiveNetworkConfig sc s' := by
  unfold resolveNetworkConfig
  refine .get_bind ?_
  split
  · rename_i vmNetCfg hvm hnet
    refine ((aside_allocateVMIP (I := fun s' => s'.spec = s.spec) fun _ _ h => h).leads hR rfl).bind
      ?_ fun _ _ h => ⟨h.1, h.2, nofun⟩
    rintro t' (e | u) s' ⟨hf, hs'⟩
    · exact .modify_bind (.pure ⟨hf, hs', nofun⟩)
    · refine .get_bind (.modify_bind (.pure ⟨hf, hs', fun cfg hcfg => ?_⟩))
      cases hcfg
      have hvm' : effectiveVMNetworkConfig s' sc.harvesterCluster = some vmNetCfg := by
        rw [← hvm, effectiveVMNetworkConfig, effectiveVMNetworkConfig, hs']
      have hnet' : s'.spec.networkConfig = none := hs' ▸ hnet
      simp only [effectiveNetworkConfig, effectiveVMNetworkConfig] at hvm' ⊢
      simp only [hvm', hnet']
  · refine .pure ⟨rfl, rfl, fun cfg hcfg => ?_⟩
    cases hcfg
    rename_i hnot
    unfold effectiveNetworkConfig
    split
    · rename_i vmNetCfg hvm hnet
      exact absurd hnet (hnot _ hvm)
    · rfl

variable {I : HarvesterMachineSpec → Prop} {Q : ρ → HarvesterMachineSpec → Prop}
  {dataSecretName : String}

/-- What is known of the spec stays known over a part that keeps the spec. -/
theorem Aside.leads_spec {b : Pass α} (hb : Aside (fun s' => s'.spec = s.spec) b) (hR : Hides R f)
    (hq : Q (f t) s.spec) : Leads R t b s fun t' _ s' => Q (f t') s'.spec :=
  (hb.leads hR rfl).mono fun _ _ _ h => by
    rw [h.1, h.2]
    exact hq

theorem leads_reconcileNewVM (hR : Hides R f) {netCfg : Option NetworkConfig}
    (hnet : netCfg = effectiveNetworkConfig sc s)
    (hcreate : ∀ s' : HarvesterMachine, s'.spec = s.spec → netCfg = effectiveNetworkConfig sc s' →
      Leads R t (createVMFromHarvesterMachine ext sc dataSecretName netCfg) s'
        fun t' _ s' => Q (f t') s'.spec) :
    Leads R t (reconcileNewVM ext sc dataSecretName netCfg) s fun t' _ s' => Q (f t') s'.spec := by
  -- The writes before the creation are to flags and conditions: the configuration stays effective.
  refine .modify_bind (.modify_bind (Leads.bind (hcreate _ rfl hnet) ?_ fun _ _ hq => hq))
  rintro t' (e | u) s' hq
  · exact .modify_bind (.pure hq)
  refine .modify_bind (.modify_bind ?_)
  exact Leads.bind (aside_patchInitMachineCreated.leads_spec hR hq) (fun _ _ _ hq => .pure hq)
    fun _ _ hq => hq

/-- The branch that may create the VM, and what follows it. -/
theorem leads_creation (hR : Hides R f) (vmExists : Bool) {netCfg : Option NetworkConfig}
    (hnet : netCfg = effectiveNetworkConfig sc s) (hdone : Q (f t) s.spec)
    (hcreate : ∀ s' : HarvesterMachine, s'.spec = s.spec → netCfg = effectiveNetworkConfig sc s' →
      Leads R t (createVMFromHarvesterMachine ext sc dataSecretName netCfg) s'
        fun t' _ s' => Q (f t') s'.spec) :
    Leads R t (orElse (reconcileCreation ext sc dataSecretName netCfg vmExists) (finishNormal sc)) s
      fun t' _ s' => Q (f t') s'.spec := by
  have hbranch : Leads R t (reconcileCreation ext sc dataSecretName netCfg vmExists) s
      fun t' _ s' => Q (f t') s'.spec := by
    unfold reconcileCreation
    refine .get_bind ?_
    split_ifs
    · exact leads_reconcileNewVM hR hnet hcreate
    · exact .modify_bind (.modify_bind (.pure hdone))
    · exact .pure hdone
  refine hbranch.bind (fun t' out s' hq => ?_) fun _ _ hq => hq
  cases out with
  | some out => exact .pure hq
  | none => exact (aside_finishNormal fun _ _ h => h).leads_spec hR hq

theorem robust_effective (netCfg : Option NetworkConfig)
    (hid : ∀ spec id, spec.providerID = "" → id ≠ "" → I spec → I { spec with providerID := id }) :
    Robust fun s => I s.spec ∧ netCfg = effectiveNetworkConfig sc s := by
  constructor
  · rintro s st hst ⟨hs, rfl⟩
    refine ⟨hs, ?_⟩
    simp only [effectiveNetworkConfig, effectiveVMNetworkConfig, hst]
  · rintro s id hno hne ⟨hs, hnet⟩
    exact ⟨hid _ _ hno hne hs, hnet⟩

theorem leads_reconcileInfrastructure (hR : Hides R f)
    (hid : ∀ spec id, spec.providerID = "" → id ≠ "" → I spec → I { spec with providerID := id })
    (hdone : ∀ spec, I spec → Q (f t) spec)
    (hcreate : ∀ (t' : τ) (s' : HarvesterMachine), f t' = f t → I s'.spec →
      Leads R t' (createVMFromHarvesterMachine ext sc dataSecretName (effectiveNetworkConfig sc s'))
        s' fun t' _ s' => Q (f t') s'.spec)
    (hs : I s.spec) :
    Leads R t (reconcileInfrastructure ext sc dataSecretName) s fun t' _ s' =>
      Q (f t') s'.spec := by
  unfold reconcileInfrastructure
  refine .modify_bind ((leads_resolveNetworkConfig hR).bind ?_ fun t' s' h => ?_)
  · rintro t₁ (e | cfg) s₁ ⟨hf₁, hspec, hcfg⟩
    · exact .pure (hf₁ ▸ hdone _ (hspec ▸ hs))
    have hs₁ : I s₁.spec := hspec ▸ hs
    have hnet := hcfg cfg rfl
    -- Both answers to the lookup of the VM lead to the same end of the pass.
    have hfinish : ∀ (t₂ : τ) (s₂ : HarvesterMachine) (vmExists : Bool), f t₂ = f t → I s₂.spec →
        cfg = effectiveNetworkConfig sc s₂ → Leads R t₂ (orElse (reconcileCreation ext sc
          dataSecretName cfg vmExists) (finishNormal sc)) s₂ fun t' _ s' => Q (f t') s'.spec := by
      intro t₂ s₂ vmExists hf₂ hs₂ hnet₂
      exact leads_creation hR vmExists hnet₂ (hf₂ ▸ hdone _ hs₂)
        fun s' hs' hnet' => hnet'.symm ▸ hcreate t₂ s' hf₂ (hs' ▸ hs₂)
    refine leads_harvester (fun got t₂ hgot => ?_) (hf₁ ▸ hdone _ hs₁)
    have hf₂ : f t₂ = f t := (hR _ _ _ _ rfl hgot).trans hf₁
    cases got with
    | error e =>
      dsimp only
      split_ifs
      · exact hfinish t₂ s₁ false hf₂ hs₁ hnet
      · exact .modify_bind (.pure (hf₂ ▸ hdone _ hs₁))
    | ok vm =>
      refine ((aside_reconcileExistingVM (robust_effective cfg hid) _ vm).leads hR
        ⟨hs₁, hnet⟩).bind (fun t₃ out s₃ h₃ => ?_) fun t₃ s₃ h₃ => ?_
      · cases out with
        | some out => exact .pure (h₃.1 ▸ hf₂ ▸ hdone _ h₃.2.1)
        | none => exact hfinish t₃ s₃ true (h₃.1.trans hf₂) h₃.2.1 h₃.2.2
      · exact h₃.1 ▸ hf₂ ▸ hdone _ h₃.2.1
  · exact h.1 ▸ hdone _ (h.2.1 ▸ hs)

/-- A pass ends with `Q` if it does so without creating a VM, and if the creation does so from
every state that a pass can start it in. -/
theorem leads_reconcileNormal (hR : Hides R f)
    (hid : ∀ spec id, spec.providerID = "" → id ≠ "" → I spec → I { spec with providerID := id })
    (hdone : ∀ spec, I spec → Q (f t) spec)
    (hcreate : ∀ (t' : τ) (s' : HarvesterMachine) (dataSecretName : String), f t' = f t →
      I s'.spec →
      Leads R t' (createVMFromHarvesterMachine ext sc dataSecretName (effectiveNetworkConfig sc s'))
        s' fun t' _ s' => Q (f t') s'.spec)
    (hs : I s.spec) :
    Leads R t (reconcileNormal ext sc) s fun t' _ s' => Q (f t') s'.spec := by
  have hq : Q (f t) s.spec := hdone _ hs
  unfold reconcileNormal
  refine .get_bind ?_
  split_ifs
  · exact .modify_bind (.pure hq)
  · exact .modify_bind (.modify_bind (.pure hq))
  · exact .modify_bind (.modify_bind (.pure hq))
  · refine .modify_bind ?_
    cases sc.machine.dataSecretName with
    | none => exact .modify_bind (.pure hq)
    | some dataSecretName =>
      exact leads_reconcileInfrastructure hR hid hdone (fun t' s' => hcreate t' s' _) hs

end Leads

end Caphv.Machine
