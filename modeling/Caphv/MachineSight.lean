import Caphv.MachineConformance
import Caphv.MachineRoutines

namespace Caphv.Machine

/-- The responses that decide what a pass writes about its VM. -/
structure Sight where
  machine : Option HarvesterMachine
  /-- The lookup of the VM. -/
  vm : Option (NamespacedName × Except ApiError VM)
  vmi : Option (Except ApiError (List String))
  node : Option (Except String String)
  created : Option (Except ApiError Unit)

namespace Sight

def fresh : Sight := ⟨none, none, none, none, none⟩

def next (e : Sight) : (r : Req) → Resp r → Sight
  | .getMachine, .ok m => { e with machine := some m }
  | .getVM n, x => { e with vm := some (n, x) }
  | .getVMI _, x => { e with vmi := some x }
  | .getNodeProviderID _, x => { e with node := some x }
  | .createVM _ _ _, x => { e with created := some x }
  | _, _ => e

variable (e : Sight)

def Absent : Prop := ∃ n err, e.vm = some (n, .error err) ∧ err.isNotFound = true

/-- The lookup found a VM that is meant to run, and its instance was read. -/
structure Runs (n : NamespacedName) (vm : VM) (interfaces : List String) : Prop where
  found : e.vm = some (n, .ok vm)
  running : isVMRunning vm.state = true
  instance_ : e.vmi = some (.ok interfaces)

end Sight

def addressesOf (interfaces : List String) : List String := interfaces.filter (· ≠ "")

def marked (m : HarvesterMachine) : Bool := m.status.conditions.isTrue "MachineCreated"

/-- Neither an address has come nor has the last one gone since the status was written. -/
def Quiet (m : HarvesterMachine) (interfaces : List String) : Prop :=
  addressesOf interfaces = [] ↔ m.status.ready = false

structure Flags where
  ready : Bool
  provisioned : Bool
  providerID : String
  addresses : List String

def flags (m : HarvesterMachine) : Flags :=
  ⟨m.status.ready, m.status.provisioned, m.spec.providerID, m.status.addresses⟩

/-- Everything a pass of `ReconcileNormal` on `m` can leave in these fields, with what it learnt. -/
inductive Exit (m : HarvesterMachine) (e : Sight) : Flags → Prop where
  | untouched (early : e.vm = none) : Exit m e (flags m)
  | notReady (early : e.vm = none) :
      Exit m e { flags m with ready := false, provisioned := false }
  | lookupFailed {n : NamespacedName} {err : ApiError} (failed : e.vm = some (n, .error err))
      (other : err.isNotFound = false) :
      Exit m e { flags m with ready := false, provisioned := false }
  /-- There is no VM, and none was created. -/
  | lost (absent : e.Absent) (none_ : e.created ≠ some (.ok ())) :
      Exit m e { flags m with ready := false }
  | created (absent : e.Absent) (new : e.created = some (.ok ())) :
      Exit m e { flags m with ready := true }
  | halted {n : NamespacedName} {vm : VM} (found : e.vm = some (n, .ok vm))
      (stopped : isVMRunning vm.state = false) : Exit m e { flags m with ready := false }
  | noInstance {n : NamespacedName} {vm : VM} {err : ApiError} (found : e.vm = some (n, .ok vm))
      (running : isVMRunning vm.state = true) (failed : e.vmi = some (.error err)) :
      Exit m e { flags m with ready := false, provisioned := false }
  | addressGone {n : NamespacedName} {vm : VM} {interfaces : List String}
      (runs : e.Runs n vm interfaces) (empty : addressesOf interfaces = [])
      (ready : m.status.ready = true) :
      Exit m e ⟨false, false, m.spec.providerID, []⟩
  | addressFound {n : NamespacedName} {vm : VM} {interfaces : List String}
      (runs : e.Runs n vm interfaces) (some_ : addressesOf interfaces ≠ [])
      (notReady : m.status.ready = false) :
      Exit m e ⟨true, true, m.spec.providerID, addressesOf interfaces⟩
  /-- The workload node has no id yet. -/
  | waiting {n : NamespacedName} {vm : VM} {interfaces : List String}
      (runs : e.Runs n vm interfaces) (quiet : Quiet m interfaces) (noID : m.spec.providerID = "")
      {node : Except String String} (read : e.node = some node)
      (empty : providerIDFrom node vm = "") :
      Exit m e { flags m with addresses := addressesOf interfaces }
  | adopted {n : NamespacedName} {vm : VM} {interfaces : List String}
      (runs : e.Runs n vm interfaces) (quiet : Quiet m interfaces) (noID : m.spec.providerID = "")
      {node : Except String String} (read : e.node = some node)
      (id_ne : providerIDFrom node vm ≠ "") (kept : marked m = true ∨ e.created = some (.ok ())) :
      Exit m e ⟨true, true, providerIDFrom node vm, addressesOf interfaces⟩
  /-- The VM exists, and creating it once more failed. -/
  | adoptedLost {n : NamespacedName} {vm : VM} {interfaces : List String}
      (runs : e.Runs n vm interfaces) (quiet : Quiet m interfaces) (noID : m.spec.providerID = "")
      {node : Except String String} (read : e.node = some node)
      (id_ne : providerIDFrom node vm ≠ "") (unmarked : marked m = false)
      (none_ : e.created ≠ some (.ok ())) :
      Exit m e ⟨false, true, providerIDFrom node vm, addressesOf interfaces⟩
  | kept {n : NamespacedName} {vm : VM} {interfaces : List String}
      (runs : e.Runs n vm interfaces) (quiet : Quiet m interfaces)
      (id_ne : m.spec.providerID ≠ "") :
      Exit m e { flags m with ready := true, addresses := addressesOf interfaces }

def Shows (m : HarvesterMachine) (e : Sight) (f : Flags) : Prop :=
  m.deleting = true ∧ f = flags m ∨ m.deleting = false ∧ Exit m e f

/-- The requests that only `createVMFromHarvesterMachine` issues. -/
def Req.ofCreation : Req → Bool
  | .randomID => true
  | .listImages _ => true
  | .getKeyPair _ => true
  | .getBootstrapSecret _ => true
  | .getSecret _ => true
  | .createSecret _ _ => true
  | .updateSecret _ _ => true
  | .createVM _ _ _ => true
  | _ => false

/-- What a pass has learnt when it creates the VM: it was never recorded as created, and there is
none, or there is one and the machine has no id. -/
def Sight.Creates (e : Sight) : Prop :=
  ∃ m, e.machine = some m ∧ m.deleting = false ∧ marked m = false ∧
    (e.Absent ∨ m.spec.providerID = "" ∧ ∃ n vm interfaces, e.Runs n vm interfaces)

/-- What every request of a pass says about what the pass has learnt. -/
def SightGuard (e : Sight) : Req → Prop
  | .getMachine => e.vm = none
  | .getVMI n => ∃ vm, e.vm = some (n, .ok vm)
  | .patchObject p => ∃ m s, e.machine = some m ∧ p = .between m s ∧ Shows m e (flags s)
  | .patchStatus p =>
    ∃ m s, e.machine = some m ∧ p = .between m.status s.status ∧ Shows m e (flags s)
  | r => r.ofCreation = true → e.Creates

def sightContract : Contract ObjectKey Req Sight := ⟨fun _ => SightGuard, fun _ _ => True⟩

def observed (ext : Externals) : Controller ObjectKey Req Resp Answer World (View × Sight) Env :=
  (system ext).observe Sight.next .fresh

section Origin

variable {k : ObjectKey} {w : World} {m : HarvesterMachine} {e : Sight} {n : NamespacedName}

theorem Sight.next_machine {r : Req} (x : Resp r) (hr : r ≠ .getMachine) :
    (e.next r x).machine = e.machine := by
  cases r with
  | getMachine => exact absurd rfl hr
  | _ => rfl

/-- The machine that a pass has read was read before, or is stored. -/
theorem Sight.machine_origin {r : Req} (a : Answer r)
    (hm : (e.next r (exec k r a w).1).machine = some m) :
    e.machine = some m ∨ w.machines.lookup k = some m := by
  cases r with
  | getMachine =>
    have hx : (exec k .getMachine a w).1 = Fault.reply a (found (w.machines.lookup k)) := rfl
    rw [hx] at hm
    cases hr : Fault.reply a (found (w.machines.lookup k)) with
    | error err =>
      rw [hr] at hm
      exact Or.inl hm
    | ok m₀ =>
      rw [hr] at hm
      cases hm
      exact Or.inr (found_eq_ok (Fault.reply_eq_ok hr))
  | _ => exact Or.inl hm

/-- A VM that a pass has found was found before, or is stored under the name just looked up. -/
theorem Sight.vm_origin {r : Req} (a : Answer r) {vm : VM}
    (h : (e.next r (exec k r a w).1).vm = some (n, .ok vm)) :
    e.vm = some (n, .ok vm) ∨ r = .getVM n ∧ w.vms.lookup n = some vm := by
  cases r with
  | getVM n' =>
    have hx : (exec k (.getVM n') a w).1 = Fault.reply a (found (w.vms.lookup n')) := rfl
    rw [hx] at h
    obtain ⟨rfl, hreply⟩ := Prod.mk.inj (Option.some.inj h)
    exact Or.inr ⟨rfl, found_eq_ok (Fault.reply_eq_ok hreply)⟩
  | getMachine =>
    cases hx : (exec k .getMachine a w).1 with
    | error err =>
      rw [hx] at h
      exact Or.inl h
    | ok m =>
      rw [hx] at h
      exact Or.inl h
  | _ => exact Or.inl h

end Origin

abbrev Watch {α : Type} (e : Sight) (b : Pass α) (s : HarvesterMachine)
    (Q : Sight → Option α → HarvesterMachine → Prop) : Prop :=
  Body.Conforms SightGuard Sight.next e b s Q

structure Kept (m s : HarvesterMachine) : Prop where
  flags : flags s = flags m
  marked : marked s = marked m

theorem Kept.refl (m : HarvesterMachine) : Kept m m := ⟨rfl, rfl⟩

theorem Kept.ready_eq {m s : HarvesterMachine} (h : Kept m s) :
    s.status.ready = m.status.ready := congrArg Flags.ready h.flags

theorem Kept.providerID_eq {m s : HarvesterMachine} (h : Kept m s) :
    s.spec.providerID = m.spec.providerID := congrArg Flags.providerID h.flags

abbrev Still {α : Type} (e : Sight) (m : HarvesterMachine) (b : Pass α) : Prop :=
  Body.Maintains SightGuard Sight.next (fun e' s => e' = e ∧ Kept m s) b

/-- The requests that teach nothing about the VM. -/
def Req.neutral : Req → Bool
  | .getMachine => false
  | .getVM _ => false
  | .getVMI _ => false
  | .getNodeProviderID _ => false
  | .createVM _ _ _ => false
  | .patchObject _ => false
  | .patchStatus _ => false
  | _ => true

section Still

variable {ext : Externals} {sc : Scope} {e : Sight} {m s : HarvesterMachine} {α : Type}

theorem Req.neutral.next {r : Req} (h : r.neutral = true) (x : Resp r) : e.next r x = e := by
  cases r with
  | getMachine => cases h
  | getVM n => cases h
  | getVMI n => cases h
  | getNodeProviderID n => cases h
  | createVM n d st => cases h
  | _ => rfl

theorem Req.neutral.guard {r : Req} (h : r.neutral = true)
    (hc : r.ofCreation = true → e.Creates) : SightGuard e r := by
  cases r with
  | getMachine => cases h
  | getVMI n => cases h
  | patchObject p => cases h
  | patchStatus p => cases h
  | _ => exact hc

theorem not_creation {r : Req} {P : Prop} (h : r.ofCreation = false) (hc : r.ofCreation = true) :
    P := Bool.noConfusion (h.symm.trans hc)

namespace Still

theorem request {r : Req} (hr : r.neutral = true) (hc : r.ofCreation = true → e.Creates) :
    Still e m (Body.request r : Pass (Resp r)) := by
  refine Body.Maintains.request ?_
  rintro e' s ⟨rfl, hk⟩
  exact ⟨Req.neutral.guard hr hc, fun x => ⟨Req.neutral.next hr x, hk⟩⟩

theorem call {r : Req} (hr : r.neutral = true) (hc : r.ofCreation = true → e.Creates) :
    Still e m (Machine.call r) := Still.request hr hc

/-- A write to the status that shows nothing new. -/
theorem modifyStatus {f : HarvesterMachineStatus → HarvesterMachineStatus}
    (hf : ∀ s : HarvesterMachine, Kept s { s with status := f s.status }) :
    Still e m (Machine.modifyStatus f) := by
  refine Body.Maintains.modify ?_
  rintro e' s ⟨rfl, hk⟩
  exact ⟨rfl, (hf s).flags.trans hk.flags, (hf s).marked.trans hk.marked⟩

/-- `buildAffinity` writes to the node affinity alone. -/
theorem buildAffinity : Still e m (Body.modify fun s =>
    (Caphv.buildAffinity sc.key.name sc.machine sc.harvesterCluster s).2) := by
  refine Body.Maintains.modify ?_
  rintro e' s ⟨rfl, hk⟩
  exact ⟨rfl, hk.flags, hk.marked⟩

end Still

theorem Kept.setCondition {type : String} (c : Condition) (ht : "MachineCreated" ≠ type)
    (s : HarvesterMachine) :
    Kept s { s with status := { s.status with conditions := s.status.conditions.set type c } } := by
  refine ⟨rfl, ?_⟩
  simp only [Machine.marked, Conditions.isTrue, Conditions.lookup_set, if_neg ht]

theorem Still.setCondition {type : String} (c : Condition) (ht : "MachineCreated" ≠ type) :
    Still e m (Machine.setCondition type c) :=
  Still.modifyStatus fun s => Kept.setCondition c ht s

theorem still_resolveNetworkConfig : Still e m (resolveNetworkConfig ext sc) :=
  maintains_resolveNetworkConfig (fun _ => Still.request rfl (not_creation rfl))
    (fun _ _ => Still.request rfl (not_creation rfl))
    (fun _ _ => Still.modifyStatus fun _ => ⟨rfl, rfl⟩)
    fun _ => Still.setCondition _ (by decide)

theorem still_releaseVMIP : Still e m (releaseVMIP sc) :=
  maintains_releaseVMIP (fun _ => Still.request rfl (not_creation rfl))
    fun _ _ => Still.request rfl (not_creation rfl)

theorem still_buildPVCs (hc : e.Creates) (vmName ns : String) (i : ℕ) (vols : List Volume) :
    Still e m (buildPVCs sc vmName ns i vols) :=
  maintains_buildPVCs (Still.request rfl fun _ => hc) (fun _ => Still.request rfl fun _ => hc)
    _ _ _ _

theorem still_buildVMTemplate (hc : e.Creates) (dataSecretName : String)
    (netCfg : Option NetworkConfig) :
    Still e m (buildVMTemplate ext sc dataSecretName netCfg) :=
  maintains_buildVMTemplate (fun _ => Still.request rfl fun _ => hc)
    (maintains_getCloudInitData (fun _ => Still.request rfl fun _ => hc) _)
    (maintains_ensureCloudInitSecret (fun _ => Still.request rfl fun _ => hc)
      (fun _ _ => Still.request rfl fun _ => hc) fun _ _ => Still.request rfl fun _ => hc)
    Still.buildAffinity netCfg

theorem still_initializeWorkloadNode : Still e m (initializeWorkloadNode sc) :=
  maintains_initializeWorkloadNode (fun _ => Still.request rfl (not_creation rfl))
    fun _ _ => Still.request rfl (not_creation rfl)

end Still

section Creation

variable {ext : Externals} {sc : Scope} {e : Sight} {m s : HarvesterMachine}

/-- The VM was created if and only if the function says so; nothing else was learnt. -/
theorem watch_createVMFromHarvesterMachine (hc : e.Creates) (hnew : e.created = none)
    (dataSecretName : String) (netCfg : Option NetworkConfig) :
    Watch e (createVMFromHarvesterMachine ext sc dataSecretName netCfg) s fun e' out s' =>
      ∃ created, e' = { e with created := created } ∧ Kept s s' ∧
        (out = some (.ok ()) ↔ created = some (.ok ())) := by
  -- Until the Create is sent, nothing is recorded about it.
  have hnone : ∀ {out : Option (Except String Unit)} {s' : HarvesterMachine}, out ≠ some (.ok ()) →
      Kept s s' → ∃ created, e = { e with created := created } ∧ Kept s s' ∧
        (out = some (.ok ()) ↔ created = some (.ok ())) := by
    intro out s' hout hk
    refine ⟨none, ?_, hk, fun h => absurd h hout, nofun⟩
    rw [← hnew]
  unfold createVMFromHarvesterMachine
  refine .get_bind ?_
  refine (still_buildPVCs hc _ _ _ _ e s ⟨rfl, .refl s⟩).bind ?_ ?_
  · rintro e₁ pvcs s₁ ⟨rfl, h₁⟩
    cases pvcs with
    | error err => exact hnone nofun h₁
    | ok disks =>
      refine (still_buildVMTemplate hc _ _ e₁ s₁ ⟨rfl, h₁⟩).bind ?_ ?_
      · rintro e₂ template s₂ ⟨rfl, h₂⟩
        cases template with
        | error err => exact hnone nofun h₂
        | ok u =>
          unfold Scope.harvester
          split_ifs
          · refine .request_bind (fun _ => hc) fun created => ?_
            cases created with
            | error err => exact ⟨some (.error err), rfl, h₂, nofun, nofun⟩
            | ok u => exact ⟨some (.ok ()), rfl, h₂, fun _ => rfl, fun _ => rfl⟩
          · exact hnone nofun h₂
      · rintro e₂ s₂ ⟨rfl, h₂⟩
        exact hnone nofun h₂
  · rintro e₁ s₁ ⟨rfl, h₁⟩
    exact hnone nofun h₁

theorem watch_patchInitMachineCreated : Watch e (patchInitMachineCreated sc) s fun e' out s' =>
    e' = e ∧ out = some () ∧ s' = s := by
  unfold patchInitMachineCreated
  dsimp only
  split_ifs
  · exact ⟨rfl, rfl, rfl⟩
  · exact .request_bind nofun fun _ => ⟨rfl, rfl, rfl⟩

theorem watch_reconcileNewVM (hc : e.Creates) (hnew : e.created = none) (dataSecretName : String)
    (netCfg : Option NetworkConfig) :
    Watch e (reconcileNewVM ext sc dataSecretName netCfg) s fun e' out s' =>
      ∃ created, e' = { e with created := created } ∧ flags s' = { flags s with ready := false } ∧
        (out = some none ↔ created = some (.ok ())) := by
  unfold reconcileNewVM
  refine .modify_bind (.modify_bind ?_)
  refine (watch_createVMFromHarvesterMachine hc hnew dataSecretName netCfg).bind ?_ ?_
  · rintro e₁ out s₁ ⟨created, rfl, hk, hout⟩
    cases out with
    | error err =>
      refine .modify_bind ⟨created, rfl, hk.flags, nofun, fun h => ?_⟩
      cases hout.mpr h
    | ok u =>
      have hok : created = some (.ok ()) := hout.mp rfl
      refine .modify_bind (.modify_bind ?_)
      refine watch_patchInitMachineCreated.bind ?_ fun _ _ h => absurd h.2.1 nofun
      rintro e₂ - s₂ ⟨rfl, -, rfl⟩
      refine ⟨created, rfl, ?_, fun _ => hok, fun _ => rfl⟩
      exact congrArg (fun f : Flags => { f with ready := false }) hk.flags
  · rintro e₁ s₁ ⟨created, rfl, hk, hout⟩
    refine ⟨created, rfl, hk.flags, nofun, fun h => ?_⟩
    cases hout.mpr h

/-- The branch on the condition: a VM that was never recorded is created, one that was recorded
and is not there is reported. -/
theorem watch_reconcileCreation (hc : marked s = false → e.Creates) (hnew : e.created = none)
    (dataSecretName : String) (netCfg : Option NetworkConfig) (vmExists : Bool) :
    Watch e (reconcileCreation ext sc dataSecretName netCfg vmExists) s fun e' out s' =>
      (marked s = false ∧ ∃ created, e' = { e with created := created } ∧
        flags s' = { flags s with ready := false } ∧
        (out = some none ↔ created = some (.ok ()))) ∨
      (marked s = true ∧ e' = e ∧
        (vmExists = false ∧ flags s' = { flags s with ready := false } ∧ out ≠ some none ∨
          vmExists = true ∧ flags s' = flags s ∧ out = some none)) := by
  unfold reconcileCreation
  refine .get_bind ?_
  cases hm : marked s with
  | false =>
    have hm' : s.status.conditions.isTrue "MachineCreated" = false := hm
    rw [if_pos (by rw [hm']; rfl)]
    refine (watch_reconcileNewVM (hc hm) hnew dataSecretName netCfg).mono ?_
    exact fun e' out s' h => Or.inl ⟨rfl, h⟩
  | true =>
    have hm' : s.status.conditions.isTrue "MachineCreated" = true := hm
    rw [if_neg (by rw [hm']; decide)]
    cases vmExists with
    | false => exact Or.inr ⟨rfl, rfl, Or.inl ⟨rfl, rfl, nofun⟩⟩
    | true => exact Or.inr ⟨rfl, rfl, Or.inr ⟨rfl, rfl, rfl⟩⟩

theorem watch_finishNormal : Watch e (finishNormal sc) s fun e' _ s' =>
    e' = e ∧ flags s' = { flags s with ready := true } := by
  unfold finishNormal
  refine .modify_bind ?_
  refine (still_initializeWorkloadNode _ _ ⟨rfl, .refl _⟩).bind ?_ ?_
  · rintro e₁ initialized s₁ ⟨rfl, hk⟩
    dsimp only
    split_ifs <;> exact ⟨rfl, hk.flags⟩
  · rintro e₁ s₁ ⟨rfl, hk⟩
    exact ⟨rfl, hk.flags⟩

/-- A branch that may end the pass: what it leaves at its end must be an end of the pass, and
what follows it is entered where it goes through. -/
theorem watch_orElse {branch : Pass (Option Outcome)} {rest : Pass Outcome}
    {R : Sight → Option (Option Outcome) → HarvesterMachine → Prop}
    {Q : Sight → HarvesterMachine → Prop} (hb : Watch e branch s R)
    (hthrough : ∀ e s, R e (some none) s → Watch e rest s fun e' _ s' => Q e' s')
    (hend : ∀ e out s, R e out s → out ≠ some none → Q e s) :
    Watch e (orElse branch rest) s fun e' _ s' => Q e' s' := by
  unfold orElse
  refine hb.bind ?_ fun e' s' h => hend e' none s' h nofun
  intro e' out s' h
  cases out with
  | none => exact hthrough e' s' h
  | some out => exact hend e' _ s' h nofun

end Creation

section Normal

variable {ext : Externals} {sc : Scope} {e : Sight} {m s : HarvesterMachine} {n : NamespacedName}
  {vm : VM}

inductive Through (m : HarvesterMachine) (e : Sight) (s : HarvesterMachine) : Prop where
  | adopted {n : NamespacedName} {vm : VM} {interfaces : List String}
      (runs : e.Runs n vm interfaces) (quiet : Quiet m interfaces) (noID : m.spec.providerID = "")
      {node : Except String String} (read : e.node = some node)
      (id_ne : providerIDFrom node vm ≠ "") (same : marked s = marked m)
      (shown : flags s = ⟨true, true, providerIDFrom node vm, addressesOf interfaces⟩)
  | kept {n : NamespacedName} {vm : VM} {interfaces : List String}
      (runs : e.Runs n vm interfaces) (quiet : Quiet m interfaces) (id_ne : m.spec.providerID ≠ "")
      (recorded : marked s = true)
      (shown : flags s = { flags m with ready := true, addresses := addressesOf interfaces })

theorem Exit.of_eq {f f' : Flags} (h : Exit m e f) (hf : f' = f) : Exit m e f' := hf ▸ h

theorem marked_of_set (st : HarvesterMachineStatus) (c : Condition) (hc : c.status = .true_) :
    ((st.conditions.set "MachineCreated" c).isTrue "MachineCreated") = true :=
  (Conditions.isTrue_iff _ _).mpr ⟨c, (Conditions.lookup_set _ _ _ _).trans (if_pos rfl), hc⟩

/-- The branch for a VM that exists. -/
theorem watch_reconcileExistingVM (hcl : sc.harvesterClient = true)
    (hvm : e.vm = some (n, .ok vm)) (hk : Kept m s) :
    Watch e (reconcileExistingVM sc n vm) s fun e' out s' =>
      e'.machine = e.machine ∧ e'.created = e.created ∧
        (out = some none → Through m e' s') ∧ (out ≠ some none → Exit m e' (flags s')) := by
  have hsame := Kept.setCondition
    ⟨.true_, "VMProvisioningReady", "VM already exists and is provisioned"⟩
    (by decide : "MachineCreated" ≠ "VMProvisioningReady") s
  unfold reconcileExistingVM
  refine .modify_bind ?_
  cases hrun : isVMRunning vm.state with
  | false =>
    refine .modify_bind ⟨rfl, rfl, nofun, fun _ => ?_⟩
    exact (Exit.halted hvm hrun).of_eq
      (congrArg (fun f : Flags => { f with ready := false }) hk.flags)
  | true =>
    simp only [Bool.not_true, Bool.false_eq_true, if_false, Scope.harvester, hcl, if_true]
    refine .request_bind ⟨vm, hvm⟩ fun got => ?_
    cases got with
    | error err =>
      have hend : Exit m (e.next (.getVMI n) (.error err))
          { flags m with ready := false, provisioned := false } := .noInstance hvm hrun rfl
      refine .modify_bind ⟨rfl, rfl, nofun, fun _ => hend.of_eq ?_⟩
      exact congrArg (fun f : Flags => { f with ready := false, provisioned := false }) hk.flags
    | ok interfaces =>
      have hruns : (e.next (.getVMI n) (.ok interfaces)).Runs n vm interfaces := ⟨hvm, hrun, rfl⟩
      refine .modify_bind (.get_bind ?_)
      dsimp only
      split_ifs with hgone hcame hno
      · -- The last address has gone.
        refine .modify_bind ⟨rfl, rfl, nofun, fun _ => ?_⟩
        refine (Exit.addressGone hruns hgone.1 (hk.ready_eq ▸ hgone.2)).of_eq ?_
        exact congrArg (Flags.mk false false · _) hk.providerID_eq |>.trans (congrArg _ hgone.1)
      · refine .modify_bind (.modify_bind ⟨rfl, rfl, nofun, fun _ => ?_⟩)
        have hnr : m.status.ready = false := by
          rw [← hk.ready_eq]
          simpa using hcame.2
        exact (Exit.addressFound hruns hcame.1 hnr).of_eq
          (congrArg (Flags.mk true true · _) hk.providerID_eq)
      all_goals
        have hquiet : Quiet m interfaces := by
          rw [Quiet, ← hk.ready_eq]
          constructor
          · intro hempty
            simpa using fun h => hgone ⟨hempty, h⟩
          · intro hnr
            by_contra hne
            exact hcame ⟨hne, by simpa using hnr⟩
      · have hunset : m.spec.providerID = "" := hk.providerID_eq ▸ hno
        refine .request_bind nofun fun node => ?_
        have hruns' : ((e.next (.getVMI n) (.ok interfaces)).next (.getNodeProviderID sc.key.name)
          node).Runs n vm interfaces := ⟨hvm, hrun, rfl⟩
        split_ifs with hne
        · refine .modify_bind (.modify_bind ⟨rfl, rfl, fun _ => ?_, fun h => absurd rfl h⟩)
          exact .adopted hruns' hquiet hunset rfl hne (hsame.marked.trans hk.marked) rfl
        · refine ⟨rfl, rfl, nofun, fun _ => ?_⟩
          refine (Exit.waiting hruns' hquiet hunset rfl (not_not.mp hne)).of_eq ?_
          exact congrArg (fun f : Flags => { f with addresses := addressesOf interfaces }) hk.flags
      · have hset : m.spec.providerID ≠ "" := hk.providerID_eq ▸ hno
        refine .modify_bind (.modify_bind ⟨rfl, rfl, fun _ => ?_, fun h => absurd rfl h⟩)
        refine .kept hruns hquiet hset (marked_of_set _ _ rfl) ?_
        exact congrArg
          (fun f : Flags => { f with ready := true, addresses := addressesOf interfaces }) hk.flags

/-- The branches that follow the lookup of a VM that exists. -/
theorem watch_existing (hcl : sc.harvesterClient = true) (hm : e.machine = some m)
    (hd : m.deleting = false) (hvm : e.vm = some (n, .ok vm)) (hnew : e.created = none)
    (hk : Kept m s) (dataSecretName : String) (netCfg : Option NetworkConfig) :
    Watch e (orElse (reconcileExistingVM sc n vm)
      (orElse (reconcileCreation ext sc dataSecretName netCfg true) (finishNormal sc))) s
      fun e' _ s' => e'.machine = some m ∧ Exit m e' (flags s') := by
  refine watch_orElse (watch_reconcileExistingVM hcl hvm hk) ?_
    fun e₁ out s₁ h hout => ⟨h.1.trans hm, h.2.2.2 hout⟩
  rintro e₁ s₁ ⟨hm₁, hnew₁, hthrough, -⟩
  have hm₁ := hm₁.trans hm
  have hnew₁ := hnew₁.trans hnew
  cases hthrough rfl with
  | kept hruns hquiet hid hmarked hshown =>
    refine watch_orElse (watch_reconcileCreation (fun h => ?_) hnew₁ dataSecretName netCfg true)
      ?_ ?_
    · rw [hmarked] at h
      cases h
    · rintro e₂ s₂ (⟨h, -⟩ | ⟨-, rfl, ⟨h, -⟩ | ⟨-, hf, -⟩⟩)
      · rw [hmarked] at h
        cases h
      · cases h
      · refine watch_finishNormal.mono ?_
        rintro e₃ - s₃ ⟨rfl, hf₃⟩
        refine ⟨hm₁, (Exit.kept hruns hquiet hid).of_eq (hf₃.trans ?_)⟩
        rw [hf, hshown]
    · rintro e₂ out s₂ (⟨h, -⟩ | ⟨-, rfl, ⟨h, -⟩ | ⟨-, hf, hout⟩⟩) hne
      · rw [hmarked] at h
        cases h
      · cases h
      · exact absurd hout hne
  | @adopted n' vm' interfaces hruns hquiet hid node hread hne hsame hshown =>
    refine watch_orElse (watch_reconcileCreation (fun h => ?_) hnew₁ dataSecretName netCfg true)
      ?_ ?_
    · exact ⟨m, hm₁, hd, hsame ▸ h, Or.inr ⟨hid, n', vm', interfaces, hruns⟩⟩
    · rintro e₂ s₂ (⟨hmark, created, rfl, hf, hout⟩ | ⟨hmark, rfl, ⟨h, -⟩ | ⟨-, hf, -⟩⟩)
      · -- The VM was gone again, and the Create went through.
        refine watch_finishNormal.mono ?_
        rintro e₃ - s₃ ⟨rfl, hf₃⟩
        have hruns' : { e₁ with created := created }.Runs n' vm' interfaces :=
          ⟨hruns.found, hruns.running, hruns.instance_⟩
        refine ⟨hm₁, (Exit.adopted hruns' hquiet hid hread hne (Or.inr (hout.mp rfl))).of_eq
          (hf₃.trans ?_)⟩
        rw [hf, hshown]
      · cases h
      · refine watch_finishNormal.mono ?_
        rintro e₃ - s₃ ⟨rfl, hf₃⟩
        refine ⟨hm₁, (Exit.adopted hruns hquiet hid hread hne (Or.inl (hsame ▸ hmark))).of_eq
          (hf₃.trans ?_)⟩
        rw [hf, hshown]
    · rintro e₂ out s₂ (⟨hmark, created, rfl, hf, hout⟩ | ⟨-, rfl, ⟨h, -⟩ | ⟨-, hf, h⟩⟩) hout'
      · have hruns' : { e₁ with created := created }.Runs n' vm' interfaces :=
          ⟨hruns.found, hruns.running, hruns.instance_⟩
        refine ⟨hm₁, (Exit.adoptedLost hruns' hquiet hid hread hne (hsame ▸ hmark)
          fun h => hout' (hout.mpr h)).of_eq (hf.trans ?_)⟩
        rw [hshown]
      · cases h
      · exact absurd h hout'

/-- The branches that follow a lookup that found no VM. -/
theorem watch_missing (hm : e.machine = some m) (hd : m.deleting = false) (habs : e.Absent)
    (hnew : e.created = none) (hk : Kept m s) (dataSecretName : String)
    (netCfg : Option NetworkConfig) :
    Watch e (orElse (reconcileCreation ext sc dataSecretName netCfg false) (finishNormal sc)) s
      fun e' _ s' => e'.machine = some m ∧ Exit m e' (flags s') := by
  have hlost : ∀ s', flags s' = { flags s with ready := false } →
      flags s' = { flags m with ready := false } := by
    intro s' hf
    rw [hf, hk.flags]
  refine watch_orElse (watch_reconcileCreation (fun h => ?_) hnew dataSecretName netCfg false)
    ?_ ?_
  · exact ⟨m, hm, hd, hk.marked ▸ h, Or.inl habs⟩
  · rintro e₁ s₁ (⟨-, created, rfl, hf, hout⟩ | ⟨-, rfl, ⟨-, -, h⟩ | ⟨h, -⟩⟩)
    · refine watch_finishNormal.mono ?_
      rintro e₂ - s₂ ⟨rfl, hf₂⟩
      have habs' : Sight.Absent { e with created := created } := habs
      refine ⟨hm, (Exit.created habs' (hout.mp rfl)).of_eq (hf₂.trans ?_)⟩
      rw [hf, hk.flags]
    · exact absurd rfl h
    · cases h
  · rintro e₁ out s₁ (⟨-, created, rfl, hf, hout⟩ | ⟨-, rfl, ⟨-, hf, -⟩ | ⟨h, -⟩⟩) hne
    · have habs' : Sight.Absent { e with created := created } := habs
      exact ⟨hm, (Exit.lost habs' fun h => hne (hout.mpr h)).of_eq (hlost _ hf)⟩
    · refine ⟨hm, (Exit.lost habs ?_).of_eq (hlost _ hf)⟩
      rw [hnew]
      nofun
    · cases h

theorem watch_reconcileInfrastructure (hm : e.machine = some m) (hd : m.deleting = false)
    (hvm : e.vm = none) (hnew : e.created = none) (hk : Kept m s) (dataSecretName : String) :
    Watch e (reconcileInfrastructure ext sc dataSecretName) s
      fun e' _ s' => e'.machine = some m ∧ Exit m e' (flags s') := by
  have hearly : ∀ {s'}, Kept m s' → e.machine = some m ∧ Exit m e (flags s') :=
    fun hk' => ⟨hm, (Exit.untouched hvm).of_eq hk'.flags⟩
  unfold reconcileInfrastructure
  refine .modify_bind ?_
  refine Body.Conforms.bind
    (still_resolveNetworkConfig e _ ⟨rfl, show Kept m _ from ⟨hk.flags, hk.marked⟩⟩) ?_ ?_
  · rintro e₁ resolved s₁ ⟨rfl, hk₁⟩
    cases resolved with
    | error err => exact hearly hk₁
    | ok netCfg =>
      dsimp only
      unfold Scope.harvester
      split_ifs with hcl
      · refine .request_bind nofun fun got => ?_
        cases got with
        | error err =>
          dsimp only
          split_ifs with hnf
          · exact watch_missing (e := { e₁ with vm := some (_, .error err) }) hm hd
              ⟨_, err, rfl, hnf⟩ hnew hk₁ dataSecretName netCfg
          · have hend : Exit m (e₁.next (.getVM ⟨sc.harvesterCluster.spec.targetNamespace,
                sc.key.name⟩) (.error err)) { flags m with ready := false, provisioned := false } :=
              .lookupFailed rfl (by simpa using hnf)
            refine .modify_bind ⟨hm, hend.of_eq ?_⟩
            exact congrArg (fun f : Flags => { f with ready := false, provisioned := false })
              hk₁.flags
        | ok vm =>
          exact watch_existing (e := { e₁ with vm := some (_, .ok vm) }) hcl hm hd rfl hnew hk₁
            dataSecretName netCfg
      · exact hearly hk₁
  · rintro e₁ s₁ ⟨rfl, hk₁⟩
    exact hearly hk₁

/-- Every way through `ReconcileNormal` is one of the exits. -/
theorem watch_reconcileNormal (hm : e.machine = some m) (hd : m.deleting = false)
    (hvm : e.vm = none) (hnew : e.created = none) :
    Watch e (reconcileNormal ext sc) m
      fun e' _ s' => e'.machine = some m ∧ Exit m e' (flags s') := by
  have hsame := Kept.setCondition ⟨.true_, "InfrastructureReady", "Cluster infrastructure is ready"⟩
    (by decide : "MachineCreated" ≠ "InfrastructureReady") m
  unfold reconcileNormal
  refine .get_bind ?_
  split_ifs
  · exact .modify_bind ⟨hm, .untouched hvm⟩
  · exact .modify_bind (.modify_bind ⟨hm, .notReady hvm⟩)
  · exact .modify_bind (.modify_bind ⟨hm, .notReady hvm⟩)
  · refine .modify_bind ?_
    cases sc.machine.dataSecretName with
    | none => exact .modify_bind ⟨hm, .notReady hvm⟩
    | some dataSecretName =>
      exact watch_reconcileInfrastructure hm hd hvm hnew hsame dataSecretName

end Normal

section Delete

variable {ext : Externals} {sc : Scope} {e : Sight} {m s : HarvesterMachine}

abbrev Retires {α : Type} (m : HarvesterMachine) (b : Pass α) : Prop :=
  Body.Maintains SightGuard Sight.next (fun e s => e.machine = some m ∧ flags s = flags m) b

theorem Retires.of_still {α : Type} {b : Pass α} (hb : ∀ e m, Still e m b) : Retires m b := by
  rintro e s ⟨hm, hf⟩
  refine (hb e s e s ⟨rfl, .refl s⟩).mono ?_
  rintro e' - s' ⟨rfl, hk⟩
  exact ⟨hm, hk.flags.trans hf⟩

theorem Retires.harvester {r : Req} (hg : ∀ e, SightGuard e r)
    (hn : ∀ (e : Sight) x, (e.next r x).machine = e.machine) : Retires m (sc.harvester r) := by
  unfold Scope.harvester
  split_ifs
  · exact Body.Maintains.request fun e s h => ⟨hg e, fun x => ⟨(hn e x).trans h.1, h.2⟩⟩
  · exact Body.Maintains.panic

theorem retires_deletePVCs (ns pfx : String) (names : List String) :
    Retires m (deletePVCs sc ns pfx names) := by
  induction names with
  | nil => exact .pure _
  | cons name names ih =>
    unfold deletePVCs
    split_ifs
    · exact ih
    · exact .bind (Retires.harvester (fun _ => not_creation rfl) fun _ _ => rfl) fun _ => ih

theorem retires_deleteVMAndDisks : Retires m (deleteVMAndDisks sc) := by
  have hclaims : Retires m (deletePVCsByPrefix sc sc.harvesterCluster.spec.targetNamespace
      (diskPrefix sc.key.name)) := by
    refine .bind (Retires.harvester (fun _ => not_creation rfl) fun _ _ => rfl) fun listed => ?_
    cases listed with
    | error err => exact .pure _
    | ok names => exact retires_deletePVCs _ _ _
  have hfinalizers : Retires m (removeMachineFinalizers sc) := by
    refine .bind .get fun s => .bind (.modify fun _ _ h => h) fun _ => ?_
    split_ifs <;> exact .pure _
  refine .bind (Retires.harvester (fun _ => not_creation rfl) fun _ _ => rfl) fun got => ?_
  cases got with
  | error err =>
    dsimp only
    split_ifs
    · exact .bind hclaims fun _ => hfinalizers
    · exact .pure _
  | ok vm =>
    refine .bind (Retires.harvester (fun _ => not_creation rfl) fun _ _ => rfl) fun deleted => ?_
    cases deleted with
    | error err =>
      dsimp only
      split_ifs <;> exact .pure _
    | ok u => exact .pure _

theorem retires_reconcileDelete : Retires m (reconcileDelete sc) := by
  have hetcd : Retires m (removeEtcdMemberIfControlPlane sc) := by
    refine Retires.of_still fun e m => ?_
    refine .bind .get fun s => ?_
    split_ifs
    · exact .pure _
    · refine .bind (Still.call rfl (not_creation rfl)) fun cfg => ?_
      cases cfg with
      | error err => exact .pure _
      | ok u => exact Still.call rfl (not_creation rfl)
  refine .bind (Retires.of_still fun _ _ => still_releaseVMIP) fun _ => .bind hetcd fun _ =>
    .bind (Retires.harvester (fun _ => not_creation rfl) fun _ _ => rfl) fun deleted => ?_
  cases deleted with
  | error err =>
    dsimp only
    split_ifs
    · exact retires_deleteVMAndDisks
    · exact .pure _
  | ok u => exact retires_deleteVMAndDisks

end Delete

section Reconcile

variable {ext : Externals} {k : ObjectKey} {e : Sight} {m s : HarvesterMachine}

theorem watch_reconcileBody (hm : e.machine = some m) (hvm : e.vm = none)
    (hnew : e.created = none) : Watch e (reconcileBody ext k) m
      fun e' _ s' => e'.machine = some m ∧ Shows m e' (flags s') := by
  have hearly : e.machine = some m ∧ Shows m e (flags m) := by
    refine ⟨hm, ?_⟩
    cases hd : m.deleting with
    | true => exact Or.inl ⟨hd, rfl⟩
    | false => exact Or.inr ⟨hd, .untouched hvm⟩
  unfold reconcileBody
  refine .request_bind nofun fun owner => ?_
  rcases owner with err | (- | owner)
  · exact hearly
  · exact hearly
  · refine .request_bind nofun fun ownerCluster => ?_
    rcases ownerCluster with err | (- | cluster)
    · exact hearly
    · exact hearly
    · refine .get_bind (.request_bind nofun fun paused => ?_)
      split_ifs
      · unfold recordPaused
        cases paused.condition with
        | none => exact hearly
        | some p => exact hearly
      · refine .request_bind nofun fun got => ?_
        cases got with
        | error err => exact hearly
        | ok hvCluster =>
          refine .request_bind nofun fun secret => ?_
          cases secret with
          | error err => exact hearly
          | ok usable =>
            refine .get_bind ?_
            dsimp only
            split_ifs with hd
            · refine (retires_reconcileDelete e m ⟨hm, rfl⟩).mono fun e' _ s' h => ?_
              exact ⟨h.1, Or.inl ⟨hd, h.2⟩⟩
            · have hd' : m.deleting = false := by simpa using hd
              refine (watch_reconcileNormal hm hd' hvm hnew).mono fun e' _ s' h => ?_
              exact ⟨h.1, Or.inr ⟨hd', h.2⟩⟩

theorem conforms_deferredPatch_sight (hm : e.machine = some m) (hs : Shows m e (flags s)) :
    Prog.Conforms SightGuard Sight.next e (deferredPatch m s) fun _ _ => True := by
  have hconditions : Prog.Conforms SightGuard Sight.next e (sendConditions m s)
      fun e' _ => e' = e := by
    unfold sendConditions
    split_ifs
    · exact rfl
    · exact ⟨nofun, fun _ => rfl⟩
  have hobject : Prog.Conforms SightGuard Sight.next e (sendObject m s) fun e' _ => e' = e := by
    unfold sendObject
    split_ifs
    · exact rfl
    · exact ⟨⟨m, s, hm, rfl, hs⟩, fun _ => rfl⟩
  have hstatus : Prog.Conforms SightGuard Sight.next e (sendStatus m s) fun e' _ => e' = e := by
    unfold sendStatus
    split_ifs
    · exact rfl
    · refine ⟨⟨m, s, hm, rfl, hs⟩, fun out => ?_⟩
      cases out with
      | ok u => exact rfl
      | error err =>
        dsimp only [Prog.bind]
        split_ifs <;> exact rfl
  unfold deferredPatch
  rw [Prog.conforms_bind]
  refine hconditions.mono fun e₁ _ h₁ => ?_
  subst h₁
  rw [Prog.conforms_bind]
  refine hobject.mono fun e₂ _ h₂ => ?_
  subst h₂
  rw [Prog.conforms_bind]
  exact hstatus.mono fun _ _ _ => trivial

/-- The passes keep to both contracts. -/
theorem keeps_sight (ext : Externals) :
    (observed ext).Keeps ((contract ext).both sightContract) := by
  refine (keeps_contract ext).observe fun k => ?_
  show Prog.Conforms SightGuard Sight.next .fresh (reconcile ext k >>= fun _ => pure ())
    fun _ _ => True
  rw [Prog.conforms_bind]
  unfold reconcile
  rw [Prog.conforms_bind]
  refine ⟨rfl, fun got => ?_⟩
  cases got with
  | error err =>
    dsimp only [Prog.Conforms]
    split_ifs <;> trivial
  | ok m =>
    show Prog.Conforms _ _ _ (reconcileRead ext k m) _
    unfold reconcileRead
    rw [Prog.conforms_bind]
    refine Prog.Conforms.mono (watch_reconcileBody rfl rfl rfl) fun e' out h => ?_
    rw [Prog.conforms_bind]
    refine (conforms_deferredPatch_sight h.1 h.2).mono fun _ _ _ => ?_
    cases out.1 with
    | some out => trivial
    | none => trivial

end Reconcile

theorem conforms_sight_idle {ext : Externals}
    {t : State ObjectKey Req Resp World (View × Sight)} (h : t.Idle) :
    (observed ext).Conforms ((contract ext).both sightContract) t :=
  .of_idle h fun _ => ⟨trivial, trivial⟩

end Caphv.Machine
