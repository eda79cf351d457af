import Caphv.ReadyFlags

namespace Caphv.Machine

def Req.vmRead : Req → Option NamespacedName
  | .getVM n => some n
  | _ => none

/-- The lookup of a VM answers a pass of `ReconcileNormal` with one that is meant to run only if
the machine as read has the condition `MachineCreated` or an id. -/
def RecordedWhenFound (w : World) (v : ObjectKey → View × Sight) : MachineEvent → Prop
  | .issue k r _ => ∀ n ∈ r.vmRead, ∀ m ∈ (v k).2.machine, m.deleting = false →
      ∀ vm ∈ w.vms.lookup n, isVMRunning vm.state = true →
        marked m = true ∨ m.spec.providerID ≠ ""
  | .env _ => True

instance (w : World) (v : ObjectKey → View × Sight) :
    DecidablePred (RecordedWhenFound w v) := fun e => by
  unfold RecordedWhenFound
  casesm MachineEvent <;> infer_instance

/-- A pass that has found a VM to run has read a machine that records it. -/
def Sight.Recorded (e : Sight) : Prop :=
  ∀ m n vm, e.machine = some m → m.deleting = false → e.vm = some (n, .ok vm) →
    isVMRunning vm.state = true → marked m = true ∨ m.spec.providerID ≠ ""

section Recorded

variable {ext : Externals} {k : ObjectKey} {w : World} {e : Sight}

/-- One request: the lookup is answered as the condition says, and the machine is read first. -/
theorem Sight.Recorded.next {r : Req} (a : Answer r) (hg : SightGuard e r)
    (hok : ∀ n ∈ r.vmRead, ∀ m ∈ e.machine, m.deleting = false → ∀ vm ∈ w.vms.lookup n,
      isVMRunning vm.state = true → marked m = true ∨ m.spec.providerID ≠ "")
    (h : e.Recorded) : (e.next r (exec k r a w).1).Recorded := by
  intro m n vm hm hd hvm hrun
  by_cases hr : r = .getMachine
  · subst hr
    have hnone : e.vm = none := hg
    rcases Sight.vm_origin a hvm with hvm | ⟨hr, -⟩
    · rw [hnone] at hvm
      cases hvm
    · cases hr
  · rw [Sight.next_machine _ hr] at hm
    rcases Sight.vm_origin a hvm with hvm | ⟨rfl, hs⟩
    · exact h m n vm hm hd hvm hrun
    · exact hok n rfl m hm hd vm hs hrun

theorem recorded_preserves (ext : Externals) :
    (observed ext).Preserves ((contract ext).both sightContract) RecordedWhenFound
      fun _ v => ∀ k, (v k).2.Recorded where
  start w v k _ h := by
    refine forall_update (Q := fun _ (u : View × Sight) => u.2.Recorded) ?_ fun j _ => h j
    intro m n vm hm
    cases hm
  issue w v k r a hg hok h :=
    forall_update (Q := fun _ (u : View × Sight) => u.2.Recorded) ((h k).next a hg.2 hok)
      fun j _ => h j
  env w v e _ h := h

theorem SightGuard.creates {r : Req} (h : SightGuard e r) (hr : r.ofCreation = true) :
    e.Creates := by
  cases r with
  | getMachine => cases hr
  | getVMI n => cases hr
  | patchObject p => cases hr
  | patchStatus p => cases hr
  | _ => exact h hr

/-- What is recorded is not created again. -/
theorem Sight.Creates.not_found (h : e.Creates) (hrec : e.Recorded) (n : NamespacedName)
    (vm : VM) : e.vm ≠ some (n, .ok vm) := by
  intro hvm
  obtain ⟨m, hm, hd, hmark, ⟨n', err, habs, -⟩ | ⟨hid, n', vm', interfaces, hruns⟩⟩ := h
  · cases habs.symm.trans hvm
  · rcases hrec m n' vm' hm hd hruns.found hruns.running with hmark' | hne
    · rw [hmark] at hmark'
      cases hmark'
    · exact hne hid

end Recorded

/-- A pass whose lookup found the VM issues none of the requests of `createVMFromHarvesterMachine`
in a run in which every VM that is found is recorded on its machine. -/
theorem creates_only_when_missing (ext : Externals) (t : ObservedState) (hidle : t.Idle)
    (hfresh : ∀ k, (t.view k).2 = .fresh) (acts : List MachineAction)
    (hok : (observed ext).Admissible RecordedWhenFound t acts) (k : ObjectKey) (r : Req)
    (hreq : ((observed ext).run t acts).request k = some r) (hr : r.ofCreation = true)
    (n : NamespacedName) (vm : VM) :
    (((observed ext).run t acts).view k).2.vm ≠ some (n, .ok vm) := by
  have hinv₀ : ∀ k, (t.view k).2.Recorded := by
    intro k m n vm hm
    rw [hfresh k] at hm
    cases hm
  obtain ⟨hinv, hconf⟩ := (recorded_preserves ext).run (keeps_sight ext)
    (conforms_sight_idle hidle) hinv₀ hok
  obtain ⟨f, hcall⟩ := State.exists_call_of_request hreq
  exact ((hconf.issue hcall).2.creates hr).not_found (hinv k) n vm

namespace Sample

def conditionsLost : Req → Fault
  | .patchConditions _ _ => .reject "timeout"
  | _ => .none

/-- Machine `a` gets its finalizer and then its VM, with the conditions of that pass lost; a third
pass runs up to its request number `n`. -/
def unrecorded (n : ℕ) : ObservedState :=
  (observed ext).run (watched ["p"]) (created keyA [] ++ pass keyA ++
    passWith conditionsLost keyA ++ (passWithAddress keyA).take n)

def creating : ObservedState :=
  (observed ext).run (watched ["p"]) (created keyA [] ++ pass keyA ++ (pass keyA).take 15)

end Sample

theorem creates_only_when_missing_sample :
    (Sample.creating.request Sample.keyA).map Req.ofCreation = some true ∧
      ∀ n vm, (Sample.creating.view Sample.keyA).2.vm ≠ some (n, .ok vm) := by
  have hreq : (Sample.creating.request Sample.keyA).map Req.ofCreation = some true := by
    decide +kernel
  obtain ⟨r, hr, hcreation⟩ := Option.map_eq_some_iff.mp hreq
  exact ⟨hreq, creates_only_when_missing Sample.ext (Sample.watched ["p"]) (fun _ => rfl)
    (fun _ => rfl) _ (by decide +kernel) Sample.keyA r hr hcreation⟩

/-- The VM is found, and the pass rewrites its secret and sends another Create. -/
theorem created_again_when_found :
    let found := fun t : ObservedState => (t.view Sample.keyA).2.vm.map fun x => x.2.isOk
    let secret : ObservedState → Option NamespacedName := fun t => match t.request Sample.keyA with
      | some (.updateSecret n _) => some n
      | _ => none
    let vm : ObservedState → Option NamespacedName := fun t => match t.request Sample.keyA with
      | some (.createVM n _ _) => some n
      | _ => none
    (found (Sample.unrecorded 14) = some true ∧
        secret (Sample.unrecorded 14) = some ⟨"target", cloudInitSecretName "a"⟩) ∧
      found (Sample.unrecorded 15) = some true ∧
        vm (Sample.unrecorded 15) = some ⟨"target", "a"⟩ := by
  decide +kernel

end Caphv.Machine
