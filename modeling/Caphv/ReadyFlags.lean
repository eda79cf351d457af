import Caphv.FinalizerSafety
import Caphv.MachineSight

namespace Caphv.Machine

/-- `status.initialization.provisioned` is `status.ready`. -/
def Agree (m : HarvesterMachine) : Prop := m.status.provisioned = m.status.ready

instance (m : HarvesterMachine) : Decidable (Agree m) := inferInstanceAs (Decidable (_ = _))

def Sight.wasCreated (e : Sight) : Bool :=
  match e.created with
  | some (.ok ()) => true
  | _ => false

/-- The part of `oneSided` about a VM whose instance was read: one without an address whose
machine is not ready but has an id, and a machine that gets its id although creating its VM once
more fails. -/
def oneSidedRunning (m : HarvesterMachine) (e : Sight) (vm : VM) (interfaces : List String) :
    Bool :=
  if m.spec.providerID ≠ "" then addressesOf interfaces = [] && !m.status.ready
  else
    match e.node with
    | none => false
    | some node => ((addressesOf interfaces = []) == !m.status.ready) &&
        providerIDFrom node vm ≠ "" && !marked m && !e.wasCreated

/-- The exits that write `status.ready` alone, on a machine whose other field then disagrees: a
ready machine whose VM is gone and was not created, or is halted; a VM that was created for a
machine that is not ready; and those of `oneSidedRunning`. -/
def oneSided (m : HarvesterMachine) (e : Sight) : Bool :=
  match e.vm with
  | none => false
  | some (_, .error err) => err.isNotFound && (m.status.ready != e.wasCreated)
  | some (_, .ok vm) =>
    if isVMRunning vm.state then
      match e.vmi with
      | some (.ok interfaces) => oneSidedRunning m e vm interfaces
      | _ => false
    else m.status.ready

section Agree

variable {ext : Externals} {k : ObjectKey} {m s : HarvesterMachine} {e : Sight} {f : Flags}

theorem wasCreated_eq_true : e.wasCreated = true ↔ e.created = some (.ok ()) := by
  unfold Sight.wasCreated
  split
  · simp [*]
  · rename_i h
    simp only [Bool.false_eq_true, false_iff]
    exact h

theorem not_wasCreated (h : e.created ≠ some (.ok ())) : e.wasCreated = false := by
  rw [← Bool.not_eq_true, wasCreated_eq_true]
  exact h

theorem oneSided_of_runs {n : NamespacedName} {vm : VM} {interfaces : List String}
    (h : e.Runs n vm interfaces) : oneSided m e = oneSidedRunning m e vm interfaces := by
  simp only [oneSided, h.found, h.running, h.instance_, if_true]

/-- While an address has just come or gone, the branches that follow are not reached. -/
theorem oneSidedRunning_of_not_quiet {vm : VM} {interfaces : List String}
    (h : (addressesOf interfaces = []) ↔ m.status.ready = true) :
    oneSidedRunning m e vm interfaces = false := by
  unfold oneSidedRunning
  cases hr : m.status.ready with
  | true =>
    have hempty := h.mpr hr
    split_ifs
    · simp
    · cases e.node <;> simp [hempty]
  | false =>
    have hsome : addressesOf interfaces ≠ [] := fun h' => by simp [hr] at h; exact h h'
    split_ifs
    · simp [hsome]
    · cases e.node <;> simp [hsome]

/-- Every exit other than those keeps the two fields in step, and those do not. -/
theorem Exit.agree_iff (h : Exit m e f) (hm : Agree m) :
    f.provisioned = f.ready ↔ oneSided m e = false := by
  have hp : m.status.provisioned = m.status.ready := hm
  cases h with
  | untouched hvm => simp [oneSided, hvm, flags, hp]
  | notReady hvm => simp [oneSided, hvm]
  | lookupFailed hvm hother => simp [oneSided, hvm, hother]
  | lost habs hnone =>
    obtain ⟨n, err, hvm, hnf⟩ := habs
    simp [oneSided, hvm, hnf, not_wasCreated hnone, flags, hp]
  | created habs hnew =>
    obtain ⟨n, err, hvm, hnf⟩ := habs
    simp [oneSided, hvm, hnf, wasCreated_eq_true.mpr hnew, flags, hp]
  | halted hvm hstop => simp [oneSided, hvm, hstop, flags, hp]
  | noInstance hvm hrun hfail => simp [oneSided, hvm, hrun, hfail]
  | addressGone hruns hempty hready =>
    rw [oneSided_of_runs hruns, oneSidedRunning_of_not_quiet (iff_of_true hempty hready)]
  | addressFound hruns hsome hready =>
    have hq := iff_of_false hsome (by simp [hready] : ¬ m.status.ready = true)
    rw [oneSided_of_runs hruns, oneSidedRunning_of_not_quiet hq]
    exact iff_of_true rfl rfl
  | waiting hruns hquiet hid hread hempty =>
    simp [oneSided_of_runs hruns, oneSidedRunning, hid, hread, hempty, flags, hp]
  | adopted hruns hquiet hid hread hne hkept =>
    rcases hkept with hmark | hnew
    · simp [oneSided_of_runs hruns, oneSidedRunning, hid, hread, hmark]
    · simp [oneSided_of_runs hruns, oneSidedRunning, hid, hread, wasCreated_eq_true.mpr hnew]
  | @adoptedLost _ _ interfaces hruns hquiet hid _ hread hne hmark hnone =>
    have hq : addressesOf interfaces = [] ↔ m.status.ready = false := hquiet
    have hc := not_wasCreated hnone
    cases hr : m.status.ready with
    | true => simp [oneSided_of_runs hruns, oneSidedRunning, hid, hread, hne, hmark, hc, hq, hr]
    | false => simp [oneSided_of_runs hruns, oneSidedRunning, hid, hread, hne, hmark, hc, hq, hr]
  | @kept _ _ interfaces hruns hquiet hne =>
    have hq : addressesOf interfaces = [] ↔ m.status.ready = false := hquiet
    cases hr : m.status.ready with
    | true => simp [oneSided_of_runs hruns, oneSidedRunning, hne, flags, hp, hr]
    | false => simp [oneSided_of_runs hruns, oneSidedRunning, hne, flags, hp, hr, hq.mpr hr]

end Agree

abbrev ObservedState := State ObjectKey Req Resp World (View × Sight)

def Req.isStatusPatch : Req → Bool
  | .patchStatus _ => true
  | _ => false

/-- No pass of `ReconcileNormal` takes an exit that writes one of the fields alone. -/
def TwoSided (_ : World) (v : ObjectKey → View × Sight) : MachineEvent → Prop
  | .issue k r _ => r.isStatusPatch = true → ∀ m ∈ (v k).2.machine, m.deleting = false →
      oneSided m (v k).2 = false
  | .env _ => True

instance (w : World) (v : ObjectKey → View × Sight) : DecidablePred (TwoSided w v) := fun e => by
  unfold TwoSided
  casesm MachineEvent <;> infer_instance

/-- The fields agree on every stored machine and on every machine that a pass has read. -/
structure AgreeInv (w : World) (v : ObjectKey → View × Sight) : Prop where
  stored : ∀ k m, w.machines.lookup k = some m → Agree m
  read : ∀ k m, (v k).2.machine = some m → Agree m

section Runs

variable {ext : Externals} {k j : ObjectKey} {w w' : World} {u u' : View} {e : Sight}
  {m m' s : HarvesterMachine}

/-- A stored machine shows what it showed before a request, unless its status was patched. -/
theorem Effect.shown_origin {r : Req} {x : Resp r} (he : Effect ext k w u r x w' u')
    (hs : w'.machines.lookup j = some m') :
    ∃ m, w.machines.lookup j = some m ∧ (m'.status.ready = m.status.ready ∧
        m'.status.provisioned = m.status.provisioned ∨
      ∃ p, r = .patchStatus p ∧ m'.status = p.apply m.status) := by
  by_cases hj : j = k
  · subst hj
    cases he with
    | @patchConditions _ _ _ m₀ hs₀ =>
      cases (lookup_setMachine_self _ _ _).symm.trans hs
      exact ⟨m₀, hs₀, Or.inl ⟨rfl, rfl⟩⟩
    | @patchObject _ _ _ _ m₀ _ _ _ _ _ _ hs₀ _ =>
      cases (lookup_setMachine_self _ _ _).symm.trans hs
      exact ⟨m₀, hs₀, Or.inl ⟨rfl, rfl⟩⟩
    | patchObjectLast _ _ _ _ _ _ _ => cases (AList.lookup_erase _ _).symm.trans hs
    | @patchStatus p _ _ m₀ _ _ _ _ hs₀ =>
      cases (lookup_setMachine_self _ _ _).symm.trans hs
      exact ⟨m₀, hs₀, Or.inr ⟨p, rfl, rfl⟩⟩
    | _ => exact ⟨m', hs, Or.inl ⟨rfl, rfl⟩⟩
  · rw [he.machines_ne hj] at hs
    exact ⟨m', hs, Or.inl ⟨rfl, rfl⟩⟩

/-- A patch between two statuses on which the fields agree keeps the agreement. -/
theorem agree_apply {st₁ st₂ st : HarvesterMachineStatus} (h₁ : st₁.provisioned = st₁.ready)
    (h₂ : st₂.provisioned = st₂.ready) (h : st.provisioned = st.ready) :
    ((StatusPatch.between st₁ st₂).apply st).provisioned =
      ((StatusPatch.between st₁ st₂).apply st).ready := by
  simp only [StatusPatch.apply, StatusPatch.between, changedTo, h₁, h₂, h]

theorem agreeInv_preserves (ext : Externals) :
    (observed ext).Preserves ((contract ext).both sightContract) TwoSided AgreeInv where
  start w v k _ h := by
    refine ⟨h.stored, forall_update (Q := fun _ (u : View × Sight) => ∀ m, u.2.machine = some m →
      Agree m) (fun m hm => ?_) fun j _ => h.read j⟩
    cases hm
  issue w v k r a hg hok h := by
    refine ⟨fun j m' hs => ?_, forall_update (Q := fun _ (u : View × Sight) => ∀ m,
      u.2.machine = some m → Agree m) (fun m hm => ?_) fun j _ => h.read j⟩
    · obtain ⟨m, hm, ⟨hr, hp⟩ | ⟨p, rfl, hst⟩⟩ := (exec_effect r a hg.1).shown_origin hs
      · exact hp.trans ((h.stored j m hm).trans hr.symm)
      · obtain ⟨read, s, hread, rfl, hshows⟩ := hg.2
        have hagree : Agree read := h.read k read hread
        have hs : s.status.provisioned = s.status.ready := by
          rcases hshows with ⟨-, hf⟩ | ⟨hd, hexit⟩
          · exact (congrArg Flags.provisioned hf).trans
              (hagree.trans (congrArg Flags.ready hf).symm)
          · exact (hexit.agree_iff hagree).mpr (hok rfl read hread hd)
        unfold Agree
        rw [hst]
        exact agree_apply hagree hs (h.stored j m hm)
    · rcases Sight.machine_origin a hm with hm | hm
      · exact h.read k m hm
      · exact h.stored k m hm
  env w v e _ h := by
    refine ⟨fun j m' hs => ?_, h.read⟩
    rcases (env_effect w e).status_origin hs with ⟨m, hm, hst, -⟩ | ⟨-, hst⟩
    · unfold Agree
      rw [hst]
      exact h.stored j m hm
    · unfold Agree
      rw [hst]
      rfl

end Runs

def Sight.of (m : HarvesterMachine) : Sight := { Sight.fresh with machine := some m }

/-- The two contract fields after a pass of `ReconcileNormal`, for every outcome of its calls, and
over whole runs: they agree as long as no pass takes an exit that writes `status.ready` alone. -/
theorem provisioned_eq_ready_iff (ext : Externals) :
    (∀ (sc : Scope) (m : HarvesterMachine), m.deleting = false → Agree m →
      ∀ (e : Sight) (out : Option Outcome) (s : HarvesterMachine),
        Prog.Ends Sight.next (.of m) (reconcileNormal ext sc m) e (out, s) →
          (Agree s ↔ oneSided m e = false)) ∧
    ∀ (t : ObservedState) (acts : List MachineAction), t.Idle →
      t.view = (fun _ => (.fresh, .fresh)) →
      (∀ k m, t.world.machines.lookup k = some m → Agree m) →
      (observed ext).Admissible TwoSided t acts →
        ∀ k m, ((observed ext).run t acts).world.machines.lookup k = some m → Agree m := by
  refine ⟨fun sc m hd hm e out s hends => ?_, fun t acts hidle hview hstored hok => ?_⟩
  · have hexit := (watch_reconcileNormal (e := .of m) rfl hd rfl rfl).ends hends
    exact hexit.2.agree_iff hm
  · have hinv : AgreeInv t.world t.view := by
      refine ⟨hstored, fun k m hm => ?_⟩
      rw [hview] at hm
      cases hm
    exact ((agreeInv_preserves ext).run (keeps_sight ext) (conforms_sight_idle hidle) hinv
      hok).1.stored

namespace Sample

def watched (poolRefs : List String) : ObservedState :=
  ⟨world poolRefs, fun _ => .ret (), fun _ => (.fresh, .fresh)⟩

def vmOfA : VM := ⟨0, ⟨none, some .always, false⟩, [], false, keyA, none⟩

def watchedWithVM : ObservedState :=
  ⟨{ world ["p"] with
      vms := (∅ : Table NamespacedName VM).insert ⟨"target", "a"⟩ vmOfA },
    fun _ => .ret (), fun _ => (.fresh, .fresh)⟩

def answersWithAddress (fault : Req → Fault) : (r : Req) → Answer r
  | .getVMI _ => (.ok ["10.0.0.2"] : Except ApiError (List String))
  | r => answers fault r

def passWithAddress (k : ObjectKey) : List MachineAction :=
  .start k :: List.replicate 24 (.exec k (answersWithAddress fun _ => .none))

def foundWithAddress : List MachineAction :=
  created keyA [] ++ passWithAddress keyA ++ passWithAddress keyA

def responses (r : Req) : Resp r :=
  (exec keyA r (answersWithAddress (fun _ => .none) r) watchedWithVM.world).1

def passOnA : Sight × Option Outcome × HarvesterMachine :=
  Prog.play Sight.next responses (.of machineA) (reconcileNormal ext scopeA machineA)

end Sample

theorem provisioned_eq_ready_sample :
    (Sample.passOnA.2.2.status.ready = true ∧ Agree Sample.passOnA.2.2) ∧
      ∃ m, ((observed Sample.ext).run Sample.watchedWithVM
        Sample.foundWithAddress).world.machines.lookup Sample.keyA = some m ∧
        m.status.ready = true ∧ Agree m := by
  have hends : Prog.Ends Sight.next (.of Sample.machineA)
      (reconcileNormal Sample.ext Sample.scopeA Sample.machineA) Sample.passOnA.1
      (Sample.passOnA.2.1, Sample.passOnA.2.2) := Prog.ends_play _ _ _
  have hpass : Sample.passOnA.2.2.status.ready = true ∧
      oneSided Sample.machineA Sample.passOnA.1 = false := by decide +kernel
  have hrun : (observed Sample.ext).Admissible TwoSided Sample.watchedWithVM
        Sample.foundWithAddress ∧
      (((observed Sample.ext).run Sample.watchedWithVM
        Sample.foundWithAddress).world.machines.lookup Sample.keyA).map (fun m => m.status.ready) =
          some true := by decide +kernel
  obtain ⟨m, hm, hr⟩ := Option.map_eq_some_iff.mp hrun.2
  refine ⟨⟨hpass.1, ?_⟩, m, hm, hr, ?_⟩
  · exact ((provisioned_eq_ready_iff Sample.ext).1 _ _ rfl (by decide) _ _ _ hends).mpr hpass.2
  · refine (provisioned_eq_ready_iff Sample.ext).2 _ _ (fun _ => rfl) rfl ?_ hrun.1 _ m hm
    intro k m hm
    cases hm

/-- A machine whose VM is created is ready without being provisioned at the end of that pass. -/
theorem ready_without_provisioned :
    let before := (observed Sample.ext).run (Sample.watched ["p"])
      (Sample.created Sample.keyA [] ++ Sample.pass Sample.keyA)
    let after := (observed Sample.ext).run before (Sample.pass Sample.keyA)
    let fields := fun m : HarvesterMachine => (m.status.ready, m.status.provisioned)
    (before.world.machines.lookup Sample.keyA).map fields = some (false, false) ∧
      (after.world.machines.lookup Sample.keyA).map fields = some (true, false) := by
  decide +kernel

/-- The VM was found, is meant to run, and its instance reported an address. -/
def Sight.Live (e : Sight) : Prop :=
  ∃ n vm interfaces, e.Runs n vm interfaces ∧ addressesOf interfaces ≠ []

def Sight.nodeID (e : Sight) (vm : VM) : String :=
  match e.node with
  | none => ""
  | some node => providerIDFrom node vm

/-- The exits that leave `provisioned` although the VM has no address: it was set before, and the
VM is gone, or halted, or has lost its address while the machine was not ready; or it is set with
the id of a VM that has no address yet. -/
def stale (m : HarvesterMachine) (e : Sight) : Bool :=
  match e.vm with
  | none => false
  | some (_, .error err) => err.isNotFound && m.status.provisioned
  | some (_, .ok vm) =>
    if isVMRunning vm.state then
      match e.vmi with
      | some (.ok interfaces) => addressesOf interfaces = [] && !m.status.ready &&
          (m.status.provisioned || (m.spec.providerID = "" && e.nodeID vm ≠ ""))
      | _ => false
    else m.status.provisioned

section Live

variable {m : HarvesterMachine} {e : Sight} {f : Flags} {n : NamespacedName} {vm : VM}
  {interfaces : List String}

theorem Sight.Runs.live_iff (h : e.Runs n vm interfaces) :
    e.Live ↔ addressesOf interfaces ≠ [] := by
  refine ⟨?_, fun hne => ⟨n, vm, interfaces, h, hne⟩⟩
  rintro ⟨n', vm', interfaces', h', hne⟩
  cases h.instance_.symm.trans h'.instance_
  exact hne

theorem Sight.Absent.not_live (h : e.Absent) : ¬ e.Live := by
  rintro ⟨n, vm, interfaces, hruns, -⟩
  obtain ⟨n', err, hvm, -⟩ := h
  cases hvm.symm.trans hruns.found

theorem not_live_of_halted (hvm : e.vm = some (n, .ok vm)) (hstop : isVMRunning vm.state = false) :
    ¬ e.Live := by
  rintro ⟨n', vm', interfaces, hruns, -⟩
  cases hvm.symm.trans hruns.found
  exact absurd hruns.running (by simp [hstop])

/-- With the instance read and the flags quiet, only the missing address decides. -/
theorem stale_of_quiet (h : e.Runs n vm interfaces) (hq : Quiet m interfaces) :
    stale m e = (decide (addressesOf interfaces = []) &&
      (m.status.provisioned || (m.spec.providerID = "" && e.nodeID vm ≠ ""))) := by
  have hq' : addressesOf interfaces = [] ↔ m.status.ready = false := hq
  simp only [stale, h.found, h.running, h.instance_, if_true]
  by_cases hempty : addressesOf interfaces = []
  · simp [hempty, hq'.mp hempty]
  · simp [hempty]

theorem provisioned_apply_between (st₁ st₂ : HarvesterMachineStatus) :
    ((StatusPatch.between st₁ st₂).apply st₁).provisioned = st₂.provisioned := by
  simp only [StatusPatch.apply, StatusPatch.between, changedTo]
  split_ifs with h
  · exact h
  · rfl

/-- An exit says the truth about the VM unless it is one of those. -/
theorem Exit.live_iff (h : Exit m e f) (hlooked : e.vm ≠ none) :
    (f.provisioned = true → e.Live) ↔ stale m e = false := by
  have hquiet : ∀ {n vm interfaces}, e.Runs n vm interfaces → Quiet m interfaces →
      ((f.provisioned = true ↔
        m.status.provisioned = true ∨ m.spec.providerID = "" ∧ e.nodeID vm ≠ "") →
      ((f.provisioned = true → e.Live) ↔ stale m e = false)) := by
    intro n vm interfaces hruns hq hf
    rw [hruns.live_iff, stale_of_quiet hruns hq, hf]
    by_cases hempty : addressesOf interfaces = []
    · simp [hempty]
    · simp [hempty]
  cases h with
  | untouched hvm => exact absurd hvm hlooked
  | notReady hvm => exact absurd hvm hlooked
  | lookupFailed hvm hother => simp [stale, hvm, hother]
  | lost habs hnone =>
    have hno := habs.not_live
    obtain ⟨n, err, hvm, hnf⟩ := habs
    simp [stale, hvm, hnf, hno, flags]
  | created habs hnew =>
    have hno := habs.not_live
    obtain ⟨n, err, hvm, hnf⟩ := habs
    simp [stale, hvm, hnf, hno, flags]
  | halted hvm hstop => simp [stale, hvm, hstop, not_live_of_halted hvm hstop, flags]
  | noInstance hvm hrun hfail => simp [stale, hvm, hrun, hfail]
  | addressGone hruns hempty hready =>
    simp [stale, hruns.found, hruns.running, hruns.instance_, hready]
  | addressFound hruns hsome hready =>
    simp [stale, hruns.found, hruns.running, hruns.instance_, hsome, hruns.live_iff]
  | waiting hruns hq hid hread hempty =>
    refine hquiet hruns hq ?_
    simp [Sight.nodeID, hread, hempty, flags]
  | adopted hruns hq hid hread hne hkept =>
    refine hquiet hruns hq ?_
    simp [Sight.nodeID, hread, hne, hid]
  | adoptedLost hruns hq hid hread hne hmark hnone =>
    refine hquiet hruns hq ?_
    simp [Sight.nodeID, hread, hne, hid]
  | kept hruns hq hne =>
    refine hquiet hruns hq ?_
    simp [hne, flags]

end Live

/-- A pass of `ReconcileNormal` that has looked its VM up says `provisioned` only of a VM that was
found, is meant to run and has an address, unless it takes an exit of `stale`: so at its end, for
every outcome of its calls, and in every status that a pass of a run sends. -/
theorem provisioned_live_iff (ext : Externals) :
    (∀ (sc : Scope) (m : HarvesterMachine), m.deleting = false →
      ∀ (e : Sight) (out : Option Outcome) (s : HarvesterMachine),
        Prog.Ends Sight.next (.of m) (reconcileNormal ext sc m) e (out, s) → e.vm ≠ none →
          ((s.status.provisioned = true → e.Live) ↔ stale m e = false)) ∧
    ∀ (t : ObservedState) (acts : List MachineAction), t.Idle →
      ∀ (k : ObjectKey) (p : StatusPatch) (m : HarvesterMachine),
        ((observed ext).run t acts).request k = some (.patchStatus p) →
        (((observed ext).run t acts).view k).2.machine = some m → m.deleting = false →
        (((observed ext).run t acts).view k).2.vm ≠ none →
          (((p.apply m.status).provisioned = true →
              (((observed ext).run t acts).view k).2.Live) ↔
            stale m (((observed ext).run t acts).view k).2 = false) := by
  refine ⟨fun sc m hd e out s hends hvm => ?_, fun t acts hidle k p m hreq hm hd hvm => ?_⟩
  · have hexit := (watch_reconcileNormal (e := .of m) rfl hd rfl rfl).ends hends
    exact hexit.2.live_iff hvm
  · have hconf := (conforms_sight_idle hidle).run (keeps_sight ext) acts
    obtain ⟨f, hcall⟩ := State.exists_call_of_request hreq
    obtain ⟨m', s, hm', rfl, hshows⟩ := (hconf.issue hcall).2
    cases hm.symm.trans hm'
    rw [provisioned_apply_between]
    rcases hshows with ⟨hd', -⟩ | ⟨-, hexit⟩
    · exact absurd hd' (by simp [hd])
    · exact hexit.live_iff hvm

namespace Sample

def sending : ObservedState := (observed ext).run watchedWithVM (foundWithAddress.take 63)

def sent : StatusPatch := ⟨some true, some ["10.0.0.2"], some true, some "10.0.0.2", some "p", none⟩

def provisionedThenHalted : List MachineAction :=
  created keyA [] ++ pass keyA ++ pass keyA ++ passWithAddress keyA ++
    [.env (.setVMState ⟨"target", "a"⟩ ⟨none, some .halted, false⟩)]

end Sample

theorem provisioned_live_sample :
    (Sample.passOnA.2.2.status.provisioned = true ∧ Sample.passOnA.1.Live) ∧
      (Sample.sending.view Sample.keyA).2.Live := by
  have hends : Prog.Ends Sight.next (.of Sample.machineA)
      (reconcileNormal Sample.ext Sample.scopeA Sample.machineA) Sample.passOnA.1
      (Sample.passOnA.2.1, Sample.passOnA.2.2) := Prog.ends_play _ _ _
  have hpass : Sample.passOnA.2.2.status.provisioned = true ∧ Sample.passOnA.1.vm ≠ none ∧
      stale Sample.machineA Sample.passOnA.1 = false := by decide +kernel
  have hread : Sample.sending.request Sample.keyA = some (.patchStatus Sample.sent) ∧
      (Sample.sending.view Sample.keyA).2.vm ≠ none ∧
      (Sample.sending.view Sample.keyA).2.machine.map
        (fun m => (m.deleting, (Sample.sent.apply m.status).provisioned,
          stale m (Sample.sending.view Sample.keyA).2)) = some (false, true, false) := by
    decide +kernel
  obtain ⟨hprovisioned, hvm, hfresh⟩ := hpass
  obtain ⟨hreq, hvm', hread⟩ := hread
  obtain ⟨m, hm, hmap⟩ := Option.map_eq_some_iff.mp hread
  simp only [Prod.mk.injEq] at hmap
  obtain ⟨hd, hp, hstale⟩ := hmap
  refine ⟨⟨hprovisioned, ?_⟩, ?_⟩
  · exact ((provisioned_live_iff Sample.ext).1 _ _ rfl _ _ _ hends hvm).mpr hfresh hprovisioned
  · exact ((provisioned_live_iff Sample.ext).2 Sample.watchedWithVM
      (Sample.foundWithAddress.take 63) (fun _ => rfl) Sample.keyA Sample.sent m
      hreq hm hd hvm').mpr hstale hp

/-- A machine whose VM is halted stays provisioned. -/
theorem halted_but_provisioned :
    let before := (observed Sample.ext).run (Sample.watched ["p"]) Sample.provisionedThenHalted
    let after := (observed Sample.ext).run before (Sample.pass Sample.keyA)
    let fields := fun m : HarvesterMachine => (m.status.ready, m.status.provisioned)
    (before.world.machines.lookup Sample.keyA).map fields = some (true, true) ∧
      (after.view Sample.keyA).2.vm.map (fun x => x.2.toOption.map fun vm => isVMRunning vm.state) =
        some (some false) ∧
      (after.world.machines.lookup Sample.keyA).map fields = some (false, true) := by
  decide +kernel

end Caphv.Machine
