import Caphv.ReadyFlags

namespace Caphv.Machine

/-- Users leave the provider ID of machine `k` to the controller. -/
def LeavesID (k : ObjectKey) (w : World) (_ : ObjectKey → View) : MachineEvent → Prop
  | .env (.createMachine j _ _ spec) => j = k → spec.providerID = ""
  | .env (.editMachine j spec) =>
    j = k → ∀ m ∈ w.machines.lookup k, spec.providerID = m.spec.providerID
  | _ => True

def Persists (k : ObjectKey) : MachineEvent → Prop
  | .env (.createMachine j _ _ _) => j ≠ k
  | _ => True

instance (k : ObjectKey) (w : World) (v : ObjectKey → View) :
    DecidablePred (LeavesID k w v) := fun e => by
  unfold LeavesID
  casesm* MachineEvent, Env <;> infer_instance

instance (k : ObjectKey) : DecidablePred (Persists k) := fun e => by
  unfold Persists
  casesm* MachineEvent, Env <;> infer_instance

section Identity

variable {ext : Externals} {k j : ObjectKey} {w w' : World} {u u' : View} {e : Sight}
  {m m' : HarvesterMachine} {i : String}

/-- Only the patch of metadata and spec changes an id. -/
theorem Effect.providerID_origin {r : Req} {x : Resp r} (he : Effect ext j w u r x w' u')
    (hs : w'.machines.lookup k = some m') :
    ∃ m, w.machines.lookup k = some m ∧ (m'.spec.providerID = m.spec.providerID ∨
      j = k ∧ u.patched = false ∧ ∃ p, r = .patchObject p ∧ m' = p.apply m) := by
  by_cases hj : k = j
  · subst hj
    cases he with
    | @patchConditions _ _ _ m₀ hs₀ =>
      cases (lookup_setMachine_self _ _ _).symm.trans hs
      exact ⟨m₀, hs₀, Or.inl rfl⟩
    | @patchObject p _ _ _ m₀ _ _ _ hu _ _ hs₀ _ =>
      cases (lookup_setMachine_self _ _ _).symm.trans hs
      exact ⟨m₀, hs₀, Or.inr ⟨rfl, hu, p, rfl, rfl⟩⟩
    | patchObjectLast _ _ _ _ _ _ _ => cases (AList.lookup_erase _ _).symm.trans hs
    | @patchStatus p _ _ m₀ _ _ _ _ hs₀ =>
      cases (lookup_setMachine_self _ _ _).symm.trans hs
      exact ⟨m₀, hs₀, Or.inl rfl⟩
    | _ => exact ⟨m', hs, Or.inl rfl⟩
  · rw [he.machines_ne hj] at hs
    exact ⟨m', hs, Or.inl rfl⟩

/-- A stored spec was there before, or a user has just written it. -/
theorem env_spec_origin {ev : Env} (hs : (w.env ev).machines.lookup k = some m') :
    (w.machines.lookup k = none ∧ ∃ cp fs, ev = .createMachine k cp fs m'.spec) ∨
      ∃ m, w.machines.lookup k = some m ∧ (m'.spec = m.spec ∨ ev = .editMachine k m'.spec) := by
  have hkept : w.machines.lookup k = some m' → (w.machines.lookup k = none ∧
      ∃ cp fs, ev = .createMachine k cp fs m'.spec) ∨ ∃ m, w.machines.lookup k = some m ∧
        (m'.spec = m.spec ∨ ev = .editMachine k m'.spec) :=
    fun h => Or.inr ⟨m', h, Or.inl rfl⟩
  cases ev with
  | createMachine j cp fs spec =>
    simp only [World.env] at hs
    split_ifs at hs with hj
    · exact hkept hs
    · rw [lookup_setMachine] at hs
      split_ifs at hs with hk
      · cases hs
        subst hk
        exact Or.inl ⟨by simpa using hj, cp, fs, rfl⟩
      · exact hkept hs
  | editMachine j spec =>
    simp only [World.env] at hs
    split at hs
    · exact hkept hs
    · rename_i m₀ hs₀
      rw [lookup_setMachine] at hs
      split_ifs at hs with hk
      · cases hs
        subst hk
        exact Or.inr ⟨m₀, hs₀, Or.inr rfl⟩
      · exact hkept hs
  | deleteMachine j =>
    simp only [World.env] at hs
    split at hs
    · exact hkept hs
    · rename_i m₀ hs₀
      split_ifs at hs
      · rw [Table.lookup_erase_eq] at hs
        split_ifs at hs
        exact hkept hs
      · rw [lookup_setMachine] at hs
        split_ifs at hs with hk
        · cases hs
          exact Or.inr ⟨m₀, hk ▸ hs₀, Or.inl rfl⟩
        · exact hkept hs
  | setVMState n state =>
    simp only [World.env] at hs
    split at hs <;> exact hkept hs
  | createClaim n disk =>
    simp only [World.env] at hs
    split at hs
    · exact hkept hs
    · split_ifs at hs <;> exact hkept hs
  | editPool n net ranges =>
    simp only [World.env] at hs
    split at hs <;> exact hkept hs
  | promote n a =>
    simp only [World.env] at hs
    split at hs <;> exact hkept hs
  | _ => exact hkept hs

/-- The id that a user's move leaves. -/
theorem env_providerID {ev : Env} {v : ObjectKey → View} (hok : LeavesID k w v (.env ev))
    (hs : (w.env ev).machines.lookup k = some m') :
    (m'.spec.providerID = "" ∧ ¬ Persists k (.env ev)) ∨
      ∃ m, w.machines.lookup k = some m ∧ m'.spec.providerID = m.spec.providerID := by
  rcases env_spec_origin hs with ⟨-, cp, fs, rfl⟩ | ⟨m, hm, hsame | rfl⟩
  · exact Or.inl ⟨hok rfl, fun h => h rfl⟩
  · exact Or.inr ⟨m, hm, by rw [hsame]⟩
  · exact Or.inr ⟨m, hm, hok rfl m hm⟩

/-- A pass writes an id only over an empty one. -/
theorem Shows.providerID {f : Flags} (h : Shows m e f) (hid : m.spec.providerID ≠ "") :
    f.providerID = m.spec.providerID := by
  rcases h with ⟨-, rfl⟩ | ⟨-, hexit⟩
  · rfl
  · cases hexit with
    | adopted _ _ noID => exact absurd noID hid
    | adoptedLost _ _ noID => exact absurd noID hid
    | _ => rfl

theorem providerID_apply (p : ObjectPatch) (m : HarvesterMachine) :
    (p.apply m).spec.providerID = p.providerID.getD m.spec.providerID := by
  unfold ObjectPatch.apply HarvesterMachineSpec.setRequiredTerms
  dsimp only
  split <;> rfl

/-- The id that a patch leaves is the one in memory, where that differs from the one read. -/
theorem providerID_apply_between (m s m₀ : HarvesterMachine) :
    ((ObjectPatch.between m s).apply m₀).spec.providerID =
      if m.spec.providerID = s.spec.providerID then m₀.spec.providerID
      else s.spec.providerID := by
  rw [providerID_apply]
  simp only [ObjectPatch.between, changedTo]
  split_ifs <;> rfl

/-- As long as a pass that has read no id has not patched its machine, none is stored. -/
def Unset (k : ObjectKey) (w : World) (u : View × Sight) : Prop :=
  ∀ m, u.2.machine = some m → u.1.patched = false → m.spec.providerID = "" →
    ∀ m', w.machines.lookup k = some m' → m'.spec.providerID = ""

theorem Unset.fresh (k : ObjectKey) (w : World) (u : View) : Unset k w (u, .fresh) := by
  intro m hm
  cases hm

theorem View.unpatched_of_next {r : Req} {x : Resp r} (h : (u.next r x).patched = false) :
    u.patched = false := by
  cases r with
  | patchObject p => cases h
  | patchStatus p => cases h
  | getMachine => cases x <;> exact h
  | getHarvesterCluster ck => cases x <;> exact h
  | getPool n => cases x <;> exact h
  | updatePool n p => cases x <;> exact h
  | getVM n => cases x <;> exact h
  | _ => exact h

theorem Unset.own {r : Req} {a : Answer r} (h : Unset k w (u, e)) (hg : Guard ext k u r) :
    Unset k (exec k r a w).2 (u.next r (exec k r a w).1, e.next r (exec k r a w).1) := by
  intro m hm hu hid m' hs'
  obtain ⟨m₀, hs₀, hsame | ⟨-, -, p, rfl, -⟩⟩ := (exec_effect r a hg).providerID_origin hs'
  · rw [hsame]
    rcases Sight.machine_origin a hm with hread | hstored
    · exact h m hread (View.unpatched_of_next hu) hid m₀ hs₀
    · obtain rfl := Option.some.inj (hs₀.symm.trans hstored)
      exact hid
  · cases hu

theorem Unset.of_lookup {v : View × Sight} (h : Unset k w v)
    (hw : w'.machines.lookup k = w.machines.lookup k) : Unset k w' v :=
  fun m hm hu hid m' hs' => h m hm hu hid m' (hw ▸ hs')

theorem Unset.env {v : View × Sight} {ev : Env} {views : ObjectKey → View} (h : Unset k w v)
    (hok : LeavesID k w views (.env ev)) : Unset k (w.env ev) v := by
  intro m hm hu hid m' hs'
  rcases env_providerID hok hs' with ⟨hnew, -⟩ | ⟨m₀, hs₀, hsame⟩
  · exact hnew
  · exact hsame.trans (h m hm hu hid m₀ hs₀)

theorem unset_preserves (ext : Externals) (k : ObjectKey) :
    (observed ext).Preserves ((contract ext).both sightContract)
      (fun w v ev => LeavesID k w (Controller.firstView v) ev) fun w v => Unset k w (v k) where
  start w v j _ h := by
    refine update_rule (Q := fun (u : View × Sight) => Unset k w u)
      (fun _ => .fresh k w _) fun _ => h
  issue w v j r a hg hok h := by
    refine update_rule (Q := fun (u : View × Sight) => Unset k (exec j r a w).2 u) ?_ ?_
    · rintro rfl
      exact h.own hg.1
    · exact fun hj => h.of_lookup ((exec_effect r a hg.1).machines_ne hj)
  env w v ev hok h := h.env hok

/-- The stored id is `i`, and no pass is about to write another. -/
structure Fixed (k : ObjectKey) (i : String) (w : World) (v : View × Sight) : Prop where
  unset : Unset k w v
  stored : ∀ m, w.machines.lookup k = some m → m.spec.providerID = i

theorem fixed_preserves (ext : Externals) (k : ObjectKey) (hi : i ≠ "") :
    (observed ext).Preserves ((contract ext).both sightContract)
      (fun w v ev => LeavesID k w (Controller.firstView v) ev ∧ Persists k ev)
      fun w v => Fixed k i w (v k) where
  start w v j hd h := by
    refine update_rule (Q := fun (u : View × Sight) => Fixed k i w u)
      (fun _ => ⟨.fresh k w _, h.stored⟩) fun _ => h
  issue w v j r a hg hok h := by
    refine update_rule (Q := fun (u : View × Sight) => Fixed k i (exec j r a w).2 u) ?_ ?_
    · rintro rfl
      refine ⟨h.unset.own hg.1, fun m' hs' => ?_⟩
      obtain ⟨m₀, hs₀, hsame | ⟨-, hu, p, rfl, rfl⟩⟩ :=
        (exec_effect r a hg.1).providerID_origin hs'
      · exact hsame.trans (h.stored m₀ hs₀)
      · obtain ⟨m, s, hm, rfl, hshows⟩ := hg.2
        have hid : m.spec.providerID ≠ "" := fun hid =>
          hi ((h.stored m₀ hs₀).symm.trans (h.unset m hm hu hid m₀ hs₀))
        have hkept : s.spec.providerID = m.spec.providerID := hshows.providerID hid
        rw [providerID_apply_between, if_pos hkept.symm]
        exact h.stored m₀ hs₀
    · intro hj
      have hsame := (exec_effect r a hg.1).machines_ne (w := w) hj
      exact ⟨h.unset.of_lookup hsame, fun m hm => h.stored m (hsame ▸ hm)⟩
  env w v ev hok h := by
    refine ⟨h.unset.env hok.1, fun m' hs' => ?_⟩
    rcases env_providerID hok.1 hs' with ⟨-, hnew⟩ | ⟨m₀, hs₀, hsame⟩
    · exact absurd hok.2 hnew
    · exact hsame.trans (h.stored m₀ hs₀)

/-- In every run in which users leave the provider ID alone, once it is stored it never changes as
long as the machine is not created anew. -/
theorem providerID_write_once (ext : Externals) (k : ObjectKey) (s : MachineState) (hidle : s.Idle)
    (acts acts' : List MachineAction)
    (hok : (system ext).Admissible (LeavesID k) s acts)
    (hok' : (system ext).Admissible (fun w v ev => LeavesID k w v ev ∧ Persists k ev)
      ((system ext).run s acts) acts')
    (m m' : HarvesterMachine) (hm : ((system ext).run s acts).world.machines.lookup k = some m)
    (hid : m.spec.providerID ≠ "")
    (hm' : ((system ext).run ((system ext).run s acts) acts').world.machines.lookup k = some m') :
    m'.spec.providerID = m.spec.providerID := by
  let o : ObservedState := Controller.watched .fresh s
  have hview : Unset k o.world (o.view k) := .fresh k s.world (s.view k)
  obtain ⟨hunset, hconf⟩ := (unset_preserves ext k).run (s := o) (keeps_sight ext)
    (conforms_sight_idle hidle) hview (Controller.Admissible.observe (s := o) hok)
  have hrun : Controller.unobserved ((observed ext).run o acts) = (system ext).run s acts :=
    Controller.unobserved_run o acts
  rw [← hrun] at hm hm' hok'
  have hfixed : Fixed k m.spec.providerID ((observed ext).run o acts).world
      (((observed ext).run o acts).view k) := by
    refine ⟨hunset, fun m₁ hm₁ => ?_⟩
    rw [Option.some.inj (hm₁.symm.trans hm)]
  obtain ⟨h, -⟩ := (fixed_preserves ext k hid).run (keeps_sight ext) hconf hfixed
    (Controller.Admissible.observe hok')
  rw [← Controller.unobserved_run] at hm'
  exact h.stored m' hm'

end Identity

namespace Sample

def readyA : MachineState :=
  ⟨{ watchedWithVM.world with
      machines := (∅ : Table ObjectKey HarvesterMachine).insert keyA
        { machineA with status := { machineA.status with
            ready := true
            conditions := (Conditions.set ∅ "Paused" (PausedAnswer.unpaused .none).condition).set
              "MachineCreated" ⟨.true_, "MachineCreated", ""⟩
            provisioned := true } } },
    fun _ => .ret (), fun _ => .fresh⟩

def shortPass : List MachineAction :=
  .start keyA :: List.replicate 13 (.exec keyA (answersWithAddress fun _ => .none))

def idAfter (acts : List MachineAction) : Option String :=
  (((system ext).run readyA acts).world.machines.lookup keyA).map fun m => m.spec.providerID

end Sample

open Sample in
theorem providerID_write_once_sample :
    idAfter shortPass = some "harvester://0" ∧
      idAfter (shortPass ++ shortPass) = some "harvester://0" := by
  obtain ⟨hok, hfirst⟩ : (system ext).Admissible (LeavesID keyA) readyA shortPass ∧
      idAfter shortPass = some "harvester://0" := by decide +kernel
  obtain ⟨hok', hstill⟩ :
      (system ext).Admissible (fun w v ev => LeavesID keyA w v ev ∧ Persists keyA ev)
        ((system ext).run readyA shortPass) shortPass ∧
      (((system ext).run ((system ext).run readyA shortPass) shortPass).world.machines.lookup
        keyA).isSome := by decide +kernel
  obtain ⟨m, hm, hid⟩ := Option.map_eq_some_iff.mp hfirst
  obtain ⟨m', hm'⟩ := Option.isSome_iff_exists.mp hstill
  have hkept : m'.spec.providerID = m.spec.providerID :=
    providerID_write_once ext keyA readyA (fun _ => rfl) shortPass shortPass hok hok' m m' hm
      (by rw [hid]; decide) hm'
  refine ⟨hfirst, ?_⟩
  unfold idAfter
  rw [Controller.run_append, hm']
  exact congrArg some (hkept.trans hid)

def answeredID : (r : Req) → Answer r → Option String
  | .getNodeProviderID _, .ok id => some id
  | _, _ => none

def Env.writesID (k : ObjectKey) : Env → Option String
  | .createMachine j _ _ spec => if j = k then some spec.providerID else none
  | .editMachine j spec => if j = k then some spec.providerID else none
  | _ => none

/-- Users, the Node of machine `k` and the VMs of its name offer ids with `Q` only. -/
def OffersID (k : ObjectKey) (Q : String → Prop) (w : World) (_ : ObjectKey → View)
    (ev : MachineEvent) : Prop :=
  (∀ e ∈ w.vms.entries, e.1.name = k.name → Q ("harvester://" ++ toString e.2.uid)) ∧
    match ev with
    | .issue j r a => j = k → ∀ id ∈ answeredID r a, Q id
    | .env e => ∀ id ∈ e.writesID k, Q id

instance {Q : String → Prop} [DecidablePred Q] (k : ObjectKey) (w : World) (v : ObjectKey → View) :
    DecidablePred (OffersID k Q w v) := fun e => by
  unfold OffersID
  casesm MachineEvent <;> infer_instance

section Origin

variable {ext : Externals} {k j : ObjectKey} {w w' : World} {u u' : View} {e : Sight}
  {m m' : HarvesterMachine} {Q : String → Prop}

theorem Shows.providerID_origin {f : Flags} (h : Shows m e f) :
    f.providerID = m.spec.providerID ∨ ∃ n vm node, e.vm = some (n, .ok vm) ∧
      e.node = some node ∧ f.providerID = providerIDFrom node vm := by
  rcases h with ⟨-, rfl⟩ | ⟨-, hexit⟩
  · exact Or.inl rfl
  · cases hexit with
    | adopted hruns _ _ hnode => exact Or.inr ⟨_, _, _, hruns.found, hnode, rfl⟩
    | adoptedLost hruns _ _ hnode => exact Or.inr ⟨_, _, _, hruns.found, hnode, rfl⟩
    | _ => exact Or.inl rfl

theorem Sight.node_origin {r : Req} (a : Answer r) {id : String}
    (h : (e.next r (exec k r a w).1).node = some (.ok id)) :
    e.node = some (.ok id) ∨ answeredID r a = some id := by
  cases r with
  | getNodeProviderID n =>
    have ha : a = (.ok id : Except String String) := Option.some.inj h
    rw [ha]
    exact Or.inr rfl
  | getMachine =>
    cases hx : (exec k .getMachine a w).1 with
    | error err =>
      rw [hx] at h
      exact Or.inl h
    | ok m =>
      rw [hx] at h
      exact Or.inl h
  | _ => exact Or.inl h

structure IDInv (k : ObjectKey) (Q : String → Prop) (w : World) (e : Sight) : Prop where
  stored : ∀ m, w.machines.lookup k = some m → Q m.spec.providerID
  vm : ∀ n vm, e.vm = some (n, .ok vm) → Q ("harvester://" ++ toString vm.uid)
  node : ∀ id, e.node = some (.ok id) → Q id

theorem IDInv.providerIDFrom (h : IDInv k Q w e) {n : NamespacedName} {vm : VM}
    {node : Except String String} (hvm : e.vm = some (n, .ok vm)) (hnode : e.node = some node) :
    Q (providerIDFrom node vm) := by
  cases node with
  | error msg => exact h.vm n vm hvm
  | ok id => exact h.node id hnode

theorem IDInv.own {r : Req} {a : Answer r} {v : ObjectKey → View} (h : IDInv k Q w e)
    (hg : Guard ext k u r) (hs : SightGuard e r) (hok : OffersID k Q w v (.issue k r a)) :
    IDInv k Q (exec k r a w).2 (e.next r (exec k r a w).1) := by
  refine ⟨fun m' hs' => ?_, fun n vm hvm => ?_, fun id hid => ?_⟩
  · obtain ⟨m₀, hs₀, hsame | ⟨-, -, p, rfl, rfl⟩⟩ := (exec_effect r a hg).providerID_origin hs'
    · exact hsame ▸ h.stored m₀ hs₀
    · obtain ⟨m, s, -, rfl, hshows⟩ := hs
      rw [providerID_apply_between]
      split_ifs with hkept
      · exact h.stored m₀ hs₀
      · rcases hshows.providerID_origin with hsame | ⟨n, vm, node, hvm, hnode, hid⟩
        · exact absurd hsame.symm hkept
        · have hfrom : s.spec.providerID = _ := hid
          rw [hfrom]
          exact h.providerIDFrom hvm hnode
  · rcases Sight.vm_origin a hvm with hvm | ⟨rfl, hstored⟩
    · exact h.vm n vm hvm
    · obtain ⟨ck, c, -, rfl⟩ := hg
      exact hok.1 ⟨_, vm⟩ (List.of_mem_dlookup hstored) rfl
  · rcases Sight.node_origin a hid with hid | hid
    · exact h.node id hid
    · exact hok.2 rfl id hid

theorem IDInv.fresh (h : ∀ m, w.machines.lookup k = some m → Q m.spec.providerID) :
    IDInv k Q w .fresh := by
  refine ⟨h, fun n vm hvm => ?_, fun id hid => ?_⟩
  · cases hvm
  · cases hid

theorem IDInv.env {ev : Env} {v : ObjectKey → View} (h : IDInv k Q w e)
    (hok : OffersID k Q w v (.env ev)) : IDInv k Q (w.env ev) e := by
  refine ⟨fun m' hs' => ?_, h.vm, h.node⟩
  rcases env_spec_origin hs' with ⟨-, cp, fs, rfl⟩ | ⟨m, hm, hsame | rfl⟩
  · exact hok.2 _ (if_pos rfl)
  · rw [hsame]
    exact h.stored m hm
  · exact hok.2 _ (if_pos rfl)

theorem idInv_preserves (ext : Externals) (k : ObjectKey) (Q : String → Prop) :
    (observed ext).Preserves ((contract ext).both sightContract)
      (fun w v ev => OffersID k Q w (Controller.firstView v) ev)
      fun w v => IDInv k Q w (v k).2 where
  start w v j _ h := by
    exact update_rule (Q := fun (u : View × Sight) => IDInv k Q w u.2)
      (fun _ => .fresh h.stored) fun _ => h
  issue w v j r a hg hok h := by
    refine update_rule (Q := fun (u : View × Sight) => IDInv k Q (exec j r a w).2 u.2) ?_ ?_
    · rintro rfl
      exact h.own hg.1 hg.2 hok
    · intro hj
      have hsame := (exec_effect r a hg.1).machines_ne (w := w) hj
      exact ⟨fun m hm => h.stored m (hsame ▸ hm), h.vm, h.node⟩
  env w v ev hok h := h.env hok

/-- In every run the provider ID of a machine is one that a user wrote, that the workload cluster
reported for its Node, or that is made from the UID of a VM of its name. -/
theorem providerID_offered (ext : Externals) (k : ObjectKey) (Q : String → Prop) (s : MachineState)
    (hidle : s.Idle) (hstart : ∀ m ∈ s.world.machines.lookup k, Q m.spec.providerID)
    (acts : List MachineAction) (hok : (system ext).Admissible (OffersID k Q) s acts)
    (m : HarvesterMachine) (hm : ((system ext).run s acts).world.machines.lookup k = some m) :
    Q m.spec.providerID := by
  obtain ⟨v, -, h, -⟩ := (idInv_preserves ext k Q).reaches (keeps_sight ext) hidle
    (fun _ => ⟨trivial, trivial⟩) (.fresh hstart) hok
  exact h.stored m hm

end Origin

open Sample in
theorem providerID_offered_sample :
    ∃ m, ((system ext).run readyA shortPass).world.machines.lookup keyA = some m ∧
      m.spec.providerID ≠ "" ∧ (m.spec.providerID = "" ∨ m.spec.providerID = "harvester://0") := by
  obtain ⟨hstart, hok, hset⟩ :
      (∀ m ∈ readyA.world.machines.lookup keyA, m.spec.providerID = "" ∨
        m.spec.providerID = "harvester://0") ∧
      (system ext).Admissible (OffersID keyA fun id => id = "" ∨ id = "harvester://0") readyA
        shortPass ∧
      ∃ m ∈ ((system ext).run readyA shortPass).world.machines.lookup keyA,
        m.spec.providerID ≠ "" := by decide +kernel
  obtain ⟨m, hm, hne⟩ := hset
  exact ⟨m, hm, hne, providerID_offered ext keyA (fun id => id = "" ∨ id = "harvester://0") readyA
    (fun _ => rfl) hstart shortPass hok m hm⟩

end Caphv.Machine
