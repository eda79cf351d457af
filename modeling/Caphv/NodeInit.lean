import Caphv.ControllerRuntime
import Caphv.Prog

namespace Caphv.NodeInit

/-- The taint that the kubelet adds when `cloudProviderName` is `external`. -/
def uninitializedTaintKey : String := "node.cloudprovider.kubernetes.io/uninitialized"

structure Taint where
  key : String
  value : String
  effect : String
  deriving DecidableEq

structure Node where
  providerID : String
  taints : List Taint
  deriving DecidableEq

def hasUninitializedTaint (node : Node) : Bool :=
  node.taints.any fun t => t.key = uninitializedTaintKey

def removeTaint (taints : List Taint) : List Taint :=
  taints.filter fun t => t.key ≠ uninitializedTaintKey

/-- The calls of `InitializeWorkloadNode`, all about the Node of the given name. -/
inductive Req where
  | newClient
  | getNode
  | patchProviderID (providerID : String)
  | patchTaints (taints : List Taint)
  deriving DecidableEq

def Resp : Req → Type
  | .newClient => Except ApiError Unit
  | .getNode => Except ApiError Node
  | .patchProviderID _ => Except ApiError Unit
  | .patchTaints _ => Except ApiError Unit

def patch (f : Node → Node) (node : Option Node) : Except ApiError (Unit × Option Node) :=
  match node with
  | none => .error .notFound
  | some node => .ok ((), some (f node))

def exec (node : Option Node) (fault : Fault) : (r : Req) → Resp r × Option Node
  | .newClient => (fault.reply (.ok ()), node)
  | .getNode => (fault.reply (found node), node)
  | .patchProviderID providerID =>
    fault.write node (patch (fun n => { n with providerID := providerID }) node)
  | .patchTaints taints => fault.write node (patch (fun n => { n with taints := taints }) node)

def send (r : Req) : Prog Req Resp (Resp r) := Prog.request r

/-- The part of `InitializeWorkloadNode` that removes the taint, from a second read on. -/
def dropTaint : Prog Req Resp Bool := do
  let got ← send .getNode
  match got with
  | .error _ => pure false
  | .ok node =>
    let newTaints := removeTaint node.taints
    if newTaints.length ≠ node.taints.length then do
      let patched ← send (.patchTaints newTaints)
      match patched with
      | .error _ => pure false
      | .ok () => pure true
    else pure true

/-- `InitializeWorkloadNode`: whether the node is initialized; errors are only logged. -/
def initializeWorkloadNode (providerID : String) : Prog Req Resp Bool :=
  if providerID = "" then pure false
  else do
    let client ← send .newClient
    match client with
    | .error _ => pure false
    | .ok () => do
      let got ← send .getNode
      match got with
      | .error _ => pure false
      | .ok node =>
        let needsProviderID := node.providerID = ""
        let needsTaintRemoval := hasUninitializedTaint node
        if needsProviderID then do
          let patched ← send (.patchProviderID providerID)
          match patched with
          | .error _ => pure false
          | .ok () => if needsTaintRemoval then dropTaint else pure true
        else if needsTaintRemoval then dropTaint
        else pure true

def answering (node : Option Node) (r : Req) : Resp r × Option Node := exec node .none r

def initialized (providerID : String) (node : Node) : Node where
  providerID := if node.providerID = "" then providerID else node.providerID
  taints := removeTaint node.taints

section Initialize

variable {providerID : String} {node : Node}

theorem removeTaint_eq_self_iff :
    removeTaint node.taints = node.taints ↔ hasUninitializedTaint node = false := by
  simp [removeTaint, hasUninitializedTaint, List.filter_eq_self]

theorem length_removeTaint_ne (h : hasUninitializedTaint node = true) :
    (removeTaint node.taints).length ≠ node.taints.length := by
  intro hlen
  have hself : removeTaint node.taints = node.taints :=
    List.filter_sublist.eq_of_length hlen
  rw [removeTaint_eq_self_iff, h] at hself
  cases hself

theorem serve_dropTaint (h : hasUninitializedTaint node = true) :
    Prog.serve answering (some node) dropTaint =
      (true, some { node with taints := removeTaint node.taints }) := by
  rw [dropTaint, send, Prog.serve_request_bind]
  show Prog.serve answering (some node) (if _ ≠ _ then _ else _) = _
  rw [if_pos (length_removeTaint_ne h), send, Prog.serve_request_bind]
  rfl

/-- A registered Node is initialized, and nothing else happens to it. -/
theorem serve_initializeWorkloadNode (hid : providerID ≠ "") :
    Prog.serve answering (some node) (initializeWorkloadNode providerID) =
      (true, some (initialized providerID node)) := by
  have hkeep : hasUninitializedTaint node = false → removeTaint node.taints = node.taints :=
    removeTaint_eq_self_iff.mpr
  rw [initializeWorkloadNode, if_neg hid, send, Prog.serve_request_bind]
  show Prog.serve answering (some node) (if node.providerID = "" then _ else _) = _
  unfold initialized
  split_ifs with hempty htaint htaint
  · have hstill : hasUninitializedTaint { node with providerID := providerID } = true := htaint
    exact serve_dropTaint hstill
  · rw [hkeep (by simpa using htaint)]
    rfl
  · exact serve_dropTaint htaint
  · rw [hkeep (by simpa using htaint)]
    rfl

/-- A Node is left as it is only when it is initialized. -/
theorem initialized_eq_self_iff (hid : providerID ≠ "") :
    initialized providerID node = node ↔
      node.providerID ≠ "" ∧ hasUninitializedTaint node = false := by
  rw [← removeTaint_eq_self_iff]
  constructor
  · intro h
    refine ⟨fun hempty => hid ?_, congrArg Node.taints h⟩
    have hp := congrArg Node.providerID h
    simpa [initialized, hempty] using hp
  · rintro ⟨hne, htaints⟩
    simp only [initialized, if_neg hne, htaints]

end Initialize

def Answered (node : Option Node) (r : Req) (x : Resp r) (node' : Option Node) : Prop :=
  ∃ fault, exec node fault r = (x, node')

section Faults

variable {providerID : String} {node node' : Option Node} {n : Node}

theorem Answered.getNode {x : Resp .getNode} (h : Answered node .getNode x node') :
    node' = node ∧ ∀ n, x = .ok n → node = some n := by
  obtain ⟨fault, hexec⟩ := h
  obtain ⟨rfl, rfl⟩ := Prod.mk.inj hexec
  exact ⟨rfl, fun n hn => found_eq_ok (Fault.reply_eq_ok hn)⟩

/-- A patch that is answered with success took effect; any other may have. -/
theorem write_patch (fault : Fault) (f : Node → Node) (n : Node) :
    ((fault.write (some n) (patch f (some n))).2 = some n ∨
      (fault.write (some n) (patch f (some n))).2 = some (f n)) ∧
    ((fault.write (some n) (patch f (some n))).1 = .ok () →
      (fault.write (some n) (patch f (some n))).2 = some (f n)) := by
  cases fault with
  | none => exact ⟨Or.inr rfl, fun _ => rfl⟩
  | reject msg => exact ⟨Or.inl rfl, nofun⟩
  | lose msg => exact ⟨Or.inr rfl, nofun⟩

theorem Answered.patchProviderID {x : Resp (.patchProviderID providerID)}
    (h : Answered (some n) (.patchProviderID providerID) x node') :
    (node' = some n ∨ node' = some { n with providerID := providerID }) ∧
      (x = .ok () → node' = some { n with providerID := providerID }) := by
  obtain ⟨fault, hexec⟩ := h
  obtain ⟨rfl, rfl⟩ := Prod.mk.inj hexec
  exact write_patch fault _ n

theorem Answered.patchTaints {taints : List Taint} {x : Resp (.patchTaints taints)}
    (h : Answered (some n) (.patchTaints taints) x node') :
    (node' = some n ∨ node' = some { n with taints := taints }) ∧
      (x = .ok () → node' = some { n with taints := taints }) := by
  obtain ⟨fault, hexec⟩ := h
  obtain ⟨rfl, rfl⟩ := Prod.mk.inj hexec
  exact write_patch fault _ n

/-- The removal of the taint keeps the id, and reports success only when the taint is gone. -/
theorem executes_dropTaint {b : Bool} (h : Prog.Executes Answered (some n) dropTaint node' b) :
    (∃ taints, node' = some { n with taints := taints }) ∧
      (b = true → node' = some { n with taints := removeTaint n.taints }) := by
  obtain ⟨got, node₁, hgot, h₁⟩ := Prog.executes_request_bind h
  obtain ⟨rfl, hread⟩ := hgot.getNode
  split at h₁
  · obtain ⟨rfl, rfl⟩ := Prog.executes_pure h₁
    exact ⟨⟨n.taints, rfl⟩, nofun⟩
  next m =>
    obtain rfl := Option.some.inj (hread m rfl)
    dsimp only at h₁
    split_ifs at h₁ with hlen
    · obtain ⟨patched, node₂, hpatched, h₂⟩ := Prog.executes_request_bind h₁
      obtain ⟨hany, hok⟩ := hpatched.patchTaints
      -- A patch that fails may have taken effect.
      have hsome : ∃ taints, node₂ = some { n with taints := taints } := by
        rcases hany with rfl | rfl
        · exact ⟨n.taints, rfl⟩
        · exact ⟨_, rfl⟩
      split at h₂
      · obtain ⟨rfl, rfl⟩ := Prog.executes_pure h₂
        exact ⟨hsome, nofun⟩
      · obtain ⟨rfl, rfl⟩ := Prog.executes_pure h₂
        exact ⟨hsome, fun _ => hok rfl⟩
    · obtain ⟨rfl, rfl⟩ := Prog.executes_pure h₁
      have hself : removeTaint n.taints = n.taints :=
        List.filter_sublist.eq_of_length (not_not.mp hlen)
      refine ⟨⟨n.taints, rfl⟩, fun _ => ?_⟩
      rw [hself]

/-- The taint is removed if it was seen. -/
theorem executes_taintRemoval {needed b : Bool} (hneeded : needed = hasUninitializedTaint n)
    (h : Prog.Executes Answered (some n) (if needed then dropTaint else pure true) node' b) :
    (∃ taints, node' = some { n with taints := taints }) ∧
      (b = true → node' = some { n with taints := removeTaint n.taints }) := by
  split_ifs at h with htaint
  · exact executes_dropTaint h
  · obtain ⟨rfl, rfl⟩ := Prog.executes_pure h
    have hself : removeTaint n.taints = n.taints := by
      rw [removeTaint_eq_self_iff, ← hneeded]
      exact Bool.eq_false_iff.mpr htaint
    refine ⟨⟨n.taints, rfl⟩, fun _ => ?_⟩
    rw [hself]

structure Left (providerID : String) (n : Node) (b : Bool) (n' : Node) : Prop where
  id : n'.providerID = n.providerID ∨ n.providerID = "" ∧ n'.providerID = providerID
  done : b = true → n' = initialized providerID n

theorem executes_initializeWorkloadNode {b : Bool}
    (h : Prog.Executes Answered node (initializeWorkloadNode providerID) node' b) :
    b = false ∧ node' = node ∨
      ∃ n n', node = some n ∧ node' = some n' ∧ Left providerID n b n' := by
  unfold initializeWorkloadNode at h
  split_ifs at h with hid
  · exact Or.inl (Prog.executes_pure h).symm
  obtain ⟨client, node₁, ⟨fault, hclient⟩, h₁⟩ := Prog.executes_request_bind h
  obtain rfl : node = node₁ := (Prod.mk.inj hclient).2
  split at h₁
  · exact Or.inl (Prog.executes_pure h₁).symm
  obtain ⟨got, node₂, hgot, h₂⟩ := Prog.executes_request_bind h₁
  obtain ⟨rfl, hread⟩ := hgot.getNode
  split at h₂
  · exact Or.inl (Prog.executes_pure h₂).symm
  next n =>
    obtain rfl := hread n rfl
    refine Or.inr ⟨n, ?_⟩
    dsimp only at h₂
    by_cases hempty : n.providerID = ""
    · rw [if_pos hempty] at h₂
      obtain ⟨patched, node₃, hpatched, h₃⟩ := Prog.executes_request_bind h₂
      obtain ⟨hany, hok⟩ := hpatched.patchProviderID
      split at h₃
      · -- The id may have been written although the patch failed.
        obtain ⟨rfl, rfl⟩ := Prog.executes_pure h₃
        rcases hany with rfl | rfl
        · exact ⟨n, rfl, rfl, Or.inl rfl, nofun⟩
        · exact ⟨_, rfl, rfl, Or.inr ⟨hempty, rfl⟩, nofun⟩
      · obtain rfl := hok rfl
        obtain ⟨⟨taints, rfl⟩, hdone⟩ := executes_taintRemoval rfl h₃
        refine ⟨_, rfl, rfl, Or.inr ⟨hempty, rfl⟩, fun hb => ?_⟩
        rw [Option.some.inj (hdone hb), initialized, if_pos hempty]
    · -- An id that is there is kept, even if it is not the given one.
      rw [if_neg hempty] at h₂
      obtain ⟨⟨taints, rfl⟩, hdone⟩ := executes_taintRemoval rfl h₂
      refine ⟨_, rfl, rfl, Or.inl rfl, fun hb => ?_⟩
      rw [Option.some.inj (hdone hb), initialized, if_neg hempty]

theorem hasUninitializedTaint_initialized (providerID : String) (n : Node) :
    hasUninitializedTaint (initialized providerID n) = false := by
  simp [hasUninitializedTaint, initialized, removeTaint]

/-- Whatever fails: with the result `true` the Node has an id, its own or else the given one, and
of its taints exactly the uninitialized ones are gone; and its id never changes otherwise. -/
theorem initializeWorkloadNode_outcome {b : Bool}
    (h : Prog.Executes Answered node (initializeWorkloadNode providerID) node' b) :
    (b = true → ∃ n, node = some n ∧ ∃ n', node' = some n' ∧
      n'.providerID = (if n.providerID = "" then providerID else n.providerID) ∧
      hasUninitializedTaint n' = false ∧ n'.taints = removeTaint n.taints) ∧
    ∀ n, node = some n → ∃ n', node' = some n' ∧
      (n'.providerID = n.providerID ∨ n.providerID = "" ∧ n'.providerID = providerID) := by
  rcases executes_initializeWorkloadNode h with ⟨rfl, rfl⟩ | ⟨n, n', rfl, rfl, hleft⟩
  · exact ⟨nofun, fun n hn => ⟨n, hn, Or.inl rfl⟩⟩
  · refine ⟨fun hb => ⟨n, rfl, n', rfl, ?_⟩, fun m hm => ?_⟩
    · rw [hleft.done hb]
      exact ⟨rfl, hasUninitializedTaint_initialized providerID n, rfl⟩
    · obtain rfl := Option.some.inj hm
      exact ⟨n', rfl, hleft.id⟩

end Faults

namespace Sample

def uninitialized : Taint := ⟨uninitializedTaintKey, "true", "NoSchedule"⟩

def cordoned : Taint := ⟨"node.kubernetes.io/unschedulable", "", "NoSchedule"⟩

def registered : Node := ⟨"", [uninitialized, cordoned]⟩

end Sample

open Sample in
theorem initializeWorkloadNode_outcome_sample :
    Prog.serve answering (some registered) (initializeWorkloadNode "harvester://id") =
      (true, some ⟨"harvester://id", [cordoned]⟩) ∧
    ∃ n', some (⟨"harvester://id", [cordoned]⟩ : Node) = some n' ∧
      hasUninitializedTaint n' = false ∧ n'.taints = removeTaint registered.taints := by
  have hserve : Prog.serve answering (some registered) (initializeWorkloadNode "harvester://id") =
      (true, some ⟨"harvester://id", [cordoned]⟩) := by decide +kernel
  have hexec : Prog.Executes Answered (some registered) (initializeWorkloadNode "harvester://id")
      (some ⟨"harvester://id", [cordoned]⟩) true := by
    have hany := Prog.Complies.executes (R := Answered) (h := answering) (t := some registered)
      (fun _ _ _ => ⟨.none, rfl⟩)
      (Prog.complies_of_forall (fun _ _ => trivial) (initializeWorkloadNode "harvester://id"))
    rwa [hserve] at hany
  obtain ⟨n, hn, n', hn', -, htaint, htaints⟩ := (initializeWorkloadNode_outcome hexec).1 rfl
  obtain rfl := Option.some.inj hn
  exact ⟨hserve, n', hn', htaint, htaints⟩

open Sample in
/-- A Node that has another id already is reported as initialized, with that id. -/
theorem other_providerID_kept :
    Prog.serve answering (some ⟨"harvester://existing-id", [cordoned]⟩)
      (initializeWorkloadNode "harvester://new-id") =
        (true, some ⟨"harvester://existing-id", [cordoned]⟩) := by
  decide +kernel

end Caphv.NodeInit
