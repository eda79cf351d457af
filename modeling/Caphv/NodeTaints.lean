import Caphv.NodeInit

namespace Caphv.NodeInit

inductive Move where
  | add (taint : Taint)
  | remove (taint : Taint)
  deriving DecidableEq

namespace Move

def taint : Move → Taint
  | add t => t
  | remove t => t

def apply : Move → List Taint → List Taint
  | add t, taints => if t ∈ taints then taints else taints ++ [t]
  | remove t, taints => taints.filter (· ≠ t)

end Move

/-- The taints after the moves of a log, which has the newest first. -/
def replay (taints : List Taint) (log : List Move) : List Taint := log.foldr Move.apply taints

def lastMove (log : List Move) (t : Taint) : Option Move := log.find? fun mv => mv.taint = t

section Replay

variable {taints : List Taint} {log : List Move} {mv : Move} {t : Taint}

theorem replay_append (taints : List Taint) (newer older : List Move) :
    replay taints (newer ++ older) = replay (replay taints older) newer := List.foldr_append

theorem Move.mem_apply :
    t ∈ mv.apply taints ↔ if mv.taint = t then mv = .add t else t ∈ taints := by
  cases mv with
  | add u =>
    simp only [apply, taint]
    by_cases heq : u = t
    · subst heq
      by_cases hu : u ∈ taints
      · simp [hu]
      · simp [hu]
    · by_cases hu : u ∈ taints
      · simp [hu, heq]
      · simp [hu, heq, Ne.symm heq]
  | remove u =>
    simp only [apply, taint]
    by_cases heq : u = t
    · simp [heq]
    · simp [heq, Ne.symm heq]

/-- A taint is there if the last move about it added it, or if there was none and it was there
before. -/
theorem mem_replay : t ∈ replay taints log ↔
    lastMove log t = some (.add t) ∨ lastMove log t = none ∧ t ∈ taints := by
  induction log with
  | nil => simp [replay, lastMove]
  | cons mv log ih =>
    have hreplay : replay taints (mv :: log) = mv.apply (replay taints log) := rfl
    have hlast : lastMove (mv :: log) t = if mv.taint = t then some mv else lastMove log t := by
      by_cases heq : mv.taint = t
      · simp [lastMove, heq]
      · simp [lastMove, heq]
    rw [hreplay, Move.mem_apply, hlast]
    split_ifs with heq
    · simp
    · exact ih

theorem lastMove_append (newer older : List Move) (t : Taint) :
    lastMove (newer ++ older) t = (lastMove newer t).or (lastMove older t) := List.find?_append

theorem taint_of_lastMove (h : lastMove log t = some mv) : mv.taint = t := by
  simpa using List.find?_some h

end Replay

/-- The Node with the moves of the other writers so far: `read` has the taints at the last Get and
`since` the moves after it. Once the server has applied the patch of the taints, `applied` has both
as they were then. -/
structure Race where
  node : Node
  log : List Move
  read : List Taint
  since : List Move
  applied : Option (List Taint × List Move)
  deriving DecidableEq

namespace Race

def start (node : Node) : Race := ⟨node, [], node.taints, [], none⟩

def moved (s : Race) (moves : List Move) : Race :=
  { s with
    node := { s.node with taints := replay s.node.taints moves }
    log := moves ++ s.log
    since := moves ++ s.since }

def record (s : Race) : Req → Fault → Race
  | .getNode, _ => { s with read := s.node.taints, since := [] }
  | .patchTaints _, .reject _ => s
  | .patchTaints _, _ => { s with applied := some (s.read, s.since) }
  | _, _ => s

/-- The other writers move, then the call is served. -/
def step (s : Race) (moves : List Move) (fault : Fault) (r : Req) : Resp r × Race :=
  let s := s.moved moves
  let out := exec (some s.node) fault r
  (out.1, { s.record r fault with node := out.2.getD s.node })

end Race

def Racing (s : Race) (r : Req) (x : Resp r) (s' : Race) : Prop :=
  ∃ moves fault, s.step moves fault r = (x, s')

/-- What the others did to the taints is there in the end, but for the uninitialized ones. -/
def NothingLost (s : Race) : Prop :=
  ∀ t : Taint, t.key ≠ uninitializedTaintKey →
    (lastMove s.log t = some (.add t) → t ∈ s.node.taints) ∧
      (lastMove s.log t = some (.remove t) → t ∉ s.node.taints)

/-- What the others did since the list was read has left every other taint as it was read: the
last move about a taint added it if it was on the list, and removed it if not. -/
def LeftAsRead (read : List Taint) (since : List Move) : Prop :=
  ∀ t : Taint, t.key ≠ uninitializedTaintKey →
    ∀ mv, lastMove since t = some mv → (mv = .add t ↔ t ∈ read)

section Races

variable {init : List Taint} {s s' : Race} {providerID : String} {b : Bool}

/-- Before the patch the taints are those that the others made, and the list read is what they had
made then. -/
structure Untouched (init : List Taint) (s : Race) : Prop where
  taints : s.node.taints = replay init s.log
  read : ∃ older, s.log = s.since ++ older ∧ s.read = replay init older
  applied : s.applied = none

/-- The patch sent what was read, with the moves `since` unseen. -/
structure Overwritten (init : List Taint) (s : Race) (since : List Move) : Prop where
  read : ∃ older, s.log = since ++ older ∧ s.read = replay init older
  taints : s.node.taints = removeTaint s.read
  applied : s.applied = some (s.read, since)

theorem Untouched.moved (h : Untouched init s) (moves : List Move) :
    Untouched init (s.moved moves) := by
  obtain ⟨older, hlog, hread⟩ := h.read
  refine ⟨?_, ⟨older, ?_, hread⟩, h.applied⟩
  · rw [Race.moved, replay_append, h.taints]
  · rw [Race.moved, hlog, List.append_assoc]

theorem Untouched.newClient {x : Resp .newClient} (h : Untouched init s)
    (hc : Racing s .newClient x s') : Untouched init s' := by
  obtain ⟨moves, fault, hstep⟩ := hc
  obtain ⟨rfl, rfl⟩ := Prod.mk.inj hstep
  exact h.moved moves

theorem Untouched.getNode {x : Resp .getNode} (h : Untouched init s)
    (hc : Racing s .getNode x s') : Untouched init s' ∧ ∀ n, x = .ok n → n.taints = s'.read := by
  obtain ⟨moves, fault, hstep⟩ := hc
  obtain ⟨rfl, rfl⟩ := Prod.mk.inj hstep
  have hmoved := h.moved moves
  refine ⟨⟨hmoved.taints, ⟨_, rfl, hmoved.taints⟩, hmoved.applied⟩, fun n hn => ?_⟩
  exact congrArg Node.taints (Option.some.inj (found_eq_ok (Fault.reply_eq_ok hn))).symm

theorem Untouched.patchProviderID {x : Resp (.patchProviderID providerID)} (h : Untouched init s)
    (hc : Racing s (.patchProviderID providerID) x s') : Untouched init s' := by
  obtain ⟨moves, fault, hstep⟩ := hc
  obtain ⟨rfl, rfl⟩ := Prod.mk.inj hstep
  have hmoved := h.moved moves
  cases fault with
  | none => exact ⟨hmoved.taints, hmoved.read, hmoved.applied⟩
  | reject msg => exact hmoved
  | lose msg => exact ⟨hmoved.taints, hmoved.read, hmoved.applied⟩

theorem Untouched.patchTaints {x : Resp (.patchTaints (removeTaint s.read))}
    (h : Untouched init s) (hc : Racing s (.patchTaints (removeTaint s.read)) x s') :
    Untouched init s' ∨ ∃ since, Overwritten init s' since := by
  obtain ⟨moves, fault, hstep⟩ := hc
  obtain ⟨rfl, rfl⟩ := Prod.mk.inj hstep
  have hmoved := h.moved moves
  cases fault with
  | none => exact Or.inr ⟨moves ++ s.since, hmoved.read, rfl, rfl⟩
  | reject msg => exact Or.inl hmoved
  | lose msg =>
    -- The server applied the patch, and only the response is lost.
    exact Or.inr ⟨moves ++ s.since, hmoved.read, rfl, rfl⟩

theorem Untouched.dropTaint (h : Untouched init s)
    (he : Prog.Executes Racing s dropTaint s' b) :
    Untouched init s' ∨ ∃ since, Overwritten init s' since := by
  obtain ⟨got, s₁, hgot, h₁⟩ := Prog.executes_request_bind he
  obtain ⟨hs₁, hread⟩ := h.getNode hgot
  split at h₁
  · obtain ⟨rfl, -⟩ := Prog.executes_pure h₁
    exact Or.inl hs₁
  next n =>
    rw [hread n rfl] at h₁
    dsimp only at h₁
    split_ifs at h₁
    · obtain ⟨patched, s₂, hpatched, h₂⟩ := Prog.executes_request_bind h₁
      -- The patch is the last call, whatever its response.
      have hend : s' = s₂ := by
        split at h₂
        · exact (Prog.executes_pure h₂).1
        · exact (Prog.executes_pure h₂).1
      rw [hend]
      exact hs₁.patchTaints hpatched
    · obtain ⟨rfl, -⟩ := Prog.executes_pure h₁
      exact Or.inl hs₁

theorem Untouched.taintRemoval {needed : Bool} (h : Untouched init s)
    (he : Prog.Executes Racing s (if needed then NodeInit.dropTaint else pure true) s' b) :
    Untouched init s' ∨ ∃ since, Overwritten init s' since := by
  split_ifs at he
  · exact h.dropTaint he
  · obtain ⟨rfl, -⟩ := Prog.executes_pure he
    exact Or.inl h

theorem Untouched.initializeWorkloadNode (h : Untouched init s)
    (he : Prog.Executes Racing s (initializeWorkloadNode providerID) s' b) :
    Untouched init s' ∨ ∃ since, Overwritten init s' since := by
  unfold NodeInit.initializeWorkloadNode at he
  split_ifs at he
  · obtain ⟨rfl, -⟩ := Prog.executes_pure he
    exact Or.inl h
  obtain ⟨client, s₁, hclient, h₁⟩ := Prog.executes_request_bind he
  have hs₁ := h.newClient hclient
  split at h₁
  · obtain ⟨rfl, -⟩ := Prog.executes_pure h₁
    exact Or.inl hs₁
  obtain ⟨got, s₂, hgot, h₂⟩ := Prog.executes_request_bind h₁
  obtain ⟨hs₂, -⟩ := hs₁.getNode hgot
  split at h₂
  · obtain ⟨rfl, -⟩ := Prog.executes_pure h₂
    exact Or.inl hs₂
  next n =>
    dsimp only at h₂
    by_cases hempty : n.providerID = ""
    · rw [if_pos hempty] at h₂
      obtain ⟨patched, s₃, hpatched, h₃⟩ := Prog.executes_request_bind h₂
      have hs₃ := hs₂.patchProviderID hpatched
      split at h₃
      · obtain ⟨rfl, -⟩ := Prog.executes_pure h₃
        exact Or.inl hs₃
      · exact hs₃.taintRemoval h₃
    · rw [if_neg hempty] at h₂
      exact hs₂.taintRemoval h₂

theorem Untouched.nothingLost (h : Untouched init s) : NothingLost s := by
  intro t _
  rw [h.taints, mem_replay]
  refine ⟨Or.inl, fun hrem => ?_⟩
  rw [hrem]
  simp

theorem mem_removeTaint {taints : List Taint} {t : Taint} (ht : t.key ≠ uninitializedTaintKey) :
    t ∈ removeTaint taints ↔ t ∈ taints := by
  simp [removeTaint, ht]

/-- After an overwrite nothing is lost if and only if the list read was still current. -/
theorem Overwritten.nothingLost_iff {since : List Move} (h : Overwritten init s since) :
    NothingLost s ↔ LeftAsRead s.read since := by
  obtain ⟨older, hlog, hread⟩ := h.read
  refine forall₂_congr fun t ht => ?_
  rw [h.taints, mem_removeTaint ht, hlog, lastMove_append]
  cases hlast : lastMove since t with
  | none =>
    -- Nobody moved this taint after the read, and the list read has what was done before.
    refine iff_of_true ?_ nofun
    rw [Option.none_or, hread, mem_replay]
    refine ⟨Or.inl, fun hrem => ?_⟩
    simp [hrem]
  | some mv =>
    have htaint := taint_of_lastMove hlast
    cases mv with
    | add u =>
      obtain rfl : u = t := htaint
      simp
    | remove u =>
      obtain rfl : u = t := htaint
      simp

/-- In every interleaving with other writers, nothing that they did to the taints is lost exactly
if no patch of the taints was applied, or if what they did between the second read and the patch
left every other taint as it was read. -/
theorem taints_kept_iff {node : Node}
    (h : Prog.Executes Racing (.start node) (initializeWorkloadNode providerID) s b) :
    NothingLost s ↔ ∀ read since, s.applied = some (read, since) → LeftAsRead read since := by
  have hstart : Untouched node.taints (.start node) := ⟨rfl, ⟨[], rfl, rfl⟩, rfl⟩
  rcases hstart.initializeWorkloadNode h with hu | ⟨since, ho⟩
  · rw [hu.applied]
    exact iff_of_true hu.nothingLost nofun
  · rw [ho.nothingLost_iff, ho.applied]
    constructor
    · rintro hleft read since' heq
      obtain ⟨rfl, rfl⟩ := Prod.mk.inj (Option.some.inj heq)
      exact hleft
    · exact fun hall => hall _ _ rfl

end Races

namespace Sample

def beforePatch (moves : List Move) (s : Race) : (r : Req) → Resp r × Race
  | .patchTaints taints => s.step moves .none (.patchTaints taints)
  | r => s.step [] .none r

theorem executes_beforePatch (moves : List Move) (node : Node) (providerID : String) :
    Prog.Executes Racing (.start node) (initializeWorkloadNode providerID)
      (Prog.serve (beforePatch moves) (.start node) (initializeWorkloadNode providerID)).2
      (Prog.serve (beforePatch moves) (.start node) (initializeWorkloadNode providerID)).1 := by
  refine Prog.Complies.executes (D := fun _ _ => True) (fun s r _ => ?_)
    (Prog.complies_of_forall (fun _ _ => trivial) _)
  cases r with
  | patchTaints taints => exact ⟨moves, .none, rfl⟩
  | newClient => exact ⟨[], .none, rfl⟩
  | getNode => exact ⟨[], .none, rfl⟩
  | patchProviderID providerID => exact ⟨[], .none, rfl⟩

end Sample

open Sample in
/-- A taint that was there and is put on again is kept. -/
theorem taints_kept_sample :
    let s := (Prog.serve (beforePatch [.add cordoned]) (.start ⟨"", [uninitialized, cordoned]⟩)
      (initializeWorkloadNode "harvester://id")).2
    s.applied = some ([uninitialized, cordoned], [.add cordoned]) ∧ NothingLost s := by
  have happlied : (Prog.serve (beforePatch [.add cordoned]) (.start ⟨"", [uninitialized, cordoned]⟩)
      (initializeWorkloadNode "harvester://id")).2.applied =
        some ([uninitialized, cordoned], [.add cordoned]) := by decide +kernel
  refine ⟨happlied, (taints_kept_iff (executes_beforePatch _ _ _)).mpr ?_⟩
  intro read since h t _ mv hmv
  rw [happlied] at h
  obtain ⟨rfl, rfl⟩ := Prod.mk.inj (Option.some.inj h)
  have htaint := taint_of_lastMove hmv
  obtain rfl := List.mem_singleton.mp (List.mem_of_find?_eq_some hmv)
  obtain rfl : cordoned = t := htaint
  decide

open Sample in
/-- A taint that is added between the second read and the patch is lost. -/
theorem added_taint_lost :
    let s := (Prog.serve (beforePatch [.add cordoned]) (.start ⟨"", [uninitialized]⟩)
      (initializeWorkloadNode "harvester://id")).2
    Prog.Executes Racing (.start ⟨"", [uninitialized]⟩) (initializeWorkloadNode "harvester://id")
      s true ∧ cordoned.key ≠ uninitializedTaintKey ∧ s.log = [.add cordoned] ∧
      cordoned ∉ s.node.taints :=
  ⟨executes_beforePatch [.add cordoned] ⟨"", [uninitialized]⟩ "harvester://id", by decide,
    by decide +kernel, by decide +kernel⟩

end Caphv.NodeInit
