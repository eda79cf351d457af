import Caphv.ApiObjects

namespace Caphv

/-- A call may fail before it takes effect, or take effect with its response lost. -/
inductive Fault where
  | none
  | reject (msg : String)
  | lose (msg : String)
  deriving DecidableEq

variable {W α : Type}

namespace Fault

def reply : Fault → Except ApiError α → Except ApiError α
  | none, x => x
  | reject msg, _ => .error (.other msg)
  | lose msg, _ => .error (.other msg)

def world : Fault → W → W → W
  | none, _, w' => w'
  | reject _, w, _ => w
  | lose _, _, w' => w'

/-- A write under a fault: the response, and the world after it. -/
def write (f : Fault) (w : W) (out : Except ApiError (α × W)) : Except ApiError α × W :=
  (f.reply (out.map Prod.fst), f.world w ((out.toOption.map Prod.snd).getD w))

theorem reply_eq_ok {f : Fault} {x : Except ApiError α} {a : α} (h : f.reply x = .ok a) :
    x = .ok a := by
  cases f with
  | none => exact h
  | reject msg => cases h
  | lose msg => cases h

theorem isNotFound_of_reply {f : Fault} {x : Except ApiError α} {e : ApiError}
    (h : f.reply x = .error e) (he : e.isNotFound = true) : x = .error .notFound := by
  have hnf : e = .notFound := by
    cases e with
    | notFound => rfl
    | alreadyExists => cases he
    | conflict => cases he
    | other msg => cases he
  subst hnf
  cases f with
  | none => exact h
  | reject msg => cases h
  | lose msg => cases h

/-- A write took effect, with its response possibly lost, or it failed and changed nothing. -/
theorem write_rule {f : Fault} {w : W} {out : Except ApiError (α × W)}
    {E : Except ApiError α → W → Prop}
    (hok : ∀ x a w', out = .ok (a, w') → (∀ b, x = .ok b → b = a) → E x w')
    (herr : ∀ e, (e.isNotFound = true → out = .error .notFound) → E (.error e) w) :
    E (f.write w out).1 (f.write w out).2 := by
  unfold write
  cases out with
  | ok p =>
    obtain ⟨a, w'⟩ := p
    cases f with
    | none => exact hok _ a w' rfl fun b hb => (Except.ok.inj hb).symm
    | reject msg => exact herr _ nofun
    | lose msg => exact hok _ a w' rfl nofun
  | error e =>
    cases f with
    | none =>
      refine herr e fun he => ?_
      cases e with
      | notFound => rfl
      | alreadyExists => cases he
      | conflict => cases he
      | other msg => cases he
    | reject msg => exact herr _ nofun
    | lose msg => exact herr _ nofun

/-- A write that was answered with success took effect. -/
theorem write_eq_ok {f : Fault} {w : W} {out : Except ApiError (α × W)} {a : α}
    (h : (f.write w out).1 = .ok a) : out = .ok (a, (f.write w out).2) := by
  cases f with
  | none =>
    cases out with
    | error e => cases h
    | ok p =>
      have ha : p.1 = a := Except.ok.inj h
      rw [← ha]
      rfl
  | reject msg => cases h
  | lose msg => cases h

end Fault

def found : Option α → Except ApiError α
  | some a => .ok a
  | none => .error .notFound

theorem found_eq_ok {o : Option α} {a : α} (h : found o = .ok a) : o = some a := by
  cases o with
  | none => cases h
  | some b => rw [Except.ok.inj h]

theorem found_eq_notFound {o : Option α} (h : found o = .error .notFound) : o = none := by
  cases o with
  | none => rfl
  | some b => cases h

/-- A merge patch mentions a field only when it changed. -/
def changedTo [DecidableEq α] (before after : α) : Option α :=
  if before = after then none else some after

theorem changedTo_eq_some [DecidableEq α] {before after a : α}
    (h : changedTo before after = some a) : before ≠ after ∧ a = after := by
  unfold changedTo at h
  split_ifs at h with hne
  exact ⟨hne, (Option.some.inj h).symm⟩

theorem getD_changedTo [DecidableEq α] (before after : α) :
    (changedTo before after).getD before = after := by
  unfold changedTo
  split_ifs with h
  · exact h
  · rfl

def gone : Except ApiError Unit → Bool
  | .ok () => true
  | .error e => e.isNotFound

def errorOf : Except ApiError Unit → Option String
  | .ok () => none
  | .error e => some e.message

/-- What `paused.EnsurePausedCondition` returns, and the condition that it has set on the object
in memory. -/
structure PausedResult where
  isPaused : Bool
  requeue : Bool
  err : Option String
  condition : Option Condition
  deriving DecidableEq

/-- What the environment chooses about `EnsurePausedCondition`: the Paused condition that the
object should have, and what becomes of the patch that records it. -/
structure PausedAnswer where
  condition : Condition
  fault : Fault
  deriving DecidableEq

def PausedAnswer.unpaused (f : Fault) : PausedAnswer := ⟨⟨.false_, "NotPaused", ""⟩, f⟩

def PausedResult.sent (condition : Condition) (out : Except ApiError Unit) : PausedResult where
  isPaused := condition.status = .true_
  requeue := errorOf out = none
  err := errorOf out
  condition := some condition

/-- `EnsurePausedCondition` on an object with the Paused condition `recorded`. A condition that is
right already is not written again; `patch` stores the new one. -/
def ensurePaused (recorded : Option Condition) (a : PausedAnswer) (w : W)
    (patch : Condition → Except ApiError (Unit × W)) : PausedResult × W :=
  if recorded = some a.condition then (⟨a.condition.status = .true_, false, none, none⟩, w)
  else
    let out := a.fault.write w (patch a.condition)
    (.sent a.condition out.1, out.2)

section EnsurePaused

variable {recorded : Option Condition} {a : PausedAnswer} {w : W}
  {patch : Condition → Except ApiError (Unit × W)}

theorem errorOf_eq_none {out : Except ApiError Unit} : errorOf out = none ↔ out = .ok () := by
  cases out <;> simp [errorOf]

theorem ensurePaused_write_rule {E : W → Prop} (hsame : E w)
    (hpatch : ∀ w', patch a.condition = .ok ((), w') → E w') :
    E (ensurePaused recorded a w patch).2 := by
  unfold ensurePaused
  split_ifs
  · exact hsame
  · exact Fault.write_rule (E := fun _ w' => E w') (fun _ _ w' hout _ => hpatch w' hout)
      fun _ _ => hsame

/-- The caller is asked to come back after the condition was written. -/
theorem ensurePaused_of_requeue (h : (ensurePaused recorded a w patch).1.requeue = true) :
    recorded ≠ some a.condition ∧
      patch a.condition = .ok ((), (ensurePaused recorded a w patch).2) ∧
      (ensurePaused recorded a w patch).1.condition = some a.condition := by
  unfold ensurePaused at h ⊢
  split_ifs at h ⊢ with hsame
  exact ⟨hsame, Fault.write_eq_ok (errorOf_eq_none.mp (of_decide_eq_true h)), rfl⟩

/-- The caller goes on if the condition was right already. -/
theorem ensurePaused_of_through (herr : (ensurePaused recorded a w patch).1.err = none)
    (h : (ensurePaused recorded a w patch).1.requeue = false) :
    recorded = some a.condition ∧ (ensurePaused recorded a w patch).2 = w := by
  unfold ensurePaused at herr h ⊢
  split_ifs at herr h ⊢ with hsame
  · exact ⟨hsame, rfl⟩
  · exact absurd herr (of_decide_eq_false h)

/-- It is on record that the object is not paused, and that is as it should be. -/
def PausedAnswer.LetsThrough (a : PausedAnswer) (recorded : Option Condition) : Prop :=
  recorded = some a.condition ∧ a.condition.status ≠ .true_

theorem ensurePaused_of_letsThrough (h : a.LetsThrough recorded) :
    ensurePaused recorded a w patch = (⟨false, false, none, none⟩, w) := by
  unfold ensurePaused
  rw [if_pos h.1, decide_eq_false h.2]

theorem ensurePaused_isPaused :
    (ensurePaused recorded a w patch).1.isPaused = decide (a.condition.status = .true_) := by
  unfold ensurePaused
  split_ifs <;> rfl

end EnsurePaused

structure Result where
  requeue : Bool
  requeueAfter : ℕ
  deriving DecidableEq

def Result.empty : Result := ⟨false, 0⟩

def Result.after (seconds : ℕ) : Result := ⟨false, seconds⟩

def requeueTimeShort : ℕ := 30

abbrev Outcome := Result × Option String

end Caphv
