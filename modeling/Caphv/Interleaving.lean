import Mathlib.Logic.Function.Basic
import Mathlib.Data.Option.Basic
import Caphv.Prog

namespace Caphv

/-- Routines over one world, one pass at a time for each key. `exec` answers one request
of one key; an `Answer` is what the environment may choose about it (a fault, the content
of an object kept elsewhere). `env` is everything that happens between two requests. -/
structure Controller (Key Req : Type) (Resp Answer : Req → Type) (World View Env : Type) where
  program : Key → Prog Req Resp Unit
  exec : Key → (r : Req) → Answer r → World → Resp r × World
  next : View → (r : Req) → Resp r → View
  fresh : View
  env : Env → World → World

variable {Key Req World View Env : Type} {Resp Answer : Req → Type}

section Update

variable [DecidableEq Key] {v : Key → View} {u : View} {k j : Key}

/-- What holds of the new value and of the old one elsewhere. -/
theorem update_rule {Q : View → Prop} (hown : k = j → Q u) (hne : k ≠ j → Q (v k)) :
    Q (Function.update v j u k) := by
  by_cases hj : k = j
  · subst hj
    rw [Function.update_self]
    exact hown rfl
  · rw [Function.update_of_ne hj]
    exact hne hj

theorem forall_update {Q : Key → View → Prop} (hk : Q k u) (hne : ∀ j, j ≠ k → Q j (v j))
    (j : Key) : Q j (Function.update v k u j) :=
  update_rule (fun hj => hj ▸ hk) (hne j)

end Update

/-- The world, and for each key what is left of its pass and what the pass has seen. -/
structure State (Key Req : Type) (Resp : Req → Type) (World View : Type) where
  world : World
  pass : Key → Prog Req Resp Unit
  view : Key → View

inductive Action (Key Req : Type) (Answer : Req → Type) (Env : Type) where
  | start (k : Key)
  | exec (k : Key) (ans : ∀ r, Answer r)
  | env (e : Env)

/-- What an action does to the world: a request is answered, or the environment moves. -/
inductive Event (Key Req : Type) (Answer : Req → Type) (Env : Type) where
  | issue (k : Key) (r : Req) (a : Answer r)
  | env (e : Env)

/-- What a routine promises: the requests it issues, in the view it has then, and the view it
ends with. -/
structure Contract (Key Req View : Type) where
  guard : Key → View → Req → Prop
  done : Key → View → Prop

namespace State

def Idle (s : State Key Req Resp World View) : Prop := ∀ k, s.pass k = .ret ()

def event (s : State Key Req Resp World View) :
    Action Key Req Answer Env → Option (Event Key Req Answer Env)
  | .start _ => none
  | .exec k ans =>
    match s.pass k with
    | .ret _ => none
    | .call r _ => some (.issue k r (ans r))
  | .env e => some (.env e)

def request (s : State Key Req Resp World View) (k : Key) : Option Req :=
  match s.pass k with
  | .ret _ => none
  | .call r _ => some r

theorem exists_call_of_request {s : State Key Req Resp World View} {k : Key} {r : Req}
    (h : s.request k = some r) : ∃ f, s.pass k = .call r f := by
  unfold request at h
  split at h
  · cases h
  · obtain rfl := Option.some.inj h
    exact ⟨_, ‹_›⟩

theorem exec_of_event {s : State Key Req Resp World View} {a : Action Key Req Answer Env} {k : Key}
    {r : Req} {b : Answer r} (h : s.event a = some (.issue k r b)) : ∃ ans, a = .exec k ans := by
  cases a with
  | start j => cases h
  | env e => cases h
  | exec j ans =>
    unfold event at h
    dsimp only at h
    split at h
    · cases h
    · cases h
      exact ⟨ans, rfl⟩

end State

namespace Controller

variable [DecidableEq Key] (c : Controller Key Req Resp Answer World View Env)

/-- A pass of `k` starts only when its previous one has ended, and ends when it has no
request left; an action that is not enabled changes nothing. -/
def step (s : State Key Req Resp World View) : Action Key Req Answer Env →
    State Key Req Resp World View
  | .start k =>
    match s.pass k with
    | .ret _ => { s with
        pass := Function.update s.pass k (c.program k)
        view := Function.update s.view k c.fresh }
    | .call _ _ => s
  | .exec k ans =>
    match s.pass k with
    | .ret _ => s
    | .call r f =>
      let out := c.exec k r (ans r) s.world
      { world := out.2
        pass := Function.update s.pass k (f out.1)
        view := Function.update s.view k (c.next (s.view k) r out.1) }
  | .env e => { s with world := c.env e s.world }

def run (s : State Key Req Resp World View) (acts : List (Action Key Req Answer Env)) :
    State Key Req Resp World View := acts.foldl c.step s

@[simp] theorem run_nil (s : State Key Req Resp World View) : c.run s [] = s := rfl

@[simp] theorem run_cons (s : State Key Req Resp World View) (a : Action Key Req Answer Env)
    (acts : List (Action Key Req Answer Env)) :
    c.run s (a :: acts) = c.run (c.step s a) acts := rfl

theorem run_append (s : State Key Req Resp World View)
    (acts acts' : List (Action Key Req Answer Env)) :
    c.run s (acts ++ acts') = c.run (c.run s acts) acts' := List.foldl_append

/-- Every event of the run satisfies `ok` in the state it happens in. -/
def Admissible (ok : World → (Key → View) → Event Key Req Answer Env → Prop) :
    State Key Req Resp World View → List (Action Key Req Answer Env) → Prop
  | _, [] => True
  | s, a :: acts =>
    (∀ e ∈ s.event a, ok s.world s.view e) ∧ Admissible ok (c.step s a) acts

instance Admissible.decidable {ok : World → (Key → View) → Event Key Req Answer Env → Prop}
    [∀ w v e, Decidable (ok w v e)] (s : State Key Req Resp World View) :
    (acts : List (Action Key Req Answer Env)) → Decidable (c.Admissible ok s acts)
  | [] => isTrue trivial
  | a :: acts =>
    have : Decidable (c.Admissible ok (c.step s a) acts) := Admissible.decidable _ acts
    inferInstanceAs (Decidable ((∀ e ∈ s.event a, ok s.world s.view e) ∧ _))

variable {c} {ok : World → (Key → View) → Event Key Req Answer Env → Prop}
  {P : Contract Key Req View} {Inv : World → (Key → View) → Prop}
  {s : State Key Req Resp World View} {acts : List (Action Key Req Answer Env)}

theorem admissible_of_forall (h : ∀ w v e, ok w v e) : c.Admissible ok s acts := by
  induction acts generalizing s with
  | nil => trivial
  | cons a acts ih => exact ⟨fun e _ => h _ _ e, ih⟩

theorem admissible_append {acts' : List (Action Key Req Answer Env)} :
    c.Admissible ok s (acts ++ acts') ↔
      c.Admissible ok s acts ∧ c.Admissible ok (c.run s acts) acts' := by
  induction acts generalizing s with
  | nil => exact (true_and _).symm.to_iff
  | cons a acts ih => exact (and_congr_right fun _ => ih).trans and_assoc.symm

def Keeps (c : Controller Key Req Resp Answer World View Env) (P : Contract Key Req View) : Prop :=
  ∀ k, Prog.Conforms (P.guard k) c.next c.fresh (c.program k) fun v _ => P.done k v

/-- What is left of every pass keeps the contract. -/
def Conforms (c : Controller Key Req Resp Answer World View Env) (P : Contract Key Req View)
    (s : State Key Req Resp World View) : Prop :=
  ∀ k, Prog.Conforms (P.guard k) c.next (s.view k) (s.pass k) fun v _ => P.done k v

omit [DecidableEq Key] in
theorem Conforms.of_idle (h : s.Idle) (hd : ∀ k, P.done k (s.view k)) : c.Conforms P s := by
  intro k
  rw [h k]
  exact hd k

omit [DecidableEq Key] in
/-- The request a pass is about to issue is one that the contract allows. -/
theorem Conforms.issue (hs : c.Conforms P s) {k : Key} {r : Req} {f : Resp r → Prog Req Resp Unit}
    (h : s.pass k = .call r f) : P.guard k (s.view k) r := by
  have hk := hs k
  rw [h] at hk
  exact hk.1

omit [DecidableEq Key] in
theorem Conforms.done (hs : c.Conforms P s) {k : Key} {u : Unit} (h : s.pass k = .ret u) :
    P.done k (s.view k) := by
  have hk := hs k
  rwa [h] at hk

theorem Conforms.step (hp : c.Keeps P) (h : c.Conforms P s) (a : Action Key Req Answer Env) :
    c.Conforms P (c.step s a) := by
  cases a with
  | start k =>
    cases hk : s.pass k with
    | ret u =>
      simp only [Controller.step, hk]
      intro j
      by_cases hj : j = k
      · subst hj
        simpa using hp j
      · simpa [hj] using h j
    | call r f =>
      simp only [Controller.step, hk]
      exact h
  | exec k ans =>
    cases hk : s.pass k with
    | ret u =>
      simp only [Controller.step, hk]
      exact h
    | call r f =>
      simp only [Controller.step, hk]
      intro j
      by_cases hj : j = k
      · subst hj
        have hc := h j
        rw [hk] at hc
        simpa using hc.2 _
      · simpa [hj] using h j
  | env e => exact h

theorem Conforms.run (hp : c.Keeps P) (h : c.Conforms P s)
    (acts : List (Action Key Req Answer Env)) : c.Conforms P (c.run s acts) := by
  induction acts generalizing s with
  | nil => exact h
  | cons a acts ih => exact ih (h.step hp a)

/-- An invariant of the world and the views, kept by every request that the contract allows,
and by the start of a new pass where the last one has ended as promised. -/
structure Preserves (c : Controller Key Req Resp Answer World View Env)
    (P : Contract Key Req View)
    (ok : World → (Key → View) → Event Key Req Answer Env → Prop)
    (Inv : World → (Key → View) → Prop) : Prop where
  start : ∀ w v k, P.done k (v k) → Inv w v → Inv w (Function.update v k c.fresh)
  issue : ∀ w v k r a, P.guard k (v k) r → ok w v (.issue k r a) → Inv w v →
    Inv (c.exec k r a w).2 (Function.update v k (c.next (v k) r (c.exec k r a w).1))
  env : ∀ w v e, ok w v (.env e) → Inv w v → Inv (c.env e w) v

theorem Preserves.step (hc : c.Preserves P ok Inv) (hs : c.Conforms P s)
    (a : Action Key Req Answer Env) (hok : ∀ e ∈ s.event a, ok s.world s.view e)
    (hi : Inv s.world s.view) : Inv (c.step s a).world (c.step s a).view := by
  cases a with
  | start k =>
    cases hk : s.pass k with
    | ret u =>
      simp only [Controller.step, hk]
      exact hc.start _ _ _ (hs.done hk) hi
    | call r f =>
      simp only [Controller.step, hk]
      exact hi
  | exec k ans =>
    cases hk : s.pass k with
    | ret u =>
      simp only [Controller.step, hk]
      exact hi
    | call r f =>
      simp only [Controller.step, hk]
      exact hc.issue _ _ _ _ _ (hs.issue hk) (hok _ (by simp [State.event, hk])) hi
  | env e => exact hc.env _ _ _ (hok _ rfl) hi

/-- What is kept by every step holds after every run, together with the conformance of
the passes still under way. -/
theorem Preserves.run (hc : c.Preserves P ok Inv) (hp : c.Keeps P) (hs : c.Conforms P s)
    (hi : Inv s.world s.view) (hok : c.Admissible ok s acts) :
    Inv (c.run s acts).world (c.run s acts).view ∧ c.Conforms P (c.run s acts) := by
  refine ⟨?_, hs.run hp acts⟩
  induction acts generalizing s with
  | nil => exact hi
  | cons a acts ih => exact ih (hs.step hp a) (hc.step hs a hok.1 hi) hok.2

end Controller

def State.mapView {View' : Type} (φ : View → View') (s : State Key Req Resp World View) :
    State Key Req Resp World View' := ⟨s.world, s.pass, φ ∘ s.view⟩

namespace Controller

/-- The routines and the world of `c`, with less in the views. -/
structure Forgets {View' : Type} (c : Controller Key Req Resp Answer World View Env)
    (d : Controller Key Req Resp Answer World View' Env) (φ : View → View') : Prop where
  program : ∀ k, d.program k = c.program k
  exec : ∀ k r a w, d.exec k r a w = c.exec k r a w
  next : ∀ v r x, d.next (φ v) r x = φ (c.next v r x)
  fresh : d.fresh = φ c.fresh
  env : ∀ e w, d.env e w = c.env e w

namespace Forgets

variable [DecidableEq Key] {View' : Type} {c : Controller Key Req Resp Answer World View Env}
  {d : Controller Key Req Resp Answer World View' Env} {φ : View → View'}
  {ok : World → (Key → View') → Event Key Req Answer Env → Prop}

theorem step (h : c.Forgets d φ) (s : State Key Req Resp World View)
    (a : Action Key Req Answer Env) : (c.step s a).mapView φ = d.step (s.mapView φ) a := by
  cases a with
  | start k =>
    cases hk : s.pass k with
    | ret u =>
      simp only [Controller.step, State.mapView, hk, Function.comp_update, h.program, h.fresh]
    | call r f => simp only [Controller.step, State.mapView, hk]
  | exec k ans =>
    cases hk : s.pass k with
    | ret u => simp only [Controller.step, State.mapView, hk]
    | call r f =>
      simp only [Controller.step, State.mapView, hk, Function.comp_update, h.exec,
        Function.comp_apply, h.next]
  | env e => simp only [Controller.step, State.mapView, h.env]

/-- What the views record does not change what the system does. -/
theorem run (h : c.Forgets d φ) (s : State Key Req Resp World View)
    (acts : List (Action Key Req Answer Env)) :
    (c.run s acts).mapView φ = d.run (s.mapView φ) acts := by
  induction acts generalizing s with
  | nil => rfl
  | cons a acts ih => rw [run_cons, run_cons, ih, h.step]

theorem admissible (h : c.Forgets d φ) {s : State Key Req Resp World View}
    {acts : List (Action Key Req Answer Env)} (hok : d.Admissible ok (s.mapView φ) acts) :
    c.Admissible (fun w v e => ok w (φ ∘ v) e) s acts := by
  induction acts generalizing s with
  | nil => trivial
  | cons a acts ih =>
    refine ⟨hok.1, ih ?_⟩
    rw [h.step]
    exact hok.2

end Forgets

/-- The same routines in the same world, with a second view that also records the responses. -/
def observe {View' : Type} (c : Controller Key Req Resp Answer World View Env)
    (next' : View' → (r : Req) → Resp r → View') (fresh' : View') :
    Controller Key Req Resp Answer World (View × View') Env where
  program := c.program
  exec := c.exec
  next v r x := (c.next v.1 r x, next' v.2 r x)
  fresh := (c.fresh, fresh')
  env := c.env

end Controller

def Contract.both {View' : Type} (P : Contract Key Req View) (P' : Contract Key Req View') :
    Contract Key Req (View × View') where
  guard k v r := P.guard k v.1 r ∧ P'.guard k v.2 r
  done k v := P.done k v.1 ∧ P'.done k v.2

namespace Controller

variable [DecidableEq Key] {c : Controller Key Req Resp Answer World View Env}
  {ok : World → (Key → View) → Event Key Req Answer Env → Prop} {P : Contract Key Req View}
  {Inv : World → (Key → View) → Prop} {View' : Type}
  {next' : View' → (r : Req) → Resp r → View'} {fresh' : View'} {P' : Contract Key Req View'}

omit [DecidableEq Key] in
theorem Keeps.observe (h : c.Keeps P)
    (h' : ∀ k, Prog.Conforms (P'.guard k) next' fresh' (c.program k) fun v _ => P'.done k v) :
    (c.observe next' fresh').Keeps (P.both P') := fun k => (h k).both (h' k)

def firstView (v : Key → View × View') : Key → View := fun k => (v k).1

theorem firstView_update (v : Key → View × View') (k : Key) (u : View × View') :
    firstView (Function.update v k u) = Function.update (firstView v) k u.1 := by
  funext j
  by_cases hj : j = k
  · subst hj
    simp [firstView]
  · simp [firstView, hj]

def unobserved (s : State Key Req Resp World (View × View')) : State Key Req Resp World View :=
  ⟨s.world, s.pass, firstView s.view⟩

def watched (fresh' : View') (s : State Key Req Resp World View) :
    State Key Req Resp World (View × View') := ⟨s.world, s.pass, fun k => (s.view k, fresh')⟩

omit [DecidableEq Key] in
theorem observe_forgets : (c.observe next' fresh').Forgets c Prod.fst where
  program _ := rfl
  exec _ _ _ _ := rfl
  next _ _ _ := rfl
  fresh := rfl
  env _ _ := rfl

/-- An observer does not change what the system does. -/
theorem unobserved_run (s : State Key Req Resp World (View × View'))
    (acts : List (Action Key Req Answer Env)) :
    unobserved ((c.observe next' fresh').run s acts) = c.run (unobserved s) acts :=
  observe_forgets.run s acts

theorem Admissible.observe {s : State Key Req Resp World (View × View')}
    {acts : List (Action Key Req Answer Env)} (h : c.Admissible ok (unobserved s) acts) :
    (c.observe next' fresh').Admissible (fun w v e => ok w (firstView v) e) s acts :=
  observe_forgets.admissible h

/-- An invariant of the observed system holds in every state that the system reaches by itself,
for some record that an observer could have made, and every pending request respects the
contracts with that record. -/
theorem Preserves.reaches {s : State Key Req Resp World View}
    {acts : List (Action Key Req Answer Env)} {Inv' : World → (Key → View × View') → Prop}
    (h : (c.observe next' fresh').Preserves (P.both P') (fun w v e => ok w (firstView v) e) Inv')
    (hk : (c.observe next' fresh').Keeps (P.both P')) (hidle : s.Idle)
    (hdone : ∀ k, (P.both P').done k (s.view k, fresh'))
    (hi : Inv' s.world fun k => (s.view k, fresh')) (hok : c.Admissible ok s acts) :
    ∃ v : Key → View × View', firstView v = (c.run s acts).view ∧ Inv' (c.run s acts).world v ∧
      ∀ k r, (c.run s acts).request k = some r → (P.both P').guard k (v k) r := by
  let o : State Key Req Resp World (View × View') := watched fresh' s
  have hconf : (c.observe next' fresh').Conforms (P.both P') o := .of_idle hidle hdone
  obtain ⟨hinv, hconf'⟩ := h.run (s := o) hk hconf hi (Admissible.observe (s := o) hok)
  have hrun : unobserved ((c.observe next' fresh').run o acts) = c.run s acts :=
    unobserved_run o acts
  rw [← hrun]
  refine ⟨((c.observe next' fresh').run o acts).view, rfl, hinv, fun k r hr => ?_⟩
  obtain ⟨f, hf⟩ := State.exists_call_of_request hr
  exact hconf'.issue hf

end Controller

end Caphv
