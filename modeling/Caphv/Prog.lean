import Mathlib.Logic.Basic
import Mathlib.Tactic.CasesM

namespace Caphv

variable {Req : Type} {Resp : Req → Type} {S σ α β : Type}

/-- A routine that talks to servers: it ends with a value, or issues one request
and continues with the response. -/
inductive Prog (Req : Type) (Resp : Req → Type) (α : Type) : Type where
  | ret (a : α)
  | call (r : Req) (k : Resp r → Prog Req Resp α)

namespace Prog

def bind : Prog Req Resp α → (α → Prog Req Resp β) → Prog Req Resp β
  | ret a, f => f a
  | call r k, f => call r fun x => (k x).bind f

instance : Monad (Prog Req Resp) where
  pure := ret
  bind := bind

theorem bind_ret (p : Prog Req Resp α) : p.bind ret = p := by
  induction p with
  | ret a => rfl
  | call r k ih => exact congrArg (call r) (funext ih)

theorem bind_assoc {γ : Type} (p : Prog Req Resp α) (f : α → Prog Req Resp β)
    (g : β → Prog Req Resp γ) : (p.bind f).bind g = p.bind fun a => (f a).bind g := by
  induction p with
  | ret a => rfl
  | call r k ih => exact congrArg (call r) (funext ih)

def request (r : Req) : Prog Req Resp (Resp r) := call r ret

/-- Every request the routine can issue, whatever the responses, is allowed by `P`
in the view it has then; `next` updates the view with each response, and `Q` holds
of the view and the value it ends with. -/
def Conforms (P : σ → Req → Prop) (next : σ → (r : Req) → Resp r → σ) :
    σ → Prog Req Resp α → (σ → α → Prop) → Prop
  | v, ret a, Q => Q v a
  | v, call r k, Q => P v r ∧ ∀ x, Conforms P next (next v r x) (k x) Q

variable {P : σ → Req → Prop} {next : σ → (r : Req) → Resp r → σ} {v : σ}

theorem conforms_bind' (p : Prog Req Resp α) (f : α → Prog Req Resp β) (v : σ)
    (Q : σ → β → Prop) :
    Conforms P next v (p.bind f) Q ↔
      Conforms P next v p fun v' a => Conforms P next v' (f a) Q := by
  induction p generalizing v with
  | ret a => rfl
  | call r k ih =>
    simp only [bind, Conforms]
    exact and_congr_right fun _ => forall_congr' fun x => ih x _

@[simp] theorem conforms_bind (p : Prog Req Resp α) (f : α → Prog Req Resp β)
    (Q : σ → β → Prop) :
    Conforms P next v (p >>= f) Q ↔
      Conforms P next v p fun v' a => Conforms P next v' (f a) Q :=
  conforms_bind' p f v Q

theorem Conforms.mono {p : Prog Req Resp α} {Q Q' : σ → α → Prop}
    (h : Conforms P next v p Q) (hQ : ∀ v a, Q v a → Q' v a) : Conforms P next v p Q' := by
  induction p generalizing v with
  | ret a => exact hQ _ _ h
  | call r k ih => exact ⟨h.1, fun x => ih x (h.2 x)⟩

/-- Sequencing: what follows is entered in a view and with a value that `R` allows. -/
theorem Conforms.bind {p : Prog Req Resp α} {f : α → Prog Req Resp β} {R : σ → α → Prop}
    {Q : σ → β → Prop} (h : Conforms P next v p R)
    (hf : ∀ v a, R v a → Conforms P next v (f a) Q) : Conforms P next v (p >>= f) Q :=
  (conforms_bind p f Q).mpr (h.mono hf)

theorem Conforms.request_bind {r : Req} {f : Resp r → Prog Req Resp α} {Q : σ → α → Prop}
    (hr : P v r) (hf : ∀ x, Conforms P next (next v r x) (f x) Q) :
    Conforms P next v (request r >>= f) Q := ⟨hr, hf⟩

/-- From a view in which everything is allowed, for good, every routine conforms. -/
theorem conforms_of_invariant {I : σ → Prop} (hP : ∀ v r, I v → P v r)
    (hn : ∀ v r x, I v → I (next v r x)) (hv : I v) (p : Prog Req Resp α) :
    Conforms P next v p fun v' _ => I v' := by
  induction p generalizing v with
  | ret a => exact hv
  | call r k ih => exact ⟨hP v r hv, fun x => ih x (hn v r x hv)⟩

/-- Two views of one routine, side by side. -/
theorem Conforms.both {τ : Type} {P' : τ → Req → Prop} {next' : τ → (r : Req) → Resp r → τ}
    {u : τ} {p : Prog Req Resp α} {Q : σ → α → Prop} {Q' : τ → α → Prop}
    (h : Conforms P next v p Q) (h' : Conforms P' next' u p Q') :
    Conforms (fun vu r => P vu.1 r ∧ P' vu.2 r)
      (fun vu r x => (next vu.1 r x, next' vu.2 r x)) (v, u) p
      fun vu a => Q vu.1 a ∧ Q' vu.2 a := by
  induction p generalizing v u with
  | ret a => exact ⟨h, h'⟩
  | call r k ih => exact ⟨⟨h.1, h'.1⟩, fun x => ih x (h.2 x) (h'.2 x)⟩

/-- Some responses take the routine from the view `v` to its end, with the view `v'` and the
value `a`. -/
inductive Ends (next : σ → (r : Req) → Resp r → σ) : σ → Prog Req Resp α → σ → α → Prop where
  | ret {v : σ} {a : α} : Ends next v (.ret a) v a
  | call {v v' : σ} {r : Req} {k : Resp r → Prog Req Resp α} {a : α} (x : Resp r)
      (rest : Ends next (next v r x) (k x) v' a) : Ends next v (.call r k) v' a

theorem Conforms.ends {p : Prog Req Resp α} {Q : σ → α → Prop} {v' : σ} {a : α}
    (h : Conforms P next v p Q) (he : Ends next v p v' a) : Q v' a := by
  induction he with
  | ret => exact h
  | call x _ ih => exact ih (h.2 x)

/-- The routine with one fixed response to each request. -/
def play (next : σ → (r : Req) → Resp r → σ) (answer : (r : Req) → Resp r) :
    σ → Prog Req Resp α → σ × α
  | v, ret a => (v, a)
  | v, call r k => play next answer (next v r (answer r)) (k (answer r))

theorem ends_play (answer : (r : Req) → Resp r) (v : σ) (p : Prog Req Resp α) :
    Ends next v p (play next answer v p).1 (play next answer v p).2 := by
  induction p generalizing v with
  | ret a => exact .ret
  | call r k ih => exact .call (answer r) (ih _ _)

/-- The routine with its requests answered by a server that keeps a state. -/
def serve {τ : Type} (h : τ → (r : Req) → Resp r × τ) : τ → Prog Req Resp α → α × τ
  | t, ret a => (a, t)
  | t, call r k => serve h (h t r).2 (k (h t r).1)

theorem serve_bind {τ : Type} {h : τ → (r : Req) → Resp r × τ} (t : τ) (p : Prog Req Resp α)
    (f : α → Prog Req Resp β) :
    serve h t (p.bind f) = serve h (serve h t p).2 (f (serve h t p).1) := by
  induction p generalizing t with
  | ret a => rfl
  | call r k ih => exact ih _ _

theorem serve_request_bind {τ : Type} {h : τ → (r : Req) → Resp r × τ} (t : τ) (r : Req)
    (f : Resp r → Prog Req Resp α) :
    serve h t (request r >>= f) = serve h (h t r).2 (f (h t r).1) := rfl

/-- A served routine ends as every routine that conforms does. -/
theorem Conforms.serve {τ : Type} {h : τ → (r : Req) → Resp r × τ} {p : Prog Req Resp α}
    {Q : σ → α → Prop} (hc : Conforms P next v p Q) (t : τ) : ∃ v', Q v' (serve h t p).1 := by
  induction p generalizing v t with
  | ret a => exact ⟨v, hc⟩
  | call r k ih => exact ih _ (hc.2 _) _

section Executes

variable {τ : Type} {R : τ → (r : Req) → Resp r → τ → Prop} {t t' t'' : τ}

/-- The routine ends with the value `a` when its requests are answered as `R` allows; `R` relates
the state before a request, its response, and the state after it. -/
inductive Executes (R : τ → (r : Req) → Resp r → τ → Prop) :
    τ → Prog Req Resp α → τ → α → Prop where
  | ret {t : τ} {a : α} : Executes R t (.ret a) t a
  | call {t t' t'' : τ} {r : Req} {k : Resp r → Prog Req Resp α} {a : α} (x : Resp r)
      (answer : R t r x t') (rest : Executes R t' (k x) t'' a) : Executes R t (.call r k) t'' a

theorem Executes.mono {R' : τ → (r : Req) → Resp r → τ → Prop}
    (hR : ∀ {t r x t'}, R t r x t' → R' t r x t') {p : Prog Req Resp α} {a : α}
    (h : Executes R t p t' a) : Executes R' t p t' a := by
  induction h with
  | ret => exact .ret
  | call x answer _ ih => exact .call x (hR answer) ih

theorem executes_bind {p : Prog Req Resp α} {f : α → Prog Req Resp β} {b : β} :
    Executes R t (p.bind f) t'' b ↔ ∃ t' a, Executes R t p t' a ∧ Executes R t' (f a) t'' b := by
  constructor
  · intro h
    induction p generalizing t with
    | ret a => exact ⟨t, a, .ret, h⟩
    | call r k ih =>
      cases h with
      | call x answer rest =>
        obtain ⟨t', a, hp, hf⟩ := ih x rest
        exact ⟨t', a, .call x answer hp, hf⟩
  · rintro ⟨t', a, hp, hf⟩
    induction hp with
    | ret => exact hf
    | call x answer _ ih => exact .call x answer (ih hf)

theorem executes_pure {a b : α} (h : Executes R t (pure a : Prog Req Resp α) t' b) :
    t' = t ∧ b = a := by
  cases h
  exact ⟨rfl, rfl⟩

theorem executes_request_bind {r : Req} {f : Resp r → Prog Req Resp α} {a : α}
    (h : Executes R t (request r >>= f) t'' a) :
    ∃ x t', R t r x t' ∧ Executes R t' (f x) t'' a := by
  cases h with
  | call x answer rest => exact ⟨x, _, answer, rest⟩

theorem executes_call_iff {r : Req} {k : Resp r → Prog Req Resp α} {a : α} :
    Executes R t (.call r k) t'' a ↔ ∃ x t', R t r x t' ∧ Executes R t' (k x) t'' a := by
  constructor
  · intro h
    cases h with
    | call x answer rest => exact ⟨x, _, answer, rest⟩
  · rintro ⟨x, t', answer, rest⟩
    exact .call x answer rest

theorem executes_ret_iff {a b : α} :
    Executes R t (.ret a : Prog Req Resp α) t' b ↔ t' = t ∧ b = a := by
  constructor
  · exact executes_pure
  · rintro ⟨rfl, rfl⟩
    exact .ret

/-- What conformance promises holds after every execution, with every relation of the view to the
state that the requests keep. -/
theorem Conforms.executes {p : Prog Req Resp α} {Q : σ → α → Prop} {a : α} {I : σ → τ → Prop}
    (hc : Conforms P next v p Q)
    (hI : ∀ v t r x t', P v r → R t r x t' → I v t → I (next v r x) t')
    (he : Executes R t p t' a) (hi : I v t) : ∃ v', Q v' a ∧ I v' t' := by
  induction he generalizing v with
  | ret => exact ⟨v, hc, hi⟩
  | call x answer _ ih => exact ih (hc.2 x) (hI _ _ _ _ _ hc.1 answer hi)

def Complies (h : τ → (r : Req) → Resp r × τ) (D : τ → Req → Prop) : τ → Prog Req Resp α → Prop
  | _, ret _ => True
  | t, call r k => D t r ∧ Complies h D (h t r).2 (k (h t r).1)

instance Complies.decidable {h : τ → (r : Req) → Resp r × τ} {D : τ → Req → Prop}
    [∀ t r, Decidable (D t r)] :
    (t : τ) → (p : Prog Req Resp α) → Decidable (Complies h D t p)
  | _, .ret _ => isTrue trivial
  | t, .call r k =>
    have : Decidable (Complies h D (h t r).2 (k (h t r).1)) := Complies.decidable _ _
    inferInstanceAs (Decidable (D t r ∧ _))

theorem complies_of_forall {h : τ → (r : Req) → Resp r × τ} {D : τ → Req → Prop}
    (hD : ∀ t r, D t r) (p : Prog Req Resp α) : Complies h D t p := by
  induction p generalizing t with
  | ret a => trivial
  | call r k ih => exact ⟨hD t r, ih _⟩

/-- A server that answers as `R` allows gives an execution. -/
theorem Complies.executes {h : τ → (r : Req) → Resp r × τ} {D : τ → Req → Prop}
    (hR : ∀ t r, D t r → R t r (h t r).1 (h t r).2) {p : Prog Req Resp α}
    (hc : Complies h D t p) : Executes R t p (serve h t p).2 (serve h t p).1 := by
  induction p generalizing t with
  | ret a => exact .ret
  | call r k ih => exact .call _ (hR t r hc.1) (ih _ hc.2)

end Executes

end Prog

/-- The body of a routine that mutates an object of type `S` in place and may panic.
The object keeps its last value when the body panics, so a deferred call still sees it. -/
def Body (Req : Type) (Resp : Req → Type) (S α : Type) : Type :=
  S → Prog Req Resp (Option α × S)

namespace Body

instance : Monad (Body Req Resp S) where
  pure a := fun s => .ret (some a, s)
  bind b f := fun s => (b s).bind fun
    | (some a, s') => f a s'
    | (none, s') => .ret (none, s')

instance : LawfulMonad (Body Req Resp S) := by
  refine LawfulMonad.mk' _ ?_ ?_ ?_
  · intro α b
    funext s
    refine (congrArg (b s).bind (funext ?_)).trans (Prog.bind_ret (b s))
    rintro ⟨_ | a, s'⟩
    · rfl
    · rfl
  · intro α β a f
    rfl
  · intro α β γ b f g
    funext s
    refine (Prog.bind_assoc (b s) _ _).trans (congrArg (b s).bind (funext ?_))
    rintro ⟨_ | a, s'⟩
    · rfl
    · rfl

def get : Body Req Resp S S := fun s => .ret (some s, s)

theorem get_bind_apply (f : S → Body Req Resp S α) (s : S) : (get >>= f) s = f s s := rfl

def modify (f : S → S) : Body Req Resp S Unit := fun s => .ret (some (), f s)

def request (r : Req) : Body Req Resp S (Resp r) := fun s => .call r fun x => .ret (some x, s)

def panic : Body Req Resp S α := fun s => .ret (none, s)

/-- `Conforms` for a body started on the object `s`; the outcome `none` is a panic. -/
def Conforms (P : σ → Req → Prop) (next : σ → (r : Req) → Resp r → σ) (v : σ)
    (b : Body Req Resp S α) (s : S) (Q : σ → Option α → S → Prop) : Prop :=
  Prog.Conforms P next v (b s) fun v' out => Q v' out.1 out.2

variable {P : σ → Req → Prop} {next : σ → (r : Req) → Resp r → σ} {v : σ} {s : S}

@[simp] theorem conforms_bind (b : Body Req Resp S α) (f : α → Body Req Resp S β)
    (Q : σ → Option β → S → Prop) :
    Conforms P next v (b >>= f) s Q ↔ Conforms P next v b s fun v' out s' =>
      match out with
      | some a => Conforms P next v' (f a) s' Q
      | none => Q v' none s' := by
  refine (Prog.conforms_bind' (b s) _ v _).trans ?_
  refine ⟨fun h => h.mono ?_, fun h => h.mono ?_⟩
  all_goals
    rintro v' ⟨_ | a, s'⟩ h'
    · exact h'
    · exact h'

theorem Conforms.mono {b : Body Req Resp S α} {Q Q' : σ → Option α → S → Prop}
    (h : Conforms P next v b s Q) (hQ : ∀ v a s, Q v a s → Q' v a s) :
    Conforms P next v b s Q' :=
  Prog.Conforms.mono h fun v out => hQ v out.1 out.2

/-- Sequencing: what follows a body is entered in a view and a state its postcondition
allows, and a panic skips it. -/
theorem Conforms.bind {b : Body Req Resp S α} {f : α → Body Req Resp S β}
    {R : σ → Option α → S → Prop} {Q : σ → Option β → S → Prop} (h : Conforms P next v b s R)
    (hf : ∀ v a s, R v (some a) s → Conforms P next v (f a) s Q)
    (hn : ∀ v s, R v none s → Q v none s) : Conforms P next v (b >>= f) s Q := by
  rw [conforms_bind]
  refine h.mono fun v out s hR => ?_
  cases out with
  | some a => exact hf v a s hR
  | none => exact hn v s hR

theorem Conforms.request_bind {r : Req} {f : Resp r → Body Req Resp S α}
    {Q : σ → Option α → S → Prop} (hr : P v r)
    (hf : ∀ x, Conforms P next (next v r x) (f x) s Q) :
    Conforms P next v (request r >>= f) s Q := ⟨hr, hf⟩

theorem Conforms.get_bind {f : S → Body Req Resp S α} {Q : σ → Option α → S → Prop}
    (hf : Conforms P next v (f s) s Q) : Conforms P next v (get >>= f) s Q := hf

theorem Conforms.modify_bind {g : S → S} {f : Unit → Body Req Resp S α}
    {Q : σ → Option α → S → Prop} (hf : Conforms P next v (f ()) (g s) Q) :
    Conforms P next v (modify g >>= f) s Q := hf

/-- Whatever the responses, the body ends with `Q`. -/
abbrev Always (b : Body Req Resp S α) (s : S) (Q : Option α → S → Prop) : Prop :=
  Conforms (fun (_ : Unit) (_ : Req) => True) (fun _ _ _ => ()) () b s fun _ => Q

theorem always_bind (b : Body Req Resp S α) (f : α → Body Req Resp S β) (s : S)
    (Q : Option β → S → Prop) :
    Always (b >>= f) s Q ↔ Always b s fun out s' =>
      match out with
      | some a => Always (f a) s' Q
      | none => Q none s' := conforms_bind _ _ _

theorem always_request_bind {r : Req} {f : Resp r → Body Req Resp S α} {Q : Option α → S → Prop} :
    Always (request r >>= f) s Q ↔ ∀ x, Always (f x) s Q := ⟨fun h => h.2, fun h => ⟨trivial, h⟩⟩

theorem Always.response {r : Req} {f : Resp r → Body Req Resp S α} {Q : Option α → S → Prop}
    (h : Always (request r >>= f) s Q) (x : Resp r) : Always (f x) s Q :=
  always_request_bind.mp h x

theorem Always.of_get_bind {f : S → Body Req Resp S α} {Q : Option α → S → Prop}
    (h : Always (get >>= f) s Q) : Always (f s) s Q := h

/-- A routine that never panics starts with one that does not. -/
theorem Always.of_bind {b : Body Req Resp S α} {f : α → Body Req Resp S β}
    (h : Always (b >>= f) s fun out _ => out ≠ none) : Always b s fun out _ => out ≠ none := by
  refine ((always_bind b f s _).mp h).mono fun _ out _ hout hnone => ?_
  rw [hnone] at hout
  exact hout rfl

theorem always_trivial (b : Body Req Resp S α) (s : S) : Always b s fun _ _ => True := by
  unfold Always Conforms
  induction b s with
  | ret a => trivial
  | call r k ih => exact ⟨trivial, ih⟩

/-- A part of a routine that keeps `I` of the view and the object, whatever the responses. -/
def Maintains (P : σ → Req → Prop) (next : σ → (r : Req) → Resp r → σ) (I : σ → S → Prop)
    (b : Body Req Resp S α) : Prop :=
  ∀ v s, I v s → Conforms P next v b s fun v' _ s' => I v' s'

namespace Maintains

variable {I : σ → S → Prop}

theorem pure (a : α) : Maintains P next I (Pure.pure a : Body Req Resp S α) := fun _ _ h => h

theorem panic : Maintains P next I (Body.panic : Body Req Resp S α) := fun _ _ h => h

theorem get : Maintains P next I (Body.get : Body Req Resp S S) := fun _ _ h => h

theorem modify {f : S → S} (hf : ∀ v s, I v s → I v (f s)) :
    Maintains P next I (Body.modify f : Body Req Resp S Unit) := fun v s h => hf v s h

theorem request {r : Req} (hr : ∀ v s, I v s → P v r ∧ ∀ x, I (next v r x) s) :
    Maintains P next I (Body.request r : Body Req Resp S (Resp r)) := fun v s h => hr v s h

theorem bind {b : Body Req Resp S α} {f : α → Body Req Resp S β} (hb : Maintains P next I b)
    (hf : ∀ a, Maintains P next I (f a)) : Maintains P next I (b >>= f) :=
  fun v s h => (hb v s h).bind (fun v' a s' h' => hf a v' s' h') fun _ _ h' => h'

end Maintains

section Serves

variable {τ : Type} {h : τ → (r : Req) → Resp r × τ} {t : τ}

/-- With its requests answered by the server `h` from the state `t` on, the body ends with `Q`. -/
def Serves (h : τ → (r : Req) → Resp r × τ) (t : τ) (b : Body Req Resp S α) (s : S)
    (Q : τ → Option α → S → Prop) : Prop :=
  Q (Prog.serve h t (b s)).2 (Prog.serve h t (b s)).1.1 (Prog.serve h t (b s)).1.2

theorem Conforms.serves {b : Body Req Resp S α} {Q : σ → Option α → S → Prop}
    (hc : Conforms P next v b s Q) (t : τ) :
    Serves h t b s fun _ out s' => ∃ v', Q v' out s' := Prog.Conforms.serve hc t

theorem Serves.mono {b : Body Req Resp S α} {Q Q' : τ → Option α → S → Prop}
    (hb : Serves h t b s Q) (hQ : ∀ t a s, Q t a s → Q' t a s) : Serves h t b s Q' := hQ _ _ _ hb

theorem Serves.bind {b : Body Req Resp S α} {f : α → Body Req Resp S β}
    {R : τ → Option α → S → Prop} {Q : τ → Option β → S → Prop} (hb : Serves h t b s R)
    (hf : ∀ t a s, R t (some a) s → Serves h t (f a) s Q)
    (hn : ∀ t s, R t none s → Q t none s) : Serves h t (b >>= f) s Q := by
  unfold Serves at hb
  have hbind : Prog.serve h t ((b >>= f) s) = Prog.serve h (Prog.serve h t (b s)).2
      (match (Prog.serve h t (b s)).1 with
        | (some a, s') => f a s'
        | (none, s') => .ret (none, s')) := Prog.serve_bind _ _ _
  unfold Serves
  rw [hbind]
  rcases hout : (Prog.serve h t (b s)).1 with ⟨_ | a, s'⟩
  · rw [hout] at hb
    exact hn _ _ hb
  · rw [hout] at hb
    exact hf _ _ _ hb

theorem Serves.request_bind {r : Req} {f : Resp r → Body Req Resp S α}
    {Q : τ → Option α → S → Prop} (hf : Serves h (h t r).2 (f (h t r).1) s Q) :
    Serves h t (request r >>= f) s Q := hf

theorem Serves.get_bind {f : S → Body Req Resp S α} {Q : τ → Option α → S → Prop}
    (hf : Serves h t (f s) s Q) : Serves h t (get >>= f) s Q := hf

theorem Serves.modify_bind {g : S → S} {f : Unit → Body Req Resp S α}
    {Q : τ → Option α → S → Prop} (hf : Serves h t (f ()) (g s) Q) :
    Serves h t (modify g >>= f) s Q := hf

end Serves

section Leads

variable {τ : Type} {R : τ → (r : Req) → Resp r → τ → Prop} {t : τ}

theorem executes_request_bind_iff {r : Req} {f : Resp r → Body Req Resp S α} {t'' : τ}
    {out : Option α × S} :
    Prog.Executes R t ((request r >>= f) s) t'' out ↔
      ∃ x t', R t r x t' ∧ Prog.Executes R t' (f x s) t'' out := Prog.executes_call_iff

theorem executes_pure_iff {a : α} {t' : τ} {out : Option α × S} :
    Prog.Executes R t ((Pure.pure a : Body Req Resp S α) s) t' out ↔
      t' = t ∧ out = (some a, s) := Prog.executes_ret_iff

/-- Executions of a part that never panics, and of what follows it. -/
theorem executes_bind_iff {b : Body Req Resp S α} {f : α → Body Req Resp S β} {t'' : τ}
    {out : Option β × S} {a : α} {t' : τ} {s' : S}
    (hb : ∀ t₁ o, Prog.Executes R t (b s) t₁ o ↔ t₁ = t' ∧ o = (some a, s')) :
    Prog.Executes R t ((b >>= f) s) t'' out ↔ Prog.Executes R t' (f a s') t'' out := by
  refine Prog.executes_bind.trans ?_
  constructor
  · rintro ⟨t₁, o, he, hrest⟩
    obtain ⟨rfl, rfl⟩ := (hb t₁ o).mp he
    exact hrest
  · intro hrest
    exact ⟨t', _, (hb _ _).mpr ⟨rfl, rfl⟩, hrest⟩

/-- However its requests are answered within `R`, the body ends with `Q`. -/
def Leads (R : τ → (r : Req) → Resp r → τ → Prop) (t : τ) (b : Body Req Resp S α) (s : S)
    (Q : τ → Option α → S → Prop) : Prop :=
  ∀ t' out, Prog.Executes R t (b s) t' out → Q t' out.1 out.2

theorem Leads.mono {b : Body Req Resp S α} {Q Q' : τ → Option α → S → Prop}
    (h : Leads R t b s Q) (hQ : ∀ t a s, Q t a s → Q' t a s) : Leads R t b s Q' :=
  fun t' out he => hQ _ _ _ (h t' out he)

theorem Leads.pure {a : α} {Q : τ → Option α → S → Prop} (h : Q t (some a) s) :
    Leads R t (Pure.pure a : Body Req Resp S α) s Q := by
  intro t' out he
  cases he
  exact h

theorem Leads.panic {Q : τ → Option α → S → Prop} (h : Q t none s) :
    Leads R t (Body.panic : Body Req Resp S α) s Q := by
  intro t' out he
  cases he
  exact h

theorem Leads.bind {b : Body Req Resp S α} {f : α → Body Req Resp S β}
    {Q₁ : τ → Option α → S → Prop} {Q : τ → Option β → S → Prop} (h : Leads R t b s Q₁)
    (hf : ∀ t a s, Q₁ t (some a) s → Leads R t (f a) s Q)
    (hn : ∀ t s, Q₁ t none s → Q t none s) : Leads R t (b >>= f) s Q := by
  intro t'' out he
  obtain ⟨t', ⟨a, s'⟩, hb, he⟩ := Prog.executes_bind.mp he
  have hq := h t' (a, s') hb
  cases a with
  | some a => exact hf t' a s' hq t'' out he
  | none =>
    cases he
    exact hn _ _ hq

theorem Leads.request_bind {r : Req} {f : Resp r → Body Req Resp S α}
    {Q : τ → Option α → S → Prop} (hf : ∀ x t', R t r x t' → Leads R t' (f x) s Q) :
    Leads R t (request r >>= f) s Q := by
  intro t'' out he
  cases he with
  | call x answer rest => exact hf x _ answer t'' out rest

theorem Leads.get_bind {f : S → Body Req Resp S α} {Q : τ → Option α → S → Prop}
    (hf : Leads R t (f s) s Q) : Leads R t (get >>= f) s Q := hf

theorem Leads.modify_bind {g : S → S} {f : Unit → Body Req Resp S α}
    {Q : τ → Option α → S → Prop} (hf : Leads R t (f ()) (g s) Q) :
    Leads R t (modify g >>= f) s Q := hf

theorem Leads.modify {g : S → S} {Q : τ → Option Unit → S → Prop} (h : Q t (some ()) (g s)) :
    Leads R t (Body.modify g : Body Req Resp S Unit) s Q := by
  intro t' out he
  cases he
  exact h

theorem Conforms.leads {b : Body Req Resp S α} {Q : σ → Option α → S → Prop}
    (hc : Conforms P next v b s Q) (t : τ) :
    Leads R t b s fun _ out s' => ∃ v', Q v' out s' := by
  intro t' out he
  obtain ⟨v', hq, -⟩ := Prog.Conforms.executes (I := fun _ _ => True) hc
    (fun _ _ _ _ _ _ _ _ => trivial) he trivial
  exact ⟨v', hq⟩

/-- A part that keeps `I` of the object keeps with it what its requests keep of the state. -/
theorem Maintains.leads {b : Body Req Resp S α} {I : σ → S → Prop} {J : σ → τ → Prop}
    (hb : Maintains P next I b)
    (hJ : ∀ v t r x t', P v r → R t r x t' → J v t → J (next v r x) t')
    (hs : I v s) (ht : J v t) : Leads R t b s fun t' _ s' => ∃ v', I v' s' ∧ J v' t' := by
  intro t' out he
  have hc : Prog.Conforms P next v (b s) fun v' out => I v' out.2 := hb v s hs
  exact hc.executes hJ he ht

/-- Some answers to its requests within `R` let the body end with `Q`. -/
def May (R : τ → (r : Req) → Resp r → τ → Prop) (t : τ) (b : Body Req Resp S α) (s : S)
    (Q : τ → Option α → S → Prop) : Prop :=
  ∃ t' out, Prog.Executes R t (b s) t' out ∧ Q t' out.1 out.2

theorem May.pure {a : α} {Q : τ → Option α → S → Prop} (h : Q t (some a) s) :
    May R t (Pure.pure a : Body Req Resp S α) s Q := ⟨t, _, .ret, h⟩

theorem May.modify {g : S → S} {Q : τ → Option Unit → S → Prop} (h : Q t (some ()) (g s)) :
    May R t (Body.modify g : Body Req Resp S Unit) s Q := ⟨t, _, .ret, h⟩

theorem May.bind {b : Body Req Resp S α} {f : α → Body Req Resp S β} {Q : τ → Option β → S → Prop}
    (h : May R t b s fun t' out s' => ∃ a, out = some a ∧ May R t' (f a) s' Q) :
    May R t (b >>= f) s Q := by
  obtain ⟨t', ⟨out, s'⟩, hb, a, ha, t'', out', hf, hq⟩ := h
  obtain rfl : out = some a := ha
  exact ⟨t'', out', Prog.executes_bind.mpr ⟨t', _, hb, hf⟩, hq⟩

theorem May.request_bind {r : Req} {f : Resp r → Body Req Resp S α}
    {Q : τ → Option α → S → Prop} {t' : τ} (x : Resp r) (hx : R t r x t')
    (hf : May R t' (f x) s Q) : May R t (request r >>= f) s Q := by
  obtain ⟨t'', out, he, hq⟩ := hf
  exact ⟨t'', out, .call x hx he, hq⟩

/-- What every execution leads to holds after the one that there is. -/
theorem May.leads {b : Body Req Resp S α} {Q Q' Q'' : τ → Option α → S → Prop}
    (h : May R t b s Q) (hl : Leads R t b s Q') (hQ : ∀ t a s, Q t a s → Q' t a s → Q'' t a s) :
    May R t b s Q'' := by
  obtain ⟨t', out, he, hq⟩ := h
  exact ⟨t', out, he, hQ _ _ _ hq (hl t' out he)⟩

end Leads

end Body

end Caphv
