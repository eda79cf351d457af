import Caphv.Interleaving

namespace Caphv

namespace Prog

variable {Req Req' : Type} {Resp : Req → Type} {Resp' : Req' → Type} {σ τ α : Type}

/-- The routine with its requests renamed, and the responses read back. -/
def embed (ι : Req → Req') (back : ∀ r, Resp' (ι r) → Resp r) :
    Prog Req Resp α → Prog Req' Resp' α
  | ret a => ret a
  | call r k => call (ι r) fun x => (k (back r x)).embed ι back

variable {ι : Req → Req'} {back : ∀ r, Resp' (ι r) → Resp r} {P : σ → Req → Prop}
  {next : σ → (r : Req) → Resp r → σ} {P' : τ → Req' → Prop}
  {next' : τ → (r : Req') → Resp' r → τ}

/-- A renamed routine conforms if its old view can be read off the new one. -/
theorem Conforms.embed (π : τ → σ) (hP : ∀ u r, P (π u) r → P' u (ι r))
    (hnext : ∀ u r x, π (next' u (ι r) x) = next (π u) r (back r x)) {Q : σ → α → Prop}
    {Q' : τ → α → Prop} (hQ : ∀ u a, Q (π u) a → Q' u a) {p : Prog Req Resp α} {u : τ}
    (h : Conforms P next (π u) p Q) : Conforms P' next' u (p.embed ι back) Q' := by
  induction p generalizing u with
  | ret a => exact hQ u a h
  | call r k ih =>
    refine ⟨hP u r h.1, fun x => ih (back r x) ?_⟩
    rw [hnext]
    exact h.2 (back r x)

end Prog

/-- A part of a world, or a view of it, that can be read and replaced. -/
structure Part (World W : Type) where
  get : World → W
  put : World → W → World
  get_put : ∀ w x, get (put w x) = x

section Compose

variable {K₁ K₂ R₁ R₂ W₁ W₂ V₁ V₂ E₁ E₂ World : Type} {X₁ A₁ : R₁ → Type} {X₂ A₂ : R₂ → Type}

abbrev Asked (K₁ K₂ R₁ R₂ : Type) := K₁ × R₁ ⊕ K₂ × R₂

abbrev About (X₁ : R₁ → Type) (X₂ : R₂ → Type) : Asked K₁ K₂ R₁ R₂ → Type :=
  Sum.elim (fun q => X₁ q.2) fun q => X₂ q.2

/-- The passes of two controllers, interleaved, each on its own part of one world. -/
def Controller.compose (c : Controller K₁ R₁ X₁ A₁ W₁ V₁ E₁) (d : Controller K₂ R₂ X₂ A₂ W₂ V₂ E₂)
    (p : Part World W₁) (q : Part World W₂) :
    Controller (K₁ ⊕ K₂) (Asked K₁ K₂ R₁ R₂) (About X₁ X₂) (About A₁ A₂) World (V₁ × V₂)
      (E₁ ⊕ E₂) where
  program
    | .inl k => (c.program k).embed (fun r => .inl (k, r)) fun _ => id
    | .inr k => (d.program k).embed (fun r => .inr (k, r)) fun _ => id
  exec _
    | .inl (k, r), a, w =>
      let out := c.exec k r a (p.get w)
      (out.1, p.put w out.2)
    | .inr (k, r), a, w =>
      let out := d.exec k r a (q.get w)
      (out.1, q.put w out.2)
  next v
    | .inl (_, r), x => (c.next v.1 r x, v.2)
    | .inr (_, r), x => (v.1, d.next v.2 r x)
  fresh := (c.fresh, d.fresh)
  env
    | .inl e, w => p.put w (c.env e (p.get w))
    | .inr e, w => q.put w (d.env e (q.get w))

def Contract.sum (P : Contract K₁ R₁ V₁) (Q : Contract K₂ R₂ V₂) :
    Contract (K₁ ⊕ K₂) (Asked K₁ K₂ R₁ R₂) (V₁ × V₂) where
  guard
    | .inl k, v, .inl (j, r) => j = k ∧ P.guard k v.1 r
    | .inr k, v, .inr (j, r) => j = k ∧ Q.guard k v.2 r
    | .inl _, _, .inr _ => False
    | .inr _, _, .inl _ => False
  done
    | .inl k, v => P.done k v.1
    | .inr k, v => Q.done k v.2

def leftViews (v : K₁ ⊕ K₂ → V₁ × V₂) (k : K₁) : V₁ := (v (.inl k)).1

def rightViews (v : K₁ ⊕ K₂ → V₁ × V₂) (k : K₂) : V₂ := (v (.inr k)).2

section Views

variable [DecidableEq K₁] [DecidableEq K₂] (v : K₁ ⊕ K₂ → V₁ × V₂) (u : V₁ × V₂)

@[simp] theorem leftViews_update_inl (k : K₁) :
    leftViews (Function.update v (.inl k) u) = Function.update (leftViews v) k u.1 := by
  funext j
  by_cases hj : j = k
  · subst hj
    simp [leftViews]
  · simp [leftViews, hj]

@[simp] theorem rightViews_update_inl (k : K₁) :
    rightViews (Function.update v (.inl k) u) = rightViews v := by
  funext j
  simp [rightViews]

@[simp] theorem leftViews_update_inr (k : K₂) :
    leftViews (Function.update v (.inr k) u) = leftViews v := by
  funext j
  simp [leftViews]

@[simp] theorem rightViews_update_inr (k : K₂) :
    rightViews (Function.update v (.inr k) u) = Function.update (rightViews v) k u.2 := by
  funext j
  by_cases hj : j = k
  · subst hj
    simp [rightViews]
  · simp [rightViews, hj]

end Views

variable {c : Controller K₁ R₁ X₁ A₁ W₁ V₁ E₁} {d : Controller K₂ R₂ X₂ A₂ W₂ V₂ E₂}
  {p : Part World W₁} {q : Part World W₂} {P : Contract K₁ R₁ V₁} {Q : Contract K₂ R₂ V₂}

theorem Controller.Keeps.compose (hc : c.Keeps P) (hd : d.Keeps Q) :
    (c.compose d p q).Keeps (P.sum Q) := by
  intro k
  cases k with
  | inl k =>
    exact Prog.Conforms.embed (σ := V₁) (τ := V₁ × V₂) (Q := fun v _ => P.done k v) Prod.fst
      (fun _ _ h => ⟨rfl, h⟩) (fun _ _ _ => rfl) (fun _ _ h => h) (hc k)
  | inr k =>
    exact Prog.Conforms.embed (σ := V₂) (τ := V₁ × V₂) (Q := fun v _ => Q.done k v) Prod.snd
      (fun _ _ h => ⟨rfl, h⟩) (fun _ _ _ => rfl) (fun _ _ h => h) (hd k)

/-- What the second controller records beside its views does not matter to the whole. -/
theorem Controller.compose_observe_forgets {V' : Type} {next' : V' → (r : R₂) → X₂ r → V'}
    {fresh' : V'} :
    (c.compose (d.observe next' fresh') p q).Forgets (c.compose d p q)
      (Prod.map id Prod.fst) where
  program k := by cases k <;> rfl
  exec k r a w := by cases r <;> rfl
  next v r x := by cases r <;> rfl
  fresh := rfl
  env e w := by cases e <;> rfl

def Event.inl : Event K₁ R₁ A₁ E₁ → Event (K₁ ⊕ K₂) (Asked K₁ K₂ R₁ R₂) (About A₁ A₂) (E₁ ⊕ E₂)
  | .issue k r a => .issue (.inl k) (.inl (k, r)) a
  | .env e => .env (.inl e)

def Event.inr : Event K₂ R₂ A₂ E₂ → Event (K₁ ⊕ K₂) (Asked K₁ K₂ R₁ R₂) (About A₁ A₂) (E₁ ⊕ E₂)
  | .issue k r a => .issue (.inr k) (.inr (k, r)) a
  | .env e => .env (.inr e)

/-- What an allowed event makes of the part of the world that its controller has. -/
inductive Controller.Moves (c : Controller K₁ R₁ X₁ A₁ W₁ V₁ E₁) (P : Contract K₁ R₁ V₁) (w : W₁)
    (v : K₁ → V₁) : Event K₁ R₁ A₁ E₁ → W₁ → Prop where
  | issue {k : K₁} {r : R₁} {a : A₁ r} (allowed : P.guard k (v k) r) :
      c.Moves P w v (.issue k r a) (c.exec k r a w).2
  | env {e : E₁} : c.Moves P w v (.env e) (c.env e w)

variable [DecidableEq K₁] [DecidableEq K₂]

/-- An action of the whole is a move of one of the controllers on its own part, or does nothing to
the world. -/
theorem Controller.compose_step
    {s : State (K₁ ⊕ K₂) (Asked K₁ K₂ R₁ R₂) (About X₁ X₂) World (V₁ × V₂)}
    (hs : (c.compose d p q).Conforms (P.sum Q) s)
    (a : Action (K₁ ⊕ K₂) (Asked K₁ K₂ R₁ R₂) (About A₁ A₂) (E₁ ⊕ E₂)) :
    ((c.compose d p q).step s a).world = s.world ∨
      (∃ ev w', s.event a = some (.inl ev) ∧ c.Moves P (p.get s.world) (leftViews s.view) ev w' ∧
        ((c.compose d p q).step s a).world = p.put s.world w') ∨
      ∃ ev w', s.event a = some (.inr ev) ∧ d.Moves Q (q.get s.world) (rightViews s.view) ev w' ∧
        ((c.compose d p q).step s a).world = q.put s.world w' := by
  cases a with
  | start k =>
    left
    cases hk : s.pass k <;> simp only [Controller.step, hk]
  | env e =>
    right
    cases e with
    | inl e => exact Or.inl ⟨.env e, _, rfl, .env, rfl⟩
    | inr e => exact Or.inr ⟨.env e, _, rfl, .env, rfl⟩
  | exec k ans =>
    cases hk : s.pass k with
    | ret u =>
      left
      simp only [Controller.step, hk]
    | call r f =>
      right
      have hg := hs.issue hk
      simp only [Controller.step, State.event, hk]
      cases k with
      | inl k =>
        cases r with
        | inr r => exact hg.elim
        | inl r =>
          obtain ⟨j, r⟩ := r
          obtain ⟨rfl, hg⟩ := hg
          exact Or.inl ⟨.issue j r (ans (.inl (j, r))), _, rfl, .issue hg, rfl⟩
      | inr k =>
        cases r with
        | inl r => exact hg.elim
        | inr r =>
          obtain ⟨j, r⟩ := r
          obtain ⟨rfl, hg⟩ := hg
          exact Or.inr ⟨.issue j r (ans (.inr (j, r))), _, rfl, .issue hg, rfl⟩

variable {ok : World → (K₁ ⊕ K₂ → V₁ × V₂) →
    Event (K₁ ⊕ K₂) (Asked K₁ K₂ R₁ R₂) (About A₁ A₂) (E₁ ⊕ E₂) → Prop}
  {ok₁ : W₁ → (K₁ → V₁) → Event K₁ R₁ A₁ E₁ → Prop}
  {ok₂ : W₂ → (K₂ → V₂) → Event K₂ R₂ A₂ E₂ → Prop}
  {I₁ : W₁ → (K₁ → V₁) → Prop} {I₂ : W₂ → (K₂ → V₂) → Prop}

/-- Each controller keeps its own invariant, and neither disturbs that of the other: then both
invariants are kept by the two controllers together. -/
theorem Controller.Preserves.compose (hc : c.Preserves P ok₁ I₁) (hd : d.Preserves Q ok₂ I₂)
    (h₁ : ∀ w v e, ok w v (.inl e) → ok₁ (p.get w) (leftViews v) e)
    (h₂ : ∀ w v e, ok w v (.inr e) → ok₂ (q.get w) (rightViews v) e)
    (left : ∀ w v e w', ok w v (.inl e) → I₁ (p.get w) (leftViews v) →
      I₂ (q.get w) (rightViews v) → c.Moves P (p.get w) (leftViews v) e w' →
      I₂ (q.get (p.put w w')) (rightViews v))
    (right : ∀ w v e w', ok w v (.inr e) → I₁ (p.get w) (leftViews v) →
      I₂ (q.get w) (rightViews v) → d.Moves Q (q.get w) (rightViews v) e w' →
      I₁ (p.get (q.put w w')) (leftViews v)) :
    (c.compose d p q).Preserves (P.sum Q) ok
      fun w v => I₁ (p.get w) (leftViews v) ∧ I₂ (q.get w) (rightViews v) where
  start w v k hdone h := by
    cases k with
    | inl k =>
      rw [leftViews_update_inl, rightViews_update_inl]
      exact ⟨hc.start _ _ k hdone h.1, h.2⟩
    | inr k =>
      rw [leftViews_update_inr, rightViews_update_inr]
      exact ⟨h.1, hd.start _ _ k hdone h.2⟩
  issue w v k r a hg hok h := by
    cases k with
    | inl k =>
      cases r with
      | inr r => exact hg.elim
      | inl r =>
        obtain ⟨j, r⟩ := r
        obtain ⟨rfl, hg⟩ := hg
        rw [leftViews_update_inl, rightViews_update_inl]
        refine ⟨?_, left w v (.issue j r a) _ hok h.1 h.2 (.issue hg)⟩
        dsimp only [Controller.compose]
        rw [p.get_put]
        exact hc.issue _ _ j r a hg (h₁ w v (.issue j r a) hok) h.1
    | inr k =>
      cases r with
      | inl r => exact hg.elim
      | inr r =>
        obtain ⟨j, r⟩ := r
        obtain ⟨rfl, hg⟩ := hg
        rw [leftViews_update_inr, rightViews_update_inr]
        refine ⟨right w v (.issue j r a) _ hok h.1 h.2 (.issue hg), ?_⟩
        dsimp only [Controller.compose]
        rw [q.get_put]
        exact hd.issue _ _ j r a hg (h₂ w v (.issue j r a) hok) h.2
  env w v e hok h := by
    cases e with
    | inl e =>
      refine ⟨?_, left w v (.env e) _ hok h.1 h.2 .env⟩
      dsimp only [Controller.compose]
      rw [p.get_put]
      exact hc.env _ _ e (h₁ w v (.env e) hok) h.1
    | inr e =>
      refine ⟨right w v (.env e) _ hok h.1 h.2 .env, ?_⟩
      dsimp only [Controller.compose]
      rw [q.get_put]
      exact hd.env _ _ e (h₂ w v (.env e) hok) h.2

end Compose

end Caphv
