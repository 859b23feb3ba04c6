import Mathlib.Data.List.Forall2
import ReserveAccounting.Proofs.Outcomes

/-!
# Paired runs

Two calls are compared by their endings: both answer or both fail, and what they
leave satisfies one condition. Two objects that end alike in every call have
traces that agree at every step.
-/

namespace ReserveAccounting

/-- Faults of one kind: refusals of one kind, or one and the same fault. -/
inductive Fault.Alike : Fault → Fault → Prop where
  | refused {r r' : Refusal} (kind : r.kind = r'.kind) : Alike (.refused r) (.refused r')
  | same (e : Fault) : Alike e e

theorem Fault.alike_ofRefusal {r r' : Refusal} (hkind : r.kind = r'.kind)
    (hsayable : r.isSayable = r'.isSayable) : (Fault.ofRefusal r).Alike (Fault.ofRefusal r') := by
  unfold Fault.ofRefusal
  rw [hsayable]
  split
  · exact .refused hkind
  · exact .same _

theorem Fault.alike_of_figures {r r' : Refusal} (hkind : r.kind = r'.kind)
    (hfigures : r.figures = r'.figures) : (Fault.ofRefusal r).Alike (Fault.ofRefusal r') := by
  apply Fault.alike_ofRefusal hkind
  unfold Refusal.isSayable
  rw [hfigures]

namespace Act

variable {σ τ α β γ δ : Type}

/-- Two calls both answer or both fail, and their endings satisfy a condition. -/
def Pairs (m : Act σ α) (n : Act τ β) (s : σ) (t : τ) (answered : α → β → σ → τ → Prop)
    (failed : Fault → Fault → σ → τ → Prop) : Prop :=
  match run m s, run n t with
  | (.ok a, s'), (.ok b, t') => answered a b s' t'
  | (.error e, s'), (.error e', t') => failed e e' s' t'
  | _, _ => False

variable {s : σ} {t : τ} {answered : α → β → σ → τ → Prop}
  {failed : Fault → Fault → σ → τ → Prop}

theorem Pairs.mono {m : Act σ α} {n : Act τ β} {answered' : α → β → σ → τ → Prop}
    {failed' : Fault → Fault → σ → τ → Prop} (h : m.Pairs n s t answered failed)
    (hok : ∀ a b s' t', answered a b s' t' → answered' a b s' t')
    (hfail : ∀ e e' s' t', failed e e' s' t' → failed' e e' s' t') :
    m.Pairs n s t answered' failed' := by
  unfold Pairs at h ⊢
  split at h
  · exact hok _ _ _ _ h
  · exact hfail _ _ _ _ h
  · exact h.elim

theorem Pairs.and_left {m : Act σ α} {n : Act τ β} {answered' : α → σ → Prop}
    {failed' : Fault → σ → Prop} (h : m.Pairs n s t answered failed)
    (h' : m.Leaves s answered' failed') :
    m.Pairs n s t (fun a b s' t' => answered a b s' t' ∧ answered' a s')
      (fun e e' s' t' => failed e e' s' t' ∧ failed' e s') := by
  unfold Pairs at h ⊢
  unfold Leaves at h'
  generalize run m s = left at h h' ⊢
  generalize run n t = right at h ⊢
  rcases left with ⟨outcome, s'⟩
  rcases right with ⟨outcome', t'⟩
  cases outcome with
  | ok a =>
      cases outcome' with
      | ok b => exact ⟨h, h'⟩
      | error e' => exact h.elim
  | error e =>
      cases outcome' with
      | ok b => exact h.elim
      | error e' => exact ⟨h, h'⟩

theorem Pairs.and_right {m : Act σ α} {n : Act τ β} {answered' : β → τ → Prop}
    {failed' : Fault → τ → Prop} (h : m.Pairs n s t answered failed)
    (h' : n.Leaves t answered' failed') :
    m.Pairs n s t (fun a b s' t' => answered a b s' t' ∧ answered' b t')
      (fun e e' s' t' => failed e e' s' t' ∧ failed' e' t') := by
  unfold Pairs at h ⊢
  unfold Leaves at h'
  generalize run m s = left at h ⊢
  generalize run n t = right at h h' ⊢
  rcases left with ⟨outcome, s'⟩
  rcases right with ⟨outcome', t'⟩
  cases outcome with
  | ok a =>
      cases outcome' with
      | ok b => exact ⟨h, h'⟩
      | error e' => exact h.elim
  | error e =>
      cases outcome' with
      | ok b => exact h.elim
      | error e' => exact ⟨h, h'⟩

/-!
# Pairing calls part by part
-/

theorem Pairs.bind {m : Act σ γ} {n : Act τ δ} {f : γ → Act σ α} {g : δ → Act τ β}
    (h : m.Pairs n s t (fun c d s' t' => (f c).Pairs (g d) s' t' answered failed) failed) :
    (m >>= f).Pairs (n >>= g) s t answered failed := by
  unfold Pairs at h ⊢
  rw [run_bind, run_bind]
  generalize run m s = left at h ⊢
  generalize run n t = right at h ⊢
  rcases left with ⟨outcome, s'⟩
  rcases right with ⟨outcome', t'⟩
  cases outcome with
  | ok c =>
      cases outcome' with
      | ok d => exact h
      | error e' => exact h.elim
  | error e =>
      cases outcome' with
      | ok d => exact h.elim
      | error e' => exact h

theorem Pairs.bind_right {m : Act σ α} {n : Act τ δ} {g : δ → Act τ β}
    (h : m.Pairs n s t (fun a d s' t' => (pure a : Act σ α).Pairs (g d) s' t' answered failed)
      failed) : m.Pairs (n >>= g) s t answered failed := by
  have hpure : ∀ m : Act σ α, run (m >>= pure) s = run m s := by
    intro m
    rw [run_bind]
    rcases run m s with ⟨outcome, s'⟩
    cases outcome <;> rfl
  have hbind := Pairs.bind h
  unfold Pairs at hbind ⊢
  rw [hpure] at hbind
  exact hbind

theorem pairs_current_left {f : σ → Act σ α} {n : Act τ β} :
    (current >>= f).Pairs n s t answered failed ↔ (f s).Pairs n s t answered failed := by
  unfold Pairs
  rw [run_bind_ok (run_current s)]

theorem pairs_current_right {m : Act σ α} {g : τ → Act τ β} :
    m.Pairs (current >>= g) s t answered failed ↔ m.Pairs (g t) s t answered failed := by
  unfold Pairs
  rw [run_bind_ok (run_current t)]

theorem Pairs.ite {c c' : Prop} [Decidable c] [Decidable c'] {m m' : Act σ α} {n n' : Act τ β}
    (hc : c ↔ c') (hthen : c → m.Pairs n s t answered failed)
    (helse : ¬ c → m'.Pairs n' s t answered failed) :
    (if c then m else m').Pairs (if c' then n else n') s t answered failed := by
  by_cases h : c
  · rw [if_pos h, if_pos (hc.mp h)]
    exact hthen h
  · rw [if_neg h, if_neg fun h' => h (hc.mpr h')]
    exact helse h

def AlikeValues (related : α → β → Prop) (x : Except Refusal α) (y : Except Refusal β) : Prop :=
  match x, y with
  | .ok a, .ok b => related a b
  | .error r, .error r' => (Fault.ofRefusal r).Alike (Fault.ofRefusal r')
  | _, _ => False

theorem Pairs.of_values {related : α → β → Prop} {x : Except Refusal α} {y : Except Refusal β}
    (h : AlikeValues related x y) (hok : ∀ a b, x = .ok a → related a b → answered a b s t)
    (hfail : ∀ e e' : Fault, e.Alike e' → failed e e' s t) :
    (liftM x : Act σ α).Pairs (liftM y : Act τ β) s t answered failed := by
  cases x with
  | ok a =>
      cases y with
      | ok b => exact hok a b rfl h
      | error r' => exact h.elim
  | error r =>
      cases y with
      | ok b => exact h.elim
      | error r' => exact hfail _ _ h

theorem Pairs.bind_values {related : γ → δ → Prop} {x : Except Refusal γ} {y : Except Refusal δ}
    {f : γ → Act σ α} {g : δ → Act τ β} (h : AlikeValues related x y)
    (hok : ∀ c d, x = .ok c → related c d → (f c).Pairs (g d) s t answered failed)
    (hfail : ∀ e e' : Fault, e.Alike e' → failed e e' s t) :
    ((liftM x : Act σ γ) >>= f).Pairs ((liftM y : Act τ δ) >>= g) s t answered failed :=
  Pairs.bind (Pairs.of_values h hok hfail)

theorem Pairs.bind_value {x : Except Refusal γ} {f : γ → Act σ α} {g : γ → Act τ β}
    (hok : ∀ c, x = .ok c → (f c).Pairs (g c) s t answered failed)
    (hfail : ∀ e, failed e e s t) :
    ((liftM x : Act σ γ) >>= f).Pairs ((liftM x : Act τ γ) >>= g) s t answered failed := by
  cases x with
  | ok c => exact hok c rfl
  | error r => exact hfail _

theorem pairs_values_right {m : Act σ α} {x : Except Refusal γ} {y : γ → Except Refusal δ}
    {g : δ → Act τ β} :
    m.Pairs ((liftM x : Act τ γ) >>= fun c => (liftM (y c) : Act τ δ) >>= g) s t answered failed ↔
      m.Pairs ((liftM (x >>= y) : Act τ δ) >>= g) s t answered failed := by
  cases x <;> exact Iff.rfl

theorem pairs_value_right {m : Act σ α} {c : γ} {g : γ → Act τ β} :
    m.Pairs ((liftM (Except.ok c : Except Refusal γ) : Act τ γ) >>= g) s t answered failed ↔
      m.Pairs (g c) s t answered failed := Iff.rfl

/-!
# Calls that respect a relation
-/

/-- From related states a call ends the same, in states that are related again. -/
def Respects (R : σ → σ → Prop) (m : Act σ α) : Prop :=
  ∀ s t, R s t → m.Pairs m s t (fun a b s' t' => a = b ∧ R s' t')
    (fun e e' s' t' => e = e' ∧ R s' t')

namespace Respects

variable {R : σ → σ → Prop} {Q : τ → τ → Prop} {m n : Act σ α}

theorem outcome_eq (hm : Respects R m) (h : R s s') : (run m s').1 = (run m s).1 := by
  have hpairs := hm s s' h
  unfold Pairs at hpairs
  split at hpairs
  · next hleft hright => rw [hleft, hright, hpairs.left]
  · next hleft hright => rw [hleft, hright, hpairs.left]
  · exact hpairs.elim

theorem after (hm : Respects R m) (h : R s s') : R (run m s).2 (run m s').2 := by
  have hpairs := hm s s' h
  unfold Pairs at hpairs
  split at hpairs
  · next hleft hright =>
      rw [hleft, hright]
      exact hpairs.right
  · next hleft hright =>
      rw [hleft, hright]
      exact hpairs.right
  · exact hpairs.elim

theorem of_run (h : ∀ s t, R s t → (run m t).1 = (run m s).1 ∧ R (run m s).2 (run m t).2) :
    Respects R m := by
  intro s t hst
  rcases h s t hst with ⟨houtcome, hafter⟩
  unfold Pairs
  generalize run m s = left at houtcome hafter ⊢
  generalize run m t = right at houtcome hafter ⊢
  rcases left with ⟨outcome, s'⟩
  rcases right with ⟨outcome', t'⟩
  cases houtcome
  cases outcome with
  | ok a => exact ⟨rfl, hafter⟩
  | error e => exact ⟨rfl, hafter⟩

theorem of_stable {p : σ → Prop} (h : Stable p m) : Respects (fun s t => s = t ∧ p s) m := by
  apply of_run
  intro s t hst
  rcases hst with ⟨rfl, hs⟩
  exact ⟨rfl, rfl, h.after s hs⟩

theorem pure (a : α) : Respects R (pure a : Act σ α) := fun _ _ h => ⟨rfl, h⟩

theorem refuse (r : Refusal) : Respects R (refuse r : Act σ α) := fun _ _ h => ⟨rfl, h⟩

theorem note (r : Record) : Respects R (note r : Act σ Unit) := fun _ _ h => ⟨rfl, h⟩

theorem update {f : σ → σ} (h : ∀ s t, R s t → R (f s) (f t)) : Respects R (update f) :=
  fun s t hst => ⟨rfl, h s t hst⟩

theorem refusable (x : Except Refusal α) : Respects R (liftM x : Act σ α) := by
  cases x <;> exact fun _ _ h => ⟨rfl, h⟩

theorem faulty (x : Except Fault α) : Respects R (liftM x : Act σ α) := by
  cases x <;> exact fun _ _ h => ⟨rfl, h⟩

theorem bind {f : α → Act σ β} (hm : Respects R m) (hf : ∀ a, Respects R (f a)) :
    Respects R (m >>= f) := by
  intro s t hst
  apply Pairs.bind
  apply (hm s t hst).mono
  · intro a b s' t' h
    rcases h with ⟨rfl, hst'⟩
    exact hf a s' t' hst'
  · intro _ _ _ _ h
    exact h

theorem of_current {f : σ → Act σ β} (hf : ∀ s t, R s t → f t = f s)
    (h : ∀ s t, R s t → Respects R (f s)) : Respects R (current >>= f) := by
  intro s t hst
  rw [pairs_current_left, pairs_current_right, hf s t hst]
  exact h s t hst s t hst

theorem ite {c : Prop} [Decidable c] (hm : Respects R m) (hn : Respects R n) :
    Respects R (if c then m else n) := by
  split
  · exact hm
  · exact hn

theorem within {part : σ → τ} {put : τ → σ → σ} {m : Act τ α}
    (hpart : ∀ s t, R s t → Q (part s) (part t))
    (hput : ∀ s t p q, R s t → Q p q → R (put p s) (put q t)) (hm : Respects Q m) :
    Respects R (Act.within part put m) := by
  intro s t hst
  have hpairs := hm (part s) (part t) (hpart s t hst)
  unfold Pairs at hpairs ⊢
  rw [run_within, run_within]
  generalize run m (part s) = left at hpairs ⊢
  generalize run m (part t) = right at hpairs ⊢
  rcases left with ⟨outcome, p⟩
  rcases right with ⟨outcome', q⟩
  cases outcome <;> cases outcome'
  · exact ⟨hpairs.left, hput s t p q hst hpairs.right⟩
  · exact hpairs.elim
  · exact hpairs.elim
  · exact ⟨hpairs.left, hput s t p q hst hpairs.right⟩

theorem thenAlways {last : σ → σ} (hm : Respects R m) (hlast : ∀ s t, R s t → R (last s) (last t)) :
    Respects R (m.thenAlways last) := by
  intro s t hst
  have hpairs := hm s t hst
  unfold Pairs at hpairs ⊢
  rw [run_thenAlways, run_thenAlways]
  generalize run m s = left at hpairs ⊢
  generalize run m t = right at hpairs ⊢
  rcases left with ⟨outcome, s'⟩
  rcases right with ⟨outcome', t'⟩
  cases outcome <;> cases outcome'
  · exact ⟨hpairs.left, hlast s' t' hpairs.right⟩
  · exact hpairs.elim
  · exact hpairs.elim
  · exact ⟨hpairs.left, hlast s' t' hpairs.right⟩

theorem mapEach {f : β → Act σ α} {items : List β} (hf : ∀ b ∈ items, Respects R (f b)) :
    Respects R (Act.mapEach f items) := by
  induction items with
  | nil => exact pure []
  | cons b rest ih =>
      apply bind (hf b List.mem_cons_self)
      intro a
      apply bind (ih fun b' hb' => hf b' (List.mem_cons_of_mem b hb'))
      intro as
      exact pure (a :: as)

theorem forEach {f : β → Act σ Unit} {items : List β} (hf : ∀ b ∈ items, Respects R (f b)) :
    Respects R (Act.forEach f items) := by
  induction items with
  | nil => exact pure ()
  | cons b rest ih =>
      apply bind (hf b List.mem_cons_self)
      intro _
      exact ih fun b' hb' => hf b' (List.mem_cons_of_mem b hb')

end Respects

/-!
# Traces
-/

def trace (perform : γ → Act σ α) : List γ → σ → List (Except Fault α × σ)
  | [], _ => []
  | c :: rest, s => run (perform c) s :: trace perform rest (run (perform c) s).2

def SameEnding (faults : Fault → Fault → Prop) (x y : Except Fault α) : Prop :=
  match x, y with
  | .ok a, .ok b => a = b
  | .error e, .error e' => faults e e'
  | _, _ => False

theorem forall₂_trace (faults : Fault → Fault → Prop) (related : σ → τ → Prop)
    {perform : γ → Act σ α} {perform' : γ → Act τ α} {calls : List γ}
    (hstep : ∀ c ∈ calls, ∀ s t, related s t → (perform c).Pairs (perform' c) s t
      (fun a b s' t' => a = b ∧ related s' t') (fun e e' s' t' => faults e e' ∧ related s' t'))
    (hstart : related s t) :
    List.Forall₂ (fun x y => SameEnding faults x.1 y.1 ∧ related x.2 y.2)
      (trace perform calls s) (trace perform' calls t) := by
  induction calls generalizing s t with
  | nil => exact List.Forall₂.nil
  | cons c rest ih =>
      have hfirst := hstep c List.mem_cons_self s t hstart
      have hends : SameEnding faults (run (perform c) s).1 (run (perform' c) t).1 ∧
          related (run (perform c) s).2 (run (perform' c) t).2 := by
        unfold Pairs at hfirst
        split at hfirst
        · next hleft hright =>
            rw [hleft, hright]
            exact hfirst
        · next hleft hright =>
            rw [hleft, hright]
            exact hfirst
        · exact hfirst.elim
      exact List.Forall₂.cons hends
        (ih (fun c hc => hstep c (List.mem_cons_of_mem _ hc)) hends.right)

end Act
end ReserveAccounting
