import Mathlib.Algebra.Order.Group.Abs
import Mathlib.Algebra.Order.Ring.Int
import Mathlib.Data.Nat.Cast.Basic
import ReserveAccounting.Act

/-!
# What a call leaves

A call leaves a state whether it answers or fails. The condition `Leaves`
speaks of both endings at once, so that one pass through the steps of a call
shows what is true after it, however it ends.
-/

namespace ReserveAccounting
namespace Act

variable {σ τ α β : Type}

/-- Every ending of a call satisfies its condition: one for answers, one for faults. -/
def Leaves (m : Act σ α) (s : σ) (answered : α → σ → Prop) (failed : Fault → σ → Prop) : Prop :=
  match run m s with
  | (.ok a, s') => answered a s'
  | (.error e, s') => failed e s'

/-!
# Reading a condition back
-/

theorem Leaves.of_ok {m : Act σ α} {s s' : σ} {a : α}
    {answered : α → σ → Prop} {failed : Fault → σ → Prop}
    (h : m.Leaves s answered failed) (hrun : run m s = (.ok a, s')) : answered a s' := by
  unfold Leaves at h
  rw [hrun] at h
  exact h

theorem Leaves.of_error {m : Act σ α} {s s' : σ} {e : Fault}
    {answered : α → σ → Prop} {failed : Fault → σ → Prop}
    (h : m.Leaves s answered failed) (hrun : run m s = (.error e, s')) : failed e s' := by
  unfold Leaves at h
  rw [hrun] at h
  exact h

theorem leaves_of_run {m : Act σ α} {s : σ}
    {answered : α → σ → Prop} {failed : Fault → σ → Prop}
    (hok : ∀ a s', run m s = (.ok a, s') → answered a s')
    (hfail : ∀ e s', run m s = (.error e, s') → failed e s') :
    m.Leaves s answered failed := by
  unfold Leaves
  split
  · next a s' hrun => exact hok a s' hrun
  · next e s' hrun => exact hfail e s' hrun

theorem Leaves.mono {m : Act σ α} {s : σ}
    {answered answered' : α → σ → Prop} {failed failed' : Fault → σ → Prop}
    (h : m.Leaves s answered failed)
    (hok : ∀ a s', answered a s' → answered' a s')
    (hfail : ∀ e s', failed e s' → failed' e s') :
    m.Leaves s answered' failed' := by
  apply leaves_of_run
  · intro a s' hrun
    exact hok a s' (h.of_ok hrun)
  · intro e s' hrun
    exact hfail e s' (h.of_error hrun)

theorem Leaves.and {m : Act σ α} {s : σ}
    {answered answered' : α → σ → Prop} {failed failed' : Fault → σ → Prop}
    (h : m.Leaves s answered failed) (h' : m.Leaves s answered' failed') :
    m.Leaves s (fun a s' => answered a s' ∧ answered' a s')
      (fun e s' => failed e s' ∧ failed' e s') := by
  apply leaves_of_run
  · intro a s' hrun
    exact ⟨h.of_ok hrun, h'.of_ok hrun⟩
  · intro e s' hrun
    exact ⟨h.of_error hrun, h'.of_error hrun⟩

theorem Leaves.state {m : Act σ α} {s : σ} {p : σ → Prop}
    (h : m.Leaves s (fun _ => p) (fun _ => p)) : p (run m s).2 := by
  unfold Leaves at h
  split at h
  · next a s' hrun =>
      rw [hrun]
      exact h
  · next e s' hrun =>
      rw [hrun]
      exact h

theorem Leaves.of_state {m : Act σ α} {s : σ} {p : σ → Prop} (h : p (run m s).2) :
    m.Leaves s (fun _ => p) (fun _ => p) := by
  apply leaves_of_run
  · intro a s' hrun
    rw [hrun] at h
    exact h
  · intro e s' hrun
    rw [hrun] at h
    exact h

theorem eq_ok_of_toOption {ε : Type} {x : Except ε α} {a : α} (h : x.toOption = some a) :
    x = .ok a := by
  cases x with
  | ok b =>
      cases h
      rfl
  | error e => cases h

theorem eq_ok_getD {ε : Type} [Inhabited α] {x : Except ε α} (h : x.toOption.isSome = true) :
    x = .ok (x.toOption.getD default) := by
  cases x with
  | ok a => rfl
  | error e => cases h

def refusal? : Except Fault α → Option Refusal
  | .error (.refused r) => some r
  | _ => none

theorem refusal?_eq_some {x : Except Fault α} {r : Refusal} :
    refusal? x = some r ↔ x = .error (.refused r) := by
  constructor
  · intro h
    unfold refusal? at h
    split at h
    · cases h
      rfl
    · cases h
  · intro h
    rw [h]
    rfl

theorem run_eq_refused {m : Act σ α} {s : σ} (h : (refusal? (run m s).1).isSome = true) :
    run m s = (.error (.refused ((refusal? (run m s).1).getD default)), (run m s).2) := by
  generalize run m s = ending at h ⊢
  rcases ending with ⟨outcome, s'⟩
  cases outcome with
  | ok a => cases h
  | error e =>
      cases e with
      | refused r => rfl
      | _ => cases h

theorem exists_of_bind_ok {ε : Type} {x : Except ε α} {f : α → Except ε β} {b : β}
    (h : (x >>= f) = .ok b) : ∃ a, x = .ok a ∧ f a = .ok b := by
  cases x with
  | ok a => exact ⟨a, rfl, h⟩
  | error e => cases h

theorem bind_value {f : α → Act σ β} (a : α) :
    ((liftM (Except.ok a : Except Fault α) : Act σ α) >>= f) = f a := rfl

theorem bind_refusable {f : α → Act σ β} (a : α) :
    ((liftM (Except.ok a : Except Refusal α) : Act σ α) >>= f) = f a := rfl

theorem run_of_outcome {m : Act σ α} {s : σ} {a : α} (h : (run m s).1 = .ok a) :
    run m s = (.ok a, (run m s).2) :=
  Prod.ext h rfl

theorem exists_run_of_toOption {a : α} (h : (run m s).1.toOption = some a) :
    ∃ s', run m s = (.ok a, s') := by
  cases hrun : run m s with
  | mk result s' =>
      rw [hrun] at h
      cases eq_ok_of_toOption h
      exact ⟨s', rfl⟩

/-!
# Conditions of single steps
-/

variable {answered : α → σ → Prop} {failed : Fault → σ → Prop} {s : σ}

@[simp] theorem leaves_pure {a : α} :
    (pure a : Act σ α).Leaves s answered failed ↔ answered a s := Iff.rfl

@[simp] theorem leaves_fail {e : Fault} :
    (fail e : Act σ α).Leaves s answered failed ↔ failed e s := Iff.rfl

@[simp] theorem leaves_refuse {r : Refusal} :
    (refuse r : Act σ α).Leaves s answered failed ↔ failed (.ofRefusal r) s := Iff.rfl

@[simp] theorem leaves_current {answered : σ → σ → Prop} :
    (current : Act σ σ).Leaves s answered failed ↔ answered s s := Iff.rfl

@[simp] theorem leaves_replace {s' : σ} {answered : Unit → σ → Prop} :
    (replace s').Leaves s answered failed ↔ answered () s' := Iff.rfl

@[simp] theorem leaves_update {f : σ → σ} {answered : Unit → σ → Prop} :
    (update f).Leaves s answered failed ↔ answered () (f s) := Iff.rfl

@[simp] theorem leaves_note {r : Record} {answered : Unit → σ → Prop} :
    (note r).Leaves s answered failed ↔ answered () s := Iff.rfl

@[simp] theorem leaves_bind {m : Act σ α} {f : α → Act σ β} {answered : β → σ → Prop} :
    (m >>= f).Leaves s answered failed ↔
      m.Leaves s (fun a s' => (f a).Leaves s' answered failed) failed := by
  unfold Leaves
  rw [run_bind]
  rcases run m s with ⟨outcome, s'⟩
  cases outcome <;> rfl

theorem leaves_ite {c : Prop} [Decidable c] {m n : Act σ α} :
    (if c then m else n).Leaves s answered failed ↔
      (c → m.Leaves s answered failed) ∧ (¬ c → n.Leaves s answered failed) := by
  by_cases h : c <;> simp [h]

@[simp] theorem leaves_refusable {x : Except Refusal α} :
    (liftM x : Act σ α).Leaves s answered failed ↔
      (∀ a, x = .ok a → answered a s) ∧ (∀ r, x = .error r → failed (.ofRefusal r) s) := by
  cases x with
  | ok a =>
      change answered a s ↔ _
      simp
  | error r =>
      change failed (.ofRefusal r) s ↔ _
      simp

@[simp] theorem leaves_ofRefusable {x : Except Refusal α} :
    (ofRefusable x : Act σ α).Leaves s answered failed ↔
      (∀ a, x = .ok a → answered a s) ∧ (∀ r, x = .error r → failed (.ofRefusal r) s) :=
  leaves_refusable

@[simp] theorem leaves_faulty {x : Except Fault α} :
    (liftM x : Act σ α).Leaves s answered failed ↔
      (∀ a, x = .ok a → answered a s) ∧ (∀ e, x = .error e → failed e s) := by
  cases x with
  | ok a =>
      change answered a s ↔ _
      simp
  | error e =>
      change failed e s ↔ _
      simp

theorem leaves_bind_faulty {x : Except Fault β} {f : β → Act σ α} (hfail : ∀ e, failed e s)
    (hf : ∀ b, x = .ok b → (f b).Leaves s answered failed) :
    ((liftM x : Act σ β) >>= f).Leaves s answered failed := by
  rw [leaves_bind, leaves_faulty]
  exact ⟨hf, fun e _ => hfail e⟩

@[simp] theorem leaves_within {part : σ → τ} {put : τ → σ → σ} {m : Act τ α} :
    (within part put m).Leaves s answered failed ↔
      m.Leaves (part s) (fun a p => answered a (put p s)) (fun e p => failed e (put p s)) := by
  unfold Leaves
  rw [run_within]
  rcases run m (part s) with ⟨outcome, p⟩
  cases outcome <;> rfl

@[simp] theorem leaves_thenAlways {m : Act σ α} {last : σ → σ} :
    (thenAlways m last).Leaves s answered failed ↔
      m.Leaves s (fun a s' => answered a (last s')) (fun e s' => failed e (last s')) := by
  unfold Leaves
  rw [run_thenAlways]
  rcases run m s with ⟨outcome, s'⟩
  cases outcome <;> rfl

theorem run_onRefusal (m : Act σ α) (undo : σ → σ) (s : σ) :
    run (onRefusal m undo) s =
      match run m s with
      | (.error (.refused r), s') => (.error (.refused r), undo s')
      | ending => ending := by
  unfold onRefusal run
  dsimp only
  rcases m s with ⟨outcome, s', journal⟩
  cases outcome with
  | ok a => rfl
  | error e => cases e <;> rfl

/-- A refused call is undone; after any other fault its state stays. -/
theorem leaves_onRefusal {m : Act σ α} {undo : σ → σ} :
    (onRefusal m undo).Leaves s answered failed ↔
      m.Leaves s answered fun e s' =>
        match e with
        | .refused r => failed (.refused r) (undo s')
        | e => failed e s' := by
  unfold Leaves
  rw [run_onRefusal]
  rcases run m s with ⟨outcome, s'⟩
  cases outcome with
  | ok a => rfl
  | error e => cases e <;> rfl

theorem leaves_embed {inject : τ → σ} {m : Act τ α} {t : τ} {n : Act σ α}
    (hn : n s = embed inject m t) :
    n.Leaves s answered failed ↔
      m.Leaves t (fun a t' => answered a (inject t')) (fun e t' => failed e (inject t')) := by
  unfold Leaves run
  rw [hn]
  unfold embed
  dsimp only
  rcases m t with ⟨outcome, t', journal⟩
  cases outcome <;> rfl

/-!
# Calls without answers
-/

def ending (m : Act σ α) : Act σ Unit := do
  let _ ← m
  return

theorem leaves_ending {m : Act σ α} {answered : Unit → σ → Prop} :
    (ending m).Leaves s answered failed ↔ m.Leaves s (fun _ s' => answered () s') failed :=
  leaves_bind

theorem run_ending (m : Act σ α) (s : σ) :
    run (ending m) s = ((run m s).1.map fun _ => (), (run m s).2) := by
  unfold ending
  rw [run_bind]
  rcases run m s with ⟨outcome, s'⟩
  cases outcome <;> rfl

/-!
# Calls for the items of a list
-/

theorem leaves_forEach_nil {f : β → Act σ Unit} {answered : Unit → σ → Prop} :
    (forEach f []).Leaves s answered failed ↔ answered () s := Iff.rfl

theorem leaves_forEach_cons {f : β → Act σ Unit} {b : β} {rest : List β}
    {answered : Unit → σ → Prop} :
    (forEach f (b :: rest)).Leaves s answered failed ↔
      (f b).Leaves s (fun _ s' => (forEach f rest).Leaves s' answered failed) failed :=
  leaves_bind

theorem mapEach_congr {f g : β → Act σ α} {items : List β} (h : ∀ b ∈ items, f b = g b) :
    mapEach f items = mapEach g items := by
  induction items with
  | nil => rfl
  | cons b rest ih =>
      simp only [mapEach]
      rw [h b List.mem_cons_self, ih fun b' hb' => h b' (List.mem_cons_of_mem b hb')]

theorem leaves_mapEach_nil {f : β → Act σ α} {answered : List α → σ → Prop} :
    (mapEach f []).Leaves s answered failed ↔ answered [] s := Iff.rfl

theorem leaves_mapEach_cons {f : β → Act σ α} {b : β} {rest : List β}
    {answered : List α → σ → Prop} :
    (mapEach f (b :: rest)).Leaves s answered failed ↔
      (f b).Leaves s
        (fun a s' => (mapEach f rest).Leaves s' (fun as s'' => answered (a :: as) s'') failed)
        failed := by
  change (f b >>= fun a => mapEach f rest >>= fun as => pure (a :: as)).Leaves s answered failed ↔ _
  rw [leaves_bind]
  simp only [leaves_bind, leaves_pure]

def tally (f : β → Act σ α) (weight : β → σ → Nat) : List β → σ → Nat
  | [], _ => 0
  | b :: rest, s =>
      weight b s +
        match run (f b) s with
        | (.ok _, s') => tally f weight rest s'
        | (.error _, _) => 0

theorem leaves_mapEach_tally {f : β → Act σ α} {weight : β → σ → Nat} {p : σ → Prop}
    {quantity : σ → Int} {unit : Int} {items : List β}
    (hstep : ∀ b ∈ items, ∀ s, p s →
      p (run (f b) s).2 ∧ |quantity (run (f b) s).2 - quantity s| ≤ unit * weight b s)
    (hs : p s) :
    (mapEach f items).Leaves s
      (fun _ s' => |quantity s' - quantity s| ≤ unit * tally f weight items s)
      (fun _ s' => |quantity s' - quantity s| ≤ unit * tally f weight items s) := by
  induction items generalizing s with
  | nil =>
      rw [leaves_mapEach_nil]
      simp [tally]
  | cons b rest ih =>
      rcases hstep b List.mem_cons_self s hs with ⟨hp, hmoved⟩
      have hrest := fun b' hb' => hstep b' (List.mem_cons_of_mem b hb')
      rw [leaves_mapEach_cons]
      apply leaves_of_run
      · intro a s₁ hrun
        rw [hrun] at hp hmoved
        have htally : tally f weight (b :: rest) s =
            weight b s + tally f weight rest s₁ := by
          rw [tally, hrun]
        have hsum : ∀ s', |quantity s' - quantity s₁| ≤ unit * tally f weight rest s₁ →
            |quantity s' - quantity s| ≤ unit * tally f weight (b :: rest) s := by
          intro s' hs'
          rw [htally, Nat.cast_add, mul_add]
          have htriangle := abs_sub_le (quantity s') (quantity s₁) (quantity s)
          dsimp only at hmoved
          omega
        exact (ih hrest hp).mono (fun _ s' h => hsum s' h) (fun _ s' h => hsum s' h)
      · intro e s₁ hrun
        rw [hrun] at hmoved
        have htally : tally f weight (b :: rest) s = weight b s := by
          rw [tally, hrun, Nat.add_zero]
        rw [htally]
        exact hmoved

def countAfter (m : Act σ α) (count : α → σ → Nat) (s : σ) : Nat :=
  match run m s with
  | (.ok a, s') => count a s'
  | (.error _, _) => 0

theorem Leaves.counted {m : Act σ α} {answered : α → σ → Prop} {failed : Fault → σ → Prop}
    (h : m.Leaves s answered failed) (count : α → σ → Nat) :
    m.Leaves s (fun a s' => answered a s' ∧ m.countAfter count s = count a s') failed := by
  apply leaves_of_run
  · intro a s' hrun
    refine ⟨h.of_ok hrun, ?_⟩
    unfold countAfter
    rw [hrun]
  · intro e s' hrun
    exact h.of_error hrun

theorem leaves_forEach {f : β → Act σ Unit} {items : List β} {answered failed : σ → Prop}
    (h : (mapEach f items).Leaves s (fun _ => answered) (fun _ => failed)) :
    (forEach f items).Leaves s (fun _ => answered) (fun _ => failed) := by
  induction items generalizing s with
  | nil => exact h
  | cons b rest ih =>
      rw [leaves_mapEach_cons] at h
      rw [leaves_forEach_cons]
      exact h.mono (fun _ _ hrest => ih hrest) (fun _ _ hfail => hfail)

/-!
# Properties that calls keep
-/

/-- A property that holds after a call if it held before, whatever comes of the call. -/
structure Stable (p : σ → Prop) (m : Act σ α) : Prop where
  after : ∀ s, p s → p (run m s).2

namespace Stable

variable {p q : σ → Prop} {m n : Act σ α}

theorem of_leaves (h : ∀ s, p s → m.Leaves s (fun _ s' => p s') (fun _ s' => p s')) :
    Stable p m := ⟨fun s hs => (h s hs).state⟩

theorem leaves (h : Stable p m) (hs : p s) : m.Leaves s (fun _ s' => p s') (fun _ s' => p s') :=
  Leaves.of_state (h.after s hs)

theorem pure (a : α) : Stable p (pure a : Act σ α) := ⟨fun _ hs => hs⟩

theorem refuse (r : Refusal) : Stable p (refuse r : Act σ α) := ⟨fun _ hs => hs⟩

theorem current : Stable p (current : Act σ σ) := ⟨fun _ hs => hs⟩

theorem note (r : Record) : Stable p (note r : Act σ Unit) := ⟨fun _ hs => hs⟩

theorem update {f : σ → σ} (h : ∀ s, p s → p (f s)) : Stable p (update f) := ⟨h⟩

theorem faulty (x : Except Fault α) : Stable p (liftM x : Act σ α) := by
  cases x <;> exact ⟨fun _ hs => hs⟩

theorem refusable (x : Except Refusal α) : Stable p (liftM x : Act σ α) := by
  cases x <;> exact ⟨fun _ hs => hs⟩

theorem bind {f : α → Act σ β} (hm : Stable p m) (hf : ∀ a, Stable p (f a)) :
    Stable p (m >>= f) := by
  apply of_leaves
  intro s hs
  rw [leaves_bind]
  exact (hm.leaves hs).mono (fun a _ h => (hf a).leaves h) (fun _ _ h => h)

theorem of_current {f : σ → Act σ β} (h : ∀ s, p s → Stable p (f s)) :
    Stable p (Act.current >>= f) := by
  apply of_leaves
  intro s hs
  rw [leaves_bind, leaves_current]
  exact (h s hs).leaves hs

theorem ite {c : Prop} [Decidable c] (hm : Stable p m) (hn : Stable p n) :
    Stable p (if c then m else n) := by
  split
  · exact hm
  · exact hn

theorem within {part : σ → τ} {put : τ → σ → σ} {m : Act τ α} {q : τ → Prop}
    (hpart : ∀ s, p s → q (part s)) (hput : ∀ s t, p s → q t → p (put t s)) (hm : Stable q m) :
    Stable p (Act.within part put m) := by
  constructor
  intro s hs
  rw [run_within]
  exact hput s _ hs (hm.after _ (hpart s hs))

theorem within_aside {part : σ → τ} {put : τ → σ → σ} {m : Act τ α}
    (hput : ∀ s t, p s → p (put t s)) : Stable p (Act.within part put m) := by
  constructor
  intro s hs
  rw [run_within]
  exact hput s _ hs

theorem thenAlways {last : σ → σ} (hm : Stable p m) (hlast : ∀ s, p s → p (last s)) :
    Stable p (m.thenAlways last) := by
  constructor
  intro s hs
  rw [run_thenAlways]
  exact hlast _ (hm.after s hs)

theorem onRefusal {undo : σ → σ} (hm : Stable p m) (hundo : ∀ s, p s → p (undo s)) :
    Stable p (m.onRefusal undo) := by
  apply of_leaves
  intro s hs
  rw [leaves_onRefusal]
  apply (hm.leaves hs).mono (fun _ _ h => h)
  intro e s' h
  cases e with
  | refused r => exact hundo s' h
  | _ => exact h

theorem and (hp : Stable p m) (hq : Stable q m) : Stable (fun s => p s ∧ q s) m :=
  ⟨fun s hs => ⟨hp.after s hs.left, hq.after s hs.right⟩⟩

theorem mapEach {f : β → Act σ α} (hf : ∀ b, Stable p (f b)) (items : List β) :
    Stable p (Act.mapEach f items) := by
  induction items with
  | nil => exact pure []
  | cons b rest ih => exact bind (hf b) fun a => bind ih fun as => pure (a :: as)

theorem forEach {f : β → Act σ Unit} (hf : ∀ b, Stable p (f b)) (items : List β) :
    Stable p (Act.forEach f items) := by
  induction items with
  | nil => exact pure ()
  | cons b rest ih => exact bind (hf b) fun _ => ih

end Stable

/-!
# What a fault leaves standing
-/

def Unfailing (m : Act σ α) : Prop := ∀ s, m.Leaves s (fun _ _ => True) (fun _ _ => False)

theorem Unfailing.bind {f : α → Act σ β} (hm : Unfailing m) (hf : ∀ a, Unfailing (f a)) :
    Unfailing (m >>= f) := by
  intro s
  rw [leaves_bind]
  exact (hm s).mono (fun a s' _ => hf a s') (fun _ _ h => h)

theorem unfailing_pure (a : α) : Unfailing (pure a : Act σ α) := fun _ => trivial

theorem unfailing_update (f : σ → σ) : Unfailing (update f) := fun _ => trivial

theorem unfailing_note (r : Record) : Unfailing (note r : Act σ Unit) := fun _ => trivial

/-- A property that holds after a call that fails if it held before. -/
structure KeptOnFault (p : σ → Prop) (m : Act σ α) : Prop where
  after : ∀ s, p s → m.Leaves s (fun _ _ => True) (fun _ s' => p s')

namespace KeptOnFault

variable {p : σ → Prop} {m n : Act σ α}

theorem of_stable (h : Stable p m) : KeptOnFault p m where
  after _ hs := (h.leaves hs).mono (fun _ _ _ => trivial) (fun _ _ h => h)

theorem of_unfailing (h : Unfailing m) : KeptOnFault p m where
  after s _ := (h s).mono (fun _ _ h => h) (fun _ _ h => h.elim)

theorem bind {f : α → Act σ β} (hm : Stable p m) (hf : ∀ a, KeptOnFault p (f a)) :
    KeptOnFault p (m >>= f) where
  after s hs := by
    rw [leaves_bind]
    exact (hm.leaves hs).mono (fun a s' hs' => (hf a).after s' hs') (fun _ _ h => h)

theorem bind_unfailing {f : α → Act σ β} (hm : KeptOnFault p m) (hf : ∀ a, Unfailing (f a)) :
    KeptOnFault p (m >>= f) where
  after s hs := by
    rw [leaves_bind]
    exact (hm.after s hs).mono (fun a s' _ => (hf a s').mono (fun _ _ h => h) (fun _ _ h => h.elim))
      (fun _ _ h => h)

theorem ite {c : Prop} [Decidable c] (hm : KeptOnFault p m) (hn : KeptOnFault p n) :
    KeptOnFault p (if c then m else n) := by
  split
  · exact hm
  · exact hn

theorem ending (h : KeptOnFault p m) : KeptOnFault p (Act.ending m) :=
  h.bind_unfailing fun _ => unfailing_pure ()

end KeptOnFault

end Act

/-!
# Refusals among the faults
-/

def NeverRefused {α : Type} (x : Except Fault α) : Prop := ∀ r, x ≠ .error (.refused r)

theorem NeverRefused.bind {α β : Type} {x : Except Fault α} {f : α → Except Fault β}
    (hx : NeverRefused x) (hf : ∀ a, NeverRefused (f a)) : NeverRefused (x >>= f) := by
  cases x with
  | ok a => exact hf a
  | error e =>
      intro r hr
      cases hr
      exact hx r rfl

theorem neverRefused_ok {α : Type} (a : α) : NeverRefused (.ok a) := nofun

theorem Fault.eq_of_ofRefusal {r r' : Refusal} (h : Fault.ofRefusal r = .refused r') : r' = r := by
  unfold Fault.ofRefusal at h
  split at h
  · cases h
    rfl
  · cases h

/-- A condition on what a refusal leaves; other faults may leave anything. -/
def WhenRefused {σ : Type} (p : Refusal → σ → Prop) (e : Fault) (s : σ) : Prop :=
  ∀ r, e = .refused r → p r s

theorem whenRefused_ofRefusal {σ : Type} {p : Refusal → σ → Prop} {r : Refusal} {s : σ}
    (h : p r s) : WhenRefused p (.ofRefusal r) s := by
  intro r' hr
  rw [Fault.eq_of_ofRefusal hr]
  exact h

theorem leaves_bind_neverRefused {σ α β : Type} {x : Except Fault β} {f : β → Act σ α} {s : σ}
    {answered : α → σ → Prop} {p : Refusal → σ → Prop} (hx : NeverRefused x)
    (hf : ∀ b, x = .ok b → (f b).Leaves s answered (WhenRefused p)) :
    ((liftM x : Act σ β) >>= f).Leaves s answered (WhenRefused p) := by
  rw [Act.leaves_bind, Act.leaves_faulty]
  exact ⟨hf, fun _ he r hr => absurd (hr ▸ he) (hx r)⟩

end ReserveAccounting
