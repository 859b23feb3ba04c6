import ReserveAccounting.Journal
import ReserveAccounting.Refusal

/-!
# Acts

An act is a call on a state. Whether it succeeds or not, it leaves a state and
the journal records it wrote; a call that fails midway keeps what it has
written before. The laws at the end say how outcome and state pass through a
sequence of acts; neither depends on the journal.
-/

namespace ReserveAccounting

structure Trace (σ α : Type) where
  outcome : Except Fault α
  state : σ
  journal : List Record

def Act (σ α : Type) : Type := σ → Trace σ α

namespace Act

variable {σ τ α β : Type}

protected def pure (a : α) : Act σ α := fun s => ⟨.ok a, s, []⟩

protected def bind (m : Act σ α) (f : α → Act σ β) : Act σ β := fun s =>
  let t := m s
  match t.outcome with
  | .ok a =>
      let u := f a t.state
      ⟨u.outcome, u.state, t.journal ++ u.journal⟩
  | .error e => ⟨.error e, t.state, t.journal⟩

instance : Monad (Act σ) where
  pure := Act.pure
  bind := Act.bind

def fail (e : Fault) : Act σ α := fun s => ⟨.error e, s, []⟩

def refuse (r : Refusal) : Act σ α := fail (.ofRefusal r)

def current : Act σ σ := fun s => ⟨.ok s, s, []⟩

def replace (s : σ) : Act σ Unit := fun _ => ⟨.ok (), s, []⟩

def update (f : σ → σ) : Act σ Unit := fun s => ⟨.ok (), f s, []⟩

def note (r : Record) : Act σ Unit := fun s => ⟨.ok (), s, [r]⟩

def ofExcept : Except Fault α → Act σ α
  | .ok a => Act.pure a
  | .error e => fail e

def ofRefusable : Except Refusal α → Act σ α
  | .ok a => Act.pure a
  | .error r => refuse r

instance : MonadLift (Except Fault) (Act σ) := ⟨ofExcept⟩
instance : MonadLift (Except Refusal) (Act σ) := ⟨ofRefusable⟩

def within (part : σ → τ) (put : τ → σ → σ) (m : Act τ α) : Act σ α := fun s =>
  let t := m (part s)
  ⟨t.outcome, put t.state s, t.journal⟩

/-- A call on a state that is one case of a larger type. -/
def embed (inject : τ → σ) (m : Act τ α) (s : τ) : Trace σ α :=
  let t := m s
  ⟨t.outcome, inject t.state, t.journal⟩

/-- If the call is refused, applies a change to the state before the refusal goes on. -/
def onRefusal (m : Act σ α) (undo : σ → σ) : Act σ α := fun s =>
  let t := m s
  match t.outcome with
  | .error (.refused _) => { t with state := undo t.state }
  | _ => t

/-- Applies a change to the state after the call, whatever came of it. -/
def thenAlways (m : Act σ α) (last : σ → σ) : Act σ α := fun s =>
  let t := m s
  { t with state := last t.state }

def forEach (f : α → Act σ Unit) : List α → Act σ Unit
  | [] => Act.pure ()
  | a :: rest => Act.bind (f a) fun _ => forEach f rest

def mapEach (f : α → Act σ β) : List α → Act σ (List β)
  | [] => Act.pure []
  | a :: rest => Act.bind (f a) fun b => Act.bind (mapEach f rest) fun bs => Act.pure (b :: bs)

/-! ## Outcome and state -/

/-- Outcome and state of a call, the journal left out. -/
def run (m : Act σ α) (s : σ) : Except Fault α × σ := ((m s).outcome, (m s).state)

@[simp] theorem run_pure (a : α) (s : σ) : run (pure a : Act σ α) s = (.ok a, s) := rfl

@[simp] theorem run_fail (e : Fault) (s : σ) : run (fail e : Act σ α) s = (.error e, s) := rfl

@[simp] theorem run_refuse (r : Refusal) (s : σ) :
    run (refuse r : Act σ α) s = (.error (.ofRefusal r), s) := rfl

@[simp] theorem run_current (s : σ) : run (current : Act σ σ) s = (.ok s, s) := rfl

@[simp] theorem run_replace (s s' : σ) : run (replace s') s = (.ok (), s') := rfl

@[simp] theorem run_update (f : σ → σ) (s : σ) : run (update f) s = (.ok (), f s) := rfl

@[simp] theorem run_note (r : Record) (s : σ) : run (note r) s = (.ok (), s) := rfl

theorem run_bind (m : Act σ α) (f : α → Act σ β) (s : σ) :
    run (m >>= f) s =
      match run m s with
      | (.ok a, s') => run (f a) s'
      | (.error e, s') => (.error e, s') := by
  show run (Act.bind m f) s = _
  simp only [run, Act.bind]
  cases (m s).outcome <;> rfl

theorem run_bind_ok {m : Act σ α} {f : α → Act σ β} {s s' : σ} {a : α}
    (h : run m s = (.ok a, s')) : run (m >>= f) s = run (f a) s' := by
  rw [run_bind, h]

theorem run_bind_error {m : Act σ α} {f : α → Act σ β} {s s' : σ} {e : Fault}
    (h : run m s = (.error e, s')) : run (m >>= f) s = (.error e, s') := by
  rw [run_bind, h]

@[simp] theorem run_within (part : σ → τ) (put : τ → σ → σ) (m : Act τ α) (s : σ) :
    run (within part put m) s = ((run m (part s)).1, put (run m (part s)).2 s) := rfl

@[simp] theorem run_thenAlways (m : Act σ α) (last : σ → σ) (s : σ) :
    run (thenAlways m last) s = ((run m s).1, last (run m s).2) := rfl

theorem run_ofRefusable (x : Except Refusal α) (s : σ) :
    run (ofRefusable x : Act σ α) s = (x.mapError Fault.ofRefusal, s) := by
  cases x <;> rfl

end Act
end ReserveAccounting
