import Mathlib.Data.List.DropRight
import ReserveAccounting.Proofs.IndexGrowth
import ReserveAccounting.Proofs.Rounding

/-!
# Histories of the index

A reserve remembers the last of its commits. The commits of a run can be read
off the index before and after each call; the history is the end of that list,
after the value that the reserve started with, and no longer than its bound.
-/

namespace ReserveAccounting

open FixedPoint

/-!
# The last commits
-/

variable {α : Type}

theorem rtake_rtake_succ (entries : List α) (n : Nat) :
    (entries.rtake (n + 1)).rtake n = entries.rtake n := by
  rw [List.rtake_eq_reverse_take_reverse, List.rtake_eq_reverse_take_reverse,
    List.rtake_eq_reverse_take_reverse, List.reverse_reverse, List.take_take,
    Nat.min_eq_left (Nat.le_succ n)]

theorem rtake_min_length (entries : List α) (n : Nat) :
    entries.rtake (min entries.length n) = entries.rtake n := by
  unfold List.rtake
  congr 1
  omega

namespace ReserveIndex

variable {r r' : ReserveIndex} {log : List IndexCommit} {index bound : Int} {reason : String}

theorem window_eq_rtake (hbound : 1 ≤ bound) (entries : List IndexCommit) :
    window bound entries = entries.rtake bound.toNat := by
  unfold window List.rtake
  split
  · rw [Nat.sub_eq_zero_of_le (by omega), List.drop_zero]
  · rw [if_pos (by omega)]

theorem window_append (hbound : 1 ≤ bound) (log : List IndexCommit) (commit : IndexCommit) :
    window bound (log.rtake bound.toNat ++ [commit]) = (log ++ [commit]).rtake bound.toNat := by
  obtain ⟨n, hn⟩ : ∃ n, bound.toNat = n + 1 := ⟨bound.toNat - 1, by omega⟩
  rw [window_eq_rtake hbound, hn, List.rtake_concat_succ, List.rtake_concat_succ, rtake_rtake_succ]

/-!
# Reserves with a log
-/

/--
A log of all commits since the reserve started: they grow strictly, the last of
them is the present index, and the history is the end of the log.
-/
structure Logs (log : List IndexCommit) (r : ReserveIndex) : Prop where
  bound : 1 ≤ r.maxHistory
  positive : 0 < r.liquidityIndex
  increasing : log.Pairwise fun earlier later => earlier.index < later.index
  below : ∀ entry ∈ log, entry.index ≤ r.liquidityIndex
  last : log.getLast?.map IndexCommit.index = some r.liquidityIndex
  history : r.history = log.rtake r.maxHistory.toNat

theorem logs_startAs (asset : Document) (hindex : 0 < index) (hbound : 1 ≤ bound) :
    ∃ r, startAs asset index bound = .ok r ∧ r.maxHistory = bound ∧ Logs [⟨index, "init"⟩] r := by
  refine ⟨⟨asset, index, [⟨index, "init"⟩], bound⟩, if_neg (not_le.mpr hindex), rfl, hbound, hindex,
    List.pairwise_singleton _ _, ?_, rfl, ?_⟩
  · intro entry hentry
    rw [List.mem_singleton.mp hentry]
  · have hkept : min [IndexCommit.mk index "init"].length bound.toNat = 1 :=
      Nat.min_eq_left (by rw [List.length_singleton]; omega)
    change [IndexCommit.mk index "init"] = List.rtake _ bound.toNat
    rw [← rtake_min_length, hkept]
    rfl

theorem Logs.commit (h : Logs log r) (hindex : r.liquidityIndex < index) (reason : String) :
    Logs (log ++ [⟨index, reason⟩]) (r.commit index reason) where
  bound := h.bound
  positive := h.positive.trans hindex
  increasing := by
    rw [List.pairwise_append]
    refine ⟨h.increasing, List.pairwise_singleton _ _, ?_⟩
    intro entry hentry later hlater
    rw [List.mem_singleton.mp hlater]
    exact (h.below entry hentry).trans_lt hindex
  below := by
    intro entry hentry
    rcases List.mem_append.mp hentry with hold | hnew
    · exact (h.below entry hold).trans hindex.le
    · rw [List.mem_singleton.mp hnew]
      exact Int.le_refl index
  last := by
    rw [List.getLast?_append]
    rfl
  history := by
    change window r.maxHistory (r.history ++ [⟨index, reason⟩]) = _
    rw [h.history]
    exact window_append h.bound log _

/-- The history keeps the present index at its end, also where it keeps nothing else. -/
theorem Logs.getLast_history (h : Logs log r) :
    r.history.getLast?.map IndexCommit.index = some r.liquidityIndex := by
  have hbound := h.bound
  have hlast := h.last
  obtain ⟨n, hn⟩ : ∃ n, r.maxHistory.toNat = n + 1 := ⟨r.maxHistory.toNat - 1, by omega⟩
  rw [h.history, hn]
  rcases List.eq_nil_or_concat log with rfl | ⟨earlier, entry, rfl⟩
  · cases hlast
  · rw [List.concat_eq_append] at hlast ⊢
    rw [List.rtake_concat_succ, List.getLast?_append]
    rw [List.getLast?_append] at hlast
    exact hlast

theorem Logs.history_increasing (h : Logs log r) :
    r.history.Pairwise fun earlier later => earlier.index < later.index := by
  rw [h.history]
  exact h.increasing.sublist (List.drop_sublist _ _)

/-!
# What calls do to the index
-/

def Grows (r : ReserveIndex) (reason : String) (r' : ReserveIndex) : Prop :=
  r' = r ∨ ∃ index, r.liquidityIndex < index ∧ r' = r.commit index reason

theorem grows_raise :
    (raise index reason).Leaves r (fun _ r' => r.Grows reason r') (fun _ r' => r' = r) := by
  unfold raise
  rw [Act.leaves_bind, Act.leaves_current, Act.leaves_bind, Act.leaves_refusable]
  refine ⟨fun _ hadmits => ?_, fun _ _ => rfl⟩
  rw [Act.leaves_ite]
  refine ⟨fun _ => Or.inl rfl, fun hother => Or.inr ⟨index, ?_, rfl⟩⟩
  have hle := (admits_eq_ok.mp hadmits).right
  omega

theorem grows_cumulate {totalLiquidity amount : Int} :
    (cumulate totalLiquidity amount).Leaves r (fun _ r' => r.Grows "premium" r')
      (fun _ r' => r' = r) := by
  unfold cumulate
  rw [Act.leaves_bind, Act.leaves_current, Act.leaves_bind, Act.leaves_refusable]
  exact ⟨fun _ _ => grows_raise, fun _ _ => rfl⟩

theorem le_cumulated {totalLiquidity amount : Int}
    (h : r.cumulated totalLiquidity amount = .ok index) : r.liquidityIndex ≤ index := by
  unfold cumulated at h
  split at h
  · cases h
  · split at h
    · cases h
    · rcases Act.exists_of_bind_ok h with ⟨amountRay, _, h⟩
      rcases Act.exists_of_bind_ok h with ⟨totalRay, _, h⟩
      rcases Act.exists_of_bind_ok h with ⟨ratio, hratio, h⟩
      have hnonneg := rayDiv_nonneg hratio
      rcases rayMul_ok h with ⟨_, _, hindex, rfl⟩
      rw [Int.le_ediv_iff_mul_le (by decide)]
      have hfactor : ray * r.liquidityIndex ≤ (ratio + ray) * r.liquidityIndex :=
        Int.mul_le_mul_of_nonneg_right (by omega) hindex
      rw [Int.mul_comm r.liquidityIndex]
      have hhalf : 0 ≤ ray / 2 := by decide
      omega

theorem run_cumulate {totalLiquidity amount : Int} (hpositive : 0 < r.liquidityIndex)
    (h : r.cumulated totalLiquidity amount = .ok index) :
    (Act.run (cumulate totalLiquidity amount) r).1 = .ok index := by
  have hle := le_cumulated h
  have hadmits : r.admits index = .ok () := admits_eq_ok.mpr ⟨hpositive.trans_le hle, hle⟩
  unfold cumulate raise
  rw [Act.run_bind_ok (Act.run_current r), h, Act.bind_refusable,
    Act.run_bind_ok (Act.run_current r), hadmits, Act.bind_refusable]
  split <;> rfl

end ReserveIndex

/-!
# Runs
-/

inductive IndexCall where
  | raise (index : Int) (reason : String)
  | validate (index : Int)
  | cumulate (totalLiquidity amount : Int)

namespace IndexCall

variable {r : ReserveIndex} {log : List IndexCommit} {c : IndexCall}

def perform : IndexCall → Act ReserveIndex Unit
  | raise index reason => Act.ending (ReserveIndex.raise index reason)
  | validate index => do
      let r ← Act.current
      r.admits index
  | cumulate totalLiquidity amount => Act.ending (ReserveIndex.cumulate totalLiquidity amount)

def reason : IndexCall → String
  | raise _ reason => reason
  | validate _ => ""
  | cumulate _ _ => "premium"

def after (c : IndexCall) (r : ReserveIndex) : ReserveIndex := (Act.run c.perform r).2

def afterAll : List IndexCall → ReserveIndex → ReserveIndex
  | [], r => r
  | c :: rest, r => afterAll rest (c.after r)

def committed (c : IndexCall) (r : ReserveIndex) : List IndexCommit :=
  if (c.after r).liquidityIndex = r.liquidityIndex then []
  else [⟨(c.after r).liquidityIndex, c.reason⟩]

def commits : List IndexCall → ReserveIndex → List IndexCommit
  | [], _ => []
  | c :: rest, r => c.committed r ++ commits rest (c.after r)

theorem grows_perform (c : IndexCall) :
    c.perform.Leaves r (fun _ r' => r.Grows c.reason r') (fun _ r' => r' = r) := by
  cases c with
  | raise index reason => exact Act.leaves_ending.mpr ReserveIndex.grows_raise
  | validate index =>
      unfold perform
      rw [Act.leaves_bind, Act.leaves_current, Act.leaves_refusable]
      exact ⟨fun _ _ => Or.inl rfl, fun _ _ => rfl⟩
  | cumulate totalLiquidity amount => exact Act.leaves_ending.mpr ReserveIndex.grows_cumulate

theorem grows_after (c : IndexCall) (r : ReserveIndex) : r.Grows c.reason (c.after r) :=
  ((grows_perform c).mono (fun _ _ h => h) (fun _ _ h => Or.inl h)).state

theorem le_index_after (c : IndexCall) (r : ReserveIndex) :
    r.liquidityIndex ≤ (c.after r).liquidityIndex := by
  rcases c.grows_after r with hsame | ⟨index, hlt, hcommit⟩
  · rw [hsame]
  · rw [hcommit]
    exact hlt.le

theorem after_of_refused {e : Fault} (h : (Act.run c.perform r).1 = .error e) : c.after r = r :=
  (grows_perform c).of_error (Prod.ext h rfl)

theorem after_validate (index : Int) (r : ReserveIndex) : (validate index).after r = r := by
  have hleaves : (validate index).perform.Leaves r (fun _ r' => r' = r) (fun _ r' => r' = r) := by
    unfold perform
    rw [Act.leaves_bind, Act.leaves_current, Act.leaves_refusable]
    exact ⟨fun _ _ => rfl, fun _ _ => rfl⟩
  exact hleaves.state

theorem logs_after (h : ReserveIndex.Logs log r) (c : IndexCall) :
    ReserveIndex.Logs (log ++ c.committed r) (c.after r) := by
  unfold committed
  rcases c.grows_after r with hsame | ⟨index, hlt, hcommit⟩
  · rw [hsame, if_pos rfl, List.append_nil]
    exact h
  · have hindex : (c.after r).liquidityIndex = index := by rw [hcommit]; rfl
    rw [hindex, if_neg hlt.ne', hcommit]
    exact h.commit hlt c.reason

theorem logs_afterAll (calls : List IndexCall) (h : ReserveIndex.Logs log r) :
    ReserveIndex.Logs (log ++ commits calls r) (afterAll calls r) := by
  induction calls generalizing log r with
  | nil =>
      rw [commits, List.append_nil]
      exact h
  | cons c rest ih =>
      rw [commits, ← List.append_assoc]
      exact ih (logs_after h c)

theorem maxHistory_after (c : IndexCall) (r : ReserveIndex) :
    (c.after r).maxHistory = r.maxHistory := by
  rcases c.grows_after r with hsame | ⟨index, _, hcommit⟩
  · rw [hsame]
  · rw [hcommit]
    rfl

theorem maxHistory_afterAll (calls : List IndexCall) (r : ReserveIndex) :
    (afterAll calls r).maxHistory = r.maxHistory := by
  induction calls generalizing r with
  | nil => rfl
  | cons c rest ih => exact (ih (c.after r)).trans (maxHistory_after c r)

/--
After any calls on a reserve that has started, the next call does not lower the
index, and leaves everything as it is if it is refused or only validates; what
spreading comes to is accepted. The history grows strictly, ends in the present
index, and holds the last of the commits, as many as its bound admits.
-/
theorem history_of_commits (asset : Document) (index bound : Int) (calls : List IndexCall)
    (hindex : 0 < index) (hbound : 1 ≤ bound) :
    ∃ start, ReserveIndex.startAs asset index bound = .ok start ∧
      let r := afterAll calls start
      let log := ⟨index, "init"⟩ :: commits calls start
      (∀ c : IndexCall, r.liquidityIndex ≤ (c.after r).liquidityIndex ∧
        ((∃ e, (Act.run c.perform r).1 = .error e) → c.after r = r)) ∧
      (∀ i, (validate i).after r = r) ∧
      (∀ totalLiquidity amount i, r.cumulated totalLiquidity amount = .ok i →
        (Act.run (ReserveIndex.cumulate totalLiquidity amount) r).1 = .ok i) ∧
      r.history.Pairwise (fun earlier later => earlier.index < later.index) ∧
      r.history.getLast?.map IndexCommit.index = some r.liquidityIndex ∧
      r.history = log.rtake (min ((commits calls start).length + 1) bound.toNat) := by
  rcases ReserveIndex.logs_startAs asset hindex hbound with ⟨start, hstart, hmax, hlogs⟩
  have hafter := logs_afterAll calls hlogs
  refine ⟨start, hstart, ?_, ?_, ?_, hafter.history_increasing, hafter.getLast_history, ?_⟩
  · intro c
    refine ⟨c.le_index_after _, ?_⟩
    rintro ⟨e, hrefused⟩
    exact after_of_refused hrefused
  · exact fun i => after_validate i _
  · intro totalLiquidity amount i hcumulated
    exact ReserveIndex.run_cumulate hafter.positive hcumulated
  · rw [hafter.history, maxHistory_afterAll, hmax, ← rtake_min_length]
    rfl

/-- Of five calls one repeats the index, two are refused, two commit; the first value is dropped. -/
theorem history_of_commits_bound_two :
    let calls : List IndexCall :=
      [raise ray "accrual", raise (2 * ray) "accrual", raise ray "accrual", validate 0,
        cumulate 100 1]
    let committed : List IndexCommit :=
      [⟨2 * ray, "accrual"⟩, ⟨2020000000000000000000000000, "premium"⟩]
    ∃ start, ReserveIndex.startAs (.text "USDC") ray 2 = .ok start ∧
      commits calls start = committed ∧ (afterAll calls start).history = committed ∧
      (afterAll calls start).liquidityIndex = 2020000000000000000000000000 := by
  intro calls committed
  rcases history_of_commits (.text "USDC") ray 2 calls (by decide) (by decide) with
    ⟨start, hstart, _, _, _, _, _, hhistory⟩
  cases hstart
  have hcommits : commits calls ⟨.text "USDC", ray, [⟨ray, "init"⟩], 2⟩ = committed := by
    decide +kernel
  refine ⟨_, rfl, hcommits, ?_, by decide +kernel⟩
  rw [hhistory, hcommits]
  rfl

end IndexCall
end ReserveAccounting
