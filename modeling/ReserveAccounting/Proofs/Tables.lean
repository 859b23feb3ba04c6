import Mathlib.Algebra.BigOperators.Group.Finset.Basic
import Mathlib.Algebra.Order.BigOperators.Group.Finset
import Mathlib.Algebra.Order.Ring.Int
import ReserveAccounting.Table

/-!
# Laws of tables

A table is known by its keys in their order and by the value at each key. The
laws here say what writing and erasing do to the two, and what writing does to
the sum of all values.
-/

namespace ReserveAccounting
namespace Table

variable {α β : Type} [DecidableEq α]

/-!
# Keys and values
-/

theorem find?_eq_none_iff {k : α} {es : List (α × β)} :
    find? k es = none ↔ k ∉ es.map Prod.fst := by
  induction es with
  | nil => simp [find?]
  | cons e rest ih =>
      rcases e with ⟨k', v⟩
      by_cases h : k' = k
      · simp [find?, h]
      · simp [find?, h, ih, Ne.symm h]

theorem get?_eq_none_iff {t : Table α β} {k : α} : t.get? k = none ↔ k ∉ t.keys :=
  find?_eq_none_iff

theorem mem_keys_of_get? {t : Table α β} {k : α} {v : β} (h : t.get? k = some v) :
    k ∈ t.keys := by
  by_contra hk
  rw [get?_eq_none_iff.mpr hk] at h
  cases h

theorem get?_of_mem_keys {t : Table α β} {k : α} (h : k ∈ t.keys) :
    ∃ v, t.get? k = some v := by
  cases hget : t.get? k with
  | none => exact absurd h (get?_eq_none_iff.mp hget)
  | some v => exact ⟨v, rfl⟩

theorem contains_iff_mem_keys {t : Table α β} {k : α} : t.contains k = true ↔ k ∈ t.keys := by
  unfold contains
  rw [Option.isSome_iff_ne_none, Ne, get?_eq_none_iff, Decidable.not_not]

theorem getD_of_get? {t : Table α β} {k : α} {v : β} (h : t.get? k = some v) (fallback : β) :
    t.getD k fallback = v := by
  simp [getD, h]

theorem getD_put (t : Table α β) (k k' : α) (v fallback : β) :
    (t.put k v).getD k' fallback = if k' = k then v else t.getD k' fallback := by
  unfold getD
  rw [get?_put]
  split <;> rfl

theorem find?_remove (k k' : α) (es : List (α × β)) :
    find? k' (remove k es) = if k' = k then none else find? k' es := by
  induction es with
  | nil => simp [remove, find?]
  | cons e rest ih =>
      rcases e with ⟨k'', v⟩
      by_cases hk : k'' = k
      · subst hk
        rw [remove, List.filter_cons_of_neg (by simp)]
        change find? k' (remove k'' rest) = _
        rw [ih]
        by_cases h : k' = k''
        · simp [h]
        · simp [find?, h, Ne.symm h]
      · rw [remove, List.filter_cons_of_pos (by simpa using hk)]
        change find? k' ((k'', v) :: remove k rest) = _
        by_cases h : k'' = k'
        · subst h
          simp [find?, hk]
        · simp [find?, h, ih]

theorem get?_erase (t : Table α β) (k k' : α) :
    (t.erase k).get? k' = if k' = k then none else t.get? k' :=
  find?_remove k k' t.entries

theorem keys_erase (t : Table α β) (k : α) :
    (t.erase k).keys = t.keys.filter fun k' => decide (k' ≠ k) := by
  simp only [keys, erase, remove, List.filter_map]
  rfl

theorem map_fst_write (k : α) (v : β) (es : List (α × β)) :
    (write k v es).map Prod.fst =
      if k ∈ es.map Prod.fst then es.map Prod.fst else es.map Prod.fst ++ [k] := by
  induction es with
  | nil => simp [write]
  | cons e rest ih =>
      rcases e with ⟨k', v'⟩
      by_cases h : k' = k
      · simp [write, h]
      · have hmem : k ∈ ((k', v') :: rest).map Prod.fst ↔ k ∈ rest.map Prod.fst := by
          simp [Ne.symm h]
        by_cases hk : k ∈ rest.map Prod.fst
        · rw [if_pos (hmem.mpr hk), write, if_neg h, List.map_cons, ih, if_pos hk, List.map_cons]
        · rw [if_neg (fun hm => hk (hmem.mp hm)), write, if_neg h, List.map_cons, ih, if_neg hk,
            List.map_cons, List.cons_append]

theorem keys_put (t : Table α β) (k : α) (v : β) :
    (t.put k v).keys = if k ∈ t.keys then t.keys else t.keys ++ [k] :=
  map_fst_write k v t.entries

theorem entries_eq_of_find? {es es' : List (α × β)} (hnodup : (es.map Prod.fst).Nodup)
    (hkeys : es.map Prod.fst = es'.map Prod.fst)
    (hfind : ∀ k, find? k es = find? k es') : es = es' := by
  induction es generalizing es' with
  | nil =>
      cases es' with
      | nil => rfl
      | cons e rest => cases hkeys
  | cons e rest ih =>
      cases es' with
      | nil => cases hkeys
      | cons e' rest' =>
          rcases e with ⟨k, v⟩
          rcases e' with ⟨k', v'⟩
          simp only [List.map_cons, List.cons.injEq] at hkeys
          rcases hkeys with ⟨rfl, hrest⟩
          rw [List.map_cons, List.nodup_cons] at hnodup
          have hv : v = v' := by
            simpa [find?] using hfind k
          subst hv
          congr 1
          apply ih hnodup.right hrest
          intro k'
          by_cases h : k = k'
          · subst h
            rw [find?_eq_none_iff.mpr hnodup.left,
              find?_eq_none_iff.mpr (hrest ▸ hnodup.left)]
          · simpa [find?, h] using hfind k'

theorem ext_get? {t t' : Table α β} (hkeys : t.keys = t'.keys)
    (hget : ∀ k, t.get? k = t'.get? k) : t = t' := by
  rcases t with ⟨es, hnodup⟩
  rcases t' with ⟨es', hnodup'⟩
  have hes : es = es' := entries_eq_of_find? hnodup hkeys hget
  subst hes
  rfl

theorem put_put (t : Table α β) (k : α) (v w : β) : (t.put k v).put k w = t.put k w := by
  apply ext_get?
  · rw [keys_put, if_pos (mem_keys_put.mpr (Or.inl rfl)), keys_put, keys_put]
  · intro k'
    simp only [get?_put]
    split <;> rfl

theorem put_of_get? {t : Table α β} {k : α} {v : β} (h : t.get? k = some v) : t.put k v = t := by
  apply ext_get?
  · rw [keys_put, if_pos (mem_keys_of_get? h)]
  · intro k'
    rw [get?_put]
    split
    · next heq => rw [heq, h]
    · rfl

theorem ensure_of_get? {t : Table α β} {k : α} {v : β} (h : t.get? k = some v) (fallback : β) :
    t.ensure k fallback = t := by
  simp [ensure, h]

theorem ensure_of_get?_eq_none {t : Table α β} {k : α} (h : t.get? k = none) (fallback : β) :
    t.ensure k fallback = t.put k fallback := by
  simp [ensure, h]

theorem getD_ensure (t : Table α β) (k k' : α) (fallback : β) :
    (t.ensure k fallback).getD k' fallback = t.getD k' fallback := by
  cases h : t.get? k with
  | some v => rw [ensure_of_get? h]
  | none =>
      rw [ensure_of_get?_eq_none h, getD_put]
      split
      · next hk => simp [getD, hk, h]
      · rfl

theorem mem_keys_ensure {t : Table α β} {k x : α} {fallback : β} :
    x ∈ (t.ensure k fallback).keys ↔ x = k ∨ x ∈ t.keys := by
  cases h : t.get? k with
  | some v =>
      rw [ensure_of_get? h]
      constructor
      · exact Or.inr
      · intro hleft
        rcases hleft with rfl | hx
        · exact mem_keys_of_get? h
        · exact hx
  | none => rw [ensure_of_get?_eq_none h, mem_keys_put]

/-!
# Tables that differ at some keys
-/

def putBack (t : Table α β) (k : α) : Option β → Table α β
  | some v => t.put k v
  | none => t.erase k

/-- A table that differs from another at some keys alone; keys that are new stand at the end. -/
structure DiffersAt (p : α → Prop) (t t' : Table α β) : Prop where
  keys : ∃ new, t'.keys = t.keys ++ new ∧ ∀ k ∈ new, p k
  get : ∀ k, ¬ p k → t'.get? k = t.get? k

namespace DiffersAt

variable {p q : α → Prop} {t t' t'' : Table α β} {k : α}

theorem refl (p : α → Prop) (t : Table α β) : DiffersAt p t t where
  keys := ⟨[], (List.append_nil _).symm, fun _ h => absurd h List.not_mem_nil⟩
  get _ _ := rfl

theorem mono (h : DiffersAt p t t') (hpq : ∀ k, p k → q k) : DiffersAt q t t' where
  keys := by
    rcases h.keys with ⟨new, hkeys, hnew⟩
    exact ⟨new, hkeys, fun k hk => hpq k (hnew k hk)⟩
  get k hk := h.get k fun hp => hk (hpq k hp)

theorem trans (h : DiffersAt p t t') (h' : DiffersAt p t' t'') : DiffersAt p t t'' where
  keys := by
    rcases h.keys with ⟨new, hkeys, hnew⟩
    rcases h'.keys with ⟨new', hkeys', hnew'⟩
    refine ⟨new ++ new', by rw [hkeys', hkeys, List.append_assoc], ?_⟩
    intro k hk
    rcases List.mem_append.mp hk with hk | hk
    · exact hnew k hk
    · exact hnew' k hk
  get k hk := (h'.get k hk).trans (h.get k hk)

theorem of_put (hk : p k) (v : β) : DiffersAt p t (t.put k v) where
  keys := by
    rw [keys_put]
    split
    · exact ⟨[], (List.append_nil _).symm, fun _ h => absurd h List.not_mem_nil⟩
    · refine ⟨[k], rfl, ?_⟩
      intro k' hk'
      rw [List.mem_singleton.mp hk']
      exact hk
  get k' hk' := by
    apply get?_put_of_ne
    intro hsame
    rcases hsame with rfl
    exact hk' hk

theorem putBack (h : DiffersAt p t t') (k : α) :
    DiffersAt (fun k' => p k' ∧ k' ≠ k) t (t'.putBack k (t.get? k)) := by
  rcases h.keys with ⟨new, hkeys, hnew⟩
  have hnodup : (t.keys ++ new).Nodup := by
    rw [← hkeys]
    exact t'.nodup
  cases hget : t.get? k with
  | some v =>
      have hk := mem_keys_of_get? hget
      unfold Table.putBack
      constructor
      · refine ⟨new, ?_, ?_⟩
        · rw [keys_put, if_pos (hkeys ▸ List.mem_append_left new hk), hkeys]
        · intro k' hk'
          refine ⟨hnew k' hk', ?_⟩
          intro hsame
          rcases hsame with rfl
          exact (List.nodup_append.mp hnodup).right.right k' hk k' hk' rfl
      · intro k' hk'
        rw [get?_put]
        split
        · next heq => rw [heq, hget]
        · next hne => exact h.get k' fun hp => hk' ⟨hp, hne⟩
  | none =>
      have hk := get?_eq_none_iff.mp hget
      unfold Table.putBack
      constructor
      · refine ⟨new.filter fun k' => decide (k' ≠ k), ?_, ?_⟩
        · rw [keys_erase, hkeys, List.filter_append]
          congr 1
          apply List.filter_eq_self.mpr
          intro k' hk'
          apply decide_eq_true
          intro hsame
          rcases hsame with rfl
          exact hk hk'
        · intro k' hk'
          rw [List.mem_filter] at hk'
          exact ⟨hnew k' hk'.left, of_decide_eq_true hk'.right⟩
      · intro k' hk'
        rw [get?_erase]
        split
        · next heq => rw [heq, hget]
        · next hne => exact h.get k' fun hp => hk' ⟨hp, hne⟩

theorem eq_of_forall_not (h : DiffersAt p t t') (hp : ∀ k, ¬ p k) : t' = t := by
  rcases h.keys with ⟨new, hkeys, hnew⟩
  apply ext_get?
  · cases new with
    | nil => rw [hkeys, List.append_nil]
    | cons k rest => exact absurd (hnew k List.mem_cons_self) (hp k)
  · intro k
    exact h.get k (hp k)

end DiffersAt

/-!
# Sums of values
-/

theorem sum_snd_write (k : α) (v : Int) (es : List (α × Int)) :
    ((write k v es).map Prod.snd).sum =
      (es.map Prod.snd).sum - (find? k es).getD 0 + v := by
  induction es with
  | nil => simp [write, find?]
  | cons e rest ih =>
      rcases e with ⟨k', v'⟩
      by_cases h : k' = k
      · simp only [write, find?, if_pos h, List.map_cons, List.sum_cons, Option.getD_some]
        omega
      · simp only [write, find?, if_neg h, List.map_cons, List.sum_cons, ih]
        omega

theorem sum_values_put (t : Table α Int) (k : α) (v : Int) :
    (t.put k v).values.sum = t.values.sum - t.getD k 0 + v :=
  sum_snd_write k v t.entries

theorem sum_values_ensure (t : Table α Int) (k : α) :
    (t.ensure k 0).values.sum = t.values.sum := by
  cases h : t.get? k with
  | some v => rw [ensure_of_get? h]
  | none =>
      rw [ensure_of_get?_eq_none h, sum_values_put]
      simp [getD, h]

theorem map_find?_fst {es : List (α × Int)} (hnodup : (es.map Prod.fst).Nodup) :
    (es.map Prod.fst).map (fun k => (find? k es).getD 0) = es.map Prod.snd := by
  induction es with
  | nil => rfl
  | cons e rest ih =>
      rcases e with ⟨k, v⟩
      rw [List.map_cons, List.nodup_cons] at hnodup
      have hrest : (rest.map Prod.fst).map (fun k' => (find? k' ((k, v) :: rest)).getD 0) =
          (rest.map Prod.fst).map (fun k' => (find? k' rest).getD 0) := by
        apply List.map_congr_left
        intro k' hk'
        have hne : k ≠ k' := by
          intro hsame
          rcases hsame with rfl
          exact hnodup.left hk'
        simp [find?, hne]
      rw [List.map_cons, List.map_cons, hrest, ih hnodup.right]
      simp [find?]

theorem sum_getD {t : Table α Int} {U : Finset α} (h : ∀ k ∈ t.keys, k ∈ U) :
    ∑ k ∈ U, t.getD k 0 = t.values.sum := by
  have hsubset : t.keys.toFinset ⊆ U := by
    intro k hk
    exact h k (List.mem_toFinset.mp hk)
  have hzero : ∀ k ∈ U, k ∉ t.keys.toFinset → t.getD k 0 = 0 := by
    intro k _ hk
    have hnone := get?_eq_none_iff.mpr (fun hmem => hk (List.mem_toFinset.mpr hmem))
    simp [getD, hnone]
  have hkeys : t.keys.Nodup := t.nodup
  rw [← Finset.sum_subset hsubset hzero, List.sum_toFinset _ hkeys]
  exact congrArg List.sum (map_find?_fst t.nodup)

theorem getD_le_sum {t : Table α Int} (h : ∀ k, 0 ≤ t.getD k 0) (k : α) :
    t.getD k 0 ≤ t.values.sum := by
  have hkeys : ∀ k' ∈ t.keys, k' ∈ insert k t.keys.toFinset :=
    fun k' hk' => Finset.mem_insert_of_mem (List.mem_toFinset.mpr hk')
  rw [← sum_getD hkeys]
  exact Finset.single_le_sum (f := fun k => t.getD k 0) (fun k' _ => h k')
    (Finset.mem_insert_self k _)

end Table
end ReserveAccounting
