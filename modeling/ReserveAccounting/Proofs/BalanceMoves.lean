import ReserveAccounting.Proofs.BookedShares

/-!
# Balances after a change

A change of the books is asked for in amounts and made in shares. The shares are
the quotient of the amount, and from an index of one on they are never cut to
what is held. So the balances that are read before and after differ by the
amount, up to half of the index, in ray, and a unit for the two readings.
-/

namespace ReserveAccounting

open FixedPoint

namespace ShareLedger

variable {l l' : ShareLedger} {holder sender recipient : String}
  {amount index n before after : Int}

/-!
# Amounts that are posted
-/

/--
The balances of some holders have moved by amounts, up to half of the index and a
unit; all others are what they were.
-/
structure Posts (l : ShareLedger) (index : Int) (amounts : List (String × Int))
    (l' : ShareLedger) : Prop where
  moved : ∀ entry ∈ amounts, ∀ before after, l.balanceOf entry.1 index = .ok before →
    l'.balanceOf entry.1 index = .ok after →
      2 * ray * |entry.2 - (after - before)| ≤ index + 2 * ray ∧
      (index < 2 * ray → |entry.2 - (after - before)| ≤ 1)
  others : ∀ holder, (∀ entry ∈ amounts, Text.lower holder ≠ Text.lower entry.1) →
    ∀ index, l'.balanceOf holder index = l.balanceOf holder index

theorem moved_of_shares (hshares : |index * n - amount * ray| ≤ index / 2)
    (hheld : l'.held (Text.lower holder) = l.held (Text.lower holder) + n)
    (hbefore : l.balanceOf holder index = .ok before)
    (hafter : l'.balanceOf holder index = .ok after) :
    2 * ray * |amount - (after - before)| ≤ index + 2 * ray ∧
      (index < 2 * ray → |amount - (after - before)| ≤ 1) := by
  unfold balanceOf at hbefore hafter
  rw [sharesOf_eq_held] at hbefore hafter
  rw [hheld] at hafter
  have hnear := abs_gain_sub_le hshares hbefore hafter
  refine ⟨hnear, fun hbelow => ?_⟩
  simp only [ray] at *
  omega

theorem balanceOf_congr (h : l'.held (Text.lower holder) = l.held (Text.lower holder))
    (index : Int) : l'.balanceOf holder index = l.balanceOf holder index := by
  unfold balanceOf
  rw [sharesOf_eq_held, sharesOf_eq_held, h]

theorem abs_rayDiv_neg_sub_le (h : rayDiv amount index = .ok n) :
    |index * -n - -amount * ray| ≤ index / 2 := by
  have hsplit : index * -n - -amount * ray = -(index * n - amount * ray) := by ring
  rw [hsplit, abs_neg]
  exact abs_rayDiv_sub_le h

/-!
# What each change posts
-/

theorem Credits.posts (h : l.Credits (Text.lower holder) n l')
    (hn : rayDiv amount index = .ok n) : l.Posts index [(holder, amount)] l' where
  moved entry hentry before after hbefore hafter := by
    rcases List.mem_singleton.mp hentry with rfl
    apply moved_of_shares (abs_rayDiv_sub_le hn) _ hbefore hafter
    rw [h.held_eq, if_pos rfl]
  others x hx := by
    apply balanceOf_congr
    rw [h.held_eq, if_neg (hx (holder, amount) List.mem_cons_self)]

theorem Debits.posts (h : l.Debits (Text.lower holder) n l')
    (hn : rayDiv amount index = .ok n) : l.Posts index [(holder, -amount)] l' where
  moved entry hentry before after hbefore hafter := by
    rcases List.mem_singleton.mp hentry with rfl
    apply moved_of_shares (abs_rayDiv_neg_sub_le hn) _ hbefore hafter
    rw [h.held_eq, if_pos rfl, sub_eq_add_neg]
  others x hx := by
    apply balanceOf_congr
    rw [h.held_eq, if_neg (hx (holder, -amount) List.mem_cons_self)]

theorem Moves.posts (h : l.Moves (Text.lower sender) (Text.lower recipient) n l')
    (hn : rayDiv amount index = .ok n) (hdistinct : Text.lower sender ≠ Text.lower recipient) :
    l.Posts index [(sender, -amount), (recipient, amount)] l' where
  moved entry hentry before after hbefore hafter := by
    rcases List.mem_pair.mp hentry with rfl | rfl
    · apply moved_of_shares (abs_rayDiv_neg_sub_le hn) _ hbefore hafter
      rw [h.held_eq, if_pos rfl, if_neg hdistinct, add_zero, sub_eq_add_neg]
    · apply moved_of_shares (abs_rayDiv_sub_le hn) _ hbefore hafter
      rw [h.held_eq, if_neg hdistinct.symm, if_pos rfl, sub_zero]
  others x hx := by
    apply balanceOf_congr
    exact h.held_of_ne (hx (sender, -amount) List.mem_cons_self)
      (hx (recipient, amount) (List.mem_cons_of_mem _ List.mem_cons_self))

/-!
# What the calls post
-/

/--
From an index of one on, a mint raises the balance of its holder by its amount, a
burn lowers it by the amount that it answers, and a transfer between two holders
does both, each up to half of the index and a unit; nobody else's balance changes.
Below an index of two this is exact to one unit.
-/
theorem balances_move_by_amount (hindex : ray ≤ index) :
    (∀ first l', Act.run (mint holder amount index) l = (.ok first, l') →
      l.Posts index [(holder, amount)] l') ∧
    (∀ burned l', Act.run (burn holder amount index) l = (.ok burned, l') →
      l.Posts index [(holder, -burned)] l') ∧
    (Text.lower sender ≠ Text.lower recipient →
      ∀ moved l', Act.run (transfer sender recipient amount index) l = (.ok moved, l') →
        l.Posts index [(sender, -amount), (recipient, amount)] l') := by
  refine ⟨fun first l' hrun => ?_, fun burned l' hrun => ?_, fun hdistinct moved l' hrun => ?_⟩
  · rcases leaves_mint.of_ok hrun with ⟨n, hcredits, hn⟩
    exact hcredits.posts hn
  · rcases leaves_burn.of_ok hrun with ⟨n, hdebits, hasked⟩
    exact hdebits.posts (hasked.rayDiv_eq (answers_burn.of_ok hrun) hindex)
  · rcases answers_transfer.of_ok hrun with ⟨n, hasked, hmoves⟩
    exact hmoves.posts (hasked.rayDiv_eq hindex) hdistinct

/--
At an index of five a mint of three raises a balance by five, and a transfer of
eight moves ten, which is off by less than half of the index and a unit.
-/
theorem balances_move_by_amount_at_five :
    let l : ShareLedger := ⟨.ofList [("alice", 3), ("bob", 1), ("carol", 2)], 6⟩
    ray ≤ 5 * ray ∧ Text.lower "alice" ≠ Text.lower "Bob" ∧
      (∃ first l', Act.run (mint "Alice" 3 (5 * ray)) l = (.ok first, l') ∧
        l.Posts (5 * ray) [("Alice", 3)] l' ∧
        l.balanceOf "Alice" (5 * ray) = .ok 15 ∧ l'.balanceOf "Alice" (5 * ray) = .ok 20) ∧
      ∃ moved l', Act.run (transfer "alice" "Bob" 8 (5 * ray)) l = (.ok moved, l') ∧
        l.Posts (5 * ray) [("alice", -8), ("Bob", 8)] l' ∧
        l.balanceOf "Bob" (5 * ray) = .ok 5 ∧ l'.balanceOf "Bob" (5 * ray) = .ok 15 := by
  intro l
  have hindex : ray ≤ 5 * ray := by decide
  have hdistinct : Text.lower "alice" ≠ Text.lower "Bob" := by decide +kernel
  have hmint : (Act.run (mint "Alice" 3 (5 * ray)) l).1 = .ok false :=
    Act.eq_ok_of_toOption (by decide +kernel)
  have hsend : (Act.run (transfer "alice" "Bob" 8 (5 * ray)) l).1 = .ok 2 :=
    Act.eq_ok_of_toOption (by decide +kernel)
  have hminted := Act.run_of_outcome hmint
  have hsent := Act.run_of_outcome hsend
  have hposts := @balances_move_by_amount l "Alice" "alice" "Bob"
  exact ⟨hindex, hdistinct,
    ⟨_, _, hminted, (hposts hindex).left _ _ hminted, Act.eq_ok_of_toOption (by decide +kernel),
      Act.eq_ok_of_toOption (by decide +kernel)⟩,
    _, _, hsent, (hposts hindex).right.right hdistinct _ _ hsent,
    Act.eq_ok_of_toOption (by decide +kernel), Act.eq_ok_of_toOption (by decide +kernel)⟩

end ShareLedger
end ReserveAccounting
