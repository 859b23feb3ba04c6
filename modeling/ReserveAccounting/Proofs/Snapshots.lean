import ReserveAccounting.Proofs.RewardStates
import ReserveAccounting.Proofs.ShareChanges
import ReserveAccounting.Proofs.TokenWalks
import ReserveAccounting.StaticVault

/-!
# Snapshots read back

Each part of a token and of a vault is read back from its snapshot as it was,
down to the order of its names, but for what a snapshot does not tell: events,
the history of the index and the count of the rates read.
-/

namespace ReserveAccounting

open FixedPoint

/-!
# Tables from their entries
-/

namespace Table

variable {α β : Type} [DecidableEq α] {t u : Table α β} {es : List (α × β)}

def putAll (es : List (α × β)) (t : Table α β) : Table α β :=
  es.foldl (fun t e => t.put e.1 e.2) t

theorem get?_putAll (hnodup : (es.map Prod.fst).Nodup) (t : Table α β) (k : α) :
    (putAll es t).get? k = (find? k es).or (t.get? k) := by
  induction es generalizing t with
  | nil => rfl
  | cons e rest ih =>
      rcases e with ⟨k', v⟩
      rw [List.map_cons, List.nodup_cons] at hnodup
      change (putAll rest (t.put k' v)).get? k = _
      rw [ih hnodup.right, get?_put]
      by_cases h : k' = k
      · subst h
        simp [find?, find?_eq_none_iff.mpr hnodup.left]
      · simp [find?, h, Ne.symm h]

theorem keys_putAll_of_mem (h : ∀ e ∈ es, e.1 ∈ t.keys) : (putAll es t).keys = t.keys := by
  induction es generalizing t with
  | nil => rfl
  | cons e rest ih =>
      have hkeys : (t.put e.1 e.2).keys = t.keys := by
        rw [keys_put, if_pos (h e List.mem_cons_self)]
      change (putAll rest (t.put e.1 e.2)).keys = t.keys
      rw [ih, hkeys]
      intro e' he'
      rw [hkeys]
      exact h e' (List.mem_cons_of_mem e he')

theorem keys_putAll_of_not_mem (hnodup : (es.map Prod.fst).Nodup) (h : ∀ e ∈ es, e.1 ∉ t.keys) :
    (putAll es t).keys = t.keys ++ es.map Prod.fst := by
  induction es generalizing t with
  | nil => exact (List.append_nil _).symm
  | cons e rest ih =>
      rw [List.map_cons, List.nodup_cons] at hnodup
      have hkeys : (t.put e.1 e.2).keys = t.keys ++ [e.1] := by
        rw [keys_put, if_neg (h e List.mem_cons_self)]
      change (putAll rest (t.put e.1 e.2)).keys = _
      rw [ih hnodup.right, hkeys]
      · simp
      · intro e' he'
        rw [hkeys, List.mem_append, List.mem_singleton, not_or]
        refine ⟨h e' (List.mem_cons_of_mem e he'), ?_⟩
        intro heq
        exact hnodup.left (heq ▸ List.mem_map_of_mem he')

theorem putAll_of_keys (h : t.keys = u.keys) : putAll u.toList t = u := by
  apply ext_get?
  · rw [keys_putAll_of_mem, h]
    intro e he
    rw [h]
    exact List.mem_map_of_mem he
  · intro k
    have hput : (putAll u.toList t).get? k = (u.get? k).or (t.get? k) := get?_putAll u.nodup t k
    rw [hput]
    cases hget : u.get? k with
    | some v => rfl
    | none =>
        rw [get?_eq_none_iff, ← h, ← get?_eq_none_iff] at hget
        rw [hget]
        rfl

theorem putAll_empty (u : Table α β) : putAll u.toList ∅ = u := by
  apply ext_get?
  · exact keys_putAll_of_not_mem u.nodup fun _ _ => List.not_mem_nil
  · intro k
    exact (get?_putAll u.nodup ∅ k).trans Option.or_none

end Table

/-!
# Fields of a record
-/

namespace Document

variable {fields : List (String × Document)} {key : String} {v : Document}

theorem field?_record : (record fields).field? key = .ok (fields.lookup key) :=
  congrArg Except.ok (lookup_record fields key)

theorem fieldOr_record {fallback : Document} :
    (record fields).fieldOr key fallback = .ok ((fields.lookup key).getD fallback) := by
  unfold fieldOr
  rw [field?_record]
  rfl

theorem require_record (h : fields.lookup key = some v) : (record fields).require key = .ok v := by
  unfold require
  rw [field?_record, h]
  rfl

end Document

/-!
# The parts of a token
-/

namespace ShareLedger

theorem sharesOfDocument_shown {es : List (String × Int)}
    (h : ∀ e ∈ es, Text.lower e.1 = e.1) (t : Table String Int) :
    sharesOfDocument (es.map fun e => (.text e.1, .int e.2)) t = .ok (Table.putAll es t) := by
  induction es generalizing t with
  | nil => rfl
  | cons e rest ih =>
      rw [List.map_cons]
      change sharesOfDocument (rest.map _) (t.put (Text.lower e.1) e.2) = _
      rw [h e List.mem_cons_self, ih fun e' he' => h e' (List.mem_cons_of_mem e he')]
      rfl

theorem ofDocument_toDocument {l : ShareLedger} (h : ∀ name ∈ l.shares.keys, Text.lower name = name) :
    ofDocument l.toDocument = .ok l := by
  have hshares : sharesOfDocument ((l.shares.toList.map fun e => (e.1, Document.int e.2)).map
      fun f => (.text f.1, f.2)) ∅ = .ok l.shares := by
    rw [List.map_map]
    exact (sharesOfDocument_shown (fun e he => h e.1 (List.mem_map_of_mem he)) ∅).trans
      (congrArg Except.ok (Table.putAll_empty l.shares))
  unfold ofDocument toDocument
  rw [Document.fieldOr_record]
  change (sharesOfDocument ((l.shares.toList.map fun e => (e.1, Document.int e.2)).map
      fun f => (.text f.1, f.2)) ∅ >>= fun shares => .ok (⟨shares, l.totalShares⟩ : ShareLedger)) = .ok l
  rw [hshares]
  rfl

end ShareLedger

namespace ReserveIndex

theorem ofDocument_toDocument {r : ReserveIndex} (h : 0 < r.liquidityIndex) :
    ofDocument r.toDocument =
      .ok (r.withHistory ([⟨r.liquidityIndex, "init"⟩], defaultMaxHistory)) := by
  unfold ofDocument toDocument
  rw [Document.fieldOr_record, Document.fieldOr_record]
  change (startAs r.asset r.liquidityIndex defaultMaxHistory).mapError Fault.ofRefusal = _
  unfold startAs
  rw [if_neg (by omega)]
  rfl

theorem named_withHistory (h : List IndexCommit × Int) (r : ReserveIndex) (asset : Document) :
    (r.withHistory h).named asset = (r.named asset).withHistory h := by
  unfold named
  change (if r.asset.isGiven then _ else _) = _
  split <;> rfl

end ReserveIndex

namespace RebasingLedger

theorem ofDocument_toDocument {w : RebasingLedger} (hpinned : w.pinned = none)
    (h : ∀ name ∈ w.ledger.shares.keys, Text.lower name = name) :
    ofDocument w.toDocument w.asset = .ok (w.withReads 0) := by
  unfold ofDocument toDocument
  rw [Document.fieldOr_record]
  change (ShareLedger.ofDocument w.ledger.toDocument >>= fun ledger =>
    .ok { fresh w.asset with ledger := ledger }) = .ok (w.withReads 0)
  rw [ShareLedger.ofDocument_toDocument h]
  unfold withReads fresh
  rw [hpinned]
  rfl

end RebasingLedger

/-!
# Trackers
-/

namespace RewardTracker

variable {β : Type} {t : RewardTracker}

theorem tableOfEntries_shown {read : String → Document → Except Fault (β × Strays RewardPlace)}
    {shown : String → β → Document} (hread : ∀ k b, read k (shown k b) = .ok (b, []))
    (es : List (String × β)) (t : Table String β) :
    tableOfEntries read (es.map fun e => (.text e.1, shown e.1 e.2)) t =
      .ok (Table.putAll es t, []) := by
  induction es generalizing t with
  | nil => rfl
  | cons e rest ih =>
      rw [List.map_cons]
      change (read e.1 (shown e.1 e.2) >>= fun p => tableOfEntries read (rest.map _)
        (t.put e.1 p.1) >>= fun q => .ok (q.1, p.2 ++ q.2)) = _
      rw [hread]
      change (tableOfEntries read (rest.map _) (t.put e.1 e.2) >>= fun q => .ok (q.1, [] ++ q.2)) = _
      rw [ih]
      rfl

theorem tokenStateOfDocument_shown (h : t.strays = []) (token : String) (s : RewardTokenState) :
    tokenStateOfDocument token (t.tokenStateDocument token s) = .ok (s, []) := by
  unfold tokenStateDocument
  rw [h]
  rfl

theorem holderStateOfDocument_shown (h : t.strays = []) (token holder : String)
    (s : HolderRewardState) :
    holderStateOfDocument token holder (t.holderStateDocument token holder s) = .ok (s, []) := by
  unfold holderStateDocument
  rw [h]
  rfl

theorem holdersOfDocument_shown (h : t.strays = []) (token : String)
    (hs : Table String HolderRewardState) :
    holdersOfDocument token (.record (hs.toList.map fun e =>
      (e.1, t.holderStateDocument token e.1 e.2))) = .ok (hs, []) := by
  unfold holdersOfDocument
  change tableOfEntries (holderStateOfDocument token) ((hs.toList.map fun e =>
    (e.1, t.holderStateDocument token e.1 e.2)).map fun f => (.text f.1, f.2)) ∅ = _
  rw [List.map_map]
  exact (tableOfEntries_shown (holderStateOfDocument_shown h token) hs.toList ∅).trans
    (by rw [Table.putAll_empty])

theorem strayTokens_texts (names : List String) : strayTokens (names.map Document.text) = .ok [] := by
  induction names with
  | nil => rfl
  | cons name rest ih => exact ih

theorem listedTokens_of_sound (h : t.strays = []) :
    t.listedTokens = t.rewardTokens.map Document.text := by
  unfold listedTokens
  rw [h]
  rfl

theorem map_asText_texts (names : List String) :
    (names.map Document.text).map Document.asText = names := by
  rw [List.map_map]
  exact List.map_id names

theorem keys_places {tokens : List String} (h : tokens.Nodup) :
    (tokens.foldl (fun t token => t.put token ∅)
      (∅ : Table String (Table String HolderRewardState))).keys = tokens := by
  have hkeys : (tokens.map fun token => (token, (∅ : Table String HolderRewardState))).map
      Prod.fst = tokens := by
    rw [List.map_map]
    exact List.map_id tokens
  have hplaces := Table.keys_putAll_of_not_mem (t := (∅ : Table String (Table String
    HolderRewardState))) (hkeys.symm ▸ h) fun _ _ => List.not_mem_nil
  unfold Table.putAll at hplaces
  rw [List.foldl_map, hkeys] at hplaces
  exact hplaces

theorem ofDocument_toDocument (ht : t.Sound) : ofDocument t.toDocument = .ok t := by
  have htokens : tableOfEntries tokenStateOfDocument ((t.tokenStates.toList.map fun e =>
      (e.1, t.tokenStateDocument e.1 e.2)).map fun f => (.text f.1, f.2)) ∅ =
        .ok (t.tokenStates, []) := by
    rw [List.map_map]
    exact (tableOfEntries_shown (tokenStateOfDocument_shown ht.strays) _ ∅).trans
      (by rw [Table.putAll_empty])
  have hholders : tableOfEntries holdersOfDocument ((t.holderStates.toList.map fun e =>
      (e.1, Document.record (e.2.toList.map fun h =>
        (h.1, t.holderStateDocument e.1 h.1 h.2)))).map fun f => (.text f.1, f.2))
      (t.rewardTokens.foldl (fun t token => t.put token ∅) ∅) = .ok (t.holderStates, []) := by
    rw [List.map_map]
    refine (tableOfEntries_shown (holdersOfDocument_shown ht.strays) _ _).trans ?_
    rw [Table.putAll_of_keys ((keys_places ht.nodup).trans ht.holders.symm)]
  have hcapacity : t.strays.shown .capacity t.capacity = .int t.capacity := by
    rw [ht.strays]
    rfl
  unfold toDocument
  rw [hcapacity, listedTokens_of_sound ht.strays]
  change (tableOfEntries tokenStateOfDocument ((t.tokenStates.toList.map fun e =>
      (e.1, t.tokenStateDocument e.1 e.2)).map fun f => (.text f.1, f.2)) ∅ >>= fun p =>
    strayTokens (t.rewardTokens.map Document.text) >>= fun unnamed =>
    tableOfEntries holdersOfDocument ((t.holderStates.toList.map fun e =>
      (e.1, Document.record (e.2.toList.map fun h =>
        (h.1, t.holderStateDocument e.1 h.1 h.2)))).map fun f => (.text f.1, f.2))
      (((t.rewardTokens.map Document.text).map Document.asText).foldl
        (fun t token => t.put token ∅) ∅) >>= fun q =>
    .ok (⟨t.capacity, (t.rewardTokens.map Document.text).map Document.asText, p.1, q.1,
      [] ++ unnamed ++ p.2 ++ q.2⟩ : RewardTracker)) = .ok t
  simp only [htokens, hholders, map_asText_texts, strayTokens_texts, bind, Except.bind]
  exact congrArg (fun strays => Except.ok { t with strays := strays }) ht.strays.symm

end RewardTracker

/-!
# Whole tokens
-/

namespace DepositToken

/-- What a snapshot of a token tells is all that its calls and views look at. -/
structure Legible (s : DepositToken) : Prop where
  shares : ∀ name ∈ s.model.ledger.shares.keys, Text.lower name = name
  unpinned : s.model.pinned? = none
  index : 0 < s.index
  named : s.reserve.named s.underlying = s.reserve
  pool : Text.lower s.pool = s.pool
  treasury : Text.lower s.treasury = s.treasury
  rewards : ∀ p, s.rewards = some p → p.tracker.Sound ∧ p.strayFactor = none ∧
    0 ≤ p.reserveFactor ∧ p.reserveFactor ≤ RewardTracker.maxFactor

def restoredRecords (s : DepositToken) : TokenRecords where
  events := []
  history := [⟨s.index, "init"⟩]
  maxHistory := ReserveIndex.defaultMaxHistory
  rateReads := 0

theorem modelOfDocument_toDocument {s : DepositToken} (hs : s.Legible) :
    modelOfDocument s.toDocument s.model.asset? = .ok (s.model.withReads 0) := by
  rcases s with ⟨name, symbol, underlying, pool, treasury, reserve, model, decimals, events, rewards⟩
  cases model with
  | plain l =>
      have hledger : ShareLedger.ofDocument l.toDocument = .ok l :=
        ShareLedger.ofDocument_toDocument hs.shares
      unfold modelOfDocument toDocument
      rw [Document.field?_record, Document.fieldOr_record]
      change (ShareLedger.ofDocument l.toDocument >>= fun ledger =>
        .ok (BalanceModel.plain ledger)) = .ok (BalanceModel.plain l)
      rw [hledger]
      rfl
  | rebasing w =>
      have hbook : RebasingLedger.ofDocument w.toDocument w.asset = .ok (w.withReads 0) :=
        RebasingLedger.ofDocument_toDocument hs.unpinned hs.shares
      unfold modelOfDocument toDocument
      rw [Document.field?_record]
      change (RebasingLedger.ofDocument w.toDocument w.asset >>= fun book =>
        .ok (BalanceModel.rebasing book)) = .ok (BalanceModel.rebasing (w.withReads 0))
      rw [hbook]
      rfl

theorem requireProgram_of_factor {p : RewardProgram} (hstray : p.strayFactor = none)
    (hfactor : 0 ≤ p.reserveFactor ∧ p.reserveFactor ≤ RewardTracker.maxFactor) :
    requireProgram p = .ok () := by
  unfold requireProgram requireFactor
  rw [hstray]
  dsimp only
  rw [if_pos hfactor]
  rfl

theorem make_recorded {s : DepositToken} (hs : s.Legible) (r : TokenRecords) :
    make (s.recorded r) = .ok (s.recorded r) := by
  have hnamed := hs.named
  have hpool := hs.pool
  have htreasury := hs.treasury
  have hrewards := hs.rewards
  rcases s with ⟨name, symbol, underlying, pool, treasury, reserve, model, decimals, events, rewards⟩
  dsimp only at hnamed hpool htreasury hrewards
  unfold make recorded
  dsimp only
  rw [hpool, htreasury, ReserveIndex.named_withHistory, hnamed]
  cases rewards with
  | none => rfl
  | some p =>
      rcases hrewards p rfl with ⟨_, hstray, hfactor⟩
      dsimp only
      rw [requireProgram_of_factor hstray hfactor]
      rfl

theorem fieldOr_rewards {s : DepositToken} {p : RewardProgram} (hp : s.rewards = some p) :
    s.toDocument.fieldOr "rewards" (.map []) = .ok p.tracker.toDocument := by
  unfold toDocument
  rw [hp]
  exact Document.fieldOr_record

theorem fieldOr_factor {s : DepositToken} {p : RewardProgram} (hp : s.rewards = some p)
    (hstray : p.strayFactor = none) :
    s.toDocument.fieldOr "rewards_reserve_factor_bps" (.int 0) = .ok (.int p.reserveFactor) := by
  have hfactor : p.factorDocument = .int p.reserveFactor := by
    unfold RewardProgram.factorDocument
    rw [hstray]
    rfl
  unfold toDocument
  rw [hp, ← hfactor]
  exact Document.fieldOr_record

theorem ofDocument_toDocument {s : DepositToken} (hs : s.Legible) :
    ofDocument s.rewards.isSome s.toDocument s.model.asset? =
      .ok (s.recorded s.restoredRecords) := by
  have hname : s.toDocument.require "name" = .ok s.name := Document.require_record rfl
  have hsymbol : s.toDocument.require "symbol" = .ok s.symbol := Document.require_record rfl
  have hunderlying : s.toDocument.require "underlying" = .ok s.underlying :=
    Document.require_record rfl
  have hpool : s.toDocument.require "pool" = .ok (.text s.pool) := Document.require_record rfl
  have htreasury : s.toDocument.fieldOr "treasury" (.text defaultTreasury) =
    .ok (.text s.treasury) := Document.fieldOr_record
  have hfield : s.toDocument.fieldOr "reserve" (.map []) = .ok s.reserve.toDocument :=
    Document.fieldOr_record
  have hdecimals : s.toDocument.fieldOr "decimals" (.int 18) = .ok s.decimals :=
    Document.fieldOr_record
  have hmake : make { s.recorded s.restoredRecords with rewards := s.rewards } =
    .ok (s.recorded s.restoredRecords) := make_recorded hs s.restoredRecords
  unfold ofDocument
  simp only [modelOfDocument_toDocument hs, hname, hsymbol, hunderlying, hpool, htreasury, hfield,
    hdecimals, ReserveIndex.ofDocument_toDocument hs.index, bind, Except.bind]
  cases hp : s.rewards with
  | none =>
      rw [hp] at hmake
      exact hmake
  | some p =>
      rcases hs.rewards p hp with ⟨hsound, hstray, _⟩
      have hprogram : p = ⟨p.tracker, p.reserveFactor, none⟩ := by
        rw [← hstray]
      rw [hp, hprogram] at hmake
      simp only [fieldOr_rewards hp, fieldOr_factor hp hstray,
        RewardTracker.ofDocument_toDocument hsound]
      exact hmake

end DepositToken

/-!
# Books of a vault
-/

namespace VaultBooks

structure Legible (b : VaultBooks) : Prop where
  address : Text.lower b.address = b.address
  placed : ¬(b.address = "" ∨ b.address = zeroAccount)
  name : b.name.isGiven = true
  symbol : b.symbol.isGiven = true
  shares : ∀ name ∈ b.balances.shares.keys, Text.lower name = name
  rewards : b.rewards.Sound
  strays : b.strayBalances = []

theorem balancesOfEntries_shown (es : List (String × Int)) (t : Table String Int) :
    balancesOfEntries (es.map fun e => (.text e.1, .int e.2)) (t, []) = (Table.putAll es t, []) := by
  induction es generalizing t with
  | nil => rfl
  | cons e rest ih => exact ih (t.put e.1 e.2)

theorem Legible.withEvents {b : VaultBooks} (hb : b.Legible) (events : List TokenEvent) :
    Legible { b with events := events } :=
  ⟨hb.address, hb.placed, hb.name, hb.symbol, hb.shares, hb.rewards, hb.strays⟩

theorem open?_of_legible {b : VaultBooks} (hb : b.Legible) (token : DepositToken) :
    StaticVault.open? token b = .ok b := by
  unfold StaticVault.open?
  rw [hb.address, if_neg hb.placed, if_pos hb.name, if_pos hb.symbol]

theorem ofDocument_toDocument {b : VaultBooks} (hb : b.Legible) (token : DepositToken) :
    ofDocument b.toDocument token = .ok { b with events := [] } := by
  have hopen : StaticVault.open? token { b with events := [] } = .ok { b with events := [] } :=
    open?_of_legible (hb.withEvents []) token
  have haddress : b.toDocument.require "address" = .ok (.text b.address) :=
    Document.require_record rfl
  have hname : b.toDocument.fieldOr "name" (.text "") = .ok b.name := Document.fieldOr_record
  have hsymbol : b.toDocument.fieldOr "symbol" (.text "") = .ok b.symbol :=
    Document.fieldOr_record
  have hbalances : b.toDocument.fieldOr "balances" (.map []) = .ok b.balances.toDocument :=
    Document.fieldOr_record
  have hrewards : b.toDocument.fieldOr "rewards" (.map []) = .ok b.rewards.toDocument :=
    Document.fieldOr_record
  have hcollected : b.toDocument.fieldOr "reward_balances" (.map []) =
      .ok (.record (b.rewardBalances.toList.map fun e => (e.1, .int e.2))) := by
    unfold toDocument
    rw [hb.strays]
    exact Document.fieldOr_record
  have hentries : entriesOf (.record (b.rewardBalances.toList.map fun e =>
      (e.1, Document.int e.2))) =
        .ok (b.rewardBalances.toList.map fun e => (.text e.1, .int e.2)) :=
    congrArg Except.ok (List.map_map ..)
  have hread : balancesOfEntries (b.rewardBalances.toList.map fun e => (.text e.1, .int e.2))
      (∅, []) = (b.rewardBalances, b.strayBalances) := by
    rw [balancesOfEntries_shown, Table.putAll_empty, hb.strays]
  unfold ofDocument
  simp only [haddress, hname, hsymbol, hbalances, hrewards, hcollected, hentries, hread,
    ShareLedger.ofDocument_toDocument hb.shares, RewardTracker.ofDocument_toDocument hb.rewards,
    bind, Except.bind, Document.asString]
  exact congrArg (Except.mapError Fault.ofRefusal) hopen

end VaultBooks
end ReserveAccounting
