import ReserveAccounting.DustSweeper
import ReserveAccounting.StaticVault

/-!
# Desks

The objects of one reserve that are open together. Some of them are parts of
others: a token keeps its reserve, its books and its rewards, and the books of a
rebasing token read the live asset. A part that is restored from a snapshot by
itself leaves its token: from then on the desk holds it beside the token, and
the token goes on with its own.
-/

namespace ReserveAccounting

structure Desk where
  ledger : Option ShareLedger
  reserve : Option ReserveIndex
  wrapper : Option RebasingLedger
  tracker : Option RewardTracker
  token : Option DepositToken
  vault : Option VaultBooks
  sweeper : DustSweeper
  asset : Option ReserveAsset
deriving Inhabited

namespace Desk

def blank : Desk := ⟨none, none, none, none, none, none, ⟨DustSweeper.defaultThreshold⟩, none⟩

/-! ## Places -/

structure Place (τ : Type) where
  get? : Desk → Option τ
  put : τ → Desk → Desk
  /-- Puts a restored object there, which belongs to nothing else. -/
  renew : τ → Desk → Desk

variable {τ : Type}

/-- The place of an object that is part of the token unless it lies beside it. -/
def partOfToken (own : Desk → Option τ) (putOwn : τ → Desk → Desk) (part : DepositToken → Option τ)
    (putPart : τ → DepositToken → DepositToken) : Place τ where
  get? s := match own s with
    | some x => some x
    | none => s.token.bind part
  put x s := match own s, s.token with
    | none, some t => { s with token := some (putPart x t) }
    | _, _ => putOwn x s
  renew := putOwn

def ledgerPlace : Place ShareLedger :=
  partOfToken (·.ledger) (fun l s => { s with ledger := some l })
    (fun t => match t.model with
      | .plain l => some l
      | .rebasing _ => none)
    (fun l t => { t with model := .plain l })

def wrapperPlace : Place RebasingLedger :=
  partOfToken (·.wrapper) (fun w s => { s with wrapper := some w })
    (fun t => match t.model with
      | .plain _ => none
      | .rebasing w => some w)
    (fun w t => { t with model := .rebasing w })

def reservePlace : Place ReserveIndex :=
  partOfToken (·.reserve) (fun r s => { s with reserve := some r }) (fun t => some t.reserve)
    (fun r t => { t with reserve := r })

def trackerPlace : Place RewardTracker :=
  partOfToken (·.tracker) (fun r s => { s with tracker := some r })
    (fun t => t.rewards.map (·.tracker))
    (fun r t => { t with rewards := t.rewards.map fun p => { p with tracker := r } })

/-- The token; with another one come all its parts. -/
def tokenPlace : Place DepositToken where
  get? := (·.token)
  put t s := { s with token := some t }
  renew t s :=
    { s with token := some t, ledger := none, wrapper := none, reserve := none, tracker := none }

def vaultPlace : Place StaticVault where
  get? s := do some ⟨← s.token, ← s.vault⟩
  put v s := { s with token := some v.token, vault := some v.books }
  renew v s := { s with token := some v.token, vault := some v.books }

/-! ## The live asset -/

def lend (s : Desk) : Desk :=
  match s.asset with
  | none => s
  | some a =>
      { s with
        wrapper := s.wrapper.map fun w => { w with asset := a }
        token := s.token.map fun t => { t with model := t.model.withAsset a } }

/-- Takes the live asset back from the books that a call has worked on. -/
def takeBack (beside : Bool) (s : Desk) : Desk :=
  match s.asset with
  | none => s
  | some a =>
      let ofToken := s.token.bind fun t => t.model.asset?
      let own := s.wrapper.map (·.asset)
      { s with asset := some ((if beside then own.or ofToken else ofToken.or own).getD a) }

/-- A call on an object, which has the live asset meanwhile; there may be no such object. -/
def call {α : Type} (p : Place τ) (beside : Bool) (m : Act τ α) : Act Desk α := fun s =>
  let s := s.lend
  match p.get? s with
  | none => ⟨.error (.missingKey ""), s, []⟩
  | some x =>
      let t := m x
      ⟨t.outcome, (p.put t.state s).takeBack beside, t.journal⟩

def callAsset {α : Type} (m : Act ReserveAsset α) : Act Desk α := fun s =>
  match s.asset with
  | none => ⟨.error (.missingKey ""), s, []⟩
  | some a => Act.embed (fun a => { s with asset := some a }) m a

def restore (p : Place τ) (toDocument : τ → Document) (amend : Document → Document)
    (read : τ → Document → Except Fault τ) : Act Desk Unit := fun s =>
  let s := s.lend
  match p.get? s with
  | none => ⟨.error (.missingKey ""), s, []⟩
  | some x =>
      match read x (amend (toDocument x)) with
      | .ok y => ⟨.ok (), p.renew y s, []⟩
      | .error f => ⟨.error f, s, []⟩

/-! ## Amended snapshots -/

def writeEntry (es : List (Document × Document)) (p : Document × Document) : List (Document × Document) :=
  if es.any fun e => e.1.asText == p.1.asText then
    es.map fun e => if e.1.asText == p.1.asText then p else e
  else es ++ [p]

def entriesOf : Document → List (Document × Document)
  | .map es => es
  | _ => []

def amended (d patch : Document) (dropped : List String) : Document :=
  .map (((entriesOf patch).foldl writeEntry (entriesOf d)).filter fun e => !dropped.contains e.1.asText)

/-! ## Documents -/

def eventDocument (e : TokenEvent) : Document :=
  .list [.text e.kind.name, .text e.source, .text e.target, .int e.value, .int e.index]

def assetDocument : ReserveAsset → Document
  | .pool p =>
      .record [("shares", .record (p.shares.toList.map fun e => (e.1, .int e.2))),
        ("total_shares", .int p.totalShares), ("total_pooled", .int p.totalPooled),
        ("rebase_count", .int p.rebaseCount)]
  | .feed f => .record [("reads", .int f.reads)]

def eventCount (s : Desk) : Nat × Nat :=
  ((s.token.map (·.events.length)).getD 0, (s.vault.map (·.events.length)).getD 0)

def toDocument (kind : String) (s : Desk) (seen : Nat × Nat) : Document :=
  let part (key : String) (d : Option Document) := d.map fun d => (key, d)
  let only (wanted : String) (d : Option Document) := part wanted (if kind = wanted then d else none)
  let holders := match kind with
    | "ledger" => (ledgerPlace.get? s).map fun l => .texts l.holders
    | "wrapper" => (wrapperPlace.get? s).map fun w => .texts w.ledger.holders
    | _ => s.token.map fun t => .texts t.holders
  .record ([ part "asset" (s.asset.map assetDocument),
    part "rate_reads" ((wrapperPlace.get? s).map fun w => .int w.rateReads),
    only "ledger" ((ledgerPlace.get? s).map (·.toDocument)),
    only "wrapper" ((wrapperPlace.get? s).map (·.toDocument)),
    only "tracker" ((trackerPlace.get? s).map (·.toDocument)),
    only "reserve" ((reservePlace.get? s).map (·.toDocument)),
    part "token" (s.token.map (·.toDocument)),
    part "holders" holders,
    part "events" (s.token.map fun t => .list ((t.events.drop seen.1).map eventDocument)),
    part "history" ((reservePlace.get? s).map fun r =>
      .list (r.history.map fun c => .list [.int c.index, .text c.reason])),
    part "static" (s.vault.map (·.toDocument)),
    part "static_holders" (s.vault.map fun b => .texts b.balances.holders),
    part "static_events" (s.vault.map fun b => .list ((b.events.drop seen.2).map eventDocument))
    ].filterMap id)

end Desk
end ReserveAccounting
