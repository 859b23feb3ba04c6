import ReserveAccounting.DepositToken

/-!
# Dust

Rounding favours the reserve, so what backs a token drifts above its supply. A
sweeper measures that surplus and mints the part above a retained buffer to the
treasury.
-/

namespace ReserveAccounting

structure DustReport where
  token : Document
  backing : Int
  totalSupply : Int
  surplus : Int
  threshold : Int
  swept : Int
deriving Inhabited

namespace DustReport

def isDeficit (r : DustReport) : Bool := r.surplus < 0

def toDocument (r : DustReport) : Document :=
  .record [("token", r.token), ("backing", .int r.backing), ("total_supply", .int r.totalSupply),
    ("surplus", .int r.surplus), ("threshold", .int r.threshold), ("swept", .int r.swept),
    ("deficit", .bool r.isDeficit)]

end DustReport

/-- A sweeper that leaves a surplus up to its threshold in the reserve. -/
structure DustSweeper where
  threshold : Int
deriving DecidableEq, Repr, Inhabited

namespace DustSweeper

def defaultThreshold : Int := 2

def make (threshold : Int) : Except Refusal DustSweeper :=
  if threshold < 0 then .error (.negativeThreshold threshold) else .ok ⟨threshold⟩

def measure (s : DustSweeper) (backing : Int) : Act DepositToken DustReport := do
  let supply ← DepositToken.totalSupply
  let t ← Act.current
  let report : DustReport := ⟨t.symbol, backing, supply, backing - supply, s.threshold, 0⟩
  if report.isDeficit then
    Act.note
      { level := .warning, channel := .dust, message := "Reserve backing below token supply"
        fields := [("event", .text "dust.deficit"), ("token", t.symbol),
          ("backing", .int backing), ("total_supply", .int supply)] }
  return report

/-- A refusal for an amount that rounds to nothing becomes an answer. -/
def orTooSmall {σ α : Type} (m : Act σ α) : Act σ (Except Refusal α) := fun s =>
  let t := m s
  match t.outcome with
  | .ok a => ⟨.ok (.ok a), t.state, t.journal⟩
  | .error (.refused r) =>
      if r.kind.isA .roundingUnderflow then ⟨.ok (.error r), t.state, t.journal⟩
      else ⟨.error (.refused r), t.state, t.journal⟩
  | .error e => ⟨.error e, t.state, t.journal⟩

/-- Mints the surplus above the threshold to the treasury. -/
def sweep (s : DustSweeper) (caller : String) (backing : Int) : Act DepositToken DustReport := do
  let report ← s.measure backing
  let excess := report.surplus - s.threshold
  if excess ≤ 0 then return report
  else
    let t ← Act.current
    match ← orTooSmall (DepositToken.mintToTreasury caller excess t.index) with
    | .error r =>
        Act.note
          { level := .info, channel := .dust
            message := "Dust surplus below one share, left in reserve"
            fields := [("event", .text "dust.unrepresentable"), ("token", t.symbol),
              ("excess", .int excess), ("error", .text r.message)] }
        return report
    | .ok _ =>
        Act.note
          { level := .info, channel := .dust, message := "Dust swept to treasury"
            fields := [("event", .text "dust.swept"), ("token", t.symbol),
              ("amount", .int excess), ("treasury", Record.brief t.treasury)] }
        return { report with swept := excess }

end DustSweeper
end ReserveAccounting
