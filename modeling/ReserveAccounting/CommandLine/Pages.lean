import ReserveAccounting.BaseUnits
import ReserveAccounting.Console.Grid
import ReserveAccounting.Scenario.Report
import ReserveAccounting.Settings

/-!
# Pages

What the program shows on the console: a sequence of pages, each of which is a
panel, a grid or a paragraph. Names are shown as they are given, so a name may
hold style tags; a page whose tags are not in order, or with an amount that has no
decimal form, cannot be shown, and breaks the sequence off.
-/

namespace ReserveAccounting
namespace CommandLine

inductive Page where
  | panel (title : String) (content : Console.Grid)
  | grid (grid : Console.Grid)
  | paragraph (text : String)
deriving Inhabited

def Page.lines (width : Nat) : Page → Except Fault (List String)
  | panel title content => do .ok ((← Console.panel width title content).map String.ofList)
  | grid g => do .ok ((← g.lines width).map String.ofList)
  | paragraph text => do .ok ((← Console.paragraph width text).map String.ofList)

/-- The lines of pages up to the first that cannot be shown, and what is wrong with it. -/
def showAll (width : Nat) : List (Except Fault Page) → List String × Option Fault
  | [] => ([], none)
  | page :: rest =>
      match page.bind (Page.lines width) with
      | .error f => ([], some f)
      | .ok ls =>
          let (more, fault) := showAll width rest
          (ls ++ more, fault)

/-! ## Amounts -/

def amount (units decimals : Int) : Except Fault String := do
  let x ← (BaseUnits.toAmount units decimals).mapError Fault.decimal
  .ok x.fixed

def rayDecimals : Int := 27

def ray (value : Int) : Except Fault String := amount value rayDecimals

/-! ## Pages of a report -/

def left (name : String) : Console.Column := ⟨name, .left⟩
def right (name : String) : Console.Column := ⟨name, .right⟩

def titled (title : String) (columns : List Console.Column) (frame : Console.Frame)
    (rows : List (List String)) : Console.Grid :=
  { title := title, columns := columns, headed := true, rows := rows, frame := frame }

def summaryPage (r : ScenarioReport) : Except Fault Page := do
  let index ← ray r.liquidityIndex
  let rate ← r.exchangeRate.mapM ray
  let total ← amount r.totalSupply r.decimals
  let scaled ← amount r.scaledTotalSupply r.decimals
  let backing ← amount r.backing r.decimals
  let dust ← (Document.int r.dust.surplus).written
  let dustStyle := if r.dust.isDeficit then "red" else "magenta"
  .ok (.panel ("[bold green]" ++ r.name)
    { title := "", columns := [left "", left ""], headed := false, frame := .rounded
      rows :=
        [["[bold cyan]Token", r.token.asText], ["[bold cyan]Liquidity Index", index]] ++
        rate.toList.map (fun rate => ["[bold cyan]Exchange Rate", rate]) ++
        [["[bold green]Total Supply", total], ["[bold green]Scaled Supply", scaled],
          ["[bold yellow]Backing", backing],
          ["[bold " ++ dustStyle ++ "]Dust Surplus", dust]] })

def balancesPage (r : ScenarioReport) : Except Fault Page := do
  let rebasing := r.exchangeRate.isSome
  let rows ← r.balances.mapM fun e => do
    let balance ← amount e.2.balance r.decimals
    let scaled ← amount e.2.scaled r.decimals
    let shares ← amount (e.2.internal.getD 0) r.decimals
    .ok ([e.1, balance, scaled] ++ if rebasing then [shares] else [])
  .ok (.grid (titled "Balances"
    ([left "Holder", right "Balance", right "Scaled"] ++
      if rebasing then [right "Reserve Shares"] else []) .rounded rows))

/-- A remark on an amount, left out if the amount is zero. -/
def remark (style label : String) (units decimals : Int) : List (Except Fault Page) :=
  if units = 0 then []
  else [do
    let text ← amount units decimals
    .ok (.paragraph ("[" ++ style ++ "]" ++ label ++ ":[/] " ++ text))]

def rewardPages (decimals : Int) (token : String) (r : RewardReport) : List (Except Fault Page) :=
  let grid : Except Fault Page := do
    let rows ← r.holders.mapM fun e => do
      let accrued ← amount e.2.accrued decimals
      let claimed ← amount e.2.claimed decimals
      let claimable ← amount e.2.claimable decimals
      .ok [e.1, accrued, claimed, claimable]
    .ok (.grid (titled ("Rewards: " ++ token)
      [left "Holder", right "Accrued", right "Claimed", right "Claimable"] .simple rows))
  [grid] ++ remark "yellow" ("Undistributed " ++ token) r.state.undistributed decimals ++
    remark "magenta" ("Treasury cut " ++ token) r.state.treasuryClaimed decimals

def vaultPages (decimals : Int) (v : VaultReport) : List (Except Fault Page) :=
  let grid : Except Fault Page := do
    let rows ← v.balances.mapM fun e => do
      let units ← amount e.2.units decimals
      let value ← amount e.2.value decimals
      .ok [e.1, units, value]
    .ok (.grid (titled ("Static wrapper: " ++ v.symbol.asText)
      [left "Holder", right "Static", right "Dynamic"] .rounded rows))
  [grid, do
    let rate ← ray v.rate
    .ok (.paragraph ("[cyan]Static rate:[/] " ++ rate))]

def closingPage (r : ScenarioReport) : Page :=
  let refused := (r.steps.filter fun s => !s.ok).length
  .paragraph ("[dim]" ++ toString r.steps.length ++ " steps, " ++ toString refused ++
    " rejected as expected[/]")

def reportPages (r : ScenarioReport) : List (Except Fault Page) :=
  [summaryPage r] ++
  (if r.balances.isEmpty then [] else [balancesPage r]) ++
  r.rewards.flatMap (fun e => rewardPages r.decimals e.1 e.2) ++
  r.vault.toList.flatMap (vaultPages r.decimals) ++
  [.ok (closingPage r)]

/-! ## Other pages -/

def settingsPage (s : Settings) : Page :=
  let rows := match s.toDocument with
    | .map entries => entries.map fun e => [e.1.asText, e.2.asText]
    | _ => []
  .grid (titled "Configuration" [left "Key", left "Value"] .simple rows)

def refusalPages (r : Refusal) : List (Except Fault Page) :=
  .ok (.paragraph ("[bold red]Error:[/] " ++ r.message)) ::
    if r.recoverable then [.ok (.paragraph "[yellow]Adjust the amount and retry.[/]")] else []

end CommandLine
end ReserveAccounting
