import ReserveAccounting.Proofs.PresentedBalances
import ReserveAccounting.Proofs.RestoredTokens
import ReserveAccounting.Proofs.VaultPlans

/-!
# Spared holders

On a plain reserve a balance falls only by a call that names its holder: as the
one whose tokens are burned, or as the sender of a transfer. Nothing that others
do lowers it, be it with the token itself or through vaults that wrap it: their
calls take no share of the holder, and the index never falls.
-/

namespace ReserveAccounting

open FixedPoint

namespace DepositToken

variable {s s' : DepositToken} {name : String} {n i : Int} {α : Type}

/-!
# Shares that are secured
-/

/-- A plain token with at least some shares under a name and an index not below some value. -/
structure Secures (name : String) (n i : Int) (s : DepositToken) : Prop where
  plain : s.isRebasing = false
  sound : s.model.ledger.Sound
  held : n ≤ s.model.ledger.held name
  index : i ≤ s.index

theorem Secures.of_keeps {rewarded : Option RewardProgram → Prop} (hs : s.Secures name n i)
    (h : s.Keeps rewarded s') : s'.Secures name n i where
  plain := h.alike.left.trans hs.plain
  sound := by
    rw [h.ledger]
    exact hs.sound
  held := by
    rw [h.ledger]
    exact hs.held
  index := by
    unfold DepositToken.index
    rw [h.reserve]
    exact hs.index

theorem stable_secures {c : TokenCall} (hspares : c.Spares name) :
    Act.Stable (Secures name n i) c.perform := by
  apply Act.Stable.of_leaves
  intro s hs
  apply (TokenCall.leaves_perform c hs.sound.nonneg).mono
  · intro _ s' h
    rcases h.ledger with ⟨hbooked, _⟩
    exact ⟨h.alike.left.trans hs.plain, hbooked.sound hs.sound,
      hs.held.trans (hbooked.held_le hspares), hs.index.trans h.reserve⟩
  · intro _ s' h
    exact hs.of_keeps h

theorem stable_secures_of {m : Act DepositToken α} (c : TokenCall) (hspares : c.Spares name)
    (hc : c.perform = Act.ending m) : Act.Stable (Secures name n i) m := by
  constructor
  intro s hs
  have hafter := (stable_secures hspares).after s hs
  rw [hc, Act.run_ending] at hafter
  exact hafter

end DepositToken

/-!
# Vaults of others
-/

namespace StaticVault

variable {v v' : StaticVault} {address name : String} {n i : Int} {α : Type}

structure Secures (address name : String) (n i : Int) (v : StaticVault) : Prop where
  address : v.books.address = address
  token : v.token.Secures name n i

theorem secures_onToken {m : Act DepositToken α}
    (hm : Act.Stable (DepositToken.Secures name n i) m) :
    Act.Stable (Secures address name n i) (onToken m) :=
  Act.Stable.within (fun _ h => h.token) (fun _ _ h ht => ⟨h.address, ht⟩) hm

theorem secures_onBalances {m : Act ShareLedger α} :
    Act.Stable (Secures address name n i) (onBalances m) :=
  Act.Stable.within_aside fun _ _ h => ⟨h.address, h.token⟩

theorem bystander_secures : Bystander (Secures address name n i) where
  claim v _ token := secures_onToken
    (DepositToken.stable_secures_of (.claim v.books.address token) trivial rfl)
  rewards _ _ h := ⟨h.address, h.token⟩
  collected _ _ _ h := ⟨h.address, h.token⟩

theorem Secures.of_reads (hv : v.Secures address name n i) (h : v.Reads v') :
    v'.Secures address name n i where
  address := by
    rw [h.books]
    exact hv.address
  token := hv.token.of_keeps h.token

theorem secures_takeTokens {depositor : String} {amount : Int} {fromUnderlying : Bool}
    (hdepositor : fromUnderlying = false → Text.lower depositor ≠ name) :
    Act.Stable (Secures address name n i) (takeTokens depositor amount fromUnderlying) := by
  apply Act.Stable.of_current
  intro v _
  split
  · exact (secures_onToken (DepositToken.stable_secures_of (.mint _ _ _ _) trivial rfl)).bind
      fun _ => Act.Stable.pure ()
  · next hflag =>
      have hother := hdepositor (Bool.eq_false_of_not_eq_true hflag)
      exact (secures_onToken (DepositToken.stable_secures_of (.transfer _ _ _) hother rfl)).bind
        fun _ => Act.Stable.pure ()

theorem secures_releaseTokens {recipient : String} {amount : Int} {toUnderlying : Bool}
    (haddress : Text.lower address ≠ name) :
    Act.Stable (Secures address name n i) (releaseTokens recipient amount toUnderlying) := by
  apply Act.Stable.of_current
  intro v hv
  have hother : Text.lower v.books.address ≠ name := by
    rw [hv.address]
    exact haddress
  split
  · exact (secures_onToken (DepositToken.stable_secures_of (.burn _ _ _ _ _) hother rfl)).bind
      fun _ => Act.Stable.pure ()
  · exact (secures_onToken (DepositToken.stable_secures_of (.transfer _ _ _) hother rfl)).bind
      fun _ => Act.Stable.pure ()

def Plan.Spares (name : String) : Plan → Prop
  | take depositor _ _ _ fromUnderlying => fromUnderlying = false → Text.lower depositor ≠ name
  | _ => True

theorem secures_legs {p : Plan} (hspares : p.Spares name) (haddress : Text.lower address ≠ name) :
    Act.Stable (Secures address name n i) p.legs := by
  cases p with
  | take depositor recipient amount units fromUnderlying =>
      apply Act.Stable.bind
      · apply secures_takeTokens
        rw [Text.lower_lower]
        exact hspares
      · intro _
        exact secures_onBalances.bind fun _ => Act.Stable.pure ()
  | release owner recipient units value toUnderlying =>
      apply (secures_releaseTokens haddress).bind
      intro _
      exact secures_onBalances.bind fun _ => Act.Stable.pure ()
  | move sender recipient units => exact secures_onBalances

theorem secures_carryOut {p : Plan} (hspares : p.Spares name)
    (haddress : Text.lower address ≠ name) :
    Act.Stable (Secures address name n i) p.carryOut := by
  apply Act.Stable.bind
  · apply (bystander_secures.collect none).bind
    intro _
    apply Act.Stable.current.bind
    intro v
    apply (bystander_secures.onRewards _).bind
    intro saved
    exact (secures_legs hspares haddress).onRefusal fun _ h => ⟨h.address, h.token⟩
  · intro _
    cases p <;> exact Act.Stable.update fun _ h => ⟨h.address, h.token⟩

end StaticVault

namespace VaultCall

variable {v : StaticVault} {address name : String} {n i : Int}

def SparesHolder (name : String) : VaultCall → Prop
  | deposit depositor _ _ fromUnderlying => fromUnderlying = false → Text.lower depositor ≠ name
  | onToken c => c.Spares name
  | _ => True

theorem spares_plan {c : VaultCall} {m : Act StaticVault StaticVault.Plan} (h : c.plan? = some m)
    (hspares : c.SparesHolder name) :
    m.Leaves v (fun p v' => v.Reads v' ∧ p.Spares name) (fun _ v' => v.Reads v') := by
  have hrelease : ∀ p : StaticVault.Plan, p.takes = false → p.Spares name := by
    intro p hp
    cases p with
    | take depositor recipient amount units fromUnderlying => cases hp
    | _ => trivial
  cases c with
  | deposit depositor recipient amount fromUnderlying =>
      cases h
      apply StaticVault.reads_depositPlan.mono _ (fun _ _ h => h)
      intro p v' h
      rcases h with ⟨hreads, units, rfl⟩
      exact ⟨hreads, hspares⟩
  | _ => exact (reads_plan h).mono (fun p _ h => ⟨h.left, hrelease p h.right⟩) (fun _ _ h => h)

theorem secures_after {c : VaultCall} (hspares : c.SparesHolder name)
    (haddress : Text.lower address ≠ name) (hv : v.Secures address name n i) :
    (c.after v).Secures address name n i := by
  have hplan : ∀ m, c.plan? = some m → (c.after v).Secures address name n i := by
    intro m hm
    apply @Act.Leaves.state _ _ c.perform v (StaticVault.Secures address name n i)
    rw [leaves_perform_iff hm]
    apply (spares_plan hm hspares).mono
    · intro p v' h
      exact (StaticVault.secures_carryOut h.right haddress).leaves (hv.of_reads h.left)
    · intro _ v' hreads
      exact hv.of_reads hreads
  have hending : ∀ {α : Type} {m : Act StaticVault α},
      Act.Stable (StaticVault.Secures address name n i) m →
      (Act.run (Act.ending m) v).2.Secures address name n i := by
    intro α m hm
    rw [Act.run_ending]
    exact hm.after v hv
  cases c with
  | claimRewards holder token forceUpdate =>
      exact hending (StaticVault.bystander_secures.claimRewards holder token forceUpdate
        fun _ _ h => ⟨h.address, h.token⟩)
  | collect token => exact hending (StaticVault.bystander_secures.collect token)
  | onToken c =>
      exact (StaticVault.secures_onToken (DepositToken.stable_secures hspares)).after v hv
  | _ => exact hplan _ rfl

end VaultCall

/-!
# Operations on a token
-/

inductive TokenOperation where
  | call (c : TokenCall)
  | ofVault (books : VaultBooks) (c : VaultCall)

namespace TokenOperation

variable {s : DepositToken} {name : String} {n i : Int}

def after : TokenOperation → DepositToken → DepositToken
  | call c, s => c.after s
  | ofVault books c, s => (c.after ⟨s, books⟩).token

def afterAll (operations : List TokenOperation) (s : DepositToken) : DepositToken :=
  operations.foldl (fun s o => o.after s) s

/-- An operation that burns no tokens of a holder and sends none, be the holder a vault or not. -/
def Spares (name : String) : TokenOperation → Prop
  | call c => c.Spares name
  | ofVault books c => Text.lower books.address ≠ name ∧ c.SparesHolder name

theorem secures_after {o : TokenOperation} (hspares : o.Spares name) (hs : s.Secures name n i) :
    (o.after s).Secures name n i := by
  cases o with
  | call c => exact (DepositToken.stable_secures hspares).after s hs
  | ofVault books c =>
      have hv : StaticVault.Secures books.address name n i ⟨s, books⟩ := ⟨rfl, hs⟩
      exact (VaultCall.secures_after hspares.right hspares.left hv).token

theorem secures_afterAll {operations : List TokenOperation}
    (hspares : ∀ o ∈ operations, o.Spares name) (hs : s.Secures name n i) :
    (afterAll operations s).Secures name n i := by
  induction operations generalizing s with
  | nil => exact hs
  | cons o rest ih =>
      exact ih (fun o ho => hspares o (List.mem_cons_of_mem _ ho))
        (secures_after (hspares o List.mem_cons_self) hs)

end TokenOperation

namespace DepositToken

variable {s : DepositToken} {holder : String} {α : Type}

theorem run_scaledBalanceOf_plain (hplain : s.isRebasing = false) :
    (Act.run (scaledBalanceOf holder) s).1 = .ok (s.model.ledger.sharesOf holder) := by
  rcases exists_plain hplain with ⟨l, hmodel⟩
  unfold scaledBalanceOf onModel
  rw [Act.run_within, hmodel]
  rfl

theorem rayMul_of_balanceOf {b : Int} (hplain : s.isRebasing = false)
    (hb : (Act.run (balanceOf holder) s).1 = .ok b) :
    rayMul (s.model.ledger.sharesOf holder) s.index = .ok b := by
  rcases exists_plain hplain with ⟨l, hmodel⟩
  have hmeasures := measures_balanceOf.of_ok (Prod.ext hb rfl)
  rw [hmodel] at hmeasures ⊢
  exact hmeasures

theorem secures_of_restores (holder : String) (hs : s.Restores) (hplain : s.isRebasing = false) :
    s.Secures (Text.lower holder) (s.model.ledger.sharesOf holder) s.index :=
  ⟨hplain, hs.kept.shares, Int.le_refl _, Int.le_refl _⟩

/--
On a plain reserve, nothing that others do lowers a balance. After any
operations of which none burns tokens of a holder or sends tokens of it, be they
calls of the token or of vaults at other addresses, and whether they answer or
fail, the holder has at least the shares that it had, and they are worth at
least what they were worth wherever the value can be computed.
-/
theorem balance_kept_by_others (hs : TokenStep.Reachable s) (hplain : s.isRebasing = false)
    (operations : List TokenOperation)
    (hspares : ∀ o ∈ operations, o.Spares (Text.lower holder)) :
    let s' := TokenOperation.afterAll operations s
    (∃ n n', (Act.run (scaledBalanceOf holder) s).1 = .ok n ∧
      (Act.run (scaledBalanceOf holder) s').1 = .ok n' ∧ n ≤ n') ∧
      ∀ b b', (Act.run (balanceOf holder) s).1 = .ok b →
        (Act.run (balanceOf holder) s').1 = .ok b' → b ≤ b' := by
  intro s'
  have hstart := secures_of_restores holder (restores_of_reachable hs) hplain
  have hend : s'.Secures (Text.lower holder) (s.model.ledger.sharesOf holder) s.index :=
    TokenOperation.secures_afterAll hspares hstart
  constructor
  · exact ⟨_, _, run_scaledBalanceOf_plain hplain, run_scaledBalanceOf_plain hend.plain, hend.held⟩
  · intro b b' hb hb'
    exact rayMul_mono (rayMul_of_balanceOf hplain hb) (rayMul_of_balanceOf hend.plain hb')
      hend.held hend.index

/-- Others transfer to the holder, wrap what is theirs and raise the index; some of it fails. -/
theorem balance_kept_by_others_wrapped_transfers :
    let start : DepositToken := .atOne (.plain .empty) (some (.empty 0))
    let s := [TokenCall.mint "pool" "Alice" 100 ray, .mint "pool" "bob" 50 ray,
      .registerRewardToken "rwd"].foldl (fun s c => (Act.run (TokenStep.call c).answer s).2) start
    let operations := [.call (.transfer "bob" "alice" 5), .call (.mint "bob" "carol" 5 ray),
      .ofVault (.unused "vault") (.deposit "bob" "alice" 20 false),
      .call (.raiseIndex (2 * ray) "accrual"), .call (.distributeRewards "rwd" 10),
      .ofVault (.unused "vault") (.withdraw "alice" "bob" 20 true)]
    let s' := TokenOperation.afterAll operations s
    TokenStep.Reachable s ∧ s.isRebasing = false ∧
      (∀ o ∈ operations, o.Spares (Text.lower "alice")) ∧
      (Act.run (balanceOf "alice") s).1 = .ok 100 ∧ (Act.run (balanceOf "alice") s').1 = .ok 210 ∧
      ∃ n n', (Act.run (scaledBalanceOf "alice") s).1 = .ok n ∧
        (Act.run (scaledBalanceOf "alice") s').1 = .ok n' ∧ n ≤ n' := by
  intro start s operations s'
  have hstart : TokenStep.Reachable start :=
    reachable_atOne rfl rfl fun _ hp => by cases hp; exact ⟨⟨rfl, rfl⟩, rfl⟩
  have hs : TokenStep.Reachable s := ((hstart.after _).after _).after _
  have hplain : s.isRebasing = false := by decide +kernel
  have hbob : Text.lower "bob" ≠ Text.lower "alice" := by decide +kernel
  have hvault : Text.lower "vault" ≠ Text.lower "alice" := by decide +kernel
  have hspares : ∀ o ∈ operations, o.Spares (Text.lower "alice") := by
    simp only [operations, List.forall_mem_cons]
    exact ⟨hbob, trivial, ⟨hvault, fun _ => hbob⟩, trivial, trivial, ⟨hvault, trivial⟩, nofun⟩
  exact ⟨hs, hplain, hspares, Act.eq_ok_of_toOption (by decide +kernel),
    Act.eq_ok_of_toOption (by decide +kernel),
    (balance_kept_by_others hs hplain operations hspares).left⟩

end DepositToken
end ReserveAccounting
