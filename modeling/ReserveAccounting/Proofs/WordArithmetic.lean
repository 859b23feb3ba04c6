import Mathlib.Algebra.Order.Round
import Mathlib.Data.Rat.Floor
import ReserveAccounting.Proofs.Rounding

/-!
# The kernel over machine words

The functions of the kernel compute with unbounded integers, and refuse what an
unsigned word of 256 bits does not hold. Each follows one of five formulas: which
operands it looks at first, and which numerator it divides by what. The guards are
divided out, and refuse exactly the numerators that no word holds. So wherever a
function answers, words come to the same value although they reduce every step,
and that is the integer nearest to the exact value, or the one below it.

A negative operand is refused in words that write it out; one with too many digits
for that has no such refusal.
-/

namespace ReserveAccounting
namespace FixedPoint

variable {op : String} {a b d n u x y : Int}

/-!
# Words
-/

abbrev Word : Type := BitVec 256

/-- The word that is left of an integer modulo `2 ^ 256`. -/
def word (x : Int) : Word := BitVec.ofInt 256 x

theorem toNat_word (hx : 0 ≤ x) (hmax : x ≤ maxAmount) : ((word x).toNat : Int) = x := by
  have hfits : x < ((2 ^ 256 : Nat) : Int) := Int.lt_of_le_of_lt hmax (by decide)
  unfold word
  rw [BitVec.toNat_ofInt, Int.emod_eq_of_lt hx hfits, Int.toNat_of_nonneg hx]

theorem word_add : word x + word y = word (x + y) := (BitVec.ofInt_add x y).symm

theorem word_mul : word x * word y = word (x * y) := (BitVec.ofInt_mul x y).symm

theorem eq_word_of_toNat {w : Word} (hx : 0 ≤ x) (hmax : x ≤ maxAmount)
    (h : (w.toNat : Int) = x) : w = word x := by
  apply BitVec.eq_of_toNat_eq
  rw [← toNat_word hx hmax] at h
  exact_mod_cast h

theorem word_ediv (hx : 0 ≤ x) (hmax : x ≤ maxAmount) (hy : 0 ≤ y) (hmax' : y ≤ maxAmount) :
    word x / word y = word (x / y) := by
  apply eq_word_of_toNat (Int.ediv_nonneg hx hy) ((Int.ediv_le_self y hx).trans hmax)
  rw [BitVec.toNat_udiv, Int.natCast_ediv, toNat_word hx hmax, toNat_word hy hmax']

theorem toNat_word_emod (hx : 0 ≤ x) (hmax : x ≤ maxAmount) (hy : 0 ≤ y) (hmax' : y ≤ maxAmount) :
    ((word x % word y).toNat : Int) = x % y := by
  rw [BitVec.toNat_umod, Int.natCast_emod, toNat_word hx hmax, toNat_word hy hmax']

/-!
# Formulas
-/

structure Scale where
  unit : Int
  positive : 0 < unit
  fits : unit ≤ maxAmount

inductive Formula where
  | product (s : Scale)
  | quotient (s : Scale)
  | floored
  | scaled
  | reduced

namespace Formula

variable {f : Formula} {s : Scale} {outcome : Except Refusal Int}

def operands : Formula → Int → Int → List Int
  | scaled, a, _ => [a]
  | reduced, a, _ => [a]
  | _, a, b => [a, b]

def badOperand? (f : Formula) (a b : Int) : Option Int :=
  (f.operands a b).find? fun x => x < 0 ∨ maxAmount < x

def divisor : Formula → Int → Int
  | product s, _ => s.unit
  | quotient _, b => b
  | floored, b => b
  | scaled, _ => 1
  | reduced, _ => wadRayRatio

/-- What is divided, before any reduction; a ray is divided before a half is looked at. -/
def numerator : Formula → Int → Int → Int
  | product s, a, b => a * b + s.unit / 2
  | quotient s, a, b => a * s.unit + b / 2
  | floored, a, _ => a * ray
  | scaled, a, _ => a * wadRayRatio
  | reduced, a, _ => a

def value : Formula → Int → Int → Int
  | reduced, a, _ => (a + wadRayRatio / 2) / wadRayRatio
  | f, a, b => f.numerator a b / f.divisor b

/-- What comes of a formula over words, where every step is reduced modulo `2 ^ 256`. -/
def onWords : Formula → Word → Word → Word
  | product s, a, b => (a * b + word (s.unit / 2)) / word s.unit
  | quotient s, a, b => (a * word s.unit + b / word 2) / b
  | floored, a, b => a * word ray / b
  | scaled, a, _ => a * word wadRayRatio
  | reduced, a, _ =>
      if word (wadRayRatio / 2) ≤ a % word wadRayRatio then a / word wadRayRatio + word 1
      else a / word wadRayRatio

def exact : Formula → Int → Int → ℚ
  | product s, a, b => a * b / s.unit
  | quotient s, a, b => a * s.unit / b
  | floored, a, b => a * ray / b
  | scaled, a, _ => a * wadRayRatio
  | reduced, a, _ => a / wadRayRatio

/-- The integer nearest to the exact value, the upper one of two; or the one below it. -/
def rounded : Formula → Int → Int → Int
  | floored, a, b => ⌊floored.exact a b⌋
  | f, a, b => round (f.exact a b)

/-!
# Guards
-/

/-- How a function ends: by its first bad operand, its divisor, its numerator, or its value. -/
inductive Ends (f : Formula) (a b : Int) : Except Refusal Int → Prop where
  | negative {op : String} {x : Int} (hbad : f.badOperand? a b = some x) (hneg : x < 0) :
      Ends f a b (.error (.negativeOperand op x))
  | tooLarge {r : Refusal} {x : Int} (hbad : f.badOperand? a b = some x) (hlarge : maxAmount < x)
      (hkind : r.kind = .overflow) (hfigures : r.figures = []) : Ends f a b (.error r)
  | zero {r : Refusal} (hgood : f.badOperand? a b = none) (hzero : f.divisor b = 0)
      (hkind : r.kind = .divisionByZero) (hfigures : r.figures = []) : Ends f a b (.error r)
  | overflow {r : Refusal} (hgood : f.badOperand? a b = none) (hdivisor : f.divisor b ≠ 0)
      (hlarge : maxAmount < f.numerator a b) (hkind : r.kind = .overflow)
      (hfigures : r.figures = []) : Ends f a b (.error r)
  | value (hgood : f.badOperand? a b = none) (hdivisor : f.divisor b ≠ 0)
      (hfits : f.numerator a b ≤ maxAmount) : Ends f a b (.ok (f.value a b))

theorem bind_requireOperand (x : Int) :
    (requireOperand op x >>= fun _ => outcome) =
      if x < 0 then .error (.negativeOperand op x)
      else if maxAmount < x then .error (.operandTooLarge op) else outcome := by
  unfold requireOperand
  split_ifs <;> rfl

theorem Ends.of_one (hoperands : f.operands a b = [a])
    (h : 0 ≤ a → a ≤ maxAmount → f.badOperand? a b = none → f.Ends a b outcome) :
    f.Ends a b (requireOperand op a >>= fun _ => outcome) := by
  have hbad : f.badOperand? a b = if a < 0 ∨ maxAmount < a then some a else none := by
    unfold badOperand?
    rw [hoperands]
    by_cases hout : a < 0 ∨ maxAmount < a <;> simp [hout]
  rw [bind_requireOperand]
  split_ifs with hneg hlarge
  · exact .negative (hbad.trans (if_pos (Or.inl hneg))) hneg
  · exact .tooLarge (hbad.trans (if_pos (Or.inr hlarge))) hlarge rfl rfl
  · exact h (not_lt.mp hneg) (not_lt.mp hlarge) (hbad.trans (if_neg (not_or.mpr ⟨hneg, hlarge⟩)))

theorem Ends.of_two (hoperands : f.operands a b = [a, b])
    (h : 0 ≤ a → a ≤ maxAmount → 0 ≤ b → b ≤ maxAmount → f.badOperand? a b = none →
      f.Ends a b outcome) :
    f.Ends a b (requireOperand op a >>= fun _ => requireOperand op b >>= fun _ => outcome) := by
  have hbad : f.badOperand? a b =
      if a < 0 ∨ maxAmount < a then some a else if b < 0 ∨ maxAmount < b then some b else none := by
    unfold badOperand?
    rw [hoperands]
    by_cases hout : a < 0 ∨ maxAmount < a <;> by_cases hout' : b < 0 ∨ maxAmount < b <;>
      simp [hout, hout']
  rw [bind_requireOperand, bind_requireOperand]
  split_ifs with hneg hlarge hneg' hlarge'
  · exact .negative (hbad.trans (if_pos (Or.inl hneg))) hneg
  · exact .tooLarge (hbad.trans (if_pos (Or.inr hlarge))) hlarge rfl rfl
  all_goals rw [if_neg (not_or.mpr ⟨hneg, hlarge⟩)] at hbad
  · exact .negative (hbad.trans (if_pos (Or.inl hneg'))) hneg'
  · exact .tooLarge (hbad.trans (if_pos (Or.inr hlarge'))) hlarge' rfl rfl
  · exact h (not_lt.mp hneg) (not_lt.mp hlarge) (not_lt.mp hneg') (not_lt.mp hlarge')
      (hbad.trans (if_neg (not_or.mpr ⟨hneg', hlarge'⟩)))

theorem Ends.of_guard {guard : Prop} [Decidable guard] {r : Refusal}
    (hgood : f.badOperand? a b = none) (hdivisor : f.divisor b ≠ 0)
    (hguard : guard ↔ maxAmount < f.numerator a b) (hkind : r.kind = .overflow)
    (hfigures : r.figures = []) :
    f.Ends a b (if guard then .error r else .ok (f.value a b)) := by
  split
  · next hlarge => exact .overflow hgood hdivisor (hguard.mp hlarge) hkind hfigures
  · next hfits => exact .value hgood hdivisor (not_lt.mp (hguard.not.mp hfits))

theorem room_lt_iff (hu : 0 < u) : (maxAmount - n) / u < a ↔ maxAmount < a * u + n := by
  rw [Int.ediv_lt_iff_lt_mul hu]
  omega

theorem ends_mulHalfUp (s : Scale) : (product s).Ends a b (mulHalfUp op s.unit a b) := by
  apply Ends.of_two rfl
  intro _ _ hb _ hgood
  have hhalf : s.unit / 2 ≤ maxAmount := (Int.ediv_le_self 2 s.positive.le).trans s.fits
  have hguard : b ≠ 0 ∧ (maxAmount - s.unit / 2) / b < a ↔
      maxAmount < a * b + s.unit / 2 := by
    rcases hb.eq_or_lt with rfl | hpos
    · rw [Int.mul_zero, Int.zero_add]
      exact iff_of_false (fun h => h.left rfl) (not_lt.mpr hhalf)
    · rw [room_lt_iff hpos]
      exact and_iff_right hpos.ne'
  exact Ends.of_guard hgood s.positive.ne' hguard rfl rfl

theorem ends_divHalfUp (s : Scale) : (quotient s).Ends a b (divHalfUp op s.unit a b) := by
  apply Ends.of_two rfl
  intro _ _ _ _ hgood
  split
  · next hzero => exact .zero hgood hzero rfl rfl
  · next hdivisor => exact Ends.of_guard hgood hdivisor (room_lt_iff s.positive) rfl rfl

theorem ends_rayDivFloor : floored.Ends a b (rayDivFloor a b) := by
  apply Ends.of_two rfl
  intro _ _ _ _ hgood
  split
  · next hzero => exact .zero hgood hzero rfl rfl
  · next hdivisor =>
      exact Ends.of_guard hgood hdivisor (Int.ediv_lt_iff_lt_mul (by decide)) rfl rfl

theorem ends_wadToRay : scaled.Ends a b (wadToRay a) := by
  apply Ends.of_one rfl
  intro _ _ hgood
  have hends : scaled.Ends a b (if maxAmount < a * wadRayRatio then
      .error (.resultTooLarge "wad_to_ray") else .ok (scaled.value a b)) :=
    Ends.of_guard hgood one_ne_zero Iff.rfl rfl rfl
  have hvalue : scaled.value a b = a * wadRayRatio := Int.ediv_one _
  rwa [hvalue] at hends

theorem ends_rayToWad : reduced.Ends a b (rayToWad a) := by
  have hdivisor : wadRayRatio ≠ 0 := by decide
  apply Ends.of_one rfl
  intro _ hmax hgood
  exact .value hgood hdivisor hmax

/-!
# Values
-/

theorem inRange_of_good (hgood : f.badOperand? a b = none) (hx : x ∈ f.operands a b) :
    0 ≤ x ∧ x ≤ maxAmount := by
  have hfine := List.find?_eq_none.mp hgood x hx
  rw [decide_eq_true_eq, not_or] at hfine
  exact ⟨not_lt.mp hfine.left, not_lt.mp hfine.right⟩

theorem left_inRange (hgood : f.badOperand? a b = none) : 0 ≤ a ∧ a ≤ maxAmount := by
  apply inRange_of_good hgood
  cases f <;> exact List.mem_cons_self

theorem divisor_inRange (hgood : f.badOperand? a b = none) :
    0 ≤ f.divisor b ∧ f.divisor b ≤ maxAmount := by
  cases f with
  | product s => exact ⟨s.positive.le, s.fits⟩
  | quotient s => exact inRange_of_good hgood (List.mem_cons_of_mem a (List.mem_singleton_self b))
  | floored => exact inRange_of_good hgood (List.mem_cons_of_mem a (List.mem_singleton_self b))
  | scaled => exact (by decide : (0 : Int) ≤ 1 ∧ (1 : Int) ≤ maxAmount)
  | reduced => exact (by decide : 0 ≤ wadRayRatio ∧ wadRayRatio ≤ maxAmount)

theorem round_div (hd : 0 < d) (x : Int) : round ((x : ℚ) / d) = (x + d / 2) / d := by
  have hd' : (0 : ℚ) < d := by exact_mod_cast hd
  have hlow := Int.ediv_mul_le (x + d / 2) hd.ne'
  have hhigh := Int.lt_ediv_add_one_mul_self (x + d / 2) hd
  rw [Int.add_mul, Int.one_mul] at hhigh
  rw [round_eq_iff, Set.mem_Ico, le_div_iff₀ hd', div_lt_iff₀ hd', sub_mul, add_mul]
  generalize (x + d / 2) / d = q at hlow hhigh ⊢
  have hbelow : 2 * (q * d) - d ≤ 2 * x := by omega
  have habove : 2 * x < 2 * (q * d) + d := by omega
  have hbelow' : 2 * ((q : ℚ) * d) - d ≤ 2 * x := by exact_mod_cast hbelow
  have habove' : 2 * (x : ℚ) < 2 * (q * d) + d := by exact_mod_cast habove
  constructor <;> linarith

theorem floor_div (hd : 0 ≤ d) (x : Int) : ⌊(x : ℚ) / d⌋ = x / d := by
  lift d to Nat using hd
  exact Rat.floor_intCast_div_natCast x d

theorem value_eq_rounded (hgood : f.badOperand? a b = none) (hdivisor : f.divisor b ≠ 0) :
    f.value a b = f.rounded a b := by
  have hrange := divisor_inRange hgood
  have hpos : 0 < f.divisor b := lt_of_le_of_ne hrange.left hdivisor.symm
  cases f with
  | product s =>
      change (a * b + s.unit / 2) / s.unit = round ((a : ℚ) * b / s.unit)
      rw [← Int.cast_mul, round_div s.positive]
  | quotient s =>
      have hb : 0 < b := hpos
      change (a * s.unit + b / 2) / b = round ((a : ℚ) * s.unit / b)
      rw [← Int.cast_mul, round_div hb]
  | floored =>
      have hb : 0 ≤ b := hrange.left
      change a * ray / b = ⌊(a : ℚ) * ray / b⌋
      rw [← Int.cast_mul, floor_div hb]
  | scaled =>
      change a * wadRayRatio / 1 = round ((a : ℚ) * wadRayRatio)
      rw [← Int.cast_mul, round_intCast, Int.ediv_one]
  | reduced =>
      change (a + wadRayRatio / 2) / wadRayRatio = round ((a : ℚ) / wadRayRatio)
      rw [round_div (by decide)]

theorem numerator_nonneg (hgood : f.badOperand? a b = none) : 0 ≤ f.numerator a b := by
  have ha := (left_inRange hgood).left
  have hdivisor := (divisor_inRange hgood).left
  cases f with
  | product s =>
      have hb := (inRange_of_good hgood (List.mem_cons_of_mem a List.mem_cons_self)).left
      exact Int.add_nonneg (Int.mul_nonneg ha hb) (Int.ediv_nonneg hdivisor (by decide))
  | quotient s =>
      exact Int.add_nonneg (Int.mul_nonneg ha s.positive.le) (Int.ediv_nonneg hdivisor (by decide))
  | floored => exact Int.mul_nonneg ha (by decide)
  | scaled => exact Int.mul_nonneg ha (by decide)
  | reduced => exact ha

theorem reduced_eq (a : Int) : (a + wadRayRatio / 2) / wadRayRatio =
    if wadRayRatio / 2 ≤ a % wadRayRatio then a / wadRayRatio + 1 else a / wadRayRatio := by
  unfold wadRayRatio
  split <;> omega

theorem onWords_eq (hgood : f.badOperand? a b = none) (hfits : f.numerator a b ≤ maxAmount) :
    ((f.onWords (word a) (word b)).toNat : Int) = f.value a b := by
  have ha := left_inRange hgood
  have hdivisor := divisor_inRange hgood
  have hnumerator := numerator_nonneg hgood
  -- the numerator is the only step that could leave the words, and it is bounded
  have hquotient : ((word (f.numerator a b) / word (f.divisor b)).toNat : Int) =
      f.numerator a b / f.divisor b := by
    rw [word_ediv hnumerator hfits hdivisor.left hdivisor.right]
    exact toNat_word (Int.ediv_nonneg hnumerator hdivisor.left)
      ((Int.ediv_le_self _ hnumerator).trans hfits)
  cases f with
  | product s =>
      rw [onWords, word_mul, word_add]
      exact hquotient
  | quotient s =>
      have hb : 0 ≤ b ∧ b ≤ maxAmount := hdivisor
      rw [onWords, word_ediv hb.left hb.right (by decide) (by decide), word_mul, word_add]
      exact hquotient
  | floored =>
      rw [onWords, word_mul]
      exact hquotient
  | scaled =>
      rw [onWords, word_mul]
      exact (toNat_word hnumerator hfits).trans (Int.ediv_one _).symm
  | reduced =>
      -- no half is added before the division, so an operand in range is enough
      have hhalf : word (wadRayRatio / 2) ≤ word a % word wadRayRatio ↔
          wadRayRatio / 2 ≤ a % wadRayRatio := by
        rw [BitVec.le_def, ← Int.ofNat_le, toNat_word (by decide) (by decide),
          toNat_word_emod ha.left ha.right (by decide) (by decide)]
      have hnonneg : 0 ≤ a / wadRayRatio := Int.ediv_nonneg ha.left (by decide)
      have hroom : a / wadRayRatio + 1 ≤ maxAmount := by
        have hmax := ha.right
        simp only [wadRayRatio, maxAmount] at hmax ⊢
        omega
      change _ = (a + wadRayRatio / 2) / wadRayRatio
      rw [onWords, word_ediv ha.left ha.right (by decide) (by decide), word_add, reduced_eq]
      simp only [hhalf]
      split
      · exact toNat_word (by omega) hroom
      · exact toNat_word hnonneg (by omega)

end Formula

/-!
# Endings
-/

def Raises (kind : RefusalKind) (outcome : Except Fault Int) : Prop :=
  ∃ r, outcome = .error (.refused r) ∧ r.kind = kind

variable {kind : RefusalKind} {r : Refusal}

theorem not_raises_ok : ¬Raises kind (.ok n) := nofun

theorem raises_ofRefusal :
    Raises kind (.error (.ofRefusal r)) ↔ r.isSayable = true ∧ r.kind = kind := by
  unfold Raises Fault.ofRefusal
  by_cases hsayable : r.isSayable = true <;> simp [hsayable]

theorem ofRefusal_eq_unreadable : Fault.ofRefusal r = .unreadable ↔ r.isSayable = false := by
  unfold Fault.ofRefusal
  by_cases hsayable : r.isSayable = true <;> simp [hsayable]

theorem isSayable_negativeOperand :
    (Refusal.negativeOperand op x).isSayable = Text.isWritable x := by
  unfold Refusal.isSayable Refusal.figures
  rw [List.all_cons, List.all_nil, Bool.and_true]

theorem isSayable_of_figures (h : r.figures = []) : r.isSayable = true := by
  unfold Refusal.isSayable
  rw [h]
  rfl

theorem nonneg_of_large (h : maxAmount < x) : 0 ≤ x :=
  (show 0 ≤ maxAmount by decide).trans h.le

namespace Formula

variable {f : Formula} {outcome : Except Refusal Int}

theorem Ends.precondition_iff (h : f.Ends a b outcome) :
    Raises .precondition (outcome.mapError Fault.ofRefusal) ↔
      ∃ x, f.badOperand? a b = some x ∧ x < 0 ∧ Text.isWritable x = true := by
  cases h with
  | negative hbad hneg =>
      simp [Except.mapError, raises_ofRefusal, isSayable_negativeOperand, Refusal.kind, hbad, hneg]
  | tooLarge hbad hlarge hkind _ =>
      simp [Except.mapError, raises_ofRefusal, hkind, hbad, nonneg_of_large hlarge]
  | zero hgood _ hkind _ => simp [Except.mapError, raises_ofRefusal, hkind, hgood]
  | overflow hgood _ _ hkind _ => simp [Except.mapError, raises_ofRefusal, hkind, hgood]
  | value hgood _ _ => simp [Except.mapError, not_raises_ok, hgood]

theorem Ends.unreadable_iff (h : f.Ends a b outcome) :
    outcome.mapError Fault.ofRefusal = .error .unreadable ↔
      ∃ x, f.badOperand? a b = some x ∧ x < 0 ∧ Text.isWritable x = false := by
  cases h with
  | negative hbad hneg =>
      simp [Except.mapError, ofRefusal_eq_unreadable, isSayable_negativeOperand, hbad, hneg]
  | tooLarge hbad hlarge _ hfigures =>
      simp [Except.mapError, ofRefusal_eq_unreadable, isSayable_of_figures hfigures, hbad,
        nonneg_of_large hlarge]
  | zero hgood _ _ hfigures =>
      simp [Except.mapError, ofRefusal_eq_unreadable, isSayable_of_figures hfigures, hgood]
  | overflow hgood _ _ _ hfigures =>
      simp [Except.mapError, ofRefusal_eq_unreadable, isSayable_of_figures hfigures, hgood]
  | value hgood _ _ => simp [Except.mapError, hgood]

theorem Ends.overflow_iff (h : f.Ends a b outcome) :
    Raises .overflow (outcome.mapError Fault.ofRefusal) ↔
      (∃ x, f.badOperand? a b = some x ∧ maxAmount < x) ∨
        f.badOperand? a b = none ∧ f.divisor b ≠ 0 ∧ maxAmount < f.numerator a b := by
  cases h with
  | @negative _ x hbad hneg =>
      have hsmall : x ≤ maxAmount := hneg.le.trans (by decide)
      simp [Except.mapError, raises_ofRefusal, Refusal.kind, hbad, hsmall]
  | tooLarge hbad hlarge hkind hfigures =>
      simp [Except.mapError, raises_ofRefusal, isSayable_of_figures hfigures, hkind, hbad, hlarge]
  | zero hgood hzero hkind _ => simp [Except.mapError, raises_ofRefusal, hkind, hgood, hzero]
  | overflow hgood hdivisor hlarge hkind hfigures =>
      simp [Except.mapError, raises_ofRefusal, isSayable_of_figures hfigures, hkind, hgood,
        hdivisor, hlarge]
  | value hgood _ hfits => simp [Except.mapError, not_raises_ok, hgood, hfits]

theorem Ends.divisionByZero_iff (h : f.Ends a b outcome) :
    Raises .divisionByZero (outcome.mapError Fault.ofRefusal) ↔
      f.badOperand? a b = none ∧ f.divisor b = 0 := by
  cases h with
  | negative hbad _ => simp [Except.mapError, raises_ofRefusal, Refusal.kind, hbad]
  | tooLarge hbad _ hkind _ => simp [Except.mapError, raises_ofRefusal, hkind, hbad]
  | zero hgood hzero hkind hfigures =>
      simp [Except.mapError, raises_ofRefusal, isSayable_of_figures hfigures, hkind, hgood, hzero]
  | overflow hgood hdivisor _ hkind _ =>
      simp [Except.mapError, raises_ofRefusal, hkind, hdivisor]
  | value _ hdivisor _ => simp [Except.mapError, not_raises_ok, hdivisor]

theorem Ends.eq_value (h : f.Ends a b outcome) (hgood : f.badOperand? a b = none)
    (hdivisor : f.divisor b ≠ 0) (hfits : f.numerator a b ≤ maxAmount) :
    outcome = .ok (f.value a b) := by
  cases h with
  | negative hbad _ => cases hgood.symm.trans hbad
  | tooLarge hbad _ _ _ => cases hgood.symm.trans hbad
  | zero _ hzero _ _ => exact absurd hzero hdivisor
  | overflow _ _ hlarge _ _ => exact absurd hfits (not_le.mpr hlarge)
  | value _ _ _ => rfl

end Formula

/-!
# The kernel
-/

inductive Operation where
  | rayMul
  | rayDiv
  | rayDivFloor
  | wadMul
  | wadDiv
  | wadToRay
  | rayToWad
  | percentMul

namespace Operation

def perform : Operation → Int → Int → Except Refusal Int
  | rayMul, a, b => FixedPoint.rayMul a b
  | rayDiv, a, b => FixedPoint.rayDiv a b
  | rayDivFloor, a, b => FixedPoint.rayDivFloor a b
  | wadMul, a, b => FixedPoint.wadMul a b
  | wadDiv, a, b => FixedPoint.wadDiv a b
  | wadToRay, a, _ => FixedPoint.wadToRay a
  | rayToWad, a, _ => FixedPoint.rayToWad a
  | percentMul, a, b => FixedPoint.percentMul a b

def rays : Scale := ⟨ray, by decide, by decide⟩
def wads : Scale := ⟨wad, by decide, by decide⟩
def basisPoints : Scale := ⟨percentageFactor, by decide, by decide⟩

def formula : Operation → Formula
  | rayMul => .product rays
  | rayDiv => .quotient rays
  | rayDivFloor => .floored
  | wadMul => .product wads
  | wadDiv => .quotient wads
  | wadToRay => .scaled
  | rayToWad => .reduced
  | percentMul => .product basisPoints

theorem ends_perform (f : Operation) (a b : Int) : f.formula.Ends a b (f.perform a b) := by
  cases f with
  | rayMul => exact Formula.ends_mulHalfUp rays
  | rayDiv => exact Formula.ends_divHalfUp rays
  | rayDivFloor => exact Formula.ends_rayDivFloor
  | wadMul => exact Formula.ends_mulHalfUp wads
  | wadDiv => exact Formula.ends_divHalfUp wads
  | wadToRay => exact Formula.ends_wadToRay
  | rayToWad => exact Formula.ends_rayToWad
  | percentMul => exact Formula.ends_mulHalfUp basisPoints

/--
For all integers, a function of the kernel refuses a first bad operand, which is a
precondition if it is negative and an overflow if it is too large for a word; with
good operands it refuses a divisor of zero, and otherwise a numerator that is too
large. It answers in all other cases, a ray in a word always, with what words come
to where every step is reduced, and that is the exact value as it is to be rounded.
Only a negative operand with more digits than are ever written is no refusal at all,
for the refusal would have to write it out.
-/
theorem kernel_agrees_with_words (f : Operation) (a b : Int) :
    let outcome := (f.perform a b).mapError Fault.ofRefusal
    let result : Int := (f.formula.onWords (word a) (word b)).toNat
    (Raises .precondition outcome ↔
      ∃ x, f.formula.badOperand? a b = some x ∧ x < 0 ∧ Text.isWritable x = true) ∧
    (outcome = .error .unreadable ↔
      ∃ x, f.formula.badOperand? a b = some x ∧ x < 0 ∧ Text.isWritable x = false) ∧
    (Raises .overflow outcome ↔
      (∃ x, f.formula.badOperand? a b = some x ∧ maxAmount < x) ∨
        f.formula.badOperand? a b = none ∧ f.formula.divisor b ≠ 0 ∧
          maxAmount < f.formula.numerator a b) ∧
    (Raises .divisionByZero outcome ↔
      f.formula.badOperand? a b = none ∧ f.formula.divisor b = 0) ∧
    (f.formula.badOperand? a b = none → f.formula.divisor b ≠ 0 →
      f.formula.numerator a b ≤ maxAmount →
        outcome = .ok result ∧ result = f.formula.rounded a b ∧ result ≤ maxAmount) ∧
    (f = rayToWad → 0 ≤ a → a ≤ maxAmount → outcome = .ok result) := by
  intro outcome result
  have hends := f.ends_perform a b
  have hanswer : f.formula.badOperand? a b = none → f.formula.divisor b ≠ 0 →
      f.formula.numerator a b ≤ maxAmount →
        outcome = .ok result ∧ result = f.formula.rounded a b ∧ result ≤ maxAmount := by
    intro hgood hdivisor hfits
    have hresult : result = f.formula.value a b := Formula.onWords_eq hgood hfits
    refine ⟨?_, hresult.trans (Formula.value_eq_rounded hgood hdivisor), ?_⟩
    · rw [hresult]
      exact congrArg (Except.mapError Fault.ofRefusal) (hends.eq_value hgood hdivisor hfits)
    · have hword : ((f.formula.onWords (word a) (word b)).toNat : Int) < (2 ^ 256 : Nat) :=
        Int.ofNat_lt.mpr (BitVec.isLt _)
      exact Int.le_of_lt_add_one hword
  refine ⟨hends.precondition_iff, hends.unreadable_iff, hends.overflow_iff,
    hends.divisionByZero_iff, hanswer, ?_⟩
  intro hfunction hnonneg hmax
  subst hfunction
  have hgood : Formula.reduced.badOperand? a b = none := by
    apply List.find?_eq_none.mpr
    intro x hx
    rw [List.mem_singleton.mp hx, decide_eq_true_eq, not_or]
    exact ⟨not_lt.mpr hnonneg, not_lt.mpr hmax⟩
  exact (hanswer hgood (by decide : wadRayRatio ≠ 0) hmax).left

/--
Half of one is rounded up. A wad that just fits as a ray is converted, and one more
is too large. A zero divisor is not looked at beside a negative dividend, which is
refused, unless it has more digits than are written.
-/
theorem kernel_agrees_with_words_at_bounds :
    let outcome (f : Operation) (a b : Int) := (f.perform a b).mapError Fault.ofRefusal
    let most : Int := maxAmount / wadRayRatio
    let endless : Int := -(Text.integerBound : Int)
    outcome percentMul 1 5000 = .ok 1 ∧ Formula.rounded (.product basisPoints) 1 5000 = 1 ∧
      outcome wadToRay most 0 = .ok (most * wadRayRatio) ∧
      Raises .overflow (outcome wadToRay (most + 1) 0) ∧
      Raises .precondition (outcome rayDiv (-1) 0) ∧ Raises .divisionByZero (outcome rayDiv 1 0) ∧
      outcome rayDiv endless 0 = .error .unreadable := by
  intro outcome most endless
  rcases kernel_agrees_with_words percentMul 1 5000 with ⟨_, _, _, _, hhalf, _⟩
  rcases hhalf (by decide) (by decide) (by decide) with ⟨hpart, hnearest, _⟩
  rcases kernel_agrees_with_words wadToRay most 0 with ⟨_, _, _, _, hfits, _⟩
  have hendless : endless < 0 := by decide +kernel
  refine ⟨hpart, hnearest.symm, ?_, ?_, ?_, ?_, ?_⟩
  · exact (hfits (by decide) (by decide) (by decide)).left.trans
      (congrArg Except.ok (by decide +kernel))
  · exact (kernel_agrees_with_words wadToRay (most + 1) 0).right.right.left.mpr
      (Or.inr ⟨by decide, by decide, by decide⟩)
  · exact (kernel_agrees_with_words rayDiv (-1) 0).left.mpr
      ⟨-1, by decide, by decide, by decide +kernel⟩
  · exact (kernel_agrees_with_words rayDiv 1 0).right.right.right.left.mpr ⟨by decide, rfl⟩
  · exact (kernel_agrees_with_words rayDiv endless 0).right.left.mpr
      ⟨endless, by decide +kernel, hendless, by decide +kernel⟩

end Operation
end FixedPoint
end ReserveAccounting
