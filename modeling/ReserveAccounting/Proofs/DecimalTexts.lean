import Mathlib.Algebra.Order.Field.Power
import Mathlib.Tactic.FieldSimp
import Mathlib.Tactic.Ring
import ReserveAccounting.Decimal.Printer
import ReserveAccounting.Decimal.Reader
import ReserveAccounting.Proofs.DecimalRounding

/-!
# Texts of decimals

A decimal is written as digits, with a point before the digits of its fraction,
and in the scientific form with an exponent where the point would stand too far
from the digits. What is written is read back with the same coefficient and the
same exponent. The fixed form is the decimal expansion of the number, every
digit at its place.
-/

namespace ReserveAccounting

/-!
# Characters
-/

namespace Text

theorem toNat_of_isDigit {c : Char} (h : c.isDigit = true) : 48 ≤ c.toNat ∧ c.toNat ≤ 57 := by
  simp only [Char.isDigit, Bool.and_eq_true, decide_eq_true_eq] at h
  exact ⟨UInt32.le_iff_toNat_le.mp h.left, UInt32.le_iff_toNat_le.mp h.right⟩

theorem digit?_of_isDigit {c : Char} (h : c.isDigit = true) : digit? c = some (c.toNat - 48) := by
  have hrange := toNat_of_isDigit h
  have hfirst : digitRanges.find? (fun r => r.1 ≤ c.toNat && c.toNat ≤ r.2) =
      some (0x30, 0x39) := by
    apply List.find?_cons_of_pos
    simp only [Bool.and_eq_true, decide_eq_true_eq]
    exact hrange
  have hvalue : (c.toNat - 48) % 10 = c.toNat - 48 := Nat.mod_eq_of_lt (by omega)
  unfold digit?
  rw [hfirst, Option.map_some, hvalue]

theorem ofDigits_map_toNat (cs : List Char) :
    ofDigits (cs.map fun c => c.toNat - 48) = Nat.ofDigitChars 10 cs 0 := by
  unfold ofDigits
  rw [Nat.ofDigitChars_eq_foldl, List.foldl_map]
  rfl

theorem dropWhile_of_forall {p : Char → Bool} {cs : List Char} (h : ∀ c ∈ cs, p c = false) :
    cs.dropWhile p = cs := by
  cases cs with
  | nil => rfl
  | cons c rest =>
      apply List.dropWhile_cons_of_neg
      rw [h c List.mem_cons_self]
      exact Bool.false_ne_true

theorem trimWhere_of_forall {p : Char → Bool} {cs : List Char} (h : ∀ c ∈ cs, p c = false) :
    trimWhere p cs = cs := by
  unfold trimWhere
  rw [dropWhile_of_forall h, dropWhile_of_forall fun c hc => h c (List.mem_reverse.mp hc),
    List.reverse_reverse]

theorem isBlank_of_isDigit {c : Char} (h : c.isDigit = true) : isBlank c = false := by
  have hrange := toNat_of_isDigit h
  have hapart : ∀ r ∈ blankRanges, r.2 < 48 ∨ 57 < r.1 := by decide
  unfold isBlank inRanges
  rw [List.any_eq_false]
  intro r hr
  simp only [Bool.and_eq_true, decide_eq_true_eq, not_and]
  have := hapart r hr
  omega

theorem ne_of_isDigit {c other : Char} (h : c.isDigit = true) (hother : other.isDigit = false) :
    c ≠ other := by
  rintro rfl
  rw [h] at hother
  cases hother

def IsPlain (c : Char) : Prop := c.isDigit = true ∨ c ∈ ['-', '+', '.', 'E']

theorem IsPlain.not_isBlank {c : Char} (h : IsPlain c) : isBlank c = false := by
  rcases h with hdigit | hmark
  · exact isBlank_of_isDigit hdigit
  · simp only [List.mem_cons, List.not_mem_nil, or_false] at hmark
    rcases hmark with rfl | rfl | rfl | rfl <;> decide

theorem IsPlain.ne_underscore {c : Char} (h : IsPlain c) : c ≠ '_' := by
  rcases h with hdigit | hmark
  · exact ne_of_isDigit hdigit (by decide)
  · simp only [List.mem_cons, List.not_mem_nil, or_false] at hmark
    rcases hmark with rfl | rfl | rfl | rfl <;> decide

end Text

/-!
# Reading digits
-/

namespace Numeral

open Text

variable {whole fraction tail : List Char} {negative : Bool} {x : Decimal}

theorem canonicalChar_of_isDigit {c : Char} (h : c.isDigit = true) : canonicalChar c = c := by
  have hrange := toNat_of_isDigit h
  have hcode : '0'.toNat + (c.toNat - 48) = c.toNat := by
    change 48 + (c.toNat - 48) = c.toNat
    omega
  unfold canonicalChar
  rw [digit?_of_isDigit h]
  dsimp only
  rw [hcode, Char.ofNat_toNat]

theorem map_canonicalChar {cs : List Char} (h : ∀ c ∈ cs, c.isDigit = true) :
    cs.map canonicalChar = cs :=
  (List.map_congr_left fun c hc => canonicalChar_of_isDigit (h c hc)).trans (List.map_id cs)

def EndsDigits (tail : List Char) : Prop := ∀ c ∈ tail.head?, digit? c = none

theorem leadingDigits_append {cs : List Char} (hcs : ∀ c ∈ cs, c.isDigit = true)
    (htail : EndsDigits tail) :
    leadingDigits (cs ++ tail) = (cs.map fun c => c.toNat - 48, tail) := by
  induction cs with
  | nil =>
      cases tail with
      | nil => rfl
      | cons c rest =>
          rw [List.nil_append, leadingDigits, htail c rfl]
          rfl
  | cons c cs ih =>
      rw [List.cons_append, leadingDigits, digit?_of_isDigit (hcs c List.mem_cons_self),
        ih fun c' hc' => hcs c' (List.mem_cons_of_mem c hc')]
      rfl

def layout (whole : List Char) : List Char → List Char
  | [] => whole
  | c :: rest => whole ++ '.' :: c :: rest

def exponentPart (mark : Char) (e : Int) : List Char :=
  mark :: (if e < 0 then '-' else '+') :: Nat.toDigits 10 e.natAbs

theorem isDigit_toDigits (n : Nat) : ∀ c ∈ Nat.toDigits 10 n, c.isDigit = true :=
  fun _ hc => Nat.isDigit_of_mem_toDigits (by decide) (by decide) hc

theorem exponent?_signed (negative : Bool) (body : List Char) :
    exponent? ('e' :: (if negative then '-' else '+') :: body) =
      match leadingDigits body with
      | ([], _) => none
      | (ds, []) => some (if negative then -(ofDigits ds : Int) else ofDigits ds)
      | _ => none := by
  cases negative <;> rfl

theorem exponent?_exponentPart (e : Int) : exponent? (exponentPart 'e' e) = some e := by
  have hend : EndsDigits [] := nofun
  have hread := leadingDigits_append (isDigit_toDigits e.natAbs) hend
  have hvalue := ofDigits_map_toNat (Nat.toDigits 10 e.natAbs)
  have hsome : (Nat.toDigits 10 e.natAbs).map (fun c => c.toNat - 48) ≠ [] :=
    fun hnone => Nat.toDigits_ne_nil (List.map_eq_nil_iff.mp hnone)
  have hsign := exponent?_signed (e < 0) (Nat.toDigits 10 e.natAbs)
  simp only [decide_eq_true_eq] at hsign
  rw [List.append_nil] at hread
  rw [Nat.ofDigitChars_ten_toDigits] at hvalue
  rw [hread] at hsign
  refine hsign.trans ?_
  cases hds : (Nat.toDigits 10 e.natAbs).map fun c => c.toNat - 48 with
  | nil => exact absurd hds hsome
  | cons d ds =>
      rw [hds] at hvalue
      dsimp only
      rw [hvalue]
      congr 1
      omega

def IsEnd (tail : List Char) : Prop := tail = [] ∨ ∃ rest, tail = 'e' :: rest

theorem IsEnd.endsDigits (h : IsEnd tail) : EndsDigits tail := by
  rcases h with rfl | ⟨rest, rfl⟩
  · nofun
  · intro c hc
    cases hc
    decide

def fractionDigits : List Char → List Nat × List Char
  | '.' :: rest => leadingDigits rest
  | rest => ([], rest)

theorem written?_of_parts {cs rest : List Char} {ds fs : List Nat}
    (hwhole : leadingDigits cs = (ds, rest)) (hfraction : fractionDigits rest = (fs, tail))
    (hne : ds ≠ []) :
    written? negative cs =
      (exponent? tail).map fun e => ⟨negative, ofDigits (ds ++ fs), e - fs.length⟩ := by
  change (do
    let parts := fractionDigits (leadingDigits cs).2
    if (leadingDigits cs).1.isEmpty && parts.1.isEmpty then none
    let e ← exponent? parts.2
    some (⟨negative, ofDigits ((leadingDigits cs).1 ++ parts.1), e - parts.1.length⟩ :
      Decimal)) = _
  rw [hwhole]
  dsimp only
  rw [hfraction]
  rw [List.isEmpty_eq_false_iff.mpr hne]
  cases exponent? tail <;> rfl

theorem written?_layout (negative : Bool) (hwhole : ∀ c ∈ whole, c.isDigit = true)
    (hfraction : ∀ c ∈ fraction, c.isDigit = true) (hne : whole ≠ []) (htail : IsEnd tail) :
    written? negative (layout whole fraction ++ tail) = (exponent? tail).map fun e =>
      ⟨negative, Nat.ofDigitChars 10 (whole ++ fraction) 0, e - fraction.length⟩ := by
  have hsome : whole.map (fun c => c.toNat - 48) ≠ [] :=
    fun hnone => hne (List.map_eq_nil_iff.mp hnone)
  rw [← ofDigits_map_toNat, List.map_append, ← List.length_map (fun c => c.toNat - 48)]
  cases fraction with
  | nil =>
      refine written?_of_parts (leadingDigits_append hwhole htail.endsDigits) ?_ hsome
      rcases htail with rfl | ⟨rest, rfl⟩ <;> rfl
  | cons c rest =>
      have hpoint : EndsDigits ('.' :: (c :: rest ++ tail)) := by
        intro c' hc'
        cases hc'
        decide
      rw [layout, List.append_assoc, List.cons_append]
      exact written?_of_parts (leadingDigits_append hwhole hpoint)
        (leadingDigits_append hfraction htail.endsDigits) hsome

theorem body?_of_digit {c : Char} {rest : List Char} (hc : c.isDigit = true) :
    body? negative (c :: rest) = (unsigned? negative (c :: rest)).map number := by
  have hname : ∀ name : List Char, (∀ c' ∈ name.head?, c'.isDigit = false) → c :: rest ≠ name := by
    rintro _ hother rfl
    exact ne_of_isDigit hc (hother c rfl) rfl
  unfold body?
  rw [if_neg]
  · split
    · next h => exact absurd h (hname _ (by rintro _ ⟨⟩; decide))
    · next h => exact absurd h (hname _ (by rintro _ ⟨⟩; decide))
    · rfl
  · simp only [Bool.or_eq_true, decide_eq_true_eq, not_or]
    exact ⟨hname _ (by rintro _ ⟨⟩; decide), hname _ (by rintro _ ⟨⟩; decide)⟩

theorem ofText?_signed {c : Char} {rest : List Char} (hc : c.isDigit = true)
    (hrest : ∀ c ∈ rest, IsPlain c) :
    ofText? (Decimal.signText negative ++ String.ofList (c :: rest)) =
      (unsigned? negative (c :: rest.map canonicalChar)).map number := by
  have hplain : ∀ c' ∈ c :: rest, IsPlain c' := by
    intro c' hc'
    rcases List.mem_cons.mp hc' with rfl | hc'
    · exact Or.inl hc
    · exact hrest c' hc'
  have hkept : ∀ cs : List Char, (∀ c ∈ cs, IsPlain c) →
      ((trimWhere isBlank cs).filter (· != '_')).map canonicalChar = cs.map canonicalChar := by
    intro cs hcs
    rw [trimWhere_of_forall fun c hc => (hcs c hc).not_isBlank, List.filter_eq_self.mpr]
    intro c hc
    exact bne_iff_ne.mpr (hcs c hc).ne_underscore
  unfold ofText?
  cases negative with
  | true =>
      have hsigned : ∀ c' ∈ '-' :: c :: rest, IsPlain c' := by
        intro c' hc'
        rcases List.mem_cons.mp hc' with rfl | hc'
        · exact Or.inr (by decide)
        · exact hplain c' hc'
      have hlist : (Decimal.signText true ++ String.ofList (c :: rest)).toList =
          '-' :: c :: rest := by
        rw [String.toList_append, String.toList_ofList]
        rfl
      rw [hlist, hkept _ hsigned, List.map_cons, List.map_cons, canonicalChar_of_isDigit hc]
      exact body?_of_digit hc
  | false =>
      have hlist : (Decimal.signText false ++ String.ofList (c :: rest)).toList = c :: rest := by
        rw [String.toList_append, String.toList_ofList]
        rfl
      rw [hlist, hkept _ hplain, List.map_cons, canonicalChar_of_isDigit hc]
      split
      · next h =>
          cases h
          cases hc
      · next h =>
          cases h
          cases hc
      · exact body?_of_digit hc

end Numeral

/-!
# Writing and reading
-/

namespace Decimal

open Numeral Text

variable {x : Decimal} {whole fraction : List Char} {e : Int}

/-- Digits that show a number up to a power of ten, those of a fraction behind a point. -/
structure Shows (x : Decimal) (whole fraction : List Char) (e : Int) : Prop where
  whole_ne : whole ≠ []
  digits : ∀ c ∈ whole ++ fraction, c.isDigit = true
  coefficient : Nat.ofDigitChars 10 (whole ++ fraction) 0 = x.coefficient
  exponent : x.exponent = e - fraction.length

structure Readable (x : Decimal) : Prop where
  adjusted : x.adjusted ≤ maxReadAdjusted
  exponent : minReadExponent ≤ x.exponent

theorem Shows.unsigned? (h : x.Shows whole fraction e) (hx : x.Readable) (tail : List Char)
    (htail : IsEnd tail) (he : exponent? tail = some e) :
    Numeral.unsigned? x.negative (layout whole fraction ++ tail) = some x := by
  have hwritten := written?_layout x.negative
    (fun c hc => h.digits c (List.mem_append_left _ hc))
    (fun c hc => h.digits c (List.mem_append_right _ hc)) h.whole_ne htail
  rw [he, Option.map_some, h.coefficient, ← h.exponent] at hwritten
  unfold Numeral.unsigned?
  rw [hwritten]
  exact if_pos (by simp [hx.adjusted, hx.exponent])

theorem Shows.exists_layout (h : x.Shows whole fraction e) :
    ∃ c rest, layout whole fraction = c :: rest ∧ c.isDigit = true ∧ (∀ c ∈ rest, IsPlain c) ∧
      rest.map canonicalChar = rest := by
  have hdigit : ∀ c : Char, c.isDigit = true → IsPlain c ∧ canonicalChar c = c :=
    fun c hc => ⟨Or.inl hc, canonicalChar_of_isDigit hc⟩
  have hpoint : IsPlain '.' ∧ canonicalChar '.' = '.' := ⟨Or.inr (by decide), by decide⟩
  have hkept : ∀ c ∈ layout whole fraction, IsPlain c ∧ canonicalChar c = c := by
    intro c hc
    cases fraction with
    | nil => exact hdigit c (h.digits c (List.mem_append_left _ hc))
    | cons c' rest =>
        rcases List.mem_append.mp hc with hwhole | hbehind
        · exact hdigit c (h.digits c (List.mem_append_left _ hwhole))
        · rcases List.mem_cons.mp hbehind with rfl | hfraction
          · exact hpoint
          · exact hdigit c (h.digits c (List.mem_append_right _ hfraction))
  obtain ⟨c, rest, hwhole⟩ := List.exists_cons_of_ne_nil h.whole_ne
  have hfirst : c.isDigit = true := by
    apply h.digits
    rw [hwhole]
    exact List.mem_cons_self
  obtain ⟨rest', hlayout⟩ : ∃ rest', layout whole fraction = c :: rest' := by
    rw [hwhole]
    cases fraction with
    | nil => exact ⟨rest, rfl⟩
    | cons c' rest' => exact ⟨rest ++ '.' :: c' :: rest', rfl⟩
  rw [hlayout] at hkept
  refine ⟨c, rest', hlayout, hfirst, fun c' hc' => (hkept c' (List.mem_cons_of_mem _ hc')).left, ?_⟩
  exact (List.map_congr_left fun c' hc' => (hkept c' (List.mem_cons_of_mem _ hc')).right).trans
    (List.map_id rest')

theorem Shows.ofText? (h : x.Shows whole fraction 0) (hx : x.Readable) :
    Numeral.ofText? (signText x.negative ++ String.ofList (layout whole fraction)) =
      some (.number x) := by
  have hread := h.unsigned? hx [] (Or.inl rfl) rfl
  obtain ⟨c, rest, hlayout, hc, hplain, hcanonical⟩ := h.exists_layout
  rw [List.append_nil, hlayout] at hread
  rw [hlayout, ofText?_signed hc hplain, hcanonical, hread, Option.map_some]

theorem isPlain_exponentPart (e : Int) : ∀ c ∈ exponentPart 'E' e, IsPlain c := by
  intro c hc
  rcases List.mem_cons.mp hc with rfl | hc
  · exact Or.inr (by decide)
  · rcases List.mem_cons.mp hc with rfl | hc
    · split
      · exact Or.inr (by decide)
      · exact Or.inr (by decide)
    · exact Or.inl (isDigit_toDigits _ c hc)

theorem map_canonicalChar_exponentPart (e : Int) :
    (exponentPart 'E' e).map canonicalChar = exponentPart 'e' e := by
  have hmark : canonicalChar 'E' = 'e' := by decide
  have hsign : canonicalChar (if e < 0 then '-' else '+') = if e < 0 then '-' else '+' := by
    split <;> decide
  unfold exponentPart
  rw [List.map_cons, List.map_cons, hmark, hsign, map_canonicalChar (isDigit_toDigits _)]

theorem Shows.ofText?_exponent (h : x.Shows whole fraction e) (hx : x.Readable) :
    Numeral.ofText? (signText x.negative ++
      String.ofList (layout whole fraction ++ exponentPart 'E' e)) = some (.number x) := by
  have hread := h.unsigned? hx (exponentPart 'e' e) (Or.inr ⟨_, rfl⟩)
    (exponent?_exponentPart e)
  obtain ⟨c, rest, hlayout, hc, hplain, hcanonical⟩ := h.exists_layout
  rw [hlayout, List.cons_append] at hread ⊢
  rw [ofText?_signed hc, List.map_append, hcanonical, map_canonicalChar_exponentPart, hread,
    Option.map_some]
  intro c' hc'
  rcases List.mem_append.mp hc' with hrest | htail
  · exact hplain c' hrest
  · exact isPlain_exponentPart e c' htail

/-!
# The written digits
-/

theorem length_toDigits (n : Nat) : (Nat.toDigits 10 n).length = digitCount n := by
  fun_induction digitCount n with
  | case1 n h => rw [Nat.toDigits_of_lt_base h, List.length_singleton]
  | case2 n h ih =>
      rw [Nat.toDigits_of_base_le (by decide) (not_lt.mp h), List.length_append, ih,
        List.length_singleton]

theorem head_toDigits_ne_zero {n : Nat} (hn : 0 < n) : (Nat.toDigits 10 n).head? ≠ some '0' := by
  induction n using Nat.strong_induction_on with
  | _ n ih =>
      by_cases hlt : n < 10
      · have hdigits : ∀ d < 10, 0 < d → [Nat.digitChar d].head? ≠ some '0' := by decide
        rw [Nat.toDigits_of_lt_base hlt]
        exact hdigits n hlt hn
      · rw [Nat.toDigits_of_base_le (by decide) (not_lt.mp hlt),
          List.head?_append_of_ne_nil _ Nat.toDigits_ne_nil]
        exact ih (n / 10) (by omega) (by omega)

/-- Digits without zeros in front, unless zero is all there is. -/
def IsLean (digits : List Char) : Prop := digits.head? = some '0' → digits = ['0']

theorem isLean_digitsOf (x : Decimal) : IsLean x.digitsOf := by
  intro hzero
  unfold digitsOf at *
  rcases Nat.eq_zero_or_pos x.coefficient with hnone | hpos
  · rw [hnone]
    rfl
  · exact absurd hzero (head_toDigits_ne_zero hpos)

theorem pointed_layout (digits : List Char) {places : Nat} (hplaces : 0 < places)
    (hlean : IsLean digits) :
    ∃ whole fraction, pointed digits places = layout whole fraction ∧ whole ≠ [] ∧ IsLean whole ∧
      fraction.length = places ∧
      whole ++ fraction = List.replicate (places + 1 - digits.length) '0' ++ digits := by
  generalize hpadded : List.replicate (places + 1 - digits.length) '0' ++ digits = padded
  have hlength : padded.length = max (places + 1) digits.length := by
    rw [← hpadded, List.length_append, List.length_replicate]
    omega
  have hpointed : pointed digits places =
      padded.take (padded.length - places) ++ '.' :: padded.drop (padded.length - places) := by
    rw [← hpadded]
    rfl
  have hbehind : (padded.drop (padded.length - places)).length = places := by
    rw [List.length_drop]
    omega
  have hbefore : (padded.take (padded.length - places)).length = padded.length - places := by
    rw [List.length_take]
    omega
  refine ⟨padded.take (padded.length - places), padded.drop (padded.length - places), ?_, ?_, ?_,
    hbehind, List.take_append_drop _ _⟩
  · rw [hpointed]
    cases hdrop : padded.drop (padded.length - places) with
    | nil =>
        rw [hdrop, List.length_nil] at hbehind
        omega
    | cons c rest => rfl
  · intro hnil
    rw [hnil, List.length_nil] at hbefore
    omega
  · intro hzero
    by_cases hlong : places + 1 ≤ digits.length
    · -- nothing is missing, and there are too many digits for a zero alone
      rw [Nat.sub_eq_zero_of_le hlong, List.replicate_zero, List.nil_append] at hpadded
      rw [List.head?_take, if_neg (by omega), ← hpadded] at hzero
      rw [hlean hzero, List.length_singleton] at hlong
      omega
    · -- the only digit before the point is one of the zeros
      obtain ⟨n, hn⟩ : ∃ n, places + 1 - digits.length = n + 1 :=
        ⟨places - digits.length, by omega⟩
      have hone : padded.length - places = 1 := by omega
      rw [hn] at hpadded
      rw [hone, ← hpadded]
      rfl

theorem shows_pointed (hx : x.exponent < 0) :
    ∃ whole fraction, pointed x.digitsOf (-x.exponent).toNat = layout whole fraction ∧
      IsLean whole ∧ x.Shows whole fraction 0 := by
  obtain ⟨whole, fraction, hpointed, hne, hlean, hlength, hdigits⟩ :=
    pointed_layout x.digitsOf (show 0 < (-x.exponent).toNat by omega) (isLean_digitsOf x)
  refine ⟨whole, fraction, hpointed, hlean, hne, ?_, ?_, by omega⟩
  · intro c hc
    rw [hdigits] at hc
    rcases List.mem_append.mp hc with hzero | hdigit
    · rw [List.eq_of_mem_replicate hzero]
      decide
    · exact isDigit_toDigits _ c hdigit
  · rw [hdigits, Nat.ofDigitChars_append, Nat.ofDigitChars_replicate_zero, Nat.mul_zero]
    exact Nat.ofDigitChars_ten_toDigits

theorem shows_plain (hx : x.exponent = 0) : x.Shows x.digitsOf [] 0 where
  whole_ne := Nat.toDigits_ne_nil
  digits c hc := isDigit_toDigits _ c (by rwa [List.append_nil] at hc)
  coefficient := by
    rw [List.append_nil]
    exact Nat.ofDigitChars_ten_toDigits
  exponent := by
    rw [hx]
    rfl

theorem scientific_eq (x : Decimal) :
    ∃ whole fraction,
      (x.Shows whole fraction 0 ∧
        x.scientific = signText x.negative ++ String.ofList (layout whole fraction)) ∨
      ∃ e, x.Shows whole fraction e ∧ x.scientific =
        signText x.negative ++ String.ofList (layout whole fraction ++ exponentPart 'E' e) := by
  unfold scientific
  dsimp only
  by_cases hplain : (decide (x.exponent ≤ 0) && decide (-6 ≤ x.adjusted)) = true
  · simp only [Bool.and_eq_true, decide_eq_true_eq] at hplain
    by_cases hzero : x.exponent = 0
    · refine ⟨x.digitsOf, [], Or.inl ⟨shows_plain hzero, ?_⟩⟩
      rw [if_pos (by simp [hplain]), if_pos hzero]
      rfl
    · obtain ⟨whole, fraction, hpointed, _, hshows⟩ := shows_pointed (x := x) (by omega)
      refine ⟨whole, fraction, Or.inl ⟨hshows, ?_⟩⟩
      rw [if_pos (by simp [hplain]), if_neg hzero, hpointed]
  · obtain ⟨d, rest, hdigits⟩ := List.exists_cons_of_ne_nil
      (show x.digitsOf ≠ [] from Nat.toDigits_ne_nil)
    have hcount : digitCount x.coefficient = rest.length + 1 := by
      rw [← length_toDigits, ← List.length_cons (a := d), ← hdigits]
      rfl
    refine ⟨[d], rest, Or.inr ⟨x.adjusted, ⟨List.cons_ne_nil d [], ?_, ?_, ?_⟩, ?_⟩⟩
    · intro c hc
      rw [List.singleton_append, ← hdigits] at hc
      exact isDigit_toDigits _ c hc
    · rw [List.singleton_append, ← hdigits]
      exact Nat.ofDigitChars_ten_toDigits
    · unfold adjusted
      omega
    · rw [if_neg hplain, hdigits]
      cases rest <;> rfl

theorem ofText?_scientific (hx : x.Readable) :
    Numeral.ofText? x.scientific = some (.number x) := by
  obtain ⟨whole, fraction, ⟨hshows, htext⟩ | ⟨e, hshows, htext⟩⟩ := x.scientific_eq
  · rw [htext]
    exact hshows.ofText? hx
  · rw [htext]
    exact hshows.ofText?_exponent hx

theorem ofText?_fixed (hexponent : x.exponent ≤ 0) (hx : x.Readable) :
    Numeral.ofText? x.fixed = some (.number x) := by
  unfold fixed
  dsimp only
  by_cases hzero : x.exponent = 0
  · have hplain : (if x.coefficient = 0 then ['0']
        else x.digitsOf ++ List.replicate x.exponent.toNat '0') = layout x.digitsOf [] := by
      rw [hzero]
      split
      · next hnone =>
          unfold digitsOf
          rw [hnone]
          rfl
      · exact List.append_nil _
    rw [if_neg (by omega), hplain]
    exact (shows_plain hzero).ofText? hx
  · obtain ⟨whole, fraction, hpointed, _, hshows⟩ := shows_pointed (x := x) (by omega)
    rw [if_pos (by omega), hpointed]
    exact hshows.ofText? hx

/-!
# Expansions
-/

def fractionValue : List Char → ℚ
  | [] => 0
  | c :: rest => ((c.toNat - 48 : Nat) + fractionValue rest) / 10

theorem fractionValue_mul_pow (cs : List Char) :
    fractionValue cs * 10 ^ cs.length = Nat.ofDigitChars 10 cs 0 := by
  induction cs with
  | nil => simp [fractionValue]
  | cons c rest ih =>
      rw [Nat.ofDigitChars_cons, Nat.ofDigitChars_eq_ofDigitChars_zero, Nat.cast_add, ← ih,
        fractionValue, List.length_cons]
      push_cast
      ring

/--
A text that is the decimal expansion of a number: a sign if it is negative, the
digits of its whole part without needless zeros, and those of its fraction
behind a point.
-/
def Expands (text : String) (value : ℚ) : Prop :=
  ∃ whole fraction,
    text = signText (value < 0) ++ String.ofList (layout whole fraction) ∧
    whole ≠ [] ∧ (∀ c ∈ whole ++ fraction, c.isDigit = true) ∧ IsLean whole ∧
    |value| = (Nat.ofDigitChars 10 whole 0 : ℚ) + fractionValue fraction

theorem Shows.magnitude_eq (h : x.Shows whole fraction 0) :
    x.magnitude = Nat.ofDigitChars 10 whole 0 + fractionValue fraction := by
  have hcoefficient : (x.coefficient : ℚ) =
      (Nat.ofDigitChars 10 whole 0 + fractionValue fraction) * 10 ^ fraction.length := by
    rw [← h.coefficient, Nat.ofDigitChars_append, Nat.ofDigitChars_eq_ofDigitChars_zero,
      Nat.cast_add, ← fractionValue_mul_pow]
    push_cast
    ring
  have hpow : (10 : ℚ) ^ fraction.length ≠ 0 := by positivity
  unfold magnitude
  rw [hcoefficient, h.exponent, zero_sub, zpow_neg, zpow_natCast, mul_assoc, mul_inv_cancel₀ hpow,
    mul_one]

theorem toRat_neg_iff : x.toRat < 0 ↔ x.negative = true ∧ x.coefficient ≠ 0 := by
  unfold toRat
  cases x.negative with
  | false => simp [x.magnitude_nonneg]
  | true =>
      have hpow : (0 : ℚ) < 10 ^ x.exponent := by positivity
      have hcoefficient : (0 : ℚ) < x.coefficient ↔ x.coefficient ≠ 0 := by
        rw [Nat.cast_pos, Nat.pos_iff_ne_zero]
      rw [if_pos rfl, Left.neg_neg_iff, magnitude, mul_pos_iff_of_pos_right hpow, hcoefficient]
      exact (and_iff_right rfl).symm

theorem expands_fixed (hsign : x.negative = true → x.coefficient ≠ 0) : Expands x.fixed x.toRat := by
  have hshown : decide (x.toRat < 0) = x.negative := by
    rw [Bool.eq_iff_iff, decide_eq_true_iff, toRat_neg_iff]
    exact ⟨And.left, fun h => ⟨h, hsign h⟩⟩
  unfold Expands fixed
  rw [hshown, abs_toRat]
  dsimp only
  by_cases hnegative : x.exponent < 0
  · obtain ⟨whole, fraction, hpointed, hlean, hshows⟩ := shows_pointed hnegative
    refine ⟨whole, fraction, ?_, hshows.whole_ne, hshows.digits, hlean, hshows.magnitude_eq⟩
    rw [if_pos hnegative, hpointed]
  · have hzeros : ∀ c ∈ List.replicate x.exponent.toNat '0', c.isDigit = true := by
      intro c hc
      rw [List.eq_of_mem_replicate hc]
      decide
    by_cases hzero : x.coefficient = 0
    · refine ⟨['0'], [], ?_, List.cons_ne_nil _ _, List.forall_mem_singleton.mpr (by decide),
        fun _ => rfl, ?_⟩
      · rw [if_neg hnegative, if_pos hzero]
        rfl
      · have hdigit : Nat.ofDigitChars 10 ['0'] 0 = 0 := rfl
        rw [magnitude_of_coefficient_eq_zero hzero, hdigit, fractionValue, Nat.cast_zero, add_zero]
    · refine ⟨x.digitsOf ++ List.replicate x.exponent.toNat '0', [], ?_, ?_, ?_, ?_, ?_⟩
      · rw [if_neg hnegative, if_neg hzero]
        rfl
      · exact fun hnil => Nat.toDigits_ne_nil (List.append_eq_nil_iff.mp hnil).left
      · intro c hc
        rw [List.append_nil] at hc
        rcases List.mem_append.mp hc with hdigit | hadded
        · exact isDigit_toDigits _ c hdigit
        · exact hzeros c hadded
      · intro hhead
        rw [List.head?_append_of_ne_nil _ (show x.digitsOf ≠ [] from Nat.toDigits_ne_nil)] at hhead
        exact absurd hhead (head_toDigits_ne_zero (Nat.pos_of_ne_zero hzero))
      · rw [Nat.ofDigitChars_append, Nat.ofDigitChars_replicate_zero]
        unfold digitsOf fractionValue
        rw [Nat.ofDigitChars_ten_toDigits, add_zero, magnitude_eq_of_le (not_lt.mp hnegative),
          zpow_zero, mul_one, sub_zero, Nat.mul_comm]

end Decimal
end ReserveAccounting
