import ReserveAccounting.Text.Case

/-!
# Small letters are stable

Account and token names are compared in small letters, and calls that pass a
name on put it in small letters once more. The small form of a text is its own
small form, so the second time changes nothing.
-/

namespace ReserveAccounting
namespace Text

def IsSmall (c : Char) : Prop := c ≠ 'Σ' ∧ lowerChar c = [c]

instance (c : Char) : Decidable (IsSmall c) := inferInstanceAs (Decidable (_ ∧ _))

/-!
# Images of the case table

Every run of the table moves its code points to a place where no run, no
expansion and no surrogate lies.
-/

def CaseRun.image (r : CaseRun) (n : Nat) : Nat := ((n : Int) + r.shift).toNat

/--
Whether a run of code points avoids another one: they lie apart, or the other
one takes every second code point and this one only those between.
-/
def CaseRun.avoids (first last step : Nat) (other : CaseRun) : Bool :=
  Nat.blt last other.first || Nat.blt other.last first ||
    (Nat.beq other.step 2 && (Nat.beq (step % 2) 0 || Nat.beq first last) &&
      Nat.beq ((first + other.first) % 2) 1)

/-- What the images have to avoid besides the runs: the expansion, and the surrogates. -/
def reservedRuns : List CaseRun := [⟨0x130, 0x130, 1, 0⟩, ⟨0xD800, 0xDFFF, 1, 0⟩]

def CaseRun.Holds (r : CaseRun) (n : Nat) : Prop :=
  r.first ≤ n ∧ n ≤ r.last ∧ (n - r.first) % r.step = 0

set_option maxRecDepth 100000 in
theorem smallRuns_avoid :
    (smallRuns.all fun r =>
      (reservedRuns ++ smallRuns).all
        (CaseRun.avoids (r.image r.first) (r.image r.last) r.step)) = true := by
  decide +kernel

set_option maxRecDepth 100000 in
theorem smallRuns_bounds :
    (smallRuns.all fun r =>
      decide (0 ≤ (r.first : Int) + r.shift) && Nat.blt (r.image r.last) 0x110000) = true := by
  decide +kernel

theorem CaseRun.not_holds_of_avoids {first last step n : Nat} {other : CaseRun}
    (havoid : CaseRun.avoids first last step other = true)
    (hfirst : first ≤ n) (hlast : n ≤ last)
    (hstep : (n - first) % step = 0) : ¬ other.Holds n := by
  intro h
  rcases h with ⟨hlow, hhigh, hother⟩
  simp only [CaseRun.avoids, Bool.or_eq_true, Bool.and_eq_true, Nat.blt_eq, Nat.beq_eq]
    at havoid
  rcases havoid with (happart | happart) | ⟨⟨htwo, hsame⟩, hparity⟩
  · omega
  · omega
  · -- `n` has the parity of `first`, which differs from that of the other run
    have hn : (n - first) % 2 = 0 := by
      rcases hsame with heven | hone
      · have hdvd : 2 ∣ step := Nat.dvd_of_mod_eq_zero heven
        exact Nat.mod_eq_zero_of_dvd
          (Nat.dvd_trans hdvd (Nat.dvd_of_mod_eq_zero hstep))
      · have hzero : n - first = 0 := by omega
        rw [hzero]
    rw [htwo] at hother
    omega

theorem shifted?_eq_none {c : Char} (h : ∀ r ∈ smallRuns, ¬ r.Holds c.toNat) :
    CaseRun.shifted? smallRuns c = none := by
  unfold CaseRun.shifted?
  rw [Option.map_eq_none_iff, List.find?_eq_none]
  intro r hr hholds
  apply h r hr
  simpa [CaseRun.Holds, and_assoc] using hholds

theorem shifted?_eq_some {c d : Char} (h : CaseRun.shifted? smallRuns c = some d) :
    ∃ r ∈ smallRuns, r.Holds c.toNat ∧ d = Char.ofNat (r.image c.toNat) := by
  unfold CaseRun.shifted? at h
  rcases Option.map_eq_some_iff.mp h with ⟨r, hfind, hd⟩
  have hholds := List.find?_some hfind
  refine ⟨r, List.mem_of_find?_eq_some hfind, ?_, hd.symm⟩
  simpa [CaseRun.Holds, and_assoc] using hholds

/-!
# Small forms
-/

theorem toLower_of_shifted?_eq_none :
    ∀ n : Fin 128, CaseRun.shifted? smallRuns (Char.ofNat n) = none →
      (Char.ofNat n).toLower = Char.ofNat n := by
  decide +kernel

theorem isSmall_toLower_ascii : ∀ n : Fin 128, IsSmall (Char.ofNat n).toLower := by
  decide +kernel

theorem lookup_smallExpansions (n : Nat) :
    smallExpansions.lookup n = if n = 0x130 then some [0x69, 0x307] else none := by
  unfold smallExpansions
  rw [List.lookup_cons, List.lookup_nil]
  by_cases h : n = 0x130
  · rw [if_pos h, h]
    rfl
  · rw [if_neg h, beq_false_of_ne h]

theorem isSmall_of_shifted?_eq_none {c : Char}
    (h : CaseRun.shifted? smallRuns c = none) (hdot : c.toNat ≠ 0x130) : IsSmall c := by
  constructor
  · intro hsame
    rcases hsame with rfl
    revert h
    decide +kernel
  · unfold lowerChar
    split
    · next hascii =>
        have hlower := toLower_of_shifted?_eq_none ⟨c.toNat, hascii⟩
        simp only [Char.ofNat_toNat] at hlower
        rw [hlower h]
    · have hlookup : smallExpansions.lookup c.toNat = none := by
        rw [lookup_smallExpansions, if_neg hdot]
      simp [caseForm, hlookup, h]

theorem isSmall_image {r : CaseRun} {n : Nat} (hr : r ∈ smallRuns) (hn : r.Holds n) :
    IsSmall (Char.ofNat (r.image n)) := by
  rcases hn with ⟨hlow, hhigh, hstep⟩
  have havoid := List.all_eq_true.mp smallRuns_avoid r hr
  have hbounds := List.all_eq_true.mp smallRuns_bounds r hr
  simp only [Bool.and_eq_true, decide_eq_true_eq, Nat.blt_eq] at hbounds
  have hfirst : r.image r.first ≤ r.image n := by
    simp only [CaseRun.image]; omega
  have hlast : r.image n ≤ r.image r.last := by
    simp only [CaseRun.image]; omega
  have hmod : (r.image n - r.image r.first) % r.step = 0 := by
    rw [← hstep]
    congr 1
    simp only [CaseRun.image]; omega
  have hclear : ∀ other ∈ reservedRuns ++ smallRuns, ¬ other.Holds (r.image n) := by
    intro other hother
    exact CaseRun.not_holds_of_avoids (List.all_eq_true.mp havoid other hother) hfirst hlast hmod
  have hdot : ¬ CaseRun.Holds ⟨0x130, 0x130, 1, 0⟩ (r.image n) :=
    hclear _ (by simp [reservedRuns])
  have hsurrogate : ¬ CaseRun.Holds ⟨0xD800, 0xDFFF, 1, 0⟩ (r.image n) :=
    hclear _ (by simp [reservedRuns])
  simp only [CaseRun.Holds, Nat.mod_one, and_true, not_and, Nat.not_le] at hdot hsurrogate
  have hvalid : (r.image n).isValidChar := by
    unfold Nat.isValidChar
    omega
  have hnat : (Char.ofNat (r.image n)).toNat = r.image n := by
    unfold Char.ofNat
    rw [dif_pos hvalid]
    rfl
  apply isSmall_of_shifted?_eq_none
  · apply shifted?_eq_none
    intro other hother
    rw [hnat]
    exact hclear other (List.mem_append_right _ hother)
  · rw [hnat]
    omega

theorem isSmall_of_mem_lowerChar {c d : Char} (h : d ∈ lowerChar c) : IsSmall d := by
  unfold lowerChar at h
  split at h
  · next hascii =>
      have hsmall := isSmall_toLower_ascii ⟨c.toNat, hascii⟩
      simp only [Char.ofNat_toNat] at hsmall
      rw [List.mem_singleton.mp h]
      exact hsmall
  · unfold caseForm at h
    split at h
    · next codes hcodes =>
        have hdot : c.toNat = 0x130 ∧ codes = [0x69, 0x307] := by
          rw [lookup_smallExpansions] at hcodes
          split at hcodes
          · next heq => exact ⟨heq, (Option.some.inj hcodes).symm⟩
          · cases hcodes
        rw [hdot.right] at h
        rcases List.mem_cons.mp h with hletter | h
        · rw [hletter]
          decide +kernel
        · rw [List.mem_singleton.mp h]
          decide +kernel
    · next hlookup =>
        rw [List.mem_singleton] at h
        cases hshift : CaseRun.shifted? smallRuns c with
        | none =>
            rw [h, hshift, Option.getD_none]
            apply isSmall_of_shifted?_eq_none hshift
            intro hdot
            simp [smallExpansions, hdot] at hlookup
        | some e =>
            rcases shifted?_eq_some hshift with ⟨r, hr, hholds, he⟩
            rw [h, hshift, Option.getD_some, he]
            exact isSmall_image hr hholds

/-!
# Texts
-/

theorem isSmall_of_mem_lowerFrom {before cs : List Char} {d : Char}
    (h : d ∈ lowerFrom before cs) : IsSmall d := by
  induction cs generalizing before with
  | nil => cases h
  | cons c rest ih =>
      rw [lowerFrom, List.mem_append] at h
      rcases h with hhead | hrest
      · split at hhead
        · have hboth : ∀ b : Bool, IsSmall (if b then 'ς' else 'σ') := by decide +kernel
          rw [List.mem_singleton.mp hhead]
          exact hboth _
        · exact isSmall_of_mem_lowerChar hhead
      · exact ih hrest

theorem lowerFrom_of_isSmall {before cs : List Char} (h : ∀ c ∈ cs, IsSmall c) :
    lowerFrom before cs = cs := by
  induction cs generalizing before with
  | nil => rfl
  | cons c rest ih =>
      have hc := h c (List.mem_cons_self ..)
      rw [lowerFrom, if_neg hc.left, hc.right,
        ih fun d hd => h d (List.mem_cons_of_mem _ hd)]
      rfl

@[simp] theorem lower_lower (s : String) : lower (lower s) = lower s := by
  unfold lower
  rw [String.toList_ofList, lowerFrom_of_isSmall]
  intro c hc
  exact isSmall_of_mem_lowerFrom hc

end Text
end ReserveAccounting
