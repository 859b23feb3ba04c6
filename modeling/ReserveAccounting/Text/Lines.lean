/-!
# Lines

A text is divided into lines by line feeds, carriage returns and the other
characters that end a line. A carriage return and the line feed behind it end
one line together.
-/

namespace ReserveAccounting
namespace Text

def isLineEnd (c : Char) : Bool :=
  (0x0A ≤ c.toNat && c.toNat ≤ 0x0D) || (0x1C ≤ c.toNat && c.toNat ≤ 0x1E) || c.toNat = 0x85 ||
    c.toNat = 0x2028 || c.toNat = 0x2029

def linesAfter (begun : List Char) : List Char → List (List Char)
  | [] => if begun.isEmpty then [] else [begun.reverse]
  | '\r' :: '\n' :: rest => begun.reverse :: linesAfter [] rest
  | c :: rest =>
      if isLineEnd c then begun.reverse :: linesAfter [] rest else linesAfter (c :: begun) rest

/-- The lines of a text; there is none behind the last end of a line. -/
def lines (s : String) : List String := (linesAfter [] s.toList).map String.ofList

theorem linesAfter_of_no_end {begun cs : List Char} (h : ∀ c ∈ cs, isLineEnd c = false) :
    linesAfter begun cs = if (begun.reverse ++ cs).isEmpty then [] else [begun.reverse ++ cs] := by
  induction cs generalizing begun with
  | nil => cases begun <;> simp [linesAfter]
  | cons c rest ih =>
      have hc : isLineEnd c = false := h c List.mem_cons_self
      have hr : c ≠ '\r' := by rintro rfl; exact absurd hc (by decide)
      rw [linesAfter]
      · rw [if_neg (by simp [hc]), ih fun d hd => h d (List.mem_cons_of_mem _ hd)]
        simp
      · rintro _ rfl
        exact absurd rfl hr

end Text
end ReserveAccounting
