/-!
# Character ranges

A set of characters written as a list of closed ranges of code points. The
tables of the Unicode properties used by this library have this form.
-/

namespace ReserveAccounting
namespace Text

def inRanges (ranges : List (Nat × Nat)) (c : Char) : Bool :=
  ranges.any fun r => r.1 ≤ c.toNat && c.toNat ≤ r.2

end Text
end ReserveAccounting
