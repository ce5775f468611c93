/-!
Powers of the two bases that numbers are written in here.
-/

namespace Lc3

def twoTo (exponent : Nat) : Nat := Nat.pow 2 exponent

def tenTo (exponent : Nat) : Nat := Nat.pow 10 exponent

end Lc3
