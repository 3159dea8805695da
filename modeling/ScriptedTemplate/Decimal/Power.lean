/-
  Powers — of two and of ten

  Doubles are made of powers of two and decimals of powers of ten; the bounds of
  whole numbers of a fixed width are powers of two.
-/

namespace ScriptedTemplate

def twoTo (n : Nat) : Nat := Nat.pow 2 n

def tenTo (n : Nat) : Nat := Nat.pow 10 n

end ScriptedTemplate
