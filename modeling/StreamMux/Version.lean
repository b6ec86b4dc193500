/-!
# Version of the program
-/

namespace StreamMux

structure Version where
  major : Nat
  minor : Nat
  patch : Nat
  deriving DecidableEq, Repr

instance : ToString Version where
  toString v := s!"{v.major}.{v.minor}.{v.patch}"

def version : Version := ⟨0, 1, 0⟩

end StreamMux
