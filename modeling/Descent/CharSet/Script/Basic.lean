import Descent.CharSet

/-!
Scripts.
-/

namespace Descent.CharSet

/-- A script: its names, in small letters without spaces, and the code points that only it uses. -/
structure Script where
  names : List String
  ranges : List (Nat × Nat)

end Descent.CharSet
