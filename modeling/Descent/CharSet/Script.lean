import Descent.CharSet.Script.AToG
import Descent.CharSet.Script.HToM
import Descent.CharSet.Script.NToZ
import Descent.CharSet.Script.Shared

/-!
Scripts: the characters that languages are written with, as Unicode 16 assigns them.
-/

namespace Descent.CharSet

/-- The scripts of all characters. -/
def scripts : List Script := scriptsAToG ++ scriptsHToM ++ scriptsNToZ

/-- The script with a name, which is in small letters without spaces. -/
def Script.named? (name : String) : Option Script := scripts.find? (name ∈ ·.names)

/-- The characters that count as belonging to a script. -/
def Script.set (script : Script) : CharSet := ofRanges script.ranges

/-- The characters that are used with a script, also those that it shares with others. -/
def Script.usedSet (script : Script) : CharSet :=
  let used := sharedCharacters.filter fun shared => shared.scripts.any (· ∈ script.names)
  (script.set.diff (ofRanges (sharedCharacters.flatMap (·.ranges)))).union
    (ofRanges (used.flatMap (·.ranges)))

end Descent.CharSet
