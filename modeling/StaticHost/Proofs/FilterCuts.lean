import Mathlib.Data.List.DropRight
import Mathlib.Tactic.Common
import StaticHost.Log.Filter
import StaticHost.Proofs.Utf8Repair

/-!
Where reading a filter breaks off.

The parts of a directive are cut at offsets that are counted in its trimmed text. No cut falls
inside a character as long as all these offsets are ends of characters in the whole text as well.
That is so if the text starts with no white space, and also if each of its characters is a single
byte; so breaking off takes white space before a directive and a longer character in it.
-/

namespace StaticHost.Log

open Text

namespace Directive

/-! ### Cuts -/

def Stage.Sound (text : Bytes) : Stage → Prop
  | .span low | .field low | .level low => isBoundary text low = true
  | _ => True

variable {text : Bytes} {offset : Nat} {stage : Stage}

end Directive

namespace Filter

-- The blank moves the cut before `=` back into the letter.
example : ofText "warn, é=debug" = .error .splitCharacter := by decide +kernel

end Filter

end StaticHost.Log
