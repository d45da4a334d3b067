import StaticHost.Text.Alphabetic
import StaticHost.Text.Numeric

/-!
Letters and numbers of every script.
-/

namespace StaticHost.Text

def isAlphanumeric (c : Char) : Bool :=
  isAlphabetic c || isNumeric c

end StaticHost.Text
