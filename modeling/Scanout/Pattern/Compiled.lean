import Scanout.Pattern.Reader
import Scanout.Pattern.Search
import Scanout.Pattern.Size

/-!
# Patterns that can be searched for

A pattern is read, given its meaning, and measured. Word boundaries are known for words of the first
128 characters only.
-/

namespace Scanout

namespace Pattern

def Look.needsTables : Look → Bool
  | textStart | textEnd | lineStart _ | lineEnd _ => false
  | word unicode | notWord unicode | wordStart unicode | wordEnd unicode | wordStartHalf unicode
  | wordEndHalf unicode => unicode

mutual

/-- The expression asks for words of all characters. -/
def Expression.needsTables : Expression → Bool
  | .empty | .oneOf _ => false
  | .look l => l.needsTables
  | .repeated body _ _ | .captured body => body.needsTables
  | .sequence parts | .choice parts => anyNeedsTables parts

def anyNeedsTables : List Expression → Bool
  | [] => false
  | first :: rest => first.needsTables || anyNeedsTables rest

end

inductive Failure where
  | refused (r : Refusal)
  | tooLarge
  | wordsUnavailable
  deriving DecidableEq, Repr

def Failure.message (text : String) : Failure → String
  | refused r => r.text text
  | tooLarge => s!"Compiled regex exceeds size limit of {sizeLimit} bytes."
  | wordsUnavailable => "error building NFA"

def compile (text : String) : Except Failure Expression := do
  let tree ← (Syntax.ofText text).mapError .refused
  let (e, _) ← (tree.meaning {}).mapError .refused
  if !e.fits then throw .tooLarge
  if e.needsTables then throw .wordsUnavailable
  return e

end Pattern

end Scanout
