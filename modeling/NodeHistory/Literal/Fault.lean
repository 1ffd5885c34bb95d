import NodeHistory.Literal.Expression
import NodeHistory.Literal.Token

/-!
Why a text is no expression: its tokens are faulty, they make no expression, or an expression
within a quotation is at fault. What is said of the latter tells where it comes from, except that
loud faults of tokens speak for themselves.
-/

namespace NodeHistory.Literal

inductive Fault where
  | scanning (fault : ScanFault)
  | refused (reason : Refusal)
  /-- Of an expression within a quotation. -/
  | inner (fault : Fault)
  /-- Rules within rules are too many. -/
  | tooDeep
deriving DecidableEq, Repr

namespace Fault

def text : Fault → String
  | .scanning fault => fault.text
  | .refused reason => reason.text
  | .inner (.inner fault) => text (.inner fault)
  | .inner (.scanning fault) => if fault.isLoud then fault.text else "f-string: " ++ fault.text
  | .inner fault => "f-string: " ++ text fault
  | .tooDeep => ""

end Fault

end NodeHistory.Literal
