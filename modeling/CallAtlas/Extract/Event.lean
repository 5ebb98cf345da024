/-! # Events

    What an extraction or a validation reports while it works, in order.
-/

namespace CallAtlas.Extract

inductive Event where
  | functionFound (name : String) (line : Nat)
  | snippetExtracted (name : String) (bytes : Nat)
  | callFound (caller callee : String)
  /-- A call through an object, which is never resolved. -/
  | memberCallSkipped (caller object name : String)
  | extracted (functions calls : Nat)
  | extractionFailed (kind reason : String)
  | validationFailed (reason : String)
  deriving DecidableEq, Inhabited

end CallAtlas.Extract
