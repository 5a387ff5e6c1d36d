namespace Segmentation.Metrics

inductive Measurement where
  /-- A request was answered; `path` is the template of its route. -/
  | request (method path : String) (status : Nat)
  | compilation (operation : String) (predicates : Nat)
  | refusal (operation : String) (errors : Nat)
  | audience (operation : String) (count : Nat)
  deriving DecidableEq, Repr

end Segmentation.Metrics
