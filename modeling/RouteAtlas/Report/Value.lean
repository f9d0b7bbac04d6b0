/-!
# Structured values

The values that a report is made of. Both written forms of a report are printers of this type.
-/

namespace RouteAtlas.Report

/-- A structured value. -/
inductive Value where
  | bool (b : Bool)
  | nat (n : Nat)
  | text (s : String)
  | list (items : List Value)
  /-- Named fields in their order. -/
  | record (fields : List (String × Value))
deriving Repr, Inhabited

end RouteAtlas.Report
