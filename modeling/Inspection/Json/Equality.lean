import Inspection.Json

/-!
# Equality of JSON values

JSON values are compared field by field, so equality of values is decidable.
-/

namespace Inspection

namespace Json

mutual

def same : Json → Json → Bool
  | .null, .null => true
  | .bool x, .bool y => x == y
  | .int x, .int y => x == y
  | .float x, .float y => x == y
  | .str x, .str y => x == y
  | .arr xs, .arr ys => sameItems xs ys
  | .obj xs, .obj ys => sameFields xs ys
  | _, _ => false

def sameItems : List Json → List Json → Bool
  | [], [] => true
  | x :: xs, y :: ys => same x y && sameItems xs ys
  | _, _ => false

def sameFields : List (String × Json) → List (String × Json) → Bool
  | [], [] => true
  | (j, x) :: xs, (k, y) :: ys => j == k && same x y && sameFields xs ys
  | _, _ => false

end

mutual

theorem same_iff : (x y : Json) → (same x y = true ↔ x = y)
  | .null, y => by cases y <;> simp [same]
  | .bool a, y => by cases y <;> simp [same]
  | .int a, y => by cases y <;> simp [same]
  | .float a, y => by cases y <;> simp [same]
  | .str a, y => by cases y <;> simp [same]
  | .arr xs, .arr ys => by simp [same, sameItems_iff xs ys]
  | .obj xs, .obj ys => by simp [same, sameFields_iff xs ys]
  | .arr xs, .null | .arr xs, .bool _ | .arr xs, .int _ | .arr xs, .float _ | .arr xs, .str _
  | .arr xs, .obj _ => by simp [same]
  | .obj xs, .null | .obj xs, .bool _ | .obj xs, .int _ | .obj xs, .float _ | .obj xs, .str _
  | .obj xs, .arr _ => by simp [same]

theorem sameItems_iff : (xs ys : List Json) → (sameItems xs ys = true ↔ xs = ys)
  | [], [] => by simp [sameItems]
  | [], _ :: _ => by simp [sameItems]
  | _ :: _, [] => by simp [sameItems]
  | x :: xs, y :: ys => by simp [sameItems, same_iff x y, sameItems_iff xs ys]

theorem sameFields_iff :
    (xs ys : List (String × Json)) → (sameFields xs ys = true ↔ xs = ys)
  | [], [] => by simp [sameFields]
  | [], _ :: _ => by simp [sameFields]
  | _ :: _, [] => by simp [sameFields]
  | (j, x) :: xs, (k, y) :: ys => by
    simp [sameFields, same_iff x y, sameFields_iff xs ys]

end

instance : DecidableEq Json := fun x y =>
  decidable_of_iff (same x y = true) (same_iff x y)

end Json

end Inspection
