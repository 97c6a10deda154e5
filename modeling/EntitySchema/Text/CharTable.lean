set_option autoImplicit false

namespace EntitySchema

-- Runs of code points `(first, last, step)`.
abbrev CharTable := List (Nat × Nat × Nat)

-- Runs `(first, last, step, image of first)` of a map that shifts each run.
abbrev CharShift := List (Nat × Nat × Nat × Nat)

def inRun (n first last step : Nat) : Bool :=
  first ≤ n && n ≤ last && (n - first) % step = 0

def CharTable.has (table : CharTable) (c : Char) : Bool :=
  table.any fun (first, last, step) => inRun c.toNat first last step

def CharShift.image? (table : CharShift) (c : Char) : Option Char :=
  table.findSome? fun (first, last, step, image) =>
    if inRun c.toNat first last step then some (Char.ofNat (image + (c.toNat - first))) else none

end EntitySchema
