/-!
# Places

Places in the tree of files, and the steps of a path from one to another.

* `parent_child`: a step down by a name and a step up lead back.
* `isAround_child`: a directory is around what is in it.
* `reach_append`: steps are taken one after the other.
-/

set_option autoImplicit false

namespace TrustedPlatform

/-- A place in the tree of files: the names on the way there from the root, the last one first. -/
structure Place where
  names : List String
  deriving DecidableEq, Repr

namespace Place

def root : Place := ⟨[]⟩

def child (place : Place) (name : String) : Place := ⟨name :: place.names⟩

/-- The directory that a place is in.  The root is in itself. -/
def parent : Place → Place
  | ⟨[]⟩ => root
  | ⟨_ :: names⟩ => ⟨names⟩

def name (place : Place) : String := "/" ++ "/".intercalate place.names.reverse

def isAround (place other : Place) : Bool := place.names.isSuffixOf other.names

def nameFrom? (place base : Place) : Option String :=
  if base.isAround place then
    some ("/".intercalate (place.names.take (place.names.length - base.names.length)).reverse)
  else none

def step (place : Place) (step : String) : Place :=
  if step = "." then place else if step = ".." then place.parent else place.child step

def reach (place : Place) (steps : List String) : Place := steps.foldl Place.step place

/-- The steps of a path.  A slash more makes no difference. -/
def stepsOf (path : String) : List String := (path.splitOn "/").filter (· ≠ "")

def start (place : Place) (path : String) : Place :=
  if path.startsWith "/" then root else place

def ofName (name : String) : Place := root.reach (stepsOf name)

def along (place : Place) : List String → List Place
  | [] => []
  | next :: steps => place.step next :: (place.step next).along steps

theorem parent_child (place : Place) (name : String) : (place.child name).parent = place := rfl

theorem isAround_child (place : Place) (name : String) : place.isAround (place.child name) = true := by
  simp [isAround, child]

theorem reach_append (place : Place) (front back : List String) :
    place.reach (front ++ back) = (place.reach front).reach back := by
  simp [reach]

end Place

end TrustedPlatform
