import TrustedPlatform.Files.Basic
import TrustedPlatform.SystemFault

/-!
# Access to files

What a path leads to.  Every step but the last goes through a directory; the last one may name a
file, and a path that is closed by a slash has to end at a directory.

* `destination_put`: a file put where no directory is bars no way that led somewhere before.
* `find_store`: what was stored in a file is found by the path that led there.
-/

set_option autoImplicit false

namespace TrustedPlatform

def longestName : Nat := 255

def longestPath : Nat := 4095

/-- Where a path ends: at a name in a directory, or at a directory that it goes to by a step to the
same place, up, or to the root. -/
structure Destination where
  directory : Place
  name? : Option String
  closed : Bool
  deriving DecidableEq, Repr

namespace Files

def enter (files : Files) (place : Place) (step : String) : Except SystemFault Place :=
  if step = "." then .ok place
  else if step = ".." then .ok place.parent
  else if longestName < step.utf8ByteSize then .error .nameTooLong
  else
    match files.node? (place.child step) with
    | some .directory => .ok (place.child step)
    | some _ => .error .notDirectory
    | none => .error .noSuchFile

def follow (files : Files) (closed : Bool) (place : Place) :
    List String → Except SystemFault Destination
  | [] => .ok ⟨place, none, false⟩
  | [last] =>
    if last = "." then .ok ⟨place, none, false⟩
    else if last = ".." then .ok ⟨place.parent, none, false⟩
    else .ok ⟨place, some last, closed⟩
  | step :: next :: steps =>
    match files.enter place step with
    | .error fault => .error fault
    | .ok directory => files.follow closed directory (next :: steps)

def destination (files : Files) (path : String) : Except SystemFault Destination :=
  if path.contains (Char.ofNat 0) then .error .zeroInName
  else if path = "" then .error .noSuchFile
  else if longestPath < path.utf8ByteSize then .error .nameTooLong
  else files.follow (path.endsWith "/") (files.workplace.start path) (Place.stepsOf path)

def arrive (files : Files) : Destination → Except SystemFault Node
  | ⟨_, none, _⟩ => .ok .directory
  | ⟨directory, some name, closed⟩ =>
    if longestName < name.utf8ByteSize then .error .nameTooLong
    else
      match files.node? (directory.child name) with
      | none => .error .noSuchFile
      | some node => if closed ∧ node ≠ .directory then .error .notDirectory else .ok node

def find (files : Files) (path : String) : Except SystemFault Node :=
  match files.destination path with
  | .error fault => .error fault
  | .ok destination => files.arrive destination

/-- Why nothing new can be made at a place, if that is so: the system keeps some directories for
itself. -/
def keptFrom (place : Place) : Option SystemFault :=
  match place.names.getLast? with
  | some "proc" => some .noSuchFile
  | some "sys" => some .notPermitted
  | _ => none

def prepare (files : Files) : Destination → Except SystemFault Place
  | ⟨_, none, _⟩ | ⟨_, some _, true⟩ => .error .isDirectory
  | ⟨directory, some name, false⟩ =>
    if longestName < name.utf8ByteSize then .error .nameTooLong
    else
      match files.node? (directory.child name) with
      | some .directory => .error .isDirectory
      | some .socket | some (.special .terminal) => .error .noSuchDevice
      | some _ => .ok (directory.child name)
      | none =>
        match keptFrom directory with
        | some fault => .error fault
        | none => .ok (directory.child name)

def create (files : Files) (path : String) : Except SystemFault Place :=
  match files.destination path with
  | .error fault => .error fault
  | .ok destination => files.prepare destination

def store (files : Files) (place : Place) (contents : Bytes) : Except SystemFault Files :=
  match files.node? place with
  | some (.special .full) => if contents = [] then .ok files else .error .noSpace
  | some (.special _) => .ok files
  | _ => .ok (files.put place contents)

theorem enter_put (files : Files) (target : Place) (contents : Bytes) (place next : Place)
    (step : String) (free : files.node? target ≠ some .directory)
    (entered : files.enter place step = .ok next) :
    (files.put target contents).enter place step = .ok next := by
  unfold enter at entered ⊢
  by_cases stays : step = "."
  · simpa [stays] using entered
  by_cases climbs : step = ".."
  · simpa [climbs] using entered
  by_cases long : longestName < step.utf8ByteSize
  · simp [stays, climbs, long] at entered
  rw [if_neg stays, if_neg climbs, if_neg long] at entered ⊢
  cases found : files.node? (place.child step) with
  | none => simp [found] at entered
  | some node =>
    have isDirectory : node = .directory := by
      cases node <;> simp_all
    rw [isDirectory] at found
    have elsewhere : place.child step ≠ target := by
      intro same
      exact free (same ▸ found)
    have same : (files.put target contents).node? (place.child step) = some .directory := by
      rw [node?_put, if_neg elsewhere, found]
      exact ite_self _
    rw [found] at entered
    rw [same]
    exact entered

theorem follow_put (files : Files) (target : Place) (contents : Bytes) (closed : Bool)
    (place : Place) (steps : List String) (destination : Destination)
    (free : files.node? target ≠ some .directory)
    (reached : files.follow closed place steps = .ok destination) :
    (files.put target contents).follow closed place steps = .ok destination := by
  fun_induction files.follow closed place steps with
  | case1 => exact reached
  | case2 => simpa [follow] using reached
  | case3 => simpa [follow] using reached
  | case4 => simp_all [follow]
  | case5 => cases reached
  | case6 place step next steps directory entered inductionHypothesis =>
    rw [follow, enter_put files target contents place directory step free entered]
    exact inductionHypothesis reached

theorem destination_put (files : Files) (target : Place) (contents : Bytes) (path : String)
    (destination : Destination) (free : files.node? target ≠ some .directory)
    (reached : files.destination path = .ok destination) :
    (files.put target contents).destination path = .ok destination := by
  unfold Files.destination at reached ⊢
  have sameWorkplace : (files.put target contents).workplace = files.workplace := rfl
  rw [sameWorkplace]
  split at reached
  · cases reached
  · split at reached
    · cases reached
    · split at reached
      · cases reached
      · rename_i noZero notEmpty short
        rw [if_neg noZero, if_neg notEmpty, if_neg short]
        exact follow_put files target contents _ _ _ destination free reached

/-- A file is made under a name in a directory, where no directory is. -/
theorem prepare_eq_ok (files : Files) (destination : Destination) (place : Place)
    (prepared : files.prepare destination = .ok place) :
    ∃ directory name, destination = ⟨directory, some name, false⟩ ∧ place = directory.child name ∧
      ¬ longestName < name.utf8ByteSize ∧ files.node? place ≠ some .directory := by
  obtain ⟨directory, name?, closed⟩ := destination
  cases name? with
  | none => simp [prepare] at prepared
  | some name =>
    cases closed with
    | true => simp [prepare] at prepared
    | false =>
      rw [prepare] at prepared
      split at prepared
      · cases prepared
      · rename_i short
        split at prepared
        · cases prepared
        · cases prepared
        · cases prepared
        · rename_i _ notDirectory _ _ found
          cases prepared
          exact ⟨directory, name, rfl, rfl, short, fun same =>
            notDirectory (Option.some.inj (found.symm.trans same) ▸ rfl)⟩
        · rename_i found
          split at prepared
          · cases prepared
          · cases prepared
            exact ⟨directory, name, rfl, rfl, short, by simp [found]⟩

theorem store_of_plain (files : Files) (place : Place) (contents : Bytes)
    (plain : ∀ kind, files.node? place ≠ some (.special kind)) :
    files.store place contents = .ok (files.put place contents) := by
  unfold store
  split
  · rename_i found
    exact absurd found (plain _)
  · rename_i found
    exact absurd found (plain _)
  · rfl

/-- What was stored in a file is found by the path that led there. -/
theorem find_store (files after : Files) (path : String) (place : Place) (contents : Bytes)
    (made : files.create path = .ok place)
    (plain : ∀ kind, files.node? place ≠ some (.special kind))
    (stored : files.store place contents = .ok after) :
    after.find path = .ok (.file contents) := by
  rw [store_of_plain files place contents plain] at stored
  cases stored
  unfold create at made
  cases reached : files.destination path with
  | error fault => simp [reached] at made
  | ok destination =>
    simp only [reached] at made
    obtain ⟨directory, name, isDestination, isPlace, short, free⟩ :=
      prepare_eq_ok files destination place made
    unfold find
    rw [destination_put files place contents path destination free reached, isDestination]
    subst isPlace
    simp [arrive, short, node?_put_self files (directory.child name) contents free]

end Files

end TrustedPlatform
