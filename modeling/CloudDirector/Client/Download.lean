import CloudDirector.Failure

/-!
# Downloads

A body that is asked for as a file is kept under a new name in a directory, which is made if it is
not there.
-/

namespace CloudDirector

/-- Why a directory cannot be made. -/
inductive DirectoryFault where
  /-- There is a file in its place. -/
  | fileThere
  /-- There is a file in the place of a directory above it. -/
  | fileAbove
  deriving DecidableEq, Repr

/-- The wording of the system. -/
def DirectoryFault.message : DirectoryFault → String
  | fileThere => "File exists (os error 17)"
  | fileAbove => "Not a directory (os error 20)"

/-- Where downloads are kept. -/
structure DownloadStore where
  /-- The directory that is taken if none is set. -/
  temporary : String := "/tmp"
  fault : Option DirectoryFault := none
  /-- What tells the next file from all others. -/
  mark : String := "0"

/-- What the names of downloads begin with. -/
def downloadStart : String := "vcd-download-"

/-- A body that has been kept. -/
structure Download where
  path : String
  contents : List UInt8 := []
  deriving DecidableEq

/-- Keeps a body in a directory. -/
def DownloadStore.keep (store : DownloadStore) (directory : Option String) (contents : List UInt8) :
    Result Download :=
  let directory := directory.getD store.temporary
  match store.fault with
  | some fault => .fail (.io "create directory" directory fault.message)
  | none => .ok ⟨s!"{directory}/{downloadStart}{store.mark}", contents⟩

end CloudDirector
