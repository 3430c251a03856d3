import FormulaRepair.Files.Path
import FormulaRepair.Text.Quoted
import FormulaRepair.Text.Utf8

/-! # Reading and writing documents

Files are kept in a tree of directories. A document is read as a text, byte for byte. It is written
into a file beside its place first, which then takes the place over, so that a document is never
half written; directories on the way are made. Whatever goes wrong is told with the place that it
went wrong at.
-/

namespace FormulaRepair

/-- What is at a place: a directory, or a file with its content. -/
inductive Entry
  | directory
  | file (content : Bytes)
deriving DecidableEq, Repr, Inhabited

/-- All directories and files but the root, which is always there. -/
structure FileTree where
  entries : List (Place × Entry) := []
deriving DecidableEq, Repr, Inhabited

/-- What the system says about a place that it cannot work with. -/
inductive SystemCause
  | missing
  | exists
  | notDirectory
  | isDirectory
  | nameTooLong
deriving DecidableEq, Repr, Inhabited

namespace SystemCause

/-- The number of a cause. -/
def number : SystemCause → Nat
  | missing => 2
  | «exists» => 17
  | notDirectory => 20
  | isDirectory => 21
  | nameTooLong => 36

/-- The wording of a cause. -/
def wording : SystemCause → Text
  | missing => "No such file or directory".toList
  | «exists» => "File exists".toList
  | notDirectory => "Not a directory".toList
  | isDirectory => "Is a directory".toList
  | nameTooLong => "File name too long".toList

end SystemCause

/-- Why a document could not be read or written. -/
inductive FileProblem
  /-- The system refused to work with a place, or to move a file from there to another place. -/
  | system (cause : SystemCause) (place : Place) (target : Option Place)
  /-- The bytes of the file are no text. -/
  | encoding (problem : Utf8.Problem)
  /-- The path leads to no place. -/
  | path (problem : Path.Problem)
  /-- The root cannot be a document. -/
  | noName
deriving DecidableEq, Repr, Inhabited

/-- The message for a document that could not be read or written. -/
def FileProblem.message : FileProblem → Text
  | system cause place target =>
      "[Errno ".toList ++ Text.ofNat cause.number ++ "] ".toList ++ cause.wording ++ [':', ' '] ++
        place.path.quoted ++
        match target with
        | some target => " -> ".toList ++ target.path.quoted
        | none => []
  | encoding problem => problem.message
  | path problem => problem.message
  | noName => "PosixPath('/') has an empty name".toList

namespace FileTree

/-- What is at a place. -/
def at? (tree : FileTree) (place : Place) : Option Entry :=
  if place.isEmpty then some .directory
  else (tree.entries.find? (·.1 == place)).map (·.2)

/-- Put something at a place. -/
def put (tree : FileTree) (place : Place) (entry : Entry) : FileTree :=
  ⟨tree.entries.filter (·.1 != place) ++ [(place, entry)]⟩

/-- Remove what is at a place. -/
def remove (tree : FileTree) (place : Place) : FileTree := ⟨tree.entries.filter (·.1 != place)⟩

/-- The most bytes that a name may have. -/
def nameLimit : Nat := 255

/-- The most bytes that a path may have. -/
def pathLimit : Nat := 4095

/-- Is the name of a place too long for anything to be there? -/
def isNameTooLong (place : Place) : Bool :=
  place.getLast?.any fun name => nameLimit < (Utf8.encode name).length

/-- Why there is nothing at a place whose directory is there. -/
def absence (place : Place) : SystemCause := if isNameTooLong place then .nameTooLong else .missing

/-- Why no place below this one can be reached. -/
def obstacle? (tree : FileTree) (place : Place) : Option SystemCause :=
  place.prefixes.findSome? fun above =>
    match tree.at? above with
    | some .directory => none
    | some (.file _) => some .notDirectory
    | none => some (absence above)

/-- What is at a place, or why there is nothing. -/
def lookup (tree : FileTree) (place : Place) : Except SystemCause Entry :=
  if pathLimit < (Utf8.encode place.path).length then .error .nameTooLong
  else
    match tree.obstacle? place.parent, tree.at? place with
    | some cause, _ => .error cause
    | none, some entry => .ok entry
    | none, none => .error (absence place)

/-- Make a directory and those above it; one that is there already is left as it is. The names above
the directory are given from the nearest to the farthest. What has been made stays when a name
farther on is too long. -/
def makeDirectory (tree : FileTree) : List Text → Except FileProblem Unit × FileTree
  | [] => (.ok (), tree)
  | name :: above =>
      let place := (name :: above).reverse
      match tree.lookup place with
      | .ok .directory => (.ok (), tree)
      | .ok (.file _) => (.error (.system .exists place none), tree)
      | .error .missing =>
          match makeDirectory tree above with
          | (.ok (), made) =>
              if isNameTooLong place then (.error (.system .nameTooLong place none), made)
              else (.ok (), made.put place .directory)
          | failure => failure
      | .error cause => (.error (.system cause place none), tree)

/-- The bytes of the file at a place. -/
def bytesAt (tree : FileTree) (place : Place) : Except FileProblem Bytes :=
  match tree.lookup place with
  | .ok (.file content) => .ok content
  | .ok .directory => .error (.system .isDirectory place none)
  | .error cause => .error (.system cause place none)

/-- The file beside a place into which its content is written first. -/
def draftOf (directory : Place) (name : Text) : Place := directory ++ [name ++ ".tmp".toList]

/-- Write a file at a place. What has been made on the way stays when the writing fails. -/
def writeBytes (tree : FileTree) (place : Place) (content : Bytes) :
    Except FileProblem Unit × FileTree :=
  match tree.makeDirectory place.parent.reverse with
  | (.error problem, tree) => (.error problem, tree)
  | (.ok (), tree) =>
      match place.getLast? with
      | none => (.error .noName, tree)
      | some name =>
          let draft := draftOf place.parent name
          match tree.lookup draft with
          | .ok .directory => (.error (.system .isDirectory draft none), tree)
          | .error .nameTooLong => (.error (.system .nameTooLong draft none), tree)
          | _ =>
              match tree.at? place with
              | some .directory =>
                  (.error (.system .isDirectory draft (some place)), tree.remove draft)
              | _ => (.ok (), (tree.remove draft).put place (.file content))

/-- Everything below a place, by the names on the way from there. -/
def below (tree : FileTree) (place : Place) : List (Place × Entry) :=
  tree.entries.filterMap fun (found, entry) =>
    if found.take place.length = place ∧ place.length < found.length then
      some (found.drop place.length, entry)
    else none

end FileTree

/-- The directories from which paths are followed. -/
structure Standpoint where
  current : Place
  home : Place
deriving DecidableEq, Repr, Inhabited

namespace Standpoint

/-- The place that a path leads to. -/
def resolve (standpoint : Standpoint) (path : Text) : Except FileProblem Place :=
  (Path.resolve standpoint.current standpoint.home path).mapError .path

/-- Read a document. -/
def read (standpoint : Standpoint) (tree : FileTree) (path : Text) : Except FileProblem Text := do
  let place ← standpoint.resolve path
  let content ← tree.bytesAt place
  (Utf8.decode content).mapError .encoding

/-- Write a document. -/
def write (standpoint : Standpoint) (tree : FileTree) (path content : Text) :
    Except FileProblem Unit × FileTree :=
  match standpoint.resolve path with
  | .error problem => (.error problem, tree)
  | .ok place => tree.writeBytes place (Utf8.encode content)

end Standpoint

end FormulaRepair
