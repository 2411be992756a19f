import SolanaBlocks.Text.Split

/-!
# Files

What can go wrong when a file is read, and a folder of files held in memory.
-/

namespace SolanaBlocks.CommandLine

/-- Why a file cannot be read. -/
inductive FileFault where
  | missing
  | forbidden
  | folder
  | fileOnTheWay
  | notText
  | longName
  | nulInName
  | other (reason : String)
deriving DecidableEq, Repr

/-- The wording of a fault. -/
def FileFault.message : FileFault → String
  | missing => "No such file or directory (os error 2)"
  | forbidden => "Permission denied (os error 13)"
  | folder => "Is a directory (os error 21)"
  | fileOnTheWay => "Not a directory (os error 20)"
  | notText => "stream did not contain valid UTF-8"
  | longName => "File name too long (os error 36)"
  | nulInName => "file name contained an unexpected NUL byte"
  | other reason => reason

/-- What is wrong with a path, whatever files there are: it may not contain a NUL, and it has at
most 4095 bytes. -/
def pathFault? (path : String) : Option FileFault :=
  if path.toList.any (·.toNat == 0) then some .nulInName
  else if 4095 < path.utf8ByteSize then some .longName
  else none

/-- Whether a name is too long for a file: it has at most 255 bytes. -/
def isLongName (name : String) : Bool := 255 < name.utf8ByteSize

/-- A folder: the texts of its files by their paths. -/
structure Folder where
  files : List (List String × String)

namespace Folder

/-- The names along a path. -/
def namesOf (path : String) : List String :=
  (Text.splitOn '/' path.toList).map String.ofList

/-- The folder that holds some files, given by path and text. -/
def ofList (files : List (String × String)) : Folder :=
  ⟨files.map fun (path, text) => (namesOf path, text)⟩

/-- Whether there is a folder at a place. -/
def hasFolder (folder : Folder) (place : List String) : Bool :=
  place.isEmpty || folder.files.any fun (names, _) =>
    place.length < names.length && names.take place.length == place

/-- Reads the file that is found by going along some names. The place reached so far is `none` once
the way has left the folder, where nothing is known but more folders. -/
def readFrom (folder : Folder) : (place : Option (List String)) → (names : List String) →
    Except FileFault String
  | none, [] => .error .folder
  | some place, [] =>
    match folder.files.lookup place with
    | some text => .ok text
    | none => .error (if folder.hasFolder place then .folder else .missing)
  | none, name :: names =>
    if ["", ".", ".."].contains name then folder.readFrom none names
    else .error (if isLongName name then .longName else .missing)
  | some place, name :: names =>
    if (folder.files.lookup place).isSome then .error .fileOnTheWay
    else if !folder.hasFolder place then .error .missing
    else if isLongName name then .error .longName
    else if ["", "."].contains name then folder.readFrom (some place) names
    else if name = ".." then
      folder.readFrom (if place.isEmpty then none else some place.dropLast) names
    else folder.readFrom (some (place ++ [name])) names

/-- What is known of the machine outside a folder: where its empty file is. -/
def machine : Folder := .ofList [("dev/null", "")]

/-- Reads the file at a path, which starts in the folder unless it starts with a slash. -/
def read (folder : Folder) (path : String) : Except FileFault String :=
  match pathFault? path with
  | some fault => .error fault
  | none =>
    match namesOf path with
    | [""] => .error .missing
    | "" :: names => machine.readFrom (some []) names
    | names => folder.readFrom (some []) names

end Folder

end SolanaBlocks.CommandLine
