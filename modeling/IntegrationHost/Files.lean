import IntegrationHost.Text.Lossy
import IntegrationHost.Text.Search

/-!
# Files

Files and directories, and what reading and writing them comes to. A path begins at the root if it
begins with a slash, and in the working directory otherwise. It is followed step by step: every step
but the last has to lead to a directory.
-/

namespace IntegrationHost

/-- What a file holds. -/
inductive Content where
  | text (text : String)
  /-- Bytes that are no text. -/
  | binary (bytes : List UInt8)
  deriving DecidableEq

/-- What bytes are: a text, if they are the UTF-8 form of one. -/
def Content.ofBytes (bytes : List UInt8) : Content :=
  match String.fromUTF8? ⟨bytes.toArray⟩ with
  | some s => .text s
  | none => .binary bytes

/-- The bytes of a file. -/
def Content.bytes : Content → List UInt8
  | text s => Text.bytes s
  | binary bytes => bytes

/-- What lies at a path. -/
inductive FileEntry where
  | file (content : Content)
  | directory
  deriving DecidableEq

/-- Where a directory lies: the steps that lead to it from the root. -/
structure Place where
  steps : List String
  deriving DecidableEq

/-- Files and directories, under the steps that lead to them from the root. -/
structure Files where
  entries : List (List String × FileEntry)
  /-- The working directory. -/
  home : Place
  deriving DecidableEq

namespace Files

/-- Why a file could not be read or written. -/
inductive Fault where
  | missing
  | directory
  | notDirectory
  | nameTooLong
  | badName
  | notText
  /-- Any other fault that the system names, with its number. -/
  | system (number : Nat) (text : String)
  deriving DecidableEq, Repr

/-- What the system says of a fault. -/
def Fault.words : Fault → String
  | missing => "No such file or directory"
  | directory => "Is a directory"
  | notDirectory => "Not a directory"
  | nameTooLong => "File name too long"
  | badName => "file name contained an unexpected NUL byte"
  | notText => "stream did not contain valid UTF-8"
  | system _ text => text

/-- The number that the system gives to a fault. What is no text is no fault of the system. -/
def Fault.number? : Fault → Option Nat
  | missing => some 2
  | directory => some 21
  | notDirectory => some 20
  | nameTooLong => some 36
  | badName => none
  | notText => none
  | system number _ => some number

/-- The wording of a fault. -/
def Fault.message (fault : Fault) : String :=
  match fault.number? with
  | some number => fault.words ++ " (os error " ++ toString number ++ ")"
  | none => fault.words

end Files

/-- What is seen at each path. -/
abbrev Look := String → Except Files.Fault FileEntry

namespace Look

/-- The content of a file. -/
def content (look : Look) (path : String) : Except Files.Fault Content :=
  match look path with
  | .error fault => .error fault
  | .ok .directory => .error .directory
  | .ok (.file content) => .ok content

/-- The text of a file. -/
def text (look : Look) (path : String) : Except Files.Fault String :=
  match look.content path with
  | .error fault => .error fault
  | .ok (.binary _) => .error .notText
  | .ok (.text text) => .ok text

/-- Whether something lies at a path. -/
def seesAny (look : Look) (path : String) : Bool :=
  match look path with
  | .ok _ => true
  | .error _ => false

/-- Whether a file lies at a path. -/
def seesFile (look : Look) (path : String) : Bool :=
  match look path with
  | .ok (.file _) => true
  | _ => false

end Look

/-- The longest name of a file, in bytes. -/
def Files.nameLimit : Nat := 255

/-- The longest path, in bytes. -/
def Files.pathLimit : Nat := 4095

namespace Place

/-- The directory that all others are in. -/
def root : Place := ⟨[]⟩

/-- The directory around a directory; that around the root is the root. -/
def parent (place : Place) : Place := ⟨place.steps.dropLast⟩

/-- The steps that lead to a name in a directory. -/
def child (place : Place) (name : String) : Except Files.Fault (List String) :=
  if Files.nameLimit < name.utf8ByteSize then .error .nameTooLong
  else .ok (place.steps ++ [name])

end Place

namespace Files

/-- No files, and no directory but the root. -/
def empty : Files := ⟨[], .root⟩

instance : Inhabited Files := ⟨empty⟩

/-- What lies at the end of some steps; none lead to the root. -/
def entry? (f : Files) (steps : List String) : Option FileEntry :=
  if steps.isEmpty then some .directory else f.entries.lookup steps

/-- Put an entry at the end of some steps, in place of any entry already there. -/
def put (f : Files) (steps : List String) (entry : FileEntry) : Files :=
  { f with entries := (steps, entry) :: f.entries.filter fun e => e.1 != steps }

/-- Put an entry at the end of steps from a directory, with the directories on the way. -/
def plant (entry : FileEntry) (f : Files) (done : List String) : List String → Files
  | [] => f
  | [name] => f.put (done ++ [name]) entry
  | name :: rest =>
    if name = ".." then plant entry f done.dropLast rest
    else
      let here := done ++ [name]
      plant entry (if (f.entry? here).isSome then f else f.put here .directory) here rest

/-- The steps of a path, without those that stay where they are. -/
def steps (path : String) : List String :=
  (Text.split "/" path).filter fun step => step != "" && step != "."

/-- The directory in which a path begins that is not to begin at the root of its own accord. -/
def origin (base : Place) (path : String) : Place :=
  if Text.startsWith path "/" then .root else base

/-- Put an entry at a path from a directory, with the directories on the way. -/
def install (f : Files) (base : Place) (path : String) (entry : FileEntry) : Files :=
  plant entry f (origin base path).steps (steps path)

/-- Go from a directory into the one of a name. -/
def enter (f : Files) (place : Place) (name : String) : Except Fault Place :=
  if name = "." then .ok place
  else if name = ".." then .ok place.parent
  else
    match place.child name with
    | .error fault => .error fault
    | .ok here =>
      match f.entry? here with
      | some .directory => .ok ⟨here⟩
      | some (.file _) => .error .notDirectory
      | none => .error .missing

/-- What is wrong with a path, whatever files there are. -/
def flaw? (path : String) : Option Fault :=
  if Text.hasAny ['\x00'] path then some .badName
  else if path.isEmpty then some .missing
  else if pathLimit < path.utf8ByteSize then some .nameTooLong
  else none

/-- The directory in which a path from another one ends, and the name it ends with. Without a name
it leads to the directory itself. -/
def approach (f : Files) (base : Place) (path : String) : Except Fault (Place × Option String) :=
  match flaw? path with
  | some fault => .error fault
  | none =>
    match ((Text.split "/" path).filter (· != "")).reverse with
    | [] => .ok (origin base path, none)
    | last :: before => do
      let place ← before.reverse.foldlM f.enter (origin base path)
      if last = "." ∨ last = ".." then return (← f.enter place last, none)
      else return (place, some last)

/-- The directory at a path. -/
def directory (f : Files) (base : Place) (path : String) : Except Fault Place :=
  match f.approach base path with
  | .error fault => .error fault
  | .ok (place, none) => .ok place
  | .ok (place, some name) => f.enter place name

/-- The names in a directory, sorted. -/
def names (f : Files) (place : Place) : List String :=
  (f.entries.filterMap fun entry =>
    match entry.1.reverse with
    | name :: before => if before.reverse = place.steps then some name else none
    | [] => none).mergeSort fun a b => decide (a ≤ b)

/-- What lies at a path. A path that ends with a slash leads to a directory. -/
def lookup (f : Files) (base : Place) (path : String) : Except Fault FileEntry :=
  match f.approach base path with
  | .error fault => .error fault
  | .ok (_, none) => .ok .directory
  | .ok (place, some name) =>
    match place.child name with
    | .error fault => .error fault
    | .ok here =>
      match f.entry? here with
      | none => .error .missing
      | some .directory => .ok .directory
      | some (.file content) =>
        if Text.endsWith path "/" then .error .notDirectory else .ok (.file content)

/-- The content of a file. -/
def content (f : Files) (base : Place) (path : String) : Except Fault Content :=
  Look.content (f.lookup base) path

/-- What is seen from the working directory. -/
def look (f : Files) : Look := f.lookup f.home

/-- The text of a file. -/
def read (f : Files) (path : String) : Except Fault String := f.look.text path

/-- Write a file anew, or make it. Its directory has to be there. -/
def write (f : Files) (base : Place) (path : String) (content : Content) : Except Fault Files :=
  match f.approach base path with
  | .error fault => .error fault
  | .ok (_, none) => .error .directory
  | .ok (place, some name) =>
    if Text.endsWith path "/" then .error .directory
    else
      match place.child name with
      | .error fault => .error fault
      | .ok here =>
        if f.entry? here = some .directory then .error .directory
        else .ok (f.put here (.file content))

end Files

/-- Surroundings that have files. -/
class HasFiles (ω : Type) where
  files : ω → Files
  setFiles : Files → ω → ω

end IntegrationHost
