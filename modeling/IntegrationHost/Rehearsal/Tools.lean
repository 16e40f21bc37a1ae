import IntegrationHost.Files

/-!
# Tools

The programs that scripts are made of: they show, copy, move, remove and make files. Each is a
function of the directory it runs in, what it reads, its arguments and the files, and each has its
own words for what goes wrong.
-/

namespace IntegrationHost.Rehearsal

/-- What a program writes, to its output or to its error output. -/
inductive Utterance where
  | out (bytes : List UInt8)
  | err (bytes : List UInt8)

/-- What a program leaves: its status, what it wrote in order, and the files. -/
structure Deed where
  status : Nat
  written : List Utterance
  files : Files

namespace Deed

/-- Nothing is done. -/
def nothing (files : Files) : Deed := ⟨0, [], files⟩

/-- Write to the output. -/
def display (d : Deed) (bytes : List UInt8) : Deed :=
  { d with written := d.written ++ [.out bytes] }

/-- Something goes wrong. -/
def complain (d : Deed) (words : String) : Deed :=
  { d with status := 1, written := d.written ++ [.err (Text.bytes (words ++ "\n"))] }

/-- What was written about errors. -/
def complaint (d : Deed) : List UInt8 :=
  (d.written.map fun
    | .out _ => []
    | .err bytes => bytes).flatten

/-- See to operands one by one, whatever becomes of those before. -/
def each (act : String → Files → Except String Files) (files : Files) (operands : List String) :
    Deed :=
  operands.foldl (fun d operand =>
    match act operand d.files with
    | .ok files => { d with files }
    | .error words => d.complain words) (nothing files)

end Deed

/-- A program, by its directory, what it reads, its arguments and the files. -/
abbrev Tool := Place → List UInt8 → List String → Files → Deed

namespace Tool

/-- A name in a complaint. -/
def quote (name : String) : String :=
  if Text.hasAny ['\''] name then "\"" ++ name ++ "\"" else "'" ++ name ++ "'"

/-- A name in a complaint that quotes a name only if it has to. -/
def quoteIfOdd (name : String) : String :=
  if Text.hasAny ['\'', ' ', '\t', '\n', '"', '$', '*', '?', ';', '&', '|', '<', '>'] name then
    quote name
  else name

/-- The last step of a path. -/
def baseName (path : String) : String := (Files.steps path).getLast?.getD path

/-- The steps to where a path leads, if its way is open. -/
def spot? (f : Files) (directory : Place) (path : String) : Option (List String) :=
  match f.approach directory path with
  | .ok (place, none) => some place.steps
  | .ok (place, some name) => (place.child name).toOption
  | .error _ => none

/-! ## Arguments -/

/-- Options and operands of a program. Options are letters, and may stand anywhere before `--`. -/
structure Arguments where
  options : List Char
  operands : List String

/-- Take arguments apart, given the letters that are options. -/
def Arguments.sort (letters : List Char) : List String → Except String Arguments
  | [] => .ok ⟨[], []⟩
  | "--" :: operands => .ok ⟨[], operands⟩
  | word :: words => do
    let rest ← sort letters words
    match word.toList with
    | '-' :: '-' :: _ => .error ("unrecognized option '" ++ word ++ "'")
    | '-' :: c :: cs =>
      match (c :: cs).find? (!letters.contains ·) with
      | some c => .error ("invalid option -- '" ++ c.toString ++ "'")
      | none => return { rest with options := c :: cs ++ rest.options }
    | _ => return { rest with operands := word :: rest.operands }

/-- What follows a complaint about arguments. -/
def hint (name : String) : String := "\nTry '" ++ name ++ " --help' for more information."

/-- The program of a name that takes some options, from what it does with its arguments. What it
says against them as a whole comes first. -/
def ofArguments (name : String) (letters : List Char) (objection? : Arguments → Option String)
    (act : Place → Arguments → Files → Deed) : Tool := fun directory _ words files =>
  match Arguments.sort letters words with
  | .error complaint => (Deed.nothing files).complain (name ++ ": " ++ complaint ++ hint name)
  | .ok a =>
    match objection? a with
    | some complaint => (Deed.nothing files).complain (name ++ ": " ++ complaint ++ hint name)
    | none => act directory a files

/-- Without operands there is nothing to do. -/
def needsOne (complaint : String) (a : Arguments) : Option String :=
  if a.operands.isEmpty then some complaint else none

/-- A source and a target are needed. -/
def needsTwo (a : Arguments) : Option String :=
  match a.operands with
  | [] => some "missing file operand"
  | [source] => some ("missing destination file operand after " ++ quote source)
  | _ => none

/-! ## Showing -/

/-- Show files one after the other, or what is read. -/
def cat : Tool := fun directory input words files =>
  (if words.isEmpty then ["-"] else words).foldl (fun d path =>
    if path = "-" then d.display input
    else if path = "/dev/null" then d
    else
      match files.content directory path with
      | .ok content => d.display content.bytes
      | .error fault => d.complain ("cat: " ++ quoteIfOdd path ++ ": " ++ fault.words))
    (.nothing files)

/-- Show the names in a directory, a line for each. -/
def ls : Tool := fun directory _ words files =>
  let path := words.head?.getD "."
  match files.lookup directory path, files.directory directory path with
  | .ok .directory, .ok place =>
    (Deed.nothing files).display (Text.bytes (String.join
      (((files.names place).filter fun name => !Text.startsWith name ".").map (· ++ "\n"))))
  | .ok _, _ => (Deed.nothing files).display (Text.bytes (path ++ "\n"))
  | .error fault, _ =>
    { (Deed.nothing files).complain ("ls: cannot access " ++ quote path ++ ": " ++ fault.words) with
      status := 2 }

/-! ## Copying and moving -/

/-- The entry that something from a source becomes at a target: one in the target, if that is a
directory. -/
def target (directory : Place) (source target : String) (f : Files) : String :=
  match f.lookup directory target with
  | .ok .directory =>
    (if Text.endsWith target "/" then target else target ++ "/") ++ baseName source
  | _ => target

/-- Copy what lies below some steps to the end of others. -/
def copyTree (source target : List String) (f : Files) : Files :=
  (f.entries.filter fun entry => source.isPrefixOf entry.1).foldr (fun entry f =>
    f.put (target ++ entry.1.drop source.length) entry.2) f

/-- Remove what lies below some steps. -/
def dropTree (steps : List String) (f : Files) : Files :=
  { f with entries := f.entries.filter fun entry => !steps.isPrefixOf entry.1 }

/-- Bring something to a target. The directory in which the target lies has to be there. -/
def bring (name failing : String) (entry : FileEntry) (directory : Place)
    (source target : String) (f : Files) : Except String (List String) :=
  let refuse (words : String) : Except String (List String) := .error (name ++ ": " ++ words)
  match f.lookup directory target, entry with
  | .ok .directory, .file _ =>
    refuse ("cannot overwrite directory " ++ quote target ++ " with non-directory")
  | .ok (.file _), .directory =>
    refuse ("cannot overwrite non-directory " ++ quote target ++ " with directory " ++ quote source)
  | .error .missing, .file _ =>
    if Text.endsWith target "/" then refuse (failing ++ ": Not a directory")
    else reach
  | .error .missing, .directory => reach
  | .error fault, _ => refuse ("cannot stat " ++ quote target ++ ": " ++ fault.words)
  | .ok _, _ => reach
where
  /-- The steps to the target. -/
  reach : Except String (List String) :=
    match spot? f directory target with
    | some steps => .ok steps
    | none => .error (name ++ ": " ++ failing ++ ": No such file or directory")

/-- Copy a source to a target, a directory only with everything in it. -/
def copy (whole : Bool) (directory : Place) (goal source : String) (f : Files) :
    Except String Files :=
  match f.lookup directory source with
  | .error fault => .error ("cp: cannot stat " ++ quote source ++ ": " ++ fault.words)
  | .ok entry =>
    let goal := target directory source goal f
    match entry with
    | .file content => do
      let steps ← bring "cp" ("cannot create regular file " ++ quote goal) entry directory source
        goal f
      if spot? f directory source = some steps then
        .error ("cp: " ++ quote source ++ " and " ++ quote goal ++ " are the same file")
      else return f.put steps (.file content)
    | .directory =>
      if !whole then
        .error ("cp: -r not specified; omitting directory " ++ quote source)
      else do
        let steps ← bring "cp" ("cannot create directory " ++ quote goal) entry directory source
          goal f
        let origin := (spot? f directory source).getD []
        if origin.isPrefixOf steps then
          .error ("cp: cannot copy a directory, " ++ quote source ++ ", into itself, " ++
            quote goal)
        else return copyTree origin steps f

/-- Move a source to a target. -/
def move (directory : Place) (goal source : String) (f : Files) : Except String Files :=
  match f.lookup directory source with
  | .error fault => .error ("mv: cannot stat " ++ quote source ++ ": " ++ fault.words)
  | .ok entry => do
    let goal := target directory source goal f
    let steps ← bring "mv" ("cannot move " ++ quote source ++ " to " ++ quote goal) entry
      directory source goal f
    let origin := (spot? f directory source).getD []
    if origin = steps then
      .error ("mv: " ++ quote source ++ " and " ++ quote goal ++ " are the same file")
    else if origin.isPrefixOf steps then
      .error ("mv: cannot move " ++ quote source ++ " to a subdirectory of itself, " ++ quote goal)
    else
      let moved := copyTree origin steps (dropTree steps f)
      return dropTree origin moved

/-- Do something with all operands but the last one, which is where they go. Several of them go into
a directory. -/
def toLast (name : String) (act : String → String → Files → Except String Files)
    (directory : Place) (operands : List String) (files : Files) : Deed :=
  let goal := operands.getLast?.getD ""
  let refuse (words : String) : Deed :=
    (Deed.nothing files).complain (name ++ ": target " ++ quote goal ++ ": " ++ words)
  match decide (2 < operands.length), files.lookup directory goal with
  | true, .ok (.file _) => refuse "Not a directory"
  | true, .error fault => refuse fault.words
  | _, _ => Deed.each (act goal) files operands.dropLast

/-- Copy files. -/
def cp : Tool :=
  ofArguments "cp" ['r', 'R', 'a', 'f', 'p', 'd', 'v'] needsTwo fun directory a files =>
    let whole := a.options.any ['r', 'R', 'a'].contains
    toLast "cp" (copy whole directory) directory a.operands files

/-- Move files. -/
def mv : Tool :=
  ofArguments "mv" ['f', 'n', 'v'] needsTwo fun directory a files =>
    toLast "mv" (move directory) directory a.operands files

/-! ## Removing and making -/

/-- Remove files, and directories if asked to. -/
def rm : Tool :=
  ofArguments "rm" ['r', 'R', 'f', 'v']
    (fun a => if a.options.contains 'f' then none else needsOne "missing operand" a)
    fun directory a files => Deed.each (fun path f =>
      let refuse (words : String) : Except String Files :=
        .error ("rm: cannot remove " ++ quote path ++ ": " ++ words)
      match f.lookup directory path with
      | .error fault =>
        if a.options.contains 'f' ∧ fault = .missing then .ok f else refuse fault.words
      | .ok entry =>
        if entry = .directory ∧ !a.options.any ['r', 'R'].contains then refuse "Is a directory"
        else
          match spot? f directory path with
          | some steps =>
            if steps.isPrefixOf f.home.steps then refuse "Is a directory"
            else .ok (dropTree steps f)
          | none => refuse "Is a directory") files a.operands

/-- Remove empty directories. -/
def rmdir : Tool :=
  ofArguments "rmdir" [] (needsOne "missing operand") fun directory a files =>
    Deed.each (fun path f =>
      let refuse (words : String) : Except String Files :=
        .error ("rmdir: failed to remove " ++ quote path ++ ": " ++ words)
      match f.lookup directory path, spot? f directory path with
      | .ok .directory, some steps =>
        if f.entries.any fun entry => entry.1 ≠ steps ∧ steps.isPrefixOf entry.1 then
          refuse "Directory not empty"
        else .ok (dropTree steps f)
      | .ok _, _ => refuse "Not a directory"
      | .error fault, _ => refuse fault.words) files a.operands

/-- Make directories, with those on the way if asked to. -/
def mkdir : Tool :=
  ofArguments "mkdir" ['p', 'v'] (needsOne "missing operand") fun directory a files =>
    Deed.each (fun path f =>
      let refuse (words : String) : Except String Files :=
        .error ("mkdir: cannot create directory " ++ quote path ++ ": " ++ words)
      let onTheWay := a.options.contains 'p'
      match f.lookup directory path with
      | .ok .directory => if onTheWay then .ok f else refuse "File exists"
      | .ok (.file _) => refuse "File exists"
      | .error .missing =>
        match onTheWay, spot? f directory path with
        | true, _ => .ok (f.install directory path .directory)
        | false, some steps => .ok (f.put steps .directory)
        | false, none => refuse "No such file or directory"
      | .error fault => refuse fault.words) files a.operands

/-- Make files that are not there. -/
def touch : Tool :=
  ofArguments "touch" [] (needsOne "missing file operand") fun directory a files =>
    Deed.each (fun path f =>
      match f.lookup directory path with
      | .ok _ => .ok f
      | .error .missing =>
        match f.write directory path (.text "") with
        | .ok f => .ok f
        | .error _ => .error ("touch: cannot touch " ++ quote path ++ ": No such file or directory")
      | .error fault => .error ("touch: cannot touch " ++ quote path ++ ": " ++ fault.words))
      files a.operands

/-- The directories that programs lie in. -/
def homes : List String := ["/bin/", "/usr/bin/"]

/-- The name of the program that a name or a path leads to. -/
def nameAt (path : String) : Option String :=
  if Text.hasAny ['/'] path then
    homes.findSome? fun home =>
      match Text.stripStart? home path with
      | some name => if Text.hasAny ['/'] name then none else some name
      | none => none
  else some path

/-- The program of a name. -/
def ofName? : String → Option Tool
  | "true" => some fun _ _ _ files => .nothing files
  | "false" => some fun _ _ _ files => ⟨1, [], files⟩
  | "sleep" => some fun _ _ _ files => .nothing files
  | "cat" => some cat
  | "ls" => some ls
  | "cp" => some cp
  | "mv" => some mv
  | "rm" => some rm
  | "rmdir" => some rmdir
  | "mkdir" => some mkdir
  | "touch" => some touch
  | _ => none

end Tool

end IntegrationHost.Rehearsal
