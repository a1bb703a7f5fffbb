import ClientGen.Tool.Option

/-!
Programs that change the disk: they make, move, copy and remove files and directories, and list what
there is. A disk here has no hard links, so that asking for one is refused.
-/

namespace ClientGen.Tool

/-- Does something with each operand, and complains where that fails. -/
def eachOperand (operands : List String) (about : String → String)
    (f : String → Work (Except DiskError Unit)) : Work ExitStatus := do
  let mut code := 0
  for operand in operands do
    if let .error e ← f operand then
      Work.complain (about operand ++ ": " ++ Work.saying e)
      code := 1
  return .code code

/-- The complaint of a program that got no operand. -/
def missingOperand (t : OptionTable) : Work ExitStatus :=
  Work.fail 1 (t.complaint "missing operand")

def quotedPath (path : String) : String := "'" ++ path ++ "'"

/-- The last name of a path. Slashes at its end are left out. -/
def lastName (path : String) : String :=
  let cs := (path.toList.reverse.dropWhile (· == '/')).reverse
  if cs.isEmpty then if path.isEmpty then "" else "/"
  else String.ofList (cs.reverse.takeWhile (· != '/')).reverse

def directoryOf (path : String) : String :=
  let cs := path.toList.reverse.dropWhile (· == '/')
  let above := (cs.dropWhile (· != '/')).dropWhile (· == '/')
  if !above.isEmpty then String.ofList above.reverse
  else if path.startsWith "/" then "/"
  else "."

/-! ### Directories -/

def makeDirectoryOptions : OptionTable where
  name := "mkdir"
  letters := [('p', .none), ('m', .needed), ('v', .none)]
  words := [("parents", "p", .none), ("mode", "m", .needed), ("verbose", "v", .none)]

/-- Makes a directory and those above it, as far as they are missing. What cannot be made is told
with the reason. -/
def makeDirectories (disk : Disk) (path : String) : Except (String × DiskError) Disk :=
  ((Path.ancestors path).reverse.filter fun p => !p.isEmpty && p != "/").foldlM (fun d p =>
    match d.makeDirectory p with
    | .ok d => .ok d
    | .error .exists =>
      if d.isDirectory p then .ok d
      else .error (p, if p == path then .exists else .notDirectory)
    | .error e => .error (p, e)) disk

def makeDirectory : Tool := makeDirectoryOptions.program 1 fun o => do
  if o.operands.isEmpty then return ← missingOperand makeDirectoryOptions
  let mut code := 0
  for operand in o.operands do
    let path := decodeText operand
    let disk := (← get).disk
    let made := if o.has "p" then makeDirectories disk path
      else (disk.makeDirectory path).mapError fun e => (path, e)
    match made with
    | .ok disk => modify fun j => { j with disk }
    | .error (p, e) =>
      Work.complain ("mkdir: cannot create directory "
        ++ quotedPath (String.ofList (encode p)) ++ ": "
        ++ Work.saying e)
      code := 1
  return .code code

def removeDirectory : Tool :=
  let table : OptionTable := { name := "rmdir", letters := [('p', .none)], words := [] }
  table.program 1 fun o => do
    if o.operands.isEmpty then return ← missingOperand table
    eachOperand o.operands (fun p => "rmdir: failed to remove " ++ quotedPath p) fun p =>
      Work.onDisk fun d => d.removeDirectory (decodeText p)

/-! ### Files -/

def removeOptions : OptionTable where
  name := "rm"
  letters := "rRfdvi".toList.map fun c => (c, .none)
  words := [("recursive", "r", .none), ("force", "f", .none), ("dir", "d", .none),
    ("verbose", "v", .none)]

/-- Takes away files, and directories with all that is in them if that is wanted. -/
def remove : Tool := removeOptions.program 1 fun o => do
  if o.operands.isEmpty && !o.has "f" then return ← missingOperand removeOptions
  let isDeep := o.has "r" || o.has "R"
  eachOperand o.operands (fun p => "rm: cannot remove " ++ quotedPath p) fun p =>
    Work.onDisk fun d =>
      match d.entryAt (decodeText p) with
      | .error e => if o.has "f" && (e == .noEntry || e == .notDirectory) then .ok d else .error e
      | .ok (place, .directory) =>
        if isDeep then .ok (d.eraseAll place)
        else if o.has "d" then d.removeDirectory (decodeText p)
        else .error .isDirectory
      | .ok (place, _) => .ok (d.erase place)

def touchOptions : OptionTable where
  name := "touch"
  letters := [('a', .none), ('m', .none), ('c', .none), ('d', .needed), ('t', .needed),
    ('r', .needed)]
  words := [("no-create", "c", .none), ("date", "d", .needed), ("reference", "r", .needed)]

def touch : Tool := touchOptions.program 1 fun o => do
  if o.operands.isEmpty then
    return ← Work.fail 1 (touchOptions.complaint "missing file operand")
  eachOperand o.operands (fun p => "touch: cannot touch " ++ quotedPath p) fun p =>
    Work.onDisk fun d =>
      let path := decodeText p
      if (d.resolve path).isOk || o.has "c" then .ok d else d.create path

/-- Where something goes that is put at a path: into the directory there, or at the path itself. -/
def targetPath (d : Disk) (target source : String) : String :=
  if d.isDirectory (decodeText target) then Path.join target (lastName source) else target

def sourcesAndTarget (t : OptionTable) (operands : List String) :
    Except String (List String × String) :=
  match operands with
  | [] => .error (t.complaint "missing file operand")
  | [path] => .error (t.complaint ("missing destination file operand after " ++ quotedPath path))
  | operands => .ok (operands.dropLast, operands.getLast?.getD "")

def targetPlace (d : Disk) (path : String) : Except DiskError Place := do
  let spot ← d.spotOf (decodeText path)
  match ← spot.place? with
  | some place => return place
  | none => return spot.directory

def moveOptions : OptionTable where
  name := "mv"
  letters := "fnvTi".toList.map fun c => (c, .none)
  words := [("force", "f", .none), ("no-clobber", "n", .none), ("verbose", "v", .none)]

def move : Tool := moveOptions.program 1 fun o => do
  match sourcesAndTarget moveOptions o.operands with
  | .error complaint => Work.fail 1 complaint
  | .ok (sources, target) =>
    if sources.length > 1 && !(← get).disk.isDirectory (decodeText target) then
      return ← Work.fail 1 ("mv: target " ++ quotedPath target ++ ": No such file or directory")
    let mut code := 0
    for source in sources do
      let d := (← get).disk
      let path := targetPath d target source
      match d.entryAt (decodeText source), targetPlace d path with
      | .error e, _ =>
        Work.complain ("mv: cannot stat " ++ quotedPath source ++ ": " ++ Work.saying e)
        code := 1
      | .ok _, .error e =>
        Work.complain ("mv: cannot move " ++ quotedPath source ++ " to " ++ quotedPath path ++ ": "
          ++ Work.saying e)
        code := 1
      | .ok (place, _), .ok goal =>
        if place == goal then
          Work.complain ("mv: " ++ quotedPath source ++ " and " ++ quotedPath path
            ++ " are the same file")
          code := 1
        else if !(o.has "n" && (d.get? goal).isSome) then
          modify fun j => { j with disk := j.disk.moveTree place goal }
    return .code code

def copyOptions : OptionTable where
  name := "cp"
  letters := "rRafpvnTPLi".toList.map fun c => (c, .none)
  words := [("recursive", "r", .none), ("archive", "a", .none), ("force", "f", .none),
    ("verbose", "v", .none), ("no-clobber", "n", .none), ("preserve", "p", .optional)]

def copy : Tool := copyOptions.program 1 fun o => do
  let isDeep := o.has "r" || o.has "R" || o.has "a"
  match sourcesAndTarget copyOptions o.operands with
  | .error complaint => Work.fail 1 complaint
  | .ok (sources, target) =>
    if sources.length > 1 && !(← get).disk.isDirectory (decodeText target) then
      return ← Work.fail 1 ("cp: target " ++ quotedPath target ++ ": No such file or directory")
    let mut code := 0
    for source in sources do
      let d := (← get).disk
      let path := targetPath d target source
      match if isDeep then d.entryAt (decodeText source) else d.resolve (decodeText source) with
      | .error e =>
        Work.complain ("cp: cannot stat " ++ quotedPath source ++ ": " ++ Work.saying e)
        code := 1
      | .ok (place, .directory) =>
        if !isDeep then
          Work.complain ("cp: -r not specified; omitting directory " ++ quotedPath source)
          code := 1
        else
          match targetPlace d path with
          | .ok goal => modify fun j => { j with disk := j.disk.copyTree place goal }
          | .error e =>
            Work.complain ("cp: cannot create directory " ++ quotedPath path ++ ": "
              ++ Work.saying e)
            code := 1
      | .ok (place, node) =>
        match (d.resolve (decodeText path)).toOption with
        | some (goal, _) =>
          if goal == place then
            Work.complain ("cp: " ++ quotedPath source ++ " and " ++ quotedPath path
              ++ " are the same file")
            code := 1
            continue
        | none => pure ()
        if o.has "n" && (d.resolve (decodeText path)).isOk then continue
        let written := match node with
          | .link link => d.link (decodeText path) link
          | node => do
            let content ← node.content
            let d ← d.create (decodeText path)
            d.write (decodeText path) content
        match written with
        | .ok disk => modify fun j => { j with disk }
        | .error e =>
          Work.complain ("cp: cannot create regular file " ++ quotedPath path ++ ": "
            ++ Work.saying e)
          code := 1
    return .code code

def linkOptions : OptionTable where
  name := "ln"
  letters := "sfnvTr".toList.map fun c => (c, .none)
  words := [("symbolic", "s", .none), ("force", "f", .none), ("no-dereference", "n", .none)]

/-- Why a link that is not symbolic cannot be made. A disk holds no file at two places, so none can
be made even where nothing stands in the way. -/
def hardLinkComplaint (d : Disk) (source path : String) : String :=
  match d.resolve (decodeText source) with
  | .error e => "ln: failed to access " ++ quotedPath source ++ ": " ++ Work.saying e
  | .ok _ =>
    let reason := if d.contains (decodeText path) then Work.saying .exists
      else "Operation not permitted"
    "ln: failed to create hard link " ++ quotedPath path ++ ": " ++ reason

/-- Makes symbolic links. -/
def link : Tool := linkOptions.program 1 fun o => do
  let (sources, target) := match o.operands with
    | [source] => ([source], ".")
    | operands => (operands.dropLast, operands.getLast?.getD "")
  if o.operands.isEmpty then return ← Work.fail 1 (linkOptions.complaint "missing file operand")
  let mut code := 0
  for source in sources do
    let before := (← get).disk
    let path := targetPath before target source
    let d := if o.has "f" then (before.remove (decodeText path)).toOption.getD before else before
    if o.has "s" then
      match d.link (decodeText path) (decodeText source) with
      | .ok disk => modify fun j => { j with disk }
      | .error e =>
        Work.complain ("ln: failed to create symbolic link " ++ quotedPath path ++ ": "
          ++ Work.saying e)
        code := 1
    else
      Work.complain (hardLinkComplaint d source path)
      code := 1
  return .code code

def readLink : Tool :=
  let table : OptionTable :=
    { name := "readlink", letters := "femn".toList.map fun c => (c, .none), words := [] }
  table.program 1 fun o => do
    let mut code := 0
    for operand in o.operands do
      match (← get).disk.entryAt (decodeText operand) with
      | .ok (_, .link target) =>
        Work.print (encode target ++ if o.has "n" then [] else ['\n'])
      | _ => code := 1
    return .code code

/-! ### Listing -/

def listOptions : OptionTable where
  name := "ls"
  letters := "1aAdprFCRlt".toList.map fun c => (c, .none)
  words := [("all", "a", .none), ("almost-all", "A", .none), ("directory", "d", .none),
    ("reverse", "r", .none), ("classify", "F", .optional), ("recursive", "R", .none)]

/-- A name with the mark of its kind. -/
def listedName (o : Options) (node? : Option Disk.Node) (name : String) : String :=
  match node? with
  | some .directory => if o.has "p" || o.has "F" then name ++ "/" else name
  | some (.link _) => if o.has "F" then name ++ "@" else name
  | some (.program _) => if o.has "F" then name ++ "*" else name
  | _ => name

def listedNames (o : Options) (d : Disk) (place : Place) : List String :=
  let names := (d.namesIn place).filter fun name =>
    !name.startsWith "." || o.has "a" || o.has "A"
  let names := (if o.has "a" then [".", ".."] else []) ++ names
  let shown := names.map fun name => listedName o (d.get? (name :: place)) name
  if o.has "r" then shown.reverse else shown

def list : Tool := listOptions.program 2 fun o => do
  let d := (← get).disk
  let operands := (if o.operands.isEmpty then ["."] else o.operands).mergeSort fun s t =>
    !Text.before t s
  let mut code := 0
  let mut files := []
  let mut directories := []
  for operand in operands do
    match d.entryAt (decodeText operand) with
    | .error e =>
      Work.complain ("ls: cannot access " ++ quotedPath operand ++ ": " ++ Work.saying e)
      code := 2
    | .ok (place, node) =>
      let node := match node with
        | .link _ => ((d.resolve (decodeText operand)).toOption.map Prod.snd).getD node
        | node => node
      match node, o.has "d" with
      | .directory, false =>
        let place := ((d.resolve (decodeText operand)).toOption.map Prod.fst).getD place
        directories := directories ++ [(operand, place)]
      | node, _ => files := files ++ [listedName o (some node) operand]
  for name in if o.has "r" then files.reverse else files do
    Work.print (name.toList ++ ['\n'])
  let mut isFirst := files.isEmpty
  for (operand, place) in if o.has "r" then directories.reverse else directories do
    if operands.length > 1 then
      Work.print ((if isFirst then "" else "\n") ++ operand ++ ":\n").toList
    isFirst := false
    for name in listedNames o d place do
      Work.print (encode name ++ ['\n'])
  return .code code

/-! ### Paths -/

/-- Prints the last name of a path, without a known ending. -/
def baseName : Tool := fun arguments => do
  let table : OptionTable :=
    { name := "basename"
      letters := [('a', .none), ('s', .needed), ('z', .none)]
      words := [("multiple", "a", .none), ("suffix", "s", .needed)]
      mixes := false }
  let without (ending name : String) : String :=
    if name != ending && ending.toList.isSuffixOf name.toList then
      String.ofList (name.toList.take (name.length - ending.length))
    else name
  table.program 1 (fun o => do
    match o.has "a" || o.has "s", o.operands with
    | _, [] => missingOperand table
    | true, paths =>
      for path in paths do
        Work.print ((without ((o.value? "s").getD "") (lastName path)).toList ++ ['\n'])
      return .code 0
    | false, [path] =>
      Work.print ((lastName path).toList ++ ['\n'])
      return .code 0
    | false, [path, ending] =>
      Work.print ((without ending (lastName path)).toList ++ ['\n'])
      return .code 0
    | false, _ :: _ :: extra :: _ =>
      Work.fail 1 (table.complaint ("extra operand " ++ quotedPath extra))) arguments

def directoryName : Tool :=
  let table : OptionTable := { name := "dirname", letters := [('z', .none)], words := [] }
  table.program 1 fun o => do
    if o.operands.isEmpty then return ← missingOperand table
    for path in o.operands do
      Work.print ((directoryOf path).toList ++ ['\n'])
    return .code 0

def currentPath (d : Disk) : String :=
  "/" ++ "/".intercalate d.current.reverse

def printCurrent : Tool := fun _ => do
  Work.print (encode (currentPath (← get).disk) ++ ['\n'])
  return .code 0

/-! ### Branching -/

def branchOptions : OptionTable where
  name := "tee"
  letters := [('a', .none), ('i', .none), ('p', .none)]
  words := [("append", "a", .none), ("ignore-interrupts", "i", .none)]

/-- Passes on what it reads, and writes it to files, too. -/
def branch : Tool := branchOptions.program 1 fun o => do
  let cs ← Work.readAll 0
  Work.print cs
  eachOperand o.operands (fun p => "tee: " ++ p) fun p => Work.writePath p cs (o.has "a")

end ClientGen.Tool
