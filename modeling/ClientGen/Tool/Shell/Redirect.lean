import ClientGen.Tool.Shell.Expand

/-!
Redirections: channels of a command lead to files, to texts, or to where other channels lead.
-/

namespace ClientGen.Shell

def openComplaint (isRich : Bool) (path : String) (opening : Opening) (e : DiskError) : String :=
  let isMissing := e == .noEntry || e == .notDirectory
  if isRich then path ++ ": " ++ Work.saying e
  else
    match opening with
    | .read => "cannot open " ++ path ++ ": " ++ if isMissing then "No such file" else Work.saying e
    | _ => "cannot create " ++ path ++ ": "
        ++ if isMissing then "Directory nonexistent" else Work.saying e

def newStream (stream : Stream) : Act Nat := do
  let s ← get
  let (n, job) := s.job.addStream stream
  set { s with job }
  return n

def lead (channel stream : Nat) : Act Unit :=
  modify fun s => { s with job := s.job.lead channel stream }

/-- The disk with a file opened, and the place of the file. -/
def opened (d : Disk) (path : String) (opening : Opening) (keeps : Bool) :
    Except DiskError (Disk × Place × Disk.Node) := do
  let old := d.resolve path
  let isThere := old.toOption.isSome
  let found ← match opening with
    | .read => pure d
    | .write =>
      if keeps && (old.toOption.map fun o => o.2 matches .file _) == some true then throw .exists
      else d.create path
    | .overwrite => d.create path
    | .append | .both =>
      match old with
      | .ok (_, .directory) => throw .isDirectory
      | _ => if isThere then pure d else d.create path
  let (place, node) ← found.resolve path
  return (found, place, node)

def openFile (path : String) (opening : Opening) : Act (Except DiskError Nat) := do
  let s ← get
  match Work.channelOf? path with
  | some channel =>
    match s.job.channels.lookup channel with
    | some n => return .ok n
    | none => return .error .noEntry
  | none =>
    match opened s.job.disk (decodeText path) opening (s.has 'C') with
    | .error e => return .error e
    | .ok (disk, place, node) =>
      set { s with job := { s.job with disk } }
      let stream : Stream := match node with
        | .file _ => .file place 0 (opening matches .append)
        | .device => .device
        | _ => .buffer .empty 0
      return .ok (← newStream stream)

section

variable (substitute : Command → Act (List Char))

/-- Follows a redirection. What cannot be done is told. -/
def redirect (r : Redirection) : Act (Option String) := do
  let isRich := (← get).isRich
  match r with
  | .file channel opening path =>
    let path ← wordText substitute path
    match ← openFile path opening with
    | .ok n =>
      lead channel n
      return none
    | .error e => return some (openComplaint isRich path opening e)
  | .same channel target =>
    let text ← wordText substitute target
    if text == "-" then
      modify fun s => { s with job := s.job.close channel }
      return none
    else
      match text.toNat? with
      | some n =>
        if !isRich && text.length > 1 then Act.die 2 1 "Syntax error: Bad fd number"
        match (← get).job.channels.lookup n with
        | some stream =>
          lead channel stream
          return none
        | none => return some (text ++ ": Bad file descriptor")
      | none =>
        if isRich then return some (text ++ ": ambiguous redirect")
        else Act.die 2 1 "Syntax error: Bad fd number"
  | .text channel number =>
    let content ← quotedText substitute (((← get).texts.lookup number).getD [])
    lead channel (← newStream (.buffer (toBytes content) 0))
    return none
  | .word channel word =>
    let content ← wordText substitute word
    lead channel (← newStream (.buffer (toBytes (content.toList ++ ['\n'])) 0))
    return none
  | .outputs path appends =>
    let path ← wordText substitute path
    let opening : Opening := if appends then .append else .write
    match ← openFile path opening with
    | .ok n =>
      lead 1 n
      lead 2 n
      return none
    | .error e => return some (openComplaint isRich path opening e)

def redirectAll : List Redirection → Act (Option String)
  | [] => return none
  | r :: rest => do
    match ← redirect substitute r with
    | none => redirectAll rest
    | some complaint => return some complaint

/-- Does something with channels redirected, which lead where they led before afterwards. The second
action is done where a redirection fails. -/
def redirecting (rs : List Redirection) (act failed : Act Unit) : Act Unit :=
  Act.mending (fun before after =>
      { after with job := { after.job with channels := before.job.channels } }) do
    match ← redirectAll substitute rs with
    | none => act
    | some complaint =>
      Act.complain complaint
      failed

end

end ClientGen.Shell
