import ClientGen.Disk.Directory
import ClientGen.Failure

/-!
Jobs: what a running program works with. It reads and writes bytes through numbered channels, each
of which leads to a stream, and it may change the disk. Inside of programs a byte is the character
with its number, so that texts that are cut in the middle of a character are texts, too.

What programs do is not part of the generator. The modules of this directory are one way to run
them, which the outermost layer uses; everything else takes any other way as well.
-/

namespace ClientGen

/-- The characters for the bytes of a text. -/
def encode (s : String) : List Char :=
  s.toUTF8.toList.map fun b => Char.ofNat b.toNat

def toBytes (cs : List Char) : ByteArray :=
  ByteArray.mk (cs.map fun c => c.toNat.toUInt8).toArray

def ofBytes (bytes : ByteArray) : List Char :=
  bytes.toList.map fun b => Char.ofNat b.toNat

def decode (cs : List Char) : String :=
  Text.decodeUtf8Lossy (toBytes cs)

/-- The text that the bytes for the characters of a text spell. -/
def decodeText (s : String) : String := decode s.toList

/-- Where bytes come from and where they go. -/
inductive Stream where
  /-- Bytes that are kept until they are read. So many are read already. -/
  | buffer (content : ByteArray) (next : Nat)
  /-- A file, from a byte on, or always at its end. -/
  | file (place : Place) (next : Nat) (appends : Bool)
  /-- Nothing comes from here, and what goes here is lost. -/
  | device

/-- What a running program works with. -/
structure Job where
  disk : Disk
  streams : Array Stream
  /-- The streams that channels lead to. -/
  channels : List (Nat × Nat)
  /-- The variables that the programs it starts can see. -/
  environment : List (String × String)
  /-- The command by which the program was started. -/
  command : String := ""

/-- What a program does. -/
abbrev Work := StateM Job

/-- A program: what it does with its arguments, and how it ends. -/
abbrev Tool := List String → Work ExitStatus

namespace Job

def contentAt (j : Job) (place : Place) : ByteArray :=
  match (j.disk.get? place).map Disk.Node.content with
  | some (.ok content) => content
  | _ => .empty

def waitingIn (j : Job) : Stream → ByteArray
  | .buffer content next => content.extract next content.size
  | .file place next _ =>
    let content := j.contentAt place
    content.extract next content.size
  | .device => .empty

def stream? (j : Job) (channel : Nat) : Option (Nat × Stream) := do
  let n ← j.channels.lookup channel
  return (n, ← j.streams[n]?)

def waiting (j : Job) (channel : Nat) : ByteArray :=
  match j.stream? channel with
  | some (_, s) => j.waitingIn s
  | none => .empty

def setStream (j : Job) (n : Nat) (s : Stream) : Job :=
  { j with streams := j.streams.setIfInBounds n s }

def skip (j : Job) (channel n : Nat) : Job :=
  match j.stream? channel with
  | some (k, .buffer content next) => j.setStream k (.buffer content (min content.size (next + n)))
  | some (k, .file place next appends) => j.setStream k (.file place (next + n) appends)
  | _ => j

/-- Bytes with others in their middle, in the place of those that are there. -/
def overwrite (old new : ByteArray) (start : Nat) : ByteArray :=
  let gap := ByteArray.mk (Array.replicate (start - old.size) 0)
  old.extract 0 start ++ gap ++ new ++ old.extract (start + new.size) old.size

/-- The job with bytes written to a channel, if that leads anywhere. -/
def write? (j : Job) (channel : Nat) (bytes : ByteArray) : Option Job :=
  match j.stream? channel with
  | some (k, .buffer content next) => some (j.setStream k (.buffer (content ++ bytes) next))
  | some (k, .file place next appends) =>
    let old := j.contentAt place
    let start := if appends then old.size else next
    let disk := match j.disk.get? place with
      | some (.file _) => j.disk.insert place (.file (overwrite old bytes start))
      | _ => j.disk
    some (({ j with disk } : Job).setStream k (.file place (start + bytes.size) appends))
  | some (_, .device) => some j
  | none => none

def lead (j : Job) (channel stream : Nat) : Job :=
  { j with channels := (channel, stream) :: j.channels.filter fun c => c.1 != channel }

def close (j : Job) (channel : Nat) : Job :=
  { j with channels := j.channels.filter fun c => c.1 != channel }

def addStream (j : Job) (s : Stream) : Nat × Job :=
  (j.streams.size, { j with streams := j.streams.push s })

def start (disk : Disk) (environment : List (String × String)) (input : ByteArray) : Job where
  disk := disk
  streams := #[.buffer input 0, .buffer .empty 0, .buffer .empty 0]
  channels := [(0, 0), (1, 1), (2, 2)]
  environment := environment

def unread (j : Job) (n : Nat) : Nat :=
  match j.streams[n]? with
  | some (.buffer content next) => content.size - next
  | _ => 0

def written (j : Job) (n : Nat) : ByteArray :=
  match j.streams[n]? with
  | some (.buffer content _) => content
  | _ => .empty

end Job

namespace Work

def readAll (channel : Nat) : Work (List Char) := fun j =>
  let bytes := j.waiting channel
  (ofBytes bytes, j.skip channel bytes.size)

def write (channel : Nat) (cs : List Char) : Work Unit :=
  modify fun j => (j.write? channel (toBytes cs)).getD j

def print (cs : List Char) : Work Unit := write 1 cs

def complain (line : String) : Work Unit := write 2 (line.toList ++ ['\n'])

def fail (code : Nat) (line : String) : Work ExitStatus := do
  complain line
  return .code code

def channelOf? (path : String) : Option Nat :=
  if path == "/dev/stdin" then some 0
  else if path == "/dev/stdout" then some 1
  else if path == "/dev/stderr" then some 2
  else if "/dev/fd/".toList.isPrefixOf path.toList then (String.ofList (path.toList.drop 8)).toNat?
  else none

def readPath (path : String) : Work (Except DiskError (List Char)) := do
  match channelOf? path with
  | some channel => return .ok (← readAll channel)
  | none => return ((← get).disk.read (decodeText path)).map ofBytes

/-- The bytes of an operand, where a dash stands for the input. -/
def readOperand (operand : String) : Work (Except DiskError (List Char)) :=
  if operand == "-" then return .ok (← readAll 0) else readPath operand

/-- Writes a file, or behind its end. -/
def writePath (path : String) (cs : List Char) (appends : Bool) : Work (Except DiskError Unit) := do
  match channelOf? path with
  | some channel =>
    write channel cs
    return .ok ()
  | none =>
    let j ← get
    let path := decodeText path
    let old := (j.disk.read path).toOption
    let made := if appends && old.isSome then .ok j.disk else j.disk.create path
    let content := (if appends then old.getD .empty else .empty) ++ toBytes cs
    match made.bind fun d => d.write path content with
    | .ok disk =>
      set { j with disk }
      return .ok ()
    | .error e => return .error e

def saying (e : DiskError) : String := e.description.1

def onDisk (f : Disk → Except DiskError Disk) : Work (Except DiskError Unit) := do
  let j ← get
  match f j.disk with
  | .ok disk =>
    set { j with disk }
    return .ok ()
  | .error e => return .error e

/-- Does something on its own: afterwards the directory, the channels and the variables are what
they were. -/
def apart {α : Type} (work : Work α) : Work α := do
  let outer ← get
  let a ← work
  modify fun j =>
    { j with
      disk := { j.disk with current := outer.disk.current }
      channels := outer.channels
      environment := outer.environment }
  return a

end Work

/-! ### Lines -/

/-- The lines of a text, each with its end. The last one may lack it. -/
def linesEnding (stop : Char) (cs : List Char) : List (List Char) :=
  cs.foldr (fun c lines =>
    if c == stop then [c] :: lines
    else match lines with
      | line :: rest => (c :: line) :: rest
      | [] => [[c]]) []

def withoutEnd (stop : Char) (line : List Char) : List Char :=
  if line.getLast? == some stop then line.dropLast else line

def bareLines (stop : Char) (cs : List Char) : List (List Char) :=
  (linesEnding stop cs).map (withoutEnd stop)

end ClientGen
