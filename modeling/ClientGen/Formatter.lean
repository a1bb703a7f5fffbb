import ClientGen.Disk.Basic
import ClientGen.Document.Basic
import ClientGen.Failure

/-!
Formatters: what gives a rendered text its final form. A formatter may look at the disk and change
it, as programs do; one that does neither is a function of the text. Which programs there are and
what they do is not known here: how a program runs is an argument of the formatter that it is.
-/

namespace ClientGen

structure Formatter where
  /-- What it is called in failures. -/
  name : String
  format : String → EStateM FormatFault Disk String

namespace Formatter

def pure (name : String) (f : String → Except FormatFault String) : Formatter where
  name := name
  format := fun text d =>
    match f text with
    | .ok text => .ok text d
    | .error e => .error e d

/-- What comes of a text depends on the text only, and the disk stays what it is. -/
def IsPure (f : Formatter) : Prop :=
  ∃ g : String → Except FormatFault String, f = Formatter.pure f.name g

def KeepsDisk (f : Formatter) : Prop :=
  ∀ text d, match f.format text d with
    | .ok _ d' => d' = d
    | .error _ d' => d' = d

theorem pure_isPure (name : String) (f : String → Except FormatFault String) :
    (Formatter.pure name f).IsPure := ⟨f, rfl⟩

theorem IsPure.keepsDisk {f : Formatter} (h : f.IsPure) : f.KeepsDisk := by
  obtain ⟨g, hg⟩ := h
  intro text d
  rw [hg]
  simp only [Formatter.pure]
  cases g text <;> rfl

end Formatter

/-- What a program leaves when it has ended. -/
structure Ended where
  status : ExitStatus
  output : ByteArray
  /-- What it has printed on its error stream. -/
  complaints : ByteArray
  /-- Why it could not be given all of its input. -/
  refusal? : Option DiskError

/-- How programs run: what comes of one that is given an input, and of the disk. There is a failure
if it cannot be started. -/
abbrev Runner := Program → ByteArray → EStateM DiskError Disk Ended

/-- Programs that only read their input and print. -/
def Runner.pure (f : Program → ByteArray → Except DiskError Ended) : Runner := fun p input d =>
  match f p input with
  | .ok ended => .ok ended d
  | .error e => .error e d

/-- The text that a program gives. A program that ends badly gives none, whatever it has printed. -/
def Ended.text (e : Ended) : Except FormatFault String :=
  if e.status.isSuccess then
    match e.refusal? with
    | some error => .error (.write error)
    | none => (Text.decodeUtf8 e.output).mapError .notText
  else
    .error (.exit e.status (Text.decodeUtf8Lossy e.complaints))

/-- A command line cannot hold the character that ends its parts. -/
def Program.hasZero (p : Program) : Bool :=
  (p.command :: p.args).any fun a => a.toList.contains (Char.ofNat 0)

/-- A program as a formatter: it is given a text, and prints what this becomes. -/
def Program.formatterBy (run : Runner) (p : Program) : Formatter where
  name := p.command
  format := fun source d =>
    if p.hasZero then .error .zeroInCommand d
    else
      match run p source.toUTF8 d with
      | .error e d => .error (.start e) d
      | .ok ended d =>
        match ended.text with
        | .ok text => .ok text d
        | .error e => .error e d

/-- Programs that only read and print are pure formatters. -/
theorem Program.formatterBy_isPure (f : Program → ByteArray → Except DiskError Ended)
    (p : Program) : (p.formatterBy (.pure f)).IsPure := by
  refine ⟨fun source => if p.hasZero then .error .zeroInCommand
    else ((f p source.toUTF8).mapError .start).bind Ended.text, ?_⟩
  rw [formatterBy, Formatter.pure]
  congr 1
  funext source d
  split
  · rfl
  · simp only [Runner.pure]
    cases f p source.toUTF8 <;> rfl

end ClientGen
