import ClientGen.Text.Case
import ClientGen.Text.Cut

/-!
Names made of words. A word is a longest run of ASCII letters and digits; the conversions keep the
words of a text and change only their letter case and what stands between them.
-/

namespace ClientGen.Naming

def words (cs : List Char) : List (List Char) :=
  (Text.cut (fun c => !c.isAlphanum) cs).filter fun w => !w.isEmpty

/-- Each word with a capital, and nothing between them. -/
def pascal (s : String) : String :=
  String.join ((words s.toList).map fun w => Text.upperFirst (String.ofList w))

/-- The Pascal case with a small first letter. -/
def camel (s : String) : String :=
  Text.lowerFirst (pascal s)

/-- A capital begins a part of a word when a small letter or a digit is before it, or when a capital
is before it and a small letter behind it. -/
def beginsPart (before c : Char) (behind : Option Char) : Bool :=
  c.isUpper && (before.isLower || before.isDigit
    || (before.isUpper && match behind with | some d => d.isLower | none => false))

/-- The rest of a word behind `before`, in lower case and with an underscore before each part. -/
def snakeTail (before : Char) : List Char → List Char
  | [] => []
  | c :: cs =>
    (if beginsPart before c cs.head? then ['_', c.toLower] else [c.toLower]) ++ snakeTail c cs

def snakeWord : List Char → List Char
  | [] => []
  | c :: cs => c.toLower :: snakeTail c cs

/-- Lower-case parts with underscores between them. -/
def snake (s : String) : String :=
  String.ofList (List.intercalate ['_'] ((words s.toList).map snakeWord))

end ClientGen.Naming
