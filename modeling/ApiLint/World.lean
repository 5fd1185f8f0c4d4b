import ApiLint.Document
import ApiLint.Environment
import ApiLint.FileTree.Replacement
import ApiLint.Text.Utf8

/-!
# The world of a run

Everything outside the program that a run depends on, as one value. A run is a function of it.
-/

namespace ApiLint

/-- What a request over the network ends with. -/
inductive HttpOutcome
  | answer (status : Int) (contentType : String) (body : String)
  /-- No answer, with the words of whoever gave up. -/
  | failure (text : String)

/-- Everything that a run depends on. -/
structure World where
  files : FileTree
  /-- The current directory. -/
  directory : List String
  environment : Environment
  /-- The name of the operating system. -/
  platform : String
  /-- The bytes of standard input. -/
  input : List UInt8
  /-- Whether standard output is a terminal. -/
  isTerminal : Bool
  network : String → HttpOutcome
  /-- The steps of writing a file that fail by themselves. -/
  obstacle : WriteStep → Option FileError
  /-- The date and time, as names of files spell them. -/
  time : String
  /-- Why standard input cannot be read, in the words of the system. -/
  inputRefusal : Option String := none
  /-- Why the content of a file cannot be read although the file is there, in the words of the
  system. -/
  contentRefusal : FilePath → Option String := fun _ => none
  /-- Why the system does not even say what a path leads to, in its own words. -/
  lookupRefusal : FilePath → Option String := fun _ => none
  /-- The home directory of the account that runs the program, if it is known. -/
  accountHome : Option String := none
  /-- The number of columns of the terminal, if there is one. -/
  columns : Option Nat := none
  /-- The readers of documents. -/
  formats : Formats := .standard

/-- The number by which a system knows an error, and the words for it. -/
def FileError.cause : FileError → Nat × String
  | .missing => (2, "No such file or directory")
  | .notDirectory => (20, "Not a directory")
  | .present => (17, "File exists")
  | .isDirectory => (21, "Is a directory")
  | .busy => (16, "Device or resource busy")

/-- What a system says about an error at a path. -/
def FileError.message (e : FileError) (p : FilePath) : String :=
  "[Errno " ++ Decimal.ofNat e.cause.1 ++ "] " ++ e.cause.2 ++ ": " ++ Text.quoted p.text

namespace World

/-- Text with every line break as a line feed. -/
def unifyBreaks : List Char → List Char
  | [] => []
  | '\r' :: '\n' :: rest => '\n' :: unifyBreaks rest
  | '\r' :: rest => '\n' :: unifyBreaks rest
  | c :: rest => c :: unifyBreaks rest

/-- The bytes of a file, or what the system says instead. -/
def content (w : World) (p : FilePath) : Except String (List UInt8) :=
  match w.contentRefusal p with
  | some reason => .error reason
  | none => (w.files.content w.directory p).mapError fun e => e.message p

/-- Why a source of bytes has no text. -/
inductive TextError
  | unreadable (reason : String)
  | undecodable (b : Text.Utf8.BadBytes)

/-- The text of bytes that could or could not be read, with its line breaks unified. -/
def textOf : Except String (List UInt8) → Except TextError String
  | .error reason => .error (.unreadable reason)
  | .ok bytes => match Text.Utf8.decode bytes with
    | .error b => .error (.undecodable b)
    | .ok chars => .ok (String.ofList (unifyBreaks chars))

/-- The text of a file. -/
def readText (w : World) (p : FilePath) : Except TextError String := textOf (w.content p)

/-- The text of standard input. -/
def inputText (w : World) : Except TextError String :=
  textOf (match w.inputRefusal with
    | some reason => .error reason
    | none => .ok w.input)

end World

end ApiLint
