import ApiLint.Cli.Footprint
import Std.Time.Format

/-!
# The program

Takes stock of the part of the world that a run depends on, runs, prints what the run says and
saves the files it changed. There is no network here: every request ends without an answer.
-/

namespace ApiLint.Program

-- ---------------------------------------------------------------------------
-- Taking stock
-- ---------------------------------------------------------------------------

/-- The text of a place in the system's own tree of files. -/
def systemPath (place : List String) : String := (FilePath.absolute place).text

/-- What the system holds at a place. What is neither a file nor a directory does not count, nor
does a file that cannot be read. -/
def entryAt? (place : List String) : IO (Option FileEntry) := do
  try
    match (← ((← IO.currentDir) / systemPath place).metadata).type with
    | .dir => return some .directory
    | .file => return some (.file (← IO.FS.readBinFile (systemPath place)).toList)
    | _ => return none
  catch _ => return none

/-- The part of the system's tree of files that holds these places. -/
def snapshot (places : List (List String)) : IO FileTree := do
  let mut tree := FileTree.empty
  for place in places do
    if let some entry ← entryAt? place then tree := tree.put place entry
  return tree

/-- The variables among these that are set. -/
def environment (names : List String) : IO Environment := do
  let mut e := Environment.empty
  for name in names do
    if let some value ← IO.getEnv name then e := e.set name value
  return e

/-- The name of the operating system, if it tells. -/
def platform : IO String := do
  try return (← IO.FS.readFile "/proc/sys/kernel/ostype").trimAscii.toString
  catch _ => return ""

/-- The date and time. -/
def time : IO String := do
  try return (← Std.Time.PlainDateTime.now).format "uuuuMMdd-HHmmss"
  catch _ => return Decimal.ofNat (← IO.monoMsNow)

/-- The rest of a stream, after what was read already. -/
partial def drain (stream : IO.FS.Stream) (sofar : ByteArray) : IO ByteArray := do
  let chunk ← stream.read 65536
  if chunk.isEmpty then return sofar else drain stream (sofar ++ chunk)

/-- The bytes of standard input. -/
def input : IO (List UInt8) := return (← drain (← IO.getStdin) .empty).toList

/-- The home directory of the account with a number in the system's list of accounts. -/
def homeIn? (accounts number : String) : Option String :=
  (accounts.splitOn "\n").findSome? fun line => match line.splitOn ":" with
    | [_, _, n, _, _, home, _] => if n = number then some home else none
    | _ => none

/-- The home directory of the account that runs the program, if the system tells. -/
def accountHome : IO (Option String) := do
  try
    let status ← IO.FS.readFile "/proc/self/status"
    let accounts ← IO.FS.readFile "/etc/passwd"
    let number := (status.splitOn "\n").findSome? fun line => match line.splitOn "\t" with
      | "Uid:" :: own :: _ => some own
      | _ => none
    return number.bind (homeIn? accounts)
  catch _ => return none

/-- The world of a run with these arguments, as far as the run depends on it. -/
def world (args : List String) : IO World := do
  let here : World :=
    { files := FileTree.empty
      directory := (FilePath.ofText (← IO.currentDir).toString).parts
      environment := ← environment Footprint.settings
      platform := ← platform
      input := ← if Footprint.readsInput args then input else pure []
      isTerminal := ← (← IO.getStdout).isTty
      network := fun _ => .failure "no network"
      obstacle := fun _ => none
      time := ← time
      accountHome := ← accountHome }
  let files ← snapshot (Footprint.places here.directory (Footprint.paths here args))
  return { here with files }

-- ---------------------------------------------------------------------------
-- Saving
-- ---------------------------------------------------------------------------

/-- Writes a file at a place at once. -/
def saveFile (place : List String) (content : List UInt8) : IO Unit := do
  let name := FileTree.temporaryName (place.getLast?.getD "") (← IO.monoMsNow)
  let temporary := systemPath (place.dropLast ++ [name])
  try
    IO.FS.writeBinFile temporary ⟨content.toArray⟩
    IO.FS.rename temporary (systemPath place)
  catch e =>
    try IO.FS.removeFile temporary catch _ => pure ()
    throw e

/-- Saves what is new in a tree, in the order in which it came there. -/
def save (before after : FileTree) : IO Unit := do
  for (place, entry) in after.entries.reverse do
    if before.at? place ≠ some entry then
      match entry with
      | .directory => IO.FS.createDirAll (systemPath place)
      | .file content => saveFile place content

/-- A run in the world as it is. Yields the number that it ends with. -/
def run (args : List String) : IO UInt32 := do
  let before ← world args
  let errors ← IO.getStderr
  match Run.start before args with
  | .misused =>
    errors.putStr Run.helpText
    return ExitCode.usage.code.toNat.toUInt32
  | .broken _ =>
    errors.putStrLn "Internal error."
    return ExitCode.failure.code.toNat.toUInt32
  | .finished out err files exit =>
    save before.files files
    (← IO.getStdout).putStr out
    errors.putStr err
    return exit.code.toNat.toUInt32

end ApiLint.Program

/-- The program. Where the system refuses, it says why. -/
def main (args : List String) : IO UInt32 := do
  try ApiLint.Program.run args
  catch e =>
    IO.eprintln ("Error: " ++ toString e)
    return ApiLint.ExitCode.failure.code.toNat.toUInt32
