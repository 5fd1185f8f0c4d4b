import ApiLint.Logged
import ApiLint.Text.Blank
import ApiLint.Text.Lowercase

/-!
# Sources of documents

A document is read from standard input, from the network or from a file. The name of a file and the
kind of content that an answer announces give a hint at the format.

* `Source.ofText` tells the three apart;
* `Source.read` yields the text and the hint, `Source.load` the document.
-/

namespace ApiLint

/-- Where a document comes from. -/
inductive Source
  | input
  | url (text : String)
  | file (path : FilePath)
deriving DecidableEq

/-- What was read from a source. -/
structure SourceText where
  content : String
  hint : FormatHint

namespace Source

/-- How the names of sources on the network begin. -/
def schemes : List String := ["http://", "https://"]

/-- The source with a name. -/
def ofText (name : String) : Source :=
  if name = "-" then .input
  else if schemes.any fun s => s.toList.isPrefixOf name.toList then .url name
  else .file (FilePath.ofText name)

/-- The hint in the end of a file's name, in capitals or not. -/
def suffixHint (suffix : String) : FormatHint :=
  match Text.lower suffix with
  | ".json" => .json
  | ".yaml" | ".yml" => .yaml
  | _ => .none

/-- Whether a word occurs in a text. -/
def mentions (word : List Char) : List Char → Bool
  | [] => word.isEmpty
  | c :: rest => word.isPrefixOf (c :: rest) || mentions word rest

/-- The hint in the kind of content that an answer announces. -/
def contentTypeHint (contentType : String) : FormatHint :=
  let text := contentType.toList
  if mentions "json".toList text then .json
  else if mentions "yaml".toList text || mentions "yml".toList text then .yaml
  else .none

/-- The text of standard input, which must not be blank. Bytes that are no text are reported to
nobody. -/
def readInput (w : World) : Except Trouble SourceText :=
  match w.inputText with
  | .error (.undecodable b) => .error (.undecodable b)
  | .error (.unreadable reason) => .error (.source (.inputUnreadable reason))
  | .ok content =>
    if Text.allBlank content then .error (.source .noInput) else .ok ⟨content, .none⟩

/-- The text of an answer; only answers of success count. -/
def fetch (w : World) (url : String) : Except Trouble SourceText :=
  match w.network url with
  | .failure text => .error (.source (.noAnswer url text))
  | .answer status contentType body =>
    if 200 ≤ status ∧ status ≤ 299 then .ok ⟨body, contentTypeHint contentType⟩
    else .error (.source (.status status url))

/-- The text of a file, which must not be blank. -/
def readFile (w : World) (path : FilePath) : Except Trouble SourceText := do
  if ← w.isFile path then
    match w.readText path with
    | .error (.undecodable b) => throw (.source (.unreadable path b.message))
    | .error (.unreadable reason) => throw (.source (.unreadable path reason))
    | .ok content =>
      if Text.allBlank content then throw (.source (.emptyFile path))
      else return ⟨content, suffixHint path.suffix⟩
  else throw (.source (.notFound path))

/-- The text of a source. -/
def read (w : World) : Source → Except Trouble SourceText
  | .input => readInput w
  | .url text => fetch w text
  | .file path => readFile w path

/-- The document of a source with a name. What was read is recorded before it is parsed. -/
def load (w : World) (name : String) : Logged Entries := do
  let text ← Logged.ofExcept ((ofText name).read w)
  Logged.record (.sourceRead text.content.length name text.hint.name)
  Logged.ofExcept
    ((Document.parse w.formats text.hint text.content).mapError Trouble.ofDocument)

end Source

end ApiLint
