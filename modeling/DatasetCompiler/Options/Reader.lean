import DatasetCompiler.Json.Lexer
import DatasetCompiler.Numeral.Shortest
import DatasetCompiler.Options
import DatasetCompiler.Text.Printable

/-!
# Reading options

Options are written as a JSON object with the keys `primaryKeyCheck` and `customIncludes`, each at
most once and either left out, or as an array with the same two values in that order.  The check is
written as its name, or as an object whose one key is the name and whose value is `null`.

The text is read from left to right and the first thing that is wrong decides, so a wrong key is
reported even if the text breaks off right behind it.
-/

namespace DatasetCompiler.Options

open Json (Token Stop Fault Awaited)

inductive Expected where
  | options
  | sequence
  | string
  | unit
deriving DecidableEq, Repr

def Expected.description : Expected → String
  | .options => "struct CompileOptions"
  | .sequence => "a sequence"
  | .string => "a string"
  | .unit => "unit"

inductive Entry where
  | keyCheck
  | includes
deriving DecidableEq, Repr

def Entry.key : Entry → String
  | .keyCheck => "primaryKeyCheck"
  | .includes => "customIncludes"

def Entry.ofKey? (key : String) : Option Entry :=
  [Entry.keyCheck, Entry.includes].find? (·.key = key)

/-- What a token that begins a value shows of it; a mark that begins none shows nothing. -/
def shown? : Token → Option String
  | .null => some "null"
  | .bool true => some "boolean `true`"
  | .bool false => some "boolean `false`"
  | .number (.integer n) => some ("integer `" ++ toString n ++ "`")
  | .number (.float negative magnitude) =>
    some ("floating point `" ++ (if negative then "-" else "") ++ magnitude.text ++ "`")
  | .string s => some ("string " ++ Text.quoted s)
  | .openBracket => some "sequence"
  | .openBrace => some "map"
  | .closeBracket | .closeBrace | .comma | .colon => none

/-- Why well-formed JSON text holds no options. -/
inductive Issue where
  | unknownKey (key : String)
  | repeatedKey (entry : Entry)
  | unknownCheck (name : String)
  | wrongType (shown : String) (expected : Expected)
deriving DecidableEq, Repr

def Issue.message : Issue → String
  | .unknownKey key =>
    "unknown field `" ++ key ++ "`, expected `" ++ Entry.keyCheck.key ++ "` or `" ++
      Entry.includes.key ++ "`"
  | .repeatedKey entry => "duplicate field `" ++ entry.key ++ "`"
  | .unknownCheck name =>
    "unknown variant `" ++ name ++ "`, expected `" ++ KeyCheck.eager.name ++ "` or `" ++
      KeyCheck.lazy.name ++ "`"
  | .wrongType shown expected =>
    "invalid type: " ++ shown ++ ", expected " ++ expected.description

inductive ReadError where
  | fault (fault : Fault)
  | issue (issue : Issue)
deriving DecidableEq, Repr

/-- A reader takes what it needs from the front of the tokens; `stop` tells why there are no
more. -/
abbrev Reader (α : Type) := (stop : Stop) → List Token → Except ReadError (α × List Token)

def malformed {α : Type} : Except ReadError α := .error (.fault .malformed)

/-- There is no token although one is awaited. -/
def missing {α : Type} (awaited : Awaited) (stop : Stop) : Except ReadError α :=
  .error (.fault (stop.fault awaited))

def mismatch {α : Type} (expected : Expected) (token : Token) : Except ReadError α :=
  match shown? token with
  | some shown => .error (.issue (.wrongType shown expected))
  | none => malformed

def takeMark (mark : Token) : Reader Unit := fun stop tokens =>
  match tokens with
  | [] => missing .mark stop
  | token :: rest => if token = mark then .ok ((), rest) else malformed

def checkNamed (name : String) : Except ReadError KeyCheck :=
  match KeyCheck.ofName? name with
  | some check => .ok check
  | none => .error (.issue (.unknownCheck name))

def takeNull : Reader Unit := fun stop tokens =>
  match tokens with
  | [] => missing .value stop
  | .null :: rest => .ok ((), rest)
  | token :: _ => mismatch .unit token

/-- Takes the check inside an object, behind the opening brace.  The key of an object is a string,
so anything else there is a fault of the text and no wrong type. -/
def takeCheckObject : Reader KeyCheck := fun stop tokens =>
  match tokens with
  | [] => missing .text stop
  | .string name :: rest => do
    let check ← checkNamed name
    let (_, rest) ← takeMark .colon stop rest
    let (_, rest) ← takeNull stop rest
    let (_, rest) ← takeMark .closeBrace stop rest
    return (check, rest)
  | _ :: _ => malformed

def takeCheck : Reader KeyCheck := fun stop tokens =>
  match tokens with
  | [] => missing .text stop
  | .string name :: rest => do
    let check ← checkNamed name
    return (check, rest)
  | .openBrace :: rest => takeCheckObject stop rest
  | _ :: _ => malformed

/-- Takes the items of a list of strings, at the first or behind a comma. -/
def takeItems (stop : Stop) : List Token → Except ReadError (List String × List Token)
  | [] => missing .value stop
  | [.string _] => missing .mark stop
  | .string s :: .closeBracket :: rest => .ok ([s], rest)
  | .string s :: .comma :: rest => do
    let (items, rest) ← takeItems stop rest
    return (s :: items, rest)
  | .string _ :: _ :: _ => malformed
  | token :: _ => mismatch .string token

def takeIncludes : Reader (List String) := fun stop tokens =>
  match tokens with
  | [] => missing .value stop
  | .openBracket :: .closeBracket :: rest => .ok ([], rest)
  | .openBracket :: rest => takeItems stop rest
  | token :: _ => mismatch .sequence token

/-- The options met so far. -/
structure Found where
  keyCheck : Option KeyCheck
  includes : Option (List String)
deriving DecidableEq, Repr

def Found.none : Found := ⟨Option.none, Option.none⟩

def Found.has (found : Found) : Entry → Bool
  | .keyCheck => found.keyCheck.isSome
  | .includes => found.includes.isSome

/-- The options, with the default for what was not met. -/
def Found.toOptions (found : Found) : Options :=
  ⟨found.keyCheck.getD Options.default.keyCheck, found.includes.getD Options.default.includes⟩

/-- The option that a key names, unless it is unknown or was met before. -/
def entryFor (found : Found) (key : String) : Except ReadError Entry :=
  match Entry.ofKey? key with
  | none => .error (.issue (.unknownKey key))
  | some entry =>
    if found.has entry then .error (.issue (.repeatedKey entry)) else .ok entry

def takeMember (found : Found) : Reader Found := fun stop tokens =>
  match tokens with
  | [] => missing .text stop
  | .string key :: rest => do
    let entry ← entryFor found key
    let (_, rest) ← takeMark .colon stop rest
    match entry with
    | .keyCheck =>
      let (check, rest) ← takeCheck stop rest
      return ({ found with keyCheck := some check }, rest)
    | .includes =>
      let (includes, rest) ← takeIncludes stop rest
      return ({ found with includes := some includes }, rest)
  | _ :: _ => malformed

/-- Takes what follows a member, up to the closing brace.  `more` bounds the number of further
members: both options are met after two members, and a third is refused by its key. -/
def takeMembers : (more : Nat) → Found → Reader Found
  | _, _, stop, [] => missing .mark stop
  | _, found, _, .closeBrace :: rest => .ok (found, rest)
  | more + 1, found, stop, .comma :: rest => do
    let (found, rest) ← takeMember found stop rest
    takeMembers more found stop rest
  | _, _, _, _ :: _ => malformed

def takeObject : Reader Found := fun stop tokens =>
  match tokens with
  | .closeBrace :: rest => .ok (.none, rest)
  | _ => do
    let (found, rest) ← takeMember .none stop tokens
    takeMembers 2 found stop rest

def takeArray : Reader Found := fun stop tokens =>
  match tokens with
  | .closeBracket :: rest => .ok (.none, rest)
  | _ => do
    let (check, rest) ← takeCheck stop tokens
    match rest with
    | [] => missing .mark stop
    | .closeBracket :: rest => .ok (⟨some check, none⟩, rest)
    | .comma :: rest =>
      let (includes, rest) ← takeIncludes stop rest
      let (_, rest) ← takeMark .closeBracket stop rest
      return (⟨some check, some includes⟩, rest)
    | _ :: _ => malformed

def takeOptions : Reader Options := fun stop tokens =>
  match tokens with
  | [] => missing .value stop
  | .openBrace :: rest => do
    let (found, rest) ← takeObject stop rest
    return (found.toOptions, rest)
  | .openBracket :: rest => do
    let (found, rest) ← takeArray stop rest
    return (found.toOptions, rest)
  | token :: _ => mismatch .options token

/-- The end of the text behind the options. -/
def atEnd (stop : Stop) : List Token → Except ReadError Unit
  | [] =>
    match stop.atEnd with
    | .ok _ => .ok ()
    | .error fault => .error (.fault fault)
  | _ :: _ => malformed

def ofText (text : String) : Except ReadError Options := do
  let lexed := Json.lexText text
  let (options, rest) ← takeOptions lexed.stop lexed.tokens
  atEnd lexed.stop rest
  return options

end DatasetCompiler.Options
