import DatasetCompiler.Json.Token

/-!
# JSON documents

A document is built from its tokens with a stack of the arrays and objects that are still open.
At most `maxDepth` of them may be open at once.  Members of an object that share a key count once,
with the last value at the place of the first (`merged`).

Main definitions: `Builder.step` for one token, `ofLexed` for a whole text.
-/

namespace DatasetCompiler.Json

/-- How many arrays and objects may be open at once. -/
def maxDepth : Nat := 127

/-- An open array or object with what it holds so far, last part first. -/
inductive Frame where
  | array (items : List Json)
  /-- An object that waits for the value of a key. -/
  | object (members : List (String × Json)) (key : String)
deriving Repr

/-- How far a document has been built; `above` are the open arrays and objects around this place,
innermost first. -/
inductive Builder where
  /-- A value must follow. -/
  | valueDue (above : List Frame)
  /-- Behind an opening bracket: a value or the closing bracket. -/
  | firstItem (above : List Frame)
  /-- Behind an item. -/
  | afterItem (above : List Frame) (items : List Json)
  /-- Behind an opening brace: a key or the closing brace. -/
  | firstKey (above : List Frame)
  /-- Behind the comma in an object: a key. -/
  | keyDue (above : List Frame) (members : List (String × Json))
  /-- Behind a key. -/
  | colonDue (above : List Frame) (members : List (String × Json)) (key : String)
  /-- Behind a member. -/
  | afterMember (above : List Frame) (members : List (String × Json))
  /-- Behind the whole document. -/
  | done (value : Json)
deriving Repr

namespace Builder

def complete (value : Json) : List Frame → Builder
  | [] => .done value
  | .array items :: above => .afterItem above (value :: items)
  | .object members key :: above => .afterMember above ((key, value) :: members)

/-- A token where a value must follow. -/
def openValue? (above : List Frame) : Token → Option Builder
  | .null => some (complete .null above)
  | .bool b => some (complete (.bool b) above)
  | .number n => some (complete (.number n) above)
  | .string s => some (complete (.string s) above)
  | .openBracket => if above.length < maxDepth then some (.firstItem above) else none
  | .openBrace => if above.length < maxDepth then some (.firstKey above) else none
  | .closeBracket | .closeBrace | .comma | .colon => none

/-- One more token, unless the document cannot continue so. -/
def step (token : Token) : Builder → Option Builder
  | .valueDue above => openValue? above token
  | .firstItem above =>
    if token = .closeBracket then some (complete (.array []) above)
    else openValue? (.array [] :: above) token
  | .afterItem above items =>
    match token with
    | .comma => some (.valueDue (.array items :: above))
    | .closeBracket => some (complete (.array items.reverse) above)
    | _ => none
  | .firstKey above =>
    match token with
    | .closeBrace => some (complete (.object []) above)
    | .string key => some (.colonDue above [] key)
    | _ => none
  | .keyDue above members =>
    match token with
    | .string key => some (.colonDue above members key)
    | _ => none
  | .colonDue above members key =>
    match token with
    | .colon => some (.valueDue (.object members key :: above))
    | _ => none
  | .afterMember above members =>
    match token with
    | .comma => some (.keyDue above members)
    | .closeBrace => some (complete (.object members.reverse) above)
    | _ => none
  | .done _ => none

def run : Builder → List Token → Option Builder
  | b, [] => some b
  | b, token :: tokens =>
    match b.step token with
    | some next => next.run tokens
    | none => none

def awaited : Builder → Awaited
  | .valueDue _ | .firstItem _ => .value
  | .firstKey _ | .keyDue _ _ => .text
  | .afterItem _ _ | .colonDue _ _ _ | .afterMember _ _ | .done _ => .mark

def finish (stop : Stop) : Builder → Except Fault Json
  | .done value => stop.atEnd.map fun _ => value
  | b => .error (stop.fault b.awaited)

end Builder

/-! ### Members that share a key -/

/-- Sets the value of a key: in place if the key is there, at the end otherwise. -/
def setMember (key : String) (value : Json) : List (String × Json) → List (String × Json)
  | [] => [(key, value)]
  | (k, v) :: members =>
    if k = key then (k, value) :: members else (k, v) :: setMember key value members

/-- The members in the order of their first occurrence, each with its last value. -/
def lastWins (members : List (String × Json)) : List (String × Json) :=
  members.foldl (fun kept member => setMember member.1 member.2 kept) []

mutual

/-- The value with every object holding each key once. -/
def merged : Json → Json
  | .array items => .array (mergedItems items)
  | .object members => .object (lastWins (mergedMembers members))
  | .null => .null
  | .bool b => .bool b
  | .number n => .number n
  | .string s => .string s

def mergedItems : List Json → List Json
  | [] => []
  | item :: items => merged item :: mergedItems items

def mergedMembers : List (String × Json) → List (String × Json)
  | [] => []
  | (key, value) :: members => (key, merged value) :: mergedMembers members

end

/-! ### Reading a document -/

/-- The document with its members as written, keys repeated or not. -/
def written (lexed : Lexed) : Except Fault Json :=
  match (Builder.valueDue []).run lexed.tokens with
  | some b => b.finish lexed.stop
  | none => .error .malformed

def ofLexed (lexed : Lexed) : Except Fault Json :=
  (written lexed).map merged

end DatasetCompiler.Json
