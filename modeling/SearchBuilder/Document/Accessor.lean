import SearchBuilder.Document.Argument
import SearchBuilder.Document.Outcome
import SearchBuilder.Text.Case

/-!
# Accessors

Most methods of a node are accessors: given null they read an option, given a value they store it
and answer the node. An `Accessor` says which option that is and what may be stored there. Null
never clears an option.

Before anything is written, the whole argument is checked; a word that an option does not know is
dropped with a log message and changes nothing.
-/

namespace SearchBuilder

/-! ## Steps on nodes -/

namespace Node

/-- Answers the value of an option, null if it is not set. -/
def readOption (n : Node) (place : Place) (key : String) : Outcome Node :=
  match (n.valueAt place).members? with
  | some _ => n.readPart (n.path place ++ [key])
  | none => .failed n .readsNonObject

/-- Answers the value under a key that is always there. -/
def readHeld (n : Node) (place : Place) (key : String) : Outcome Node :=
  match (n.valueAt place).members? with
  | some members =>
    if Entries.contains members key then n.readPart (n.path place ++ [key])
    else .failed n .missingKey
  | none => .failed n .readsNonObject

/-- Stores the value of an option. -/
def writeOption (n : Node) (place : Place) (key : String) (value : Json) : Outcome Node :=
  match (n.valueAt place).setMember? key value with
  | some target => .shifted (n.replace place target) [.taken (n.path place ++ [key])]
  | none => .failed n .writesNonObject

/-- The node with `start` under a key that is absent. -/
def openSlot (n : Node) (place : Place) (key : String) (start : Json) : Except Fault Node :=
  match (n.valueAt place).members? with
  | some members => .ok (n.replace place (.obj (Entries.setDefault members key start)))
  | none => .error .readsNonObject

/-- Appends to the list under a key, which is begun if it is absent. The item is made when the list
is there already, so a node that is put into itself is seen with the list begun. -/
def appendItem (n : Node) (place : Place) (key : String) (item : Node → Json) : Outcome Node :=
  match n.openSlot place key (.arr []) with
  | .error fault => .failed n fault
  | .ok opened =>
    let target := opened.valueAt place
    match target.member key with
    | .arr items =>
      .chained (opened.replace place (target.setMember key (.arr (items ++ [item opened]))))
    | _ => .failed opened .appendsToNonList

/-- Appends to the list under a key that is always there. -/
def appendHeld (n : Node) (place : Place) (key : String) (item : Json) : Outcome Node :=
  match (n.valueAt place).members? with
  | some members =>
    match Entries.get? members key with
    | some (.arr items) =>
      .chained (n.replace place (.obj (Entries.set members key (.arr (items ++ [item])))))
    | some _ => .failed n .appendsToNonList
    | none => .failed n .missingKey
  | none => .failed n .readsNonObject

/-- Merges an object into the section under a key, which is begun if it is absent. As with
`appendItem`, the addition is made when the section is there. -/
def mergeSection (n : Node) (place : Place) (key : String) (addition : Node → Json) :
    Outcome Node :=
  match n.openSlot place key .empty with
  | .error fault => .failed n fault
  | .ok opened =>
    let target := opened.valueAt place
    match addition opened, target.member key with
    | .obj additions, .obj members =>
      let merged := target.setMember key (.obj (Entries.merge members additions))
      .shifted (opened.replace place merged) <|
        additions.map fun (name, _) => .taken (n.path place ++ [key, name])
    | .obj [], _ => .chained opened
    | .obj _, _ => .failed opened .writesNonObject
    | _, _ => .failed opened .mergesNonObject

end Node

/-! ## Accessors -/

/-- How a word is folded before it is compared with the words of an option. -/
inductive Folding where
  | lower
  | upper
  deriving DecidableEq, Repr

/-- A word with its case folded. -/
def Folding.apply : Folding → String → String
  | .lower => SearchBuilder.lower
  | .upper => SearchBuilder.upper

/-- A method that reads and writes one option. -/
inductive Accessor where
  /-- Any value. -/
  | option (place : Place) (key : String)
  /-- One of a few words, in any letter case. -/
  | choice (place : Place) (key : String) (words : List String) (folding : Folding)
  /-- One node. -/
  | child (place : Place) (key : String) (expected : Expected)
  /-- A list of nodes: one node is appended, a list replaces all. -/
  | children (place : Place) (key : String) (expected : Expected)
  /-- Named nodes, merged by name. -/
  | section (place : Place) (key : String) (expected : Expected)
  /-- A list of texts, given whole. -/
  | names (place : Place) (key what : String)
  /-- A list of texts: one text is appended, a list replaces all. -/
  | growingNames (place : Place) (key what : String)
  /-- A list of texts like `growingNames` that is there from the start. -/
  | heldNames (place : Place) (key what : String)
  /-- A number. -/
  | number (place : Place) (key : String)
  /-- An integer. -/
  | integer (place : Place) (key : String)
  deriving DecidableEq, Repr

namespace Accessor

/-- Where the option is stored. -/
def place : Accessor → Place
  | option p _ | choice p _ _ _ | child p _ _ | children p _ _ | «section» p _ _ | names p _ _
  | growingNames p _ _ | heldNames p _ _ | number p _ | integer p _ => p

/-- The key of the option. -/
def key : Accessor → String
  | option _ k | choice _ k _ _ | child _ k _ | children _ k _ | «section» _ k _ | names _ k _
  | growingNames _ k _ | heldNames _ k _ | number _ k | integer _ k => k

/-- Reads the option. -/
def read (n : Node) : Accessor → Outcome Node
  | heldNames place key _ => n.readHeld place key
  | a => n.readOption a.place a.key

/-- Checks an argument other than null, and stores it. -/
def write (n : Node) (v : Argument) : Accessor → Outcome Node
  | option place key => n.writeOption place key (v.toJson n)
  | choice place key words folding =>
    match v.text? with
    | none => .refused n (.notText key)
    | some word =>
      let folded := folding.apply word
      if words.contains folded then n.writeOption place key (.str folded)
      else .noticed n (.ignoredWord key n.kind.name word)
  | child place key expected =>
    if v.satisfies n expected then n.writeOption place key (v.snapshot n)
    else .refused n (.notExpected expected)
  | children place key expected =>
    match v.items? with
    | some items =>
      if items.all (·.satisfies n expected) then
        n.writeOption place key (.arr (items.map (·.snapshot n)))
      else .refused n (.badItem expected)
    | none =>
      if v.satisfies n expected then n.appendItem place key (v.snapshot ·)
      else .refused n (.notExpectedOrList expected)
  | «section» place key expected =>
    if v.satisfies n expected then n.mergeSection place key (v.snapshot ·)
    else .refused n (.notExpected expected)
  | names place key what =>
    match v.names? with
    | some texts => n.writeOption place key (.ofStrings texts)
    | none => .refused n (.notNames what)
  | growingNames place key what =>
    match v.text? with
    | some text => n.appendItem place key fun _ => .str text
    | none =>
      match v.names? with
      | some texts => n.writeOption place key (.ofStrings texts)
      | none => .refused n (.notNames what)
  | heldNames place key what =>
    match v.text? with
    | some text => n.appendHeld place key (.str text)
    | none =>
      match v.names? with
      | some texts => n.writeOption place key (.ofStrings texts)
      | none => .refused n (.notNames what)
  | number place key =>
    match v with
    | .plain (.int i) => n.writeOption place key (.int i)
    | .plain (.float x) => n.writeOption place key (.float x)
    | _ => .refused n (.notNumber key)
  | integer place key =>
    match v with
    | .plain (.int i) => n.writeOption place key (.int i)
    | _ => .refused n (.notInteger key)

/-- Reads the option if the argument is null, and else stores the argument. -/
def run (a : Accessor) (n : Node) (v : Argument) : Outcome Node :=
  if v.isNull then a.read n else a.write n v

end Accessor

end SearchBuilder
