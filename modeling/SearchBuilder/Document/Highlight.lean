import SearchBuilder.Document.Accessor

/-!
# Highlight methods

Highlight options are stored at two levels: in the highlight itself, where they hold for all
fields, or with one field. A setter that names a field adds that field if it is not there; reads
and dropped words never add one.
-/

namespace SearchBuilder

namespace Node

/-- The path to a highlight option, for all fields or for one. -/
def highlightPath (key : String) (field : Option String) : Path :=
  match field with
  | none => [key]
  | some field => ["fields", field, key]

/-- The highlight with a field added to its fields, after those that are there. -/
def addField (n : Node) (field : String) : Except Fault Node :=
  match n.openSlot .root "fields" .empty with
  | .error fault => .error fault
  | .ok opened =>
    match opened.fragment.member "fields" with
    | .obj fields =>
      let added := .obj (Entries.setDefault fields field .empty)
      .ok (opened.replace .root (opened.fragment.setMember "fields" added))
    | _ => .error .readsNonObject

/-- Stores a highlight option, for all fields or for one that is added if it is not there. -/
def writeHighlight (n : Node) (key : String) (field : Option String) (value : Json) :
    Outcome Node :=
  match field with
  | none => n.writeOption .root key value
  | some name =>
    match n.addField name with
    | .error fault => .failed n fault
    | .ok opened =>
      let fields := opened.fragment.member "fields"
      match (fields.member name).setMember? key value with
      | some options =>
        let written := opened.fragment.setMember "fields" (fields.setMember name options)
        .shifted (opened.replace .root written) [.taken (highlightPath key field)]
      | none => .failed opened .writesNonObject

end Node

/-- A method of a highlight. -/
inductive HighlightMethod where
  /-- Adds fields. -/
  | fields
  /-- Any value. -/
  | option (key : String)
  /-- One of a few words. -/
  | choice (key : String) (words : List String)
  /-- One text or a list of texts, stored as a list. -/
  | tags (key : String)
  /-- An object. -/
  | settings (key : String)
  deriving DecidableEq, Repr

namespace HighlightMethod

/-- The field that an option is for, if one is given. -/
def fieldOf (args : Arguments) : Option String :=
  let field := args.get 1 "field"
  if field.isNull then none else some field.name

/-- Runs a method on a highlight. -/
def run (m : HighlightMethod) (n : Node) (args : Arguments) : Outcome Node :=
  let v := args.first ["field"]
  let field := fieldOf args
  let read (key : String) : Outcome Node := n.readThrough (Node.highlightPath key field)
  let store (key : String) (value : Json) : Outcome Node := n.writeHighlight key field value
  match m with
  | fields =>
    if v.isNull then n.readOption .root "fields"
    else
      match n.openSlot .root "fields" .empty with
      | .error fault => .failed n fault
      | .ok opened =>
        match v.names? with
        | none => .refused opened (.notNames "fields")
        | some names =>
          match names.foldlM Node.addField opened with
          | .ok n => .chained n
          | .error fault => .failed opened fault
  | option key => if v.isNull then read key else store key (v.toJson n)
  | choice key words =>
    if v.isNull then read key
    else
      match v.text? with
      | none => .refused n (.notText key)
      | some word =>
        let folded := lower word
        if words.contains folded then store key (.str folded)
        else .noticed n (.ignoredWord key n.kind.name word)
  | tags key =>
    if v.isNull then read key
    else
      match v.names? with
      | some texts => store key (.ofStrings texts)
      | none => .refused n (.notNames key)
  | settings key =>
    if v.isNull then read key
    else
      match v with
      | .plain (.obj members) => store key (.obj members)
      | _ => .refused n .notObject

end HighlightMethod

end SearchBuilder
