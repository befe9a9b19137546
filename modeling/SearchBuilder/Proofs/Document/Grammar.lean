import SearchBuilder.Catalog
import SearchBuilder.Proofs.Json.Entries

/-!
# The grammar of request documents

What fragments look like. A `Form` says what may be stored under a key, and the tables give the
forms of the keys whose values matter, kind by kind: the sections that hold other documents, and
those that calls take to be lists or objects. Everything else is free.

`IsDocument` says that a value is a document of a category. Queries and filters are one member under
the key of their kind; aggregations, facets, suggesters, script fields and sort clauses are one
member under any key; the rest are objects, but for geo points. What their bodies hold is again as
the tables say, down to the leaves.
-/

namespace SearchBuilder

/-! ## Forms -/

/-- What may be stored under a key. -/
inductive Form where
  | any
  /-- A list, which may be missing unless it is required. -/
  | list (required : Bool)
  | object
  /-- An object of objects. -/
  | objects
  /-- One document. -/
  | one (expected : Expected)
  /-- A list of documents, which may be missing unless it is required. -/
  | many (expected : Expected) (required : Bool)
  /-- Documents by their names, each with its name as its only key. -/
  | named (c : Category)
  deriving DecidableEq, Repr

/-- Whether a key of this form is never absent. -/
def Form.isRequired : Form → Bool
  | list required | many _ required => required
  | _ => false

/-- The forms of some keys; other keys take any value. -/
abbrev Slots := List (String × Form)

/-- The form of a key. -/
def Slots.form (slots : Slots) (key : String) : Form := (Entries.get? slots key).getD .any

/-! ## Tables -/

/-- One query. -/
def Form.query : Form := .one (.category .query)

/-- One filter. -/
def Form.filter : Form := .one (.category .filter)

/-- Some queries. -/
def Form.queries : Form := .many (.category .query) false

/-- Some filters. -/
def Form.filters (required : Bool) : Form := .many (.category .filter) required

/-- The forms of keys of the body of a query. -/
def QueryKind.slots : QueryKind → Slots
  | multiField => [("fields", .list true)]
  | ids => [("values", .list true)]
  | bool => [("must", .queries), ("must_not", .queries), ("should", .queries)]
  | disMax => [("queries", .queries)]
  | constantScore | filtered | nested => [("query", .query), ("filter", .filter)]
  | functionScore =>
    [("query", .query), ("filter", .filter), ("functions", .many (.category .scoreFunction) false)]
  | spanNear | spanOr => [("clauses", .many .spanQuery true)]
  | spanNot => [("include", .one .spanQuery), ("exclude", .one .spanQuery)]
  | spanFirst => [("match", .one .spanQuery)]
  | _ => []

/-- The forms of keys of the body of a filter. -/
def FilterKind.slots : FilterKind → Slots
  | ids => [("values", .list true), ("type", .list false)]
  | query => [("query", .query)]
  | bool => [("must", .filters false), ("must_not", .filters false), ("should", .filters false)]
  | and | or => [("filters", .filters true)]
  | not => [("filter", .filter)]
  | _ => []

/-- The forms of keys of the body of an aggregation. -/
def AggregationKind.slots : AggregationKind → Slots
  | genericMetrics | avg | sum | min | max | stats | valueCount | cardinality => []
  | filter => [("filter", .filter), ("aggs", .named .aggregation)]
  | _ => [("aggs", .named .aggregation)]

/-- The forms of keys of the body of a facet. -/
def FacetKind.slots : FacetKind → Slots
  | filter => [("facet_filter", .filter), ("filter", .filter)]
  | query => [("facet_filter", .filter), ("query", .query)]
  | _ => [("facet_filter", .filter)]

namespace Kind

/-- The forms of keys of the fragment itself. -/
def rootSlots : Kind → Slots
  | score _ => [("filter", .filter)]
  | highlight => [("fields", .objects)]
  | request =>
    [("query", .query), ("filter", .filter), ("highlight", .one (.category .highlight)),
      ("rescore", .one (.category .rescore)), ("facets", .named .facet),
      ("aggs", .named .aggregation), ("script_fields", .named .scriptField),
      ("sort", .list false), ("fields", .list false), ("suggest", .object),
      ("indices_boost", .object)]
  | _ => []

/-- The forms of keys of the body. -/
def bodySlots : Kind → Slots
  | query k => k.slots
  | filter k => k.slots
  | aggregation k => k.slots
  | facet k => k.slots
  | rescore => [("rescore_query", .query)]
  | _ => []

/-- The forms of keys of the options under the inner key. -/
def innerSlots : Kind → Slots
  | aggregation .range => [("ranges", .list false)]
  | facet .terms => [("exclude", .list false)]
  | suggester .phrase => [("direct_generator", .many (.category .generator) false)]
  | suggester .completion => [("fuzzy", .object)]
  | _ => []

/-- The kinds that are there to be used; the others carry what a family shares, or are plain. -/
def isConcrete : Kind → Bool
  | query .generic | filter .generic | score .generic | aggregation .generic
  | aggregation .genericBuckets | aggregation .genericMetrics | facet .generic
  | suggester .generic | suggester .genericContext | plain => false
  | _ => true

/-- The kinds whose fragment is one member under a name that they are given. -/
def isLabelled : Kind → Bool
  | aggregation _ | facet _ | suggester _ | scriptField | sort => true
  | _ => false

/-- The kinds whose fragment is an object without an envelope around it. -/
def isOpen : Kind → Bool
  | score _ | generator | shape | indexedShape | highlight | request => true
  | _ => false

end Kind

/-! ## Documents -/

mutual

/-- A document of a category, or of a span query. -/
inductive IsDocument : Expected → Json → Prop
  | query (k : QueryKind) {body : Entries Json} : k ≠ .generic → Fits k.slots body →
    IsDocument (.category .query) (.obj [(k.discriminator, .obj body)])
  | spanQuery (k : QueryKind) {body : Entries Json} : "span_".isPrefixOf k.discriminator = true →
    Fits k.slots body → IsDocument .spanQuery (.obj [(k.discriminator, .obj body)])
  | filter (k : FilterKind) {body : Entries Json} : k ≠ .generic → Fits k.slots body →
    IsDocument (.category .filter) (.obj [(k.discriminator, .obj body)])
  | labelled (k : Kind) {c : Category} {label : String} {body : Entries Json} :
    k.isConcrete = true → k.isLabelled = true → k.category = some c → Fits k.bodySlots body →
    IsDocument (.category c) (.obj [(label, .obj body)])
  | bare (k : Kind) {c : Category} {members : Entries Json} :
    k.isConcrete = true → k.isOpen = true → k.category = some c → Fits k.rootSlots members →
    IsDocument (.category c) (.obj members)
  | rescore {members body : Entries Json} : Entries.get? members "query" = some (.obj body) →
    Fits Kind.rescore.bodySlots body → IsDocument (.category .rescore) (.obj members)
  | geoPoint (point : Json) : IsDocument (.category .geoPoint) point

/-- Members have the forms that slots ask for. -/
inductive Fits : Slots → Entries Json → Prop
  | intro {slots : Slots} {members : Entries Json} :
    (∀ key, Admits (slots.form key) (Entries.get? members key)) → Fits slots members

/-- A form admits a value, or the absence of one. -/
inductive Admits : Form → Option Json → Prop
  | any (value : Option Json) : Admits .any value
  | absent {form : Form} : form.isRequired = false → Admits form none
  | list {required : Bool} (items : List Json) : Admits (.list required) (some (.arr items))
  | object (members : Entries Json) : Admits .object (some (.obj members))
  | objects {members : Entries Json} :
    (∀ key value, Entries.get? members key = some value → ∃ inside, value = .obj inside) →
    Admits .objects (some (.obj members))
  | one {expected : Expected} {value : Json} : IsDocument expected value →
    Admits (.one expected) (some value)
  | many {expected : Expected} {required : Bool} {items : List Json} :
    (∀ item ∈ items, IsDocument expected item) →
    Admits (.many expected required) (some (.arr items))
  | named {c : Category} {members : Entries Json} :
    (∀ key value, Entries.get? members key = some value →
      IsDocument (.category c) (.obj [(key, value)])) →
    Admits (.named c) (some (.obj members))

end

/-! ## Members that fit -/

namespace Fits

variable {slots : Slots} {m m' : Entries Json}

theorem admits (h : Fits slots m) (key : String) :
    Admits (slots.form key) (Entries.get? m key) := by
  cases h with
  | intro h => exact h key

theorem of_nil (m : Entries Json) : Fits [] m := .intro fun _ => .any _

/-- Members fit if each slot of the table admits what they hold under its key. -/
theorem of_forms (h : ∀ slot ∈ slots, Admits slot.2 (Entries.get? m slot.1)) : Fits slots m := by
  refine .intro fun key => ?_
  unfold Slots.form
  cases hform : Entries.get? slots key with
  | none => exact .any _
  | some form => exact h _ (Entries.mem_of_get? hform)

theorem empty (h : ∀ slot ∈ slots, slot.2.isRequired = false) : Fits slots [] := by
  exact .of_forms fun slot hslot => .absent (h slot hslot)

/-- A member fits a table that has its key alone. -/
theorem sole {key : String} {form : Form} {value : Json} (h : Admits form (some value)) :
    Fits [(key, form)] [(key, value)] := by
  refine .of_forms fun slot hslot => ?_
  rw [List.mem_singleton.1 hslot, Entries.get?, if_pos rfl]
  exact h

/-- Members that differ under one key fit if the new value is admitted there. -/
theorem edit (h : Fits slots m) {key : String}
    (hother : ∀ other, key ≠ other → Entries.get? m' other = Entries.get? m other)
    (hkey : Admits (slots.form key) (Entries.get? m' key)) : Fits slots m' := by
  refine .intro fun other => ?_
  by_cases hne : key = other
  · subst hne
    exact hkey
  · rw [hother other hne]
    exact h.admits other

theorem set (h : Fits slots m) {key : String} {value : Json}
    (hvalue : Admits (slots.form key) (some value)) : Fits slots (Entries.set m key value) := by
  refine h.edit (fun other hne => Entries.get?_set_of_ne m hne value) ?_
  rw [Entries.get?_set_self]
  exact hvalue

end Fits

/-! ## Documents as children -/

theorem IsDocument.exists_label {c : Category} {j : Json} (h : IsDocument (.category c) j)
    (hc : c = .aggregation ∨ c = .facet ∨ c = .suggest ∨ c = .scriptField) :
    ∃ label body, j = .obj [(label, .obj body)] := by
  rcases hc with rfl | rfl | rfl | rfl <;> cases h with
  | labelled => exact ⟨_, _, rfl⟩
  | bare k _ hopen hcategory => cases k <;> cases hopen <;> cases hcategory

end SearchBuilder
