import SearchBuilder.Proofs.Document.Locality
import SearchBuilder.Proofs.Json.Extension
import SearchBuilder.Proofs.Request.Target

/-!
# Sections of a request body

The methods about the body of a request fall into sections, one for each key of the body. Calls on
different sections may be made in either order: each answers the same, and the body has the same
members in the end (`Request.sections_commute`). The target and the body have nothing in common.
-/

namespace SearchBuilder

/-! ## Puts at one spot -/

namespace Node

variable {n m : Node} {s : Spot}

/-- Puts at a spot have the same effect there on nodes that looked the same there. -/
theorem look_puts_congr (h : n.look s = m.look s) {writes : List (Spot × Json)}
    (hwrites : ∀ write ∈ writes, write.1 = s) :
    (n.puts writes).look s = (m.puts writes).look s := by
  induction writes generalizing n m with
  | nil => exact h
  | cons write rest ih =>
    obtain ⟨t, value⟩ := write
    obtain rfl : t = s := hwrites _ List.mem_cons_self
    refine ih ?_ fun later hlater => hwrites later (List.mem_cons_of_mem _ hlater)
    change (n.put t value).look t = (m.put t value).look t
    cases hlook : n.look t with
    | none => rw [put_of_look hlook, put_of_look (h ▸ hlook), h]
    | some held => rw [look_put_self hlook, look_put_self (h ▸ hlook)]

end Node

/-! ## Bodies -/

/-- The section of an operation that reads and writes one key of the fragment. -/
def Operation.rootKey? (op : Operation) : Option String :=
  match op.spots? with
  | some [.option .root key] => some key
  | _ => none

theorem Operation.spots?_of_rootKey? {op : Operation} {key : String} (h : op.rootKey? = some key) :
    op.spots? = some [.option .root key] := by
  unfold rootKey? at h
  split at h
  · next hspots =>
    cases h
    exact hspots
  · cases h

/-- A node whose fragment is an object without repeated keys. -/
def Node.HasKeys (n : Node) : Prop :=
  ∃ members, n.fragment = .obj members ∧ (members.map (·.1)).Nodup

namespace Node.HasKeys

variable {n : Node}

theorem puts (h : n.HasKeys) {writes : List (Spot × Json)}
    (hwrites : ∀ write ∈ writes, ∃ key, write.1 = .option .root key) :
    (n.puts writes).HasKeys := by
  induction writes generalizing n with
  | nil => exact h
  | cons write rest ih =>
    obtain ⟨t, value⟩ := write
    obtain ⟨key, rfl⟩ := hwrites _ List.mem_cons_self
    refine ih ?_ fun later hlater => hwrites later (List.mem_cons_of_mem _ hlater)
    obtain ⟨members, hfragment, hnodup⟩ := h
    refine ⟨Entries.set members key value, ?_, Entries.nodup_set hnodup key value⟩
    change n.fragment.put [key] value = _
    rw [hfragment]
    rfl

theorem run (h : n.HasKeys) {op : Operation} {key : String} (hkey : op.rootKey? = some key)
    (args : Arguments) : (op.run n args).state.HasKeys := by
  obtain ⟨writes, hwrites, hstate⟩ := op.run_writes (op.spots?_of_rootKey? hkey) n args
  rw [hstate]
  exact h.puts fun write hwrite => ⟨key, List.mem_singleton.1 (hwrites write hwrite)⟩

/-- Two objects that look the same at every key have the same members. -/
theorem perm {m : Node} (hn : n.HasKeys) (hm : m.HasKeys)
    (h : ∀ key, n.look (.option .root key) = m.look (.option .root key)) :
    ∃ members members', n.fragment = .obj members ∧ m.fragment = .obj members' ∧
      members.Perm members' := by
  obtain ⟨members, hfragment, hnodup⟩ := hn
  obtain ⟨members', hfragment', hnodup'⟩ := hm
  refine ⟨members, members', hfragment, hfragment', Entries.perm_of_get? hnodup hnodup' ?_⟩
  intro key
  have hlook : n.fragment.look [key] = m.fragment.look [key] := h key
  rw [hfragment, hfragment'] at hlook
  exact Option.some.inj hlook

end Node.HasKeys

namespace Request

/-- The sections of a body by their methods, each with its key. -/
def sections : Entries String :=
  [("query", "query"), ("filter", "filter"), ("sort", "sort"), ("fields", "fields"),
    ("source", "_source"), ("highlight", "highlight"), ("rescore", "rescore"), ("size", "size"),
    ("from_", "from"), ("timeout", "timeout"), ("track_scores", "track_scores"),
    ("explain", "explain"), ("version", "version"), ("min_score", "min_score"),
    ("facet", "facets"), ("aggregation", "aggs"), ("agg", "aggs"),
    ("script_field", "script_fields"), ("suggest", "suggest"), ("index_boost", "indices_boost")]

/-- The method of a section is an operation on its key, which expects no request. -/
theorem exists_operation {method key : String} (h : Entries.get? sections method = some key) :
    Entries.get? targetMethods method = none ∧ ∃ op,
      Entries.get? Kind.request.methods method = some op ∧ op.rootKey? = some key ∧
      op.expected? ≠ some .spanQuery ∧ op.expected? ≠ some (.category .request) := by
  have htable : ∀ entry ∈ sections, Entries.get? targetMethods entry.1 = none ∧
      ∃ row ∈ bodyMethods,
        Entries.get? Kind.request.methods entry.1 = some row.2 ∧ row.2.rootKey? = some entry.2 ∧
        row.2.expected? ≠ some .spanQuery ∧ row.2.expected? ≠ some (.category .request) := by
    decide
  obtain ⟨htarget, ⟨_, op⟩, -, hop⟩ := htable _ (Entries.mem_of_get? h)
  exact ⟨htarget, op, hop⟩

variable {r : Request}

/-- A call on a section runs an operation on the body. -/
theorem call_section (hkind : r.body.kind = .request) {method : String} {op : Operation}
    (htarget : Entries.get? targetMethods method = none)
    (hop : Entries.get? Kind.request.methods method = some op) (args : Arguments) :
    r.call method args = (op.run r.body args).map fun n => { r with body := n } := by
  unfold call
  rw [htarget]
  simp only [Node.call, hkind, hop]

theorem call_hasKeys (hkind : r.body.kind = .request) (h : r.body.HasKeys) (method : String)
    (args : Arguments) : (r.call method args).state.body.HasKeys := by
  have htable : ∀ entry ∈ Kind.request.methods,
      entry.2.rootKey?.isSome = true ∨ entry.2.isInspection = true := by decide
  unfold call
  split
  · next m hm => exact (m.run_body r args).symm ▸ h
  · change (r.body.call method args).state.HasKeys
    unfold Node.call
    rw [hkind]
    split
    · next op hop =>
      rcases htable _ (Entries.mem_of_get? hop) with hkey | hlook
      · obtain ⟨key, hkey⟩ := Option.isSome_iff_exists.1 hkey
        exact h.run hkey args
      · cases op with
        | inspect i => exact (i.run_state r.body).symm ▸ h
        | _ => cases hlook
    · exact h

theorem after_hasKeys (calls : List (String × Arguments)) (hkind : r.body.kind = .request)
    (h : r.body.HasKeys) :
    (r.after calls).body.kind = .request ∧ (r.after calls).body.HasKeys := by
  induction calls generalizing r with
  | nil => exact ⟨hkind, h⟩
  | cons call rest ih =>
    exact ih ((r.call_body_kind call.1 call.2).trans hkind) (call_hasKeys hkind h call.1 call.2)

theorem built_hasKeys (args : Arguments) (calls : List (String × Arguments)) :
    ((build args).state.after calls).body.kind = .request ∧
      ((build args).state.after calls).body.HasKeys := by
  refine after_hasKeys calls ?_ ?_
  · rw [build_body]
    rfl
  · rw [build_body]
    exact ⟨[], rfl, List.nodup_nil⟩

/-- A call on one section leaves the other keys of the body alone. -/
theorem call_look (hkind : r.body.kind = .request) {method key other : String}
    (hsection : Entries.get? sections method = some key) (hne : key ≠ other) (args : Arguments) :
    (r.call method args).state.body.look (.option .root other) =
      r.body.look (.option .root other) := by
  obtain ⟨htarget, op, hop, hkey, -, -⟩ := exists_operation hsection
  obtain ⟨writes, hwrites, hstate⟩ := op.run_writes (op.spots?_of_rootKey? hkey) r.body args
  rw [call_section hkind htarget hop]
  change (op.run r.body args).state.look _ = _
  rw [hstate]
  refine Node.look_puts_of_apart fun write hwrite => ?_
  rw [List.mem_singleton.1 (hwrites write hwrite)]
  exact Path.apart_of_ne [] hne

/-- A call on one section answers the same after a call on another one, and leaves the same under
its key. -/
theorem call_after (hkind : r.body.kind = .request) {first second : String × Arguments}
    {key key' : String} (hfirst : Entries.get? sections first.1 = some key)
    (hsecond : Entries.get? sections second.1 = some key') (hne : key ≠ key')
    (hself : Kind.request.LeavesOutSelf second) :
    ((r.call first.1 first.2).state.call second.1 second.2).answer =
        (r.call second.1 second.2).answer ∧
      (r.after [first, second]).body.look (.option .root key') =
        (r.call second.1 second.2).state.body.look (.option .root key') := by
  obtain ⟨htarget, op, hop, hkey, -, -⟩ := exists_operation hfirst
  obtain ⟨htarget', op', hop', hkey', hspan, hrequest⟩ := exists_operation hsecond
  obtain ⟨writes, -, hstate⟩ := op.run_writes (op.spots?_of_rootKey? hkey) r.body first.2
  have hbody : (r.call first.1 first.2).state.body = r.body.puts writes := by
    rw [call_section hkind htarget hop, ← hstate]
    rfl
  have hkind' : (r.call first.1 first.2).state.body.kind = r.body.kind :=
    r.call_body_kind first.1 first.2
  have hlook := call_look hkind hfirst hne first.2
  have hdetached : op'.Detached r.body.kind second.2 := by
    rw [hkind]
    refine op'.detached (hself op' hop') hspan fun c hc hcategory => hrequest ?_
    cases hcategory
    exact hc
  have halike := op'.run_alike (op'.spots?_of_rootKey? hkey') hkind'.symm
    (by simpa using hlook.symm) (hdetached.agree hkind'.symm)
  obtain ⟨writes', hwrites', hone, hother⟩ := halike.writes
  refine ⟨?_, ?_⟩
  · rw [call_section (hkind'.trans hkind) htarget' hop', call_section hkind htarget' hop']
    exact (halike.answer (by rw [hbody, Node.puts_slot]) (by rw [hbody, Node.puts_inner])).symm
  · change ((r.call first.1 first.2).state.call second.1 second.2).state.body.look _ = _
    rw [call_section (hkind'.trans hkind) htarget' hop', call_section hkind htarget' hop']
    change (op'.run _ _).state.look _ = (op'.run _ _).state.look _
    rw [hone, hother]
    exact Node.look_puts_congr hlook fun write hwrite =>
      List.mem_singleton.1 (hwrites' write hwrite)

end Request

end SearchBuilder
