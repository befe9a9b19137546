import SearchBuilder.Proofs.Document.Frame
import SearchBuilder.Proofs.Request.Target
import SearchBuilder.Proofs.Request.Texts
import SearchBuilder.Proofs.Text.Percent
import SearchBuilder.Proofs.Text.Split

/-!
# Paths read back

The path of a request is its target, the word `_search` and a query, and the query gives back the
routing and the URL parameters (`Query.read?_join`): what divides it is never part of a coded value.
The parameters are those that calls have stored, in the order in which they were first set
(`Request.Reached.params_eq`). If no name has a mark that divides paths, the path tells the target
too, as there are no types without indices. So such requests with one path have one target, one
routing and the same parameters (`Request.path_reads_back`).
-/

namespace SearchBuilder

/-! ## Queries -/

namespace Query

/-- One parameter: a name, an equality sign and a coded value. -/
def param? (part : List Char) : Option (String × String) := do
  let value ← Percent.decode? (afterFirst '=' part)
  return (String.ofList (beforeFirst '=' part), String.ofList value)

/-- The parameters of a query, which are divided by ampersands. -/
def read? (query : List Char) : Option (List (String × String)) :=
  (query.splitOn '&').mapM param?

/-- A name without the marks that divide queries. -/
def Names (name : String) : Prop := '&' ∉ name.toList ∧ '=' ∉ name.toList

/-- A parameter is read back from its text. -/
theorem param?_paramText {param : String × String} (h : Names param.1) :
    param? (Request.paramText param).toList = some param := by
  have htext : (Request.paramText param).toList =
      param.1.toList ++ '=' :: Percent.encode param.2.toList := by
    simp [Request.paramText]
  unfold param?
  rw [htext, afterFirst_append h.2, beforeFirst_append h.2, Percent.decode?_encode]
  simp

theorem not_mem_paramText {param : String × String} (h : Names param.1) :
    '&' ∉ (Request.paramText param).toList := by
  have hvalue : '&' ∉ Percent.encode param.2.toList :=
    Percent.not_mem_encode (by decide) (by decide) _
  simp [Request.paramText, h.1, hvalue]

theorem mapM_param? {params : List (String × String)} (h : ∀ param ∈ params, Names param.1) :
    (params.map fun param => (Request.paramText param).toList).mapM param? = some params := by
  induction params with
  | nil => rfl
  | cons param params ih =>
    obtain ⟨hparam, hparams⟩ := List.forall_mem_cons.1 h
    rw [List.map_cons, List.mapM_cons, param?_paramText hparam, ih hparams]
    rfl

/-- Parameters are read back from the text that joins them. -/
theorem read?_join {params : List (String × String)} (h : ∀ param ∈ params, Names param.1)
    (hne : params ≠ []) :
    read? ("&".intercalate (params.map Request.paramText)).toList = some params := by
  unfold read?
  rw [String.toList_intercalate, List.map_map]
  change (List.splitOn '&' (['&'].intercalate _)).mapM param? = _
  rw [List.splitOn_intercalate '&' ?_ (by simpa using hne)]
  · exact mapM_param? h
  · intro text htext
    obtain ⟨param, hparam, rfl⟩ := List.mem_map.1 htext
    exact not_mem_paramText (h param hparam)

end Query

namespace Request

/-! ## Parameters -/

/-- The URL parameter that a call stores, if it does. -/
def stored? (call : String × Arguments) : Option (String × Json) :=
  if call.1 = "search_type" then
    ((call.2.first.text?.map lower).filter Words.searchTypes.contains).map fun word =>
      ("search_type", .str word)
  else if call.1 = "preference" then
    match call.2.first with
    | .plain .null => none
    | .plain value => some ("preference", value)
    | _ => none
  else none

variable {r : Request} {calls : List (String × Arguments)}

@[simp] theorem coerceIndices_params (r : Request) : r.coerceIndices.params = r.params := by
  unfold coerceIndices
  split <;> rfl

/-- Reading a parameter, or refusing to write one, leaves the parameters. -/
theorem runParam_of_state {a : Accessor} {v : Argument}
    (h : (a.run r.paramsNode v).state = r.paramsNode) :
    (r.runParam a v).state.params = r.params := by
  simp only [runParam, h]
  rfl

/-- A search type is stored as a parameter, if it is taken. -/
theorem run_searchType (r : Request) (args : Arguments) :
    (TargetMethod.searchType.run r args).state.params =
      match stored? ("search_type", args) with
      | some (key, value) => Entries.set r.params key value
      | none => r.params := by
  simp only [stored?, if_true, TargetMethod.run]
  cases hnull : args.first.isNull with
  | true =>
    have htext : args.first.text? = none := Argument.eq_null hnull ▸ rfl
    rw [htext]
    refine runParam_of_state ?_
    rw [Accessor.run, if_pos hnull]
    exact Node.readOption_state r.paramsNode _ _
  | false =>
    simp only [runParam, Accessor.run, hnull, Bool.false_eq_true, if_false, Accessor.write]
    cases args.first.text? with
    | none => rfl
    | some word =>
      -- `rw` changes the word in the instance of the test as well, where `simp` does not.
      have hfold : Folding.lower.apply word = lower word := rfl
      simp only [Option.map_some, Option.filter]
      rw [hfold]
      by_cases hword : Words.searchTypes.contains (lower word) = true
      · simp only [if_pos hword]
        rfl
      · simp only [if_neg hword]
        rfl

/-- A preference is stored as a parameter, if it is taken. -/
theorem run_preference (r : Request) {args : Arguments} {value : Json}
    (hplain : args.first = .plain value) :
    (TargetMethod.preference.run r args).state.params =
      match stored? ("preference", args) with
      | some (key, value) => Entries.set r.params key value
      | none => r.params := by
  have hother : "preference" ≠ "search_type" := by decide
  simp only [stored?, if_neg hother, if_true, TargetMethod.run, hplain]
  cases value with
  | null =>
    refine runParam_of_state ?_
    exact Node.readOption_state r.paramsNode .root "preference"
  | _ => rfl

/-- The other methods leave the parameters alone. -/
theorem run_params_other {m : TargetMethod} (hsearchType : m ≠ .searchType)
    (hpreference : m ≠ .preference) (r : Request) (args : Arguments) :
    (m.run r args).state.params = r.params := by
  cases m with
  | searchType => exact absurd rfl hsearchType
  | preference => exact absurd rfl hpreference
  | path => rfl
  | indices | types =>
    simp only [TargetMethod.run]
    split
    · rfl
    · split
      · exact coerceIndices_params _
      · rfl
  | routing =>
    simp only [TargetMethod.run]
    split
    · rfl
    · split <;> rfl

/-- A call sets the parameter that it stores. -/
theorem call_params (r : Request) {call : String × Arguments}
    (hplain : call.1 = "preference" → ∃ value, call.2.first = .plain value) :
    (r.call call.1 call.2).state.params =
      match stored? call with
      | some (key, value) => Entries.set r.params key value
      | none => r.params := by
  obtain ⟨method, args⟩ := call
  by_cases hsearchType : method = "search_type"
  · subst hsearchType
    exact run_searchType r args
  by_cases hpreference : method = "preference"
  · subst hpreference
    obtain ⟨value, hvalue⟩ := hplain rfl
    exact run_preference r hvalue
  simp only [stored?, if_neg hsearchType, if_neg hpreference]
  rcases r.call_cases method args with ⟨m, hm, hcall⟩ | ⟨n, hstate⟩
  · rw [hcall]
    refine run_params_other ?_ ?_ r args
    · rintro rfl
      exact hsearchType (by simpa [targetMethods] using hm)
    · rintro rfl
      exact hpreference (by simpa [targetMethods] using hm)
  · rw [hstate]

/-- Calls store their parameters in turn. -/
theorem after_params (hplain : ∀ call ∈ calls, call.1 = "preference" →
      ∃ value, call.2.first = .plain value) :
    (r.after calls).params = Entries.merge r.params (calls.filterMap stored?) := by
  induction calls generalizing r with
  | nil => rfl
  | cons call calls ih =>
    obtain ⟨hcall, hcalls⟩ := List.forall_mem_cons.1 hplain
    have hstep := call_params r hcall
    change ((r.call call.1 call.2).state.after calls).params = _
    rw [ih hcalls, hstep]
    cases hstored : stored? call with
    | none => rw [List.filterMap_cons_none hstored]
    | some param =>
      rw [List.filterMap_cons_some hstored]
      rfl

/-- A request that was built and then called, each time with a plain value as its preference. -/
structure Reached (r : Request) (calls : List (String × Arguments)) : Prop where
  built : ∃ args answer, (build args).answer = .ok answer ∧ r = (build args).state.after calls
  plain : ∀ call ∈ calls, call.1 = "preference" → ∃ value, call.2.first = .plain value

/-- The URL parameters as texts. -/
def paramTexts (r : Request) : List (String × String) :=
  r.params.map fun (key, value) => (key, value.plainText)

theorem pathParams_eq (r : Request) :
    r.pathParams = (if r.routing = "" then [] else [("routing", r.routing)]) ++ r.paramTexts := by
  simp only [pathParams, paramTexts, String.isEmpty_iff]

namespace Reached

/-- A request with types has indices before them. -/
theorem addressable (h : r.Reached calls) : r.types ≠ [] → r.indices ≠ [] := by
  obtain ⟨args, answer, hanswer, rfl⟩ := h.built
  exact (follows_built hanswer calls).addressable

/-- The parameters are those that were stored: building stores none. -/
theorem params_eq (h : r.Reached calls) : r.params = Entries.ofList (calls.filterMap stored?) := by
  obtain ⟨args, answer, hanswer, rfl⟩ := h.built
  have hopening : ∀ call ∈ opening args, call.1 = "preference" →
      ∃ value, call.2.first = .plain value := by
    simp [opening]
  have hbuilt : (build args).state.params = [] := by
    rw [build_eq_after hanswer, after_params hopening]
    rfl
  rw [after_params h.plain, hbuilt]
  rfl

/-- Only two methods set parameters. -/
theorem key_of_mem {param : String × Json} (h : r.Reached calls) (hparam : param ∈ r.params) :
    param.1 = "search_type" ∨ param.1 = "preference" := by
  have hkey : param.1 ∈ r.params.map (·.1) := List.mem_map_of_mem hparam
  rw [h.params_eq, Entries.keys_ofList, List.mem_eraseDups] at hkey
  obtain ⟨stored, hstored, hsame⟩ := List.mem_map.1 hkey
  obtain ⟨call, -, hcall⟩ := List.mem_filterMap.1 hstored
  rw [← hsame]
  unfold stored? at hcall
  split at hcall
  · obtain ⟨word, -, rfl⟩ := Option.map_eq_some_iff.1 hcall
    exact .inl rfl
  · split at hcall
    · split at hcall <;> cases hcall
      exact .inr rfl
    · cases hcall

/-- The keys of the parameters are names. -/
theorem names_pathParams (h : r.Reached calls) : ∀ param ∈ r.pathParams, Query.Names param.1 := by
  intro param hparam
  have hkey : param.1 = "routing" ∨ param.1 = "search_type" ∨ param.1 = "preference" := by
    rcases List.mem_append.1 hparam with hrouting | hstored
    · split at hrouting
      · cases hrouting
      · rw [List.mem_singleton.1 hrouting]
        exact .inl rfl
    · obtain ⟨stored, hmem, rfl⟩ := List.mem_map.1 hstored
      exact .inr (h.key_of_mem hmem)
  rcases hkey with hkey | hkey | hkey
  · exact hkey ▸ ⟨by decide, by decide⟩
  · exact hkey ▸ ⟨by decide, by decide⟩
  · exact hkey ▸ ⟨by decide, by decide⟩

end Reached

/-! ## Targets -/

/-- The lists of names in the path of a request. -/
def segments (r : Request) : List (List String) := [r.indices, r.types].filter (· ≠ [])

/-- The lists of names in a text: slashes lead them, and commas divide the names. -/
def readTarget (target : List Char) : List (List String) :=
  ((target.splitOn '/').drop 1).map fun segment => (segment.splitOn ',').map String.ofList

/-- The names of a target contain none of the marks that divide a path. -/
def NamesPath (r : Request) : Prop :=
  ∀ name ∈ r.indices ++ r.types, '/' ∉ name.toList ∧ ',' ∉ name.toList ∧ '?' ∉ name.toList

theorem intercalate_cons (mark : Char) (first : List Char) (parts : List (List Char)) :
    [mark].intercalate (first :: parts) = first ++ parts.flatMap (mark :: ·) := by
  induction parts generalizing first with
  | nil => simp
  | cons part parts ih =>
    rw [List.intercalate_cons_cons, ih]
    simp

theorem not_mem_join {mark : Char} {names : List String} (hcomma : mark ≠ ',')
    (h : ∀ name ∈ names, mark ∉ name.toList) : mark ∉ (",".intercalate names).toList := by
  cases names with
  | nil => exact List.not_mem_nil
  | cons name names =>
    obtain ⟨hname, hnames⟩ := List.forall_mem_cons.1 h
    rw [String.toList_intercalate, List.map_cons]
    change mark ∉ [','].intercalate _
    rw [intercalate_cons, List.mem_append, List.mem_flatMap]
    rintro (hfirst | ⟨part, hpart, hmark⟩)
    · exact hname hfirst
    · obtain ⟨other, hother, rfl⟩ := List.mem_map.1 hpart
      rcases List.mem_cons.1 hmark with heq | hmem
      · exact hcomma heq
      · exact hnames other hother hmem

/-- Every list of names that is not empty is led by a slash. -/
theorem target_eq_join (r : Request) :
    r.target = String.join (r.segments.map fun names => "/" ++ ",".intercalate names) := by
  unfold target segment segments
  by_cases hindices : r.indices = [] <;> by_cases htypes : r.types = [] <;>
    simp [hindices, htypes]

theorem toList_target (r : Request) :
    r.target.toList = ['/'].intercalate ([] :: r.segments.map fun names =>
      (",".intercalate names).toList) := by
  rw [target_eq_join, intercalate_cons]
  simp [List.flatMap_map]

/-- Names without a comma are read back from their list. -/
theorem splitOn_join {names : List String} (hne : names ≠ [])
    (h : ∀ name ∈ names, ',' ∉ name.toList) :
    ((",".intercalate names).toList.splitOn ',').map String.ofList = names := by
  rw [String.toList_intercalate]
  change (List.splitOn ',' ([','].intercalate _)).map String.ofList = names
  rw [List.splitOn_intercalate ',' ?_ (by simpa using hne), List.map_map]
  · simp [Function.comp_def]
  · intro text htext
    obtain ⟨name, hname, rfl⟩ := List.mem_map.1 htext
    exact h name hname

theorem mem_of_mem_segments {names : List String} (h : names ∈ r.segments) :
    names ≠ [] ∧ ∀ name ∈ names, name ∈ r.indices ++ r.types := by
  obtain ⟨hmem, hne⟩ := List.mem_filter.1 h
  refine ⟨of_decide_eq_true hne, fun name hname => ?_⟩
  rcases List.mem_cons.1 hmem with rfl | hmem
  · exact List.mem_append_left _ hname
  · rw [List.mem_singleton.1 hmem] at hname
    exact List.mem_append_right _ hname

/-- The segments of a path are read back from the target. -/
theorem readTarget_target (h : r.NamesPath) : readTarget r.target.toList = r.segments := by
  have hsegment : ∀ segment ∈ [] :: r.segments.map fun names => (",".intercalate names).toList,
      '/' ∉ segment := by
    refine List.forall_mem_cons.2 ⟨List.not_mem_nil, fun segment hsegment hmark => ?_⟩
    obtain ⟨names, hnames, rfl⟩ := List.mem_map.1 hsegment
    have hmem := (mem_of_mem_segments hnames).2
    exact not_mem_join (by decide) (fun name hname => (h name (hmem name hname)).1) hmark
  unfold readTarget
  rw [toList_target, List.splitOn_intercalate '/' hsegment (List.cons_ne_nil _ _),
    List.drop_one, List.tail_cons, List.map_map]
  refine (List.map_congr_left fun names hnames => ?_).trans (List.map_id _)
  obtain ⟨hne, hmem⟩ := mem_of_mem_segments hnames
  exact splitOn_join hne fun name hname => (h name (hmem name hname)).2.1

theorem not_mem_target (h : r.NamesPath) : '?' ∉ r.target.toList := by
  rw [toList_target, intercalate_cons]
  intro hmark
  obtain ⟨segment, hsegment, hmem⟩ := List.mem_flatMap.1 hmark
  obtain ⟨names, hnames, rfl⟩ := List.mem_map.1 hsegment
  rcases List.mem_cons.1 hmem with hslash | hjoin
  · cases hslash
  · have hnamed := (mem_of_mem_segments hnames).2
    exact not_mem_join (by decide) (fun name hname => (h name (hnamed name hname)).2.2) hjoin

/-- As types come with indices, a lone segment is one of indices. -/
theorem targets_of_segments {r' : Request} (hr : r.types ≠ [] → r.indices ≠ [])
    (hr' : r'.types ≠ [] → r'.indices ≠ []) (h : r.segments = r'.segments) :
    r.targets = r'.targets := by
  have hread {q : Request} (hq : q.types ≠ [] → q.indices ≠ []) :
      q.targets = ((q.segments[0]?).getD [], (q.segments[1]?).getD []) := by
    unfold targets segments
    by_cases hindices : q.indices = []
    · have htypes : q.types = [] := Classical.byContradiction fun htypes => hq htypes hindices
      simp [hindices, htypes]
    · by_cases htypes : q.types = [] <;> simp [hindices, htypes]
  rw [hread hr, hread hr', h]

/-! ## Paths -/

/-- What stands behind the target. -/
def suffix (r : Request) : String :=
  if r.pathParams.isEmpty then "" else "?" ++ "&".intercalate (r.pathParams.map paramText)

theorem path_eq (r : Request) : r.path = r.target ++ "/_search" ++ r.suffix := rfl

theorem suffix_eq_empty_iff : r.suffix = "" ↔ r.pathParams = [] := by
  unfold suffix
  rw [← List.isEmpty_iff]
  split
  · next hempty => simp [hempty]
  · next hparams => simp [hparams, ← String.toList_inj]

/-- What stands before the query of a path is the target. -/
theorem beforeFirst_path (h : r.NamesPath) :
    beforeFirst '?' r.path.toList = r.target.toList ++ "/_search".toList := by
  have hfront : '?' ∉ r.target.toList ++ "/_search".toList := by
    rw [List.mem_append, not_or]
    exact ⟨not_mem_target h, by decide⟩
  rw [path_eq, String.toList_append, String.toList_append]
  unfold suffix
  split
  · rw [String.toList_empty, List.append_nil]
    exact beforeFirst_of_not_mem hfront
  · rw [String.toList_append]
    exact beforeFirst_append hfront _

theorem target_of_path {r' : Request} (hr : r.NamesPath) (hr' : r'.NamesPath)
    (h : r.path = r'.path) : r.target = r'.target := by
  have hfront : r.target.toList ++ "/_search".toList = r'.target.toList ++ "/_search".toList := by
    rw [← beforeFirst_path hr, ← beforeFirst_path hr', h]
  exact String.toList_inj.1 (List.append_cancel_right hfront)

theorem suffix_of_path {r' : Request} (htarget : r.target = r'.target) (h : r.path = r'.path) :
    r.suffix = r'.suffix := by
  rw [path_eq, path_eq, htarget] at h
  exact String.append_right_inj _ |>.1 h

namespace Reached

theorem read_suffix (h : r.Reached calls) (hne : r.suffix ≠ "") :
    ∃ query, r.suffix = "?" ++ query ∧ Query.read? query.toList = some r.pathParams := by
  have hparams : r.pathParams ≠ [] := fun hempty => hne (suffix_eq_empty_iff.2 hempty)
  refine ⟨_, ?_, Query.read?_join h.names_pathParams hparams⟩
  unfold suffix
  rw [if_neg (by simpa using hparams)]

/-- Requests of one query have the same parameters. -/
theorem pathParams_of_suffix {r' : Request} {calls' : List (String × Arguments)}
    (h : r.Reached calls) (h' : r'.Reached calls') (hsuffix : r.suffix = r'.suffix) :
    r.pathParams = r'.pathParams := by
  by_cases hempty : r.suffix = ""
  · rw [suffix_eq_empty_iff.1 hempty, suffix_eq_empty_iff.1 (hsuffix ▸ hempty)]
  · obtain ⟨query, hquery, hread⟩ := h.read_suffix hempty
    obtain ⟨query', hquery', hread'⟩ := h'.read_suffix (hsuffix ▸ hempty)
    have hsame : query = query' := by
      rw [hquery, hquery'] at hsuffix
      exact String.append_right_inj _ |>.1 hsuffix
    exact Option.some.inj (hread.symm.trans (hsame ▸ hread'))

theorem routing_notMem (h : r.Reached calls) (value : String) :
    ("routing", value) ∉ r.paramTexts := by
  intro hmem
  obtain ⟨param, hparam, hsame⟩ := List.mem_map.1 hmem
  have hname : param.1 = "routing" := congrArg Prod.fst hsame
  rcases h.key_of_mem hparam with hkey | hkey
  · exact absurd (hkey.symm.trans hname) (by decide)
  · exact absurd (hkey.symm.trans hname) (by decide)

/-- The routing comes first, and no stored parameter has its name. -/
theorem routing_of_pathParams {r' : Request} {calls' : List (String × Arguments)}
    (h : r.Reached calls) (h' : r'.Reached calls') (heq : r.pathParams = r'.pathParams) :
    r.routing = r'.routing ∧ r.paramTexts = r'.paramTexts := by
  rw [pathParams_eq, pathParams_eq] at heq
  by_cases hr : r.routing = "" <;> by_cases hr' : r'.routing = ""
  · rw [if_pos hr, if_pos hr'] at heq
    exact ⟨hr.trans hr'.symm, heq⟩
  · rw [if_pos hr, if_neg hr', List.nil_append] at heq
    exact absurd (heq ▸ List.mem_cons_self) (h.routing_notMem r'.routing)
  · rw [if_neg hr, if_pos hr', List.nil_append] at heq
    exact absurd (heq ▸ List.mem_cons_self) (h'.routing_notMem r.routing)
  · rw [if_neg hr, if_neg hr'] at heq
    obtain ⟨hrouting, hparams⟩ := List.cons.inj heq
    exact ⟨congrArg Prod.snd hrouting, hparams⟩

/-- A path has no query if there is no routing and no parameter was stored. -/
theorem pathParams_eq_nil_iff (h : r.Reached calls) :
    r.pathParams = [] ↔ r.routing = "" ∧ calls.filterMap stored? = [] := by
  have hparams : r.params = [] ↔ calls.filterMap stored? = [] := by
    rw [← List.map_eq_nil_iff (f := (·.1)), h.params_eq, Entries.keys_ofList,
      eraseDups_eq_nil_iff, List.map_eq_nil_iff]
  rw [pathParams_eq, List.append_eq_nil_iff, paramTexts, List.map_eq_nil_iff, hparams]
  by_cases hr : r.routing = "" <;> simp [hr]

end Reached

/-! ## Main result -/

/-- The path is answered unless a parameter cannot be shown. -/
theorem written_path {r : Request} {limit : DigitLimit}
    (h : ∀ param ∈ r.params, param.2.Writable limit none) :
    ((r.call "path" {}).written limit).answer = .ok (.value (.str r.path)) := by
  have hwrite : r.pathWriting.write limit = .ok r.path :=
    Writing.write_eq_ok.2 ⟨fault?_pathWriting h, rfl⟩
  change Answer.write limit (.text r.pathWriting) = _
  rw [Answer.write, hwrite]
  rfl

/-- The path of a request tells its parameters, and all of its target if no name contains a mark
that divides paths. -/
theorem path_reads_back {r : Request} {calls : List (String × Arguments)} (h : r.Reached calls) :
    let stored := calls.filterMap stored?
    (∀ limit, limit = none ∨ (∀ param ∈ r.params, param.2.Writable limit none) →
      ((r.call "path" {}).written limit).answer = .ok (.value (.str r.path))) ∧
    (∃ suffix, r.path =
        String.join (r.segments.map fun names => "/" ++ ",".intercalate names) ++ "/_search" ++
          suffix ∧
      (suffix = "" ↔ r.routing = "" ∧ stored = []) ∧
      (suffix ≠ "" → ∃ query, suffix = "?" ++ query ∧
        Query.read? query.toList = some
          ((if r.routing = "" then [] else [("routing", r.routing)]) ++ r.paramTexts))) ∧
    (r.params.map (·.1) = (stored.map (·.1)).eraseDups ∧
      ∀ key, Entries.get? r.params key = (stored.reverse.find? (·.1 = key)).map (·.2)) ∧
    ∀ r' calls', Reached r' calls' → r.NamesPath → r'.NamesPath → r.path = r'.path →
      r.indices = r'.indices ∧ r.types = r'.types ∧ r.routing = r'.routing ∧
        r.paramTexts = r'.paramTexts := by
  intro stored
  refine ⟨fun limit hlimit => written_path ?_, ⟨r.suffix, r.target_eq_join ▸ r.path_eq, ?_, ?_⟩,
    ⟨?_, ?_⟩, ?_⟩
  · rcases hlimit with rfl | hparams
    · exact fun param _ => Json.writable_free param.2
    · exact hparams
  · exact suffix_eq_empty_iff.trans h.pathParams_eq_nil_iff
  · intro hne
    rw [← pathParams_eq]
    exact h.read_suffix hne
  · rw [h.params_eq, Entries.keys_ofList]
  · intro key
    rw [h.params_eq, Entries.get?_ofList]
  · intro r' calls' h' hnames hnames' hpath
    have htarget := target_of_path hnames hnames' hpath
    have hsegments : r.segments = r'.segments := by
      rw [← readTarget_target hnames, ← readTarget_target hnames', htarget]
    have htargets := targets_of_segments h.addressable h'.addressable hsegments
    have hparams := h.pathParams_of_suffix h' (suffix_of_path htarget hpath)
    obtain ⟨hrouting, htexts⟩ := h.routing_of_pathParams h' hparams
    exact ⟨congrArg Prod.fst htargets, congrArg Prod.snd htargets, hrouting, htexts⟩

theorem path_reads_back_accented :
    let given (text : String) : Argument := .plain (.str text)
    let args : Arguments := { positional := [given "logs", .null, given "é&="] }
    let calls : List (String × Arguments) := [("preference", .one (given "_local")),
      ("search_type", .one (given "SCAN")), ("preference", .one (.plain (.int 2)))]
    let r := (build args).state.after calls
    r.Reached calls ∧
      r.path = "/logs/_search?routing=%C3%A9%26%3D&preference=2&search_type=scan" ∧
      Query.read? "routing=%C3%A9%26%3D&preference=2&search_type=scan".toList =
        some [("routing", "é&="), ("preference", "2"), ("search_type", "scan")] := by
  intro given args calls r
  have hreached : r.Reached calls := by
    refine ⟨⟨args, _, rfl, rfl⟩, ?_⟩
    simp [calls, given, Arguments.first, Arguments.first?, Arguments.one]
  have hpath : r.path = "/logs/_search?routing=%C3%A9%26%3D&preference=2&search_type=scan" := by
    decide +kernel
  obtain ⟨-, ⟨suffix, hsplit, hempty, hquery⟩, -⟩ := path_reads_back hreached
  have hfront : r.target ++ "/_search" = "/logs/_search" := by decide +kernel
  rw [hpath, ← target_eq_join, hfront] at hsplit
  have hsuffix : "?routing=%C3%A9%26%3D&preference=2&search_type=scan" = suffix :=
    (String.append_right_inj "/logs/_search").1 hsplit
  obtain ⟨query, hmark, hread⟩ := hquery (hsuffix ▸ by decide)
  have hsame : "routing=%C3%A9%26%3D&preference=2&search_type=scan" = query :=
    (String.append_right_inj "?").1 (hsuffix.trans hmark)
  refine ⟨hreached, hpath, ?_⟩
  rw [hsame]
  exact hread

end Request

end SearchBuilder
