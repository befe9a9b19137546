import SearchBuilder.Log.Setup
import SearchBuilder.Proofs.Json.Entries

/-!
# What a log setup writes

A record passes two thresholds: that of the setup, then that of the sink. The first never hides a
record from the second as long as the stream has a level at all, because the setup looks at
everything from the level of the stream or from `debug` on. A stream without level, though, leaves
the setup without one, and then the level of warnings holds for both sinks.
-/

namespace SearchBuilder

namespace Level

/-- The level that a name stands for: that of the name in capitals if it is known, else `info`. -/
def Resolves (name : Option String) (level : Level) : Prop :=
  (upper (name.getD ""), level) ∈ names ∨
    upper (name.getD "") ∉ names.map Prod.fst ∧ level = info

theorem ofName_of_taken {name : Option String} {fault : LevelFault}
    (h : (upper (name.getD ""), fault) ∈ taken) : ofName name = .error fault := by
  have hget : Entries.get? taken (upper (name.getD "")) = some fault :=
    (Entries.mem_iff_get? (by decide)).mp h
  simp only [ofName, hget]

/-- A name that is not taken for something else is that of a level. -/
theorem exists_ofName {name : Option String} (h : upper (name.getD "") ∉ taken.map Prod.fst) :
    ∃ level, ofName name = .ok level ∧ Resolves name level := by
  have hfree : Entries.get? taken (upper (name.getD "")) = none := Entries.get?_eq_none_iff.mpr h
  simp only [ofName, hfree]
  refine ⟨_, rfl, ?_⟩
  cases hget : Entries.get? names (upper (name.getD "")) with
  | some level => exact .inl (Entries.mem_of_get? hget)
  | none => exact .inr ⟨Entries.get?_eq_none_iff.mp hget, rfl⟩

/-- A name stands for no level at all or for one that is worth at least `debug`. -/
theorem Resolves.unset_or_debug_le {name : Option String} {level : Level}
    (h : Resolves name level) : level = unset ∨ debug ≤ level := by
  have known : ∀ entry ∈ names, entry.2 = unset ∨ debug ≤ entry.2 := by decide
  rcases h with hknown | ⟨-, rfl⟩
  · exact known _ hknown
  · exact .inr (by decide)

end Level

/-- The records from a level on. -/
def recordsFrom (least : Level) (records : List LogRecord) : List LogRecord :=
  records.filter fun r => least ≤ r.level

/-- Of two thresholds the greater holds. -/
theorem recordsFrom_recordsFrom {first second greater : Level} (h : max first second = greater)
    (records : List LogRecord) :
    recordsFrom first (recordsFrom second records) = recordsFrom greater records := by
  rw [recordsFrom, recordsFrom, List.filter_filter]
  refine List.filter_congr fun r _ => ?_
  rw [← Bool.decide_and, decide_eq_decide, ← h, Int.max_le]

namespace LogSink

variable (r : LogRecord) (out : LogOutput) (least : Level)

@[simp] theorem write_stream :
    (write r out (.stream least)).stream = out.stream ++ recordsFrom least [r] := by
  by_cases h : least ≤ r.level <;> simp [write, recordsFrom, h]

@[simp] theorem write_stream_file : (write r out (.stream least)).file = out.file := by
  by_cases h : least ≤ r.level <;> simp [write, h]

@[simp] theorem write_file :
    (write r out (.file least)).file = out.file ++ recordsFrom least [r] := by
  by_cases h : least ≤ r.level <;> simp [write, recordsFrom, h]

@[simp] theorem write_file_stream : (write r out (.file least)).stream = out.stream := by
  by_cases h : least ≤ r.level <;> simp [write, h]

end LogSink

namespace LogSetup

/-! ## A record, and a run of records -/

variable {s : LogSetup}

/-- The records that a setup looks at. -/
def looksAt (s : LogSetup) (records : List LogRecord) : List LogRecord :=
  records.filter fun r => s.isEnabled r.level

/-- A record that is offered goes to the stream if it is looked at and not below its level. -/
theorem offer_stream (s : LogSetup) (out : LogOutput) (r : LogRecord) :
    (s.offer out r).stream = out.stream ++ recordsFrom s.streamLevel (s.looksAt [r]) := by
  cases henabled : s.isEnabled r.level with
  | false => simp [offer, looksAt, recordsFrom, henabled]
  | true => cases hfile : s.file <;> simp [offer, looksAt, sinks, henabled, hfile]

theorem offer_file (hfile : s.file.isSome) (out : LogOutput) (r : LogRecord) :
    (s.offer out r).file = out.file ++ recordsFrom .debug (s.looksAt [r]) := by
  obtain ⟨path, hpath⟩ := Option.isSome_iff_exists.mp hfile
  cases henabled : s.isEnabled r.level with
  | false => simp [offer, looksAt, recordsFrom, henabled]
  | true => simp [offer, looksAt, sinks, henabled, hpath]

/-- Where a record that is offered adds itself if it passes both thresholds, a run of records adds
those that do, in order. -/
theorem foldl_offer {written : LogOutput → List LogRecord} {least : Level}
    (hstep : ∀ out r, written (s.offer out r) = written out ++ recordsFrom least (s.looksAt [r]))
    (out : LogOutput) (records : List LogRecord) :
    written (records.foldl s.offer out) =
      written out ++ recordsFrom least (s.looksAt records) := by
  induction records generalizing out with
  | nil => simp [looksAt, recordsFrom]
  | cons r rest ih =>
    rw [List.foldl_cons, ih, hstep, List.append_assoc, recordsFrom, recordsFrom,
      ← List.filter_append, looksAt, looksAt, ← List.filter_append, List.singleton_append]
    rfl

/-- The stream gets the records that are looked at and not below its level. -/
theorem run_stream (s : LogSetup) (records : List LogRecord) :
    (s.run records).stream = recordsFrom s.streamLevel (s.looksAt records) :=
  foldl_offer s.offer_stream {} records

theorem run_file (hfile : s.file.isSome) (records : List LogRecord) :
    (s.run records).file = recordsFrom .debug (s.looksAt records) :=
  foldl_offer (offer_file hfile) {} records

/-! ## The two thresholds together -/

/-- Without a level, records below warnings are lost. -/
theorem looksAt_of_unset (h : s.streamLevel = .unset) (records : List LogRecord) :
    s.looksAt records = recordsFrom .warning records := by
  have hlevel : s.level = .unset := by rw [LogSetup.level, h]; rfl
  simp only [looksAt, recordsFrom, isEnabled, if_pos hlevel]

/-- A setup whose stream has a level looks at everything that is worth at least `debug`. -/
theorem looksAt_of_debug_le (h : Level.debug ≤ s.streamLevel) (records : List LogRecord) :
    s.looksAt records = recordsFrom .debug records := by
  have hlevel : s.level = .debug := Int.min_eq_left h
  simp only [looksAt, recordsFrom, isEnabled, hlevel, if_neg (by decide : ¬ Level.debug = .unset)]

/-- Without a level, both sinks have the warnings and what is worth more. -/
theorem run_of_unset (h : s.streamLevel = .unset) (records : List LogRecord) :
    (s.run records).stream = recordsFrom .warning records ∧
      (s.file.isSome → (s.run records).file = recordsFrom .warning records) := by
  constructor
  · rw [run_stream, looksAt_of_unset h, h]
    exact recordsFrom_recordsFrom rfl records
  · intro hfile
    rw [run_file hfile, looksAt_of_unset h]
    exact recordsFrom_recordsFrom rfl records

/-- With a level, each sink has all records from its own level on. -/
theorem run_of_debug_le (h : Level.debug ≤ s.streamLevel) (records : List LogRecord) :
    (s.run records).stream = recordsFrom s.streamLevel records ∧
      (s.file.isSome → (s.run records).file = recordsFrom .debug records) := by
  constructor
  · rw [run_stream, looksAt_of_debug_le h]
    exact recordsFrom_recordsFrom (Int.max_eq_left h) records
  · intro hfile
    rw [run_file hfile, looksAt_of_debug_le h]
    exact recordsFrom_recordsFrom rfl records

theorem fileLines_eq {records written : List LogRecord}
    (h : s.file.isSome → (s.run records).file = written) :
    s.fileLines records = s.file.map fun path => (path, written.flatMap LogRecord.lines) := by
  cases hfile : s.file with
  | none => simp [fileLines, hfile]
  | some path => simp [fileLines, hfile, h (by simp [hfile])]

/-! ## Setups -/

/-- A log file is wanted, and for a named action: this is its path. -/
def WantsFile (action : Option String) (toFile : Bool) (directory path : String) : Prop :=
  toFile = true ∧ ∃ name, action = some name ∧ name ≠ "" ∧ path = filePath directory name

/-- A file is chosen if one is wanted. -/
theorem file?_eq_some_iff {action : Option String} {toFile : Bool} {directory path : String} :
    file? directory action toFile = some path ↔ WantsFile action toFile directory path := by
  cases action with
  | none => simp [file?, WantsFile]
  | some name =>
    simp only [file?, WantsFile, Option.bind_some, Bool.and_eq_true, Bool.not_eq_true',
      String.isEmpty_eq_false_iff, Option.ite_none_right_eq_some, Option.some.injEq, and_assoc,
      exists_eq_left']
    exact ⟨fun h => ⟨h.1, h.2.1, h.2.2.symm⟩, fun h => ⟨h.1, h.2.1, h.2.2.symm⟩⟩

section Make

variable {opens : String → Bool} {level action : Option String} {toFile : Bool}
  {directory : String} {resolved : Level}

/-- A setup has the level that was found, and its file if it can be opened. -/
theorem make_of_level (hlevel : Level.ofName level = .ok resolved) :
    make opens level action toFile directory =
      match file? directory action toFile with
      | some path =>
        if opens path then .ok { streamLevel := resolved, file := some path }
        else .error (.unopened path)
      | none => .ok { streamLevel := resolved, file := none } := by
  rw [make, hlevel]
  rfl

theorem make_of_unopened (hlevel : Level.ofName level = .ok resolved) {path : String}
    (hfile : WantsFile action toFile directory path) (hopens : opens path = false) :
    make opens level action toFile directory = .error (.unopened path) := by
  rw [make_of_level hlevel, file?_eq_some_iff.mpr hfile]
  simp only [hopens, Bool.false_eq_true, if_false]

theorem exists_make (hlevel : Level.ofName level = .ok resolved)
    (hopens : ∀ path, WantsFile action toFile directory path → opens path) :
    ∃ s, make opens level action toFile directory = .ok s ∧ s.streamLevel = resolved ∧
      ∀ path, s.file = some path ↔ WantsFile action toFile directory path := by
  simp only [← file?_eq_some_iff] at hopens ⊢
  rw [make_of_level hlevel]
  cases hfile : file? directory action toFile with
  | some path => exact ⟨_, if_pos (hopens path hfile), rfl, fun _ => Iff.rfl⟩
  | none => exact ⟨_, rfl, rfl, fun _ => Iff.rfl⟩

end Make

/-- What a setup for a level by its name writes, whatever the other arguments and the records are.

Two names are taken by something else, and a file that cannot be opened is a mistake; apart from
these a setup is made. If its level is a level at all, then the stream has exactly the records from
that level on and the file, if one is wanted for a named action, exactly those from `debug` on, in
order and each once. If it is none, then both lack what is worth less than a warning. -/
theorem make_writes (opens : String → Bool) (level action : Option String) (toFile : Bool)
    (directory : String) :
    (∀ fault, (upper (level.getD ""), fault) ∈ Level.taken →
        make opens level action toFile directory = .error (.level fault)) ∧
      (upper (level.getD "") ∉ Level.taken.map Prod.fst →
        ∃ resolved, Level.Resolves level resolved ∧
          (∀ path, WantsFile action toFile directory path → opens path = false →
            make opens level action toFile directory = .error (.unopened path)) ∧
          ((∀ path, WantsFile action toFile directory path → opens path) →
            ∃ s, make opens level action toFile directory = .ok s ∧
              (∀ path, s.file = some path ↔ WantsFile action toFile directory path) ∧
              ∀ records,
                (resolved ≠ .unset →
                  s.streamLines records = (recordsFrom resolved records).flatMap LogRecord.lines ∧
                    s.fileLines records = s.file.map fun path =>
                      (path, (recordsFrom .debug records).flatMap LogRecord.lines)) ∧
                (resolved = .unset →
                  s.streamLines records = (recordsFrom .warning records).flatMap LogRecord.lines ∧
                    s.fileLines records = s.file.map fun path =>
                      (path, (recordsFrom .warning records).flatMap LogRecord.lines)))) := by
  constructor
  · intro fault htaken
    rw [make, Level.ofName_of_taken htaken]
    rfl
  · intro hfree
    obtain ⟨resolved, hlevel, hresolves⟩ := Level.exists_ofName hfree
    refine ⟨resolved, hresolves, fun path => make_of_unopened hlevel, fun hopens => ?_⟩
    obtain ⟨s, hmade, hstream, hfile⟩ := exists_make hlevel hopens
    refine ⟨s, hmade, hfile, fun records => ⟨fun hset => ?_, fun hunset => ?_⟩⟩
    · have hdebug : Level.debug ≤ s.streamLevel := by
        rw [hstream]
        exact hresolves.unset_or_debug_le.resolve_left hset
      have hrun := run_of_debug_le hdebug records
      exact ⟨by rw [streamLines, hrun.1, hstream], fileLines_eq hrun.2⟩
    · have hrun := run_of_unset (hstream.trans hunset) records
      exact ⟨by rw [streamLines, hrun.1], fileLines_eq hrun.2⟩

/-- A stream without level loses what is below a warning, and so does the file. -/
theorem make_writes_unset :
    ∃ s, make (fun _ => true) (some "notset") (some "a") true "" = .ok s ∧
      s.streamLines [⟨.info, "m", 0⟩, ⟨.warning, "n", 1⟩] = ["01-01 00:00:01 [WARN] n"] ∧
        s.fileLines [⟨.info, "m", 0⟩, ⟨.warning, "n", 1⟩] =
          some ("log/a/a_TIME.log", ["01-01 00:00:01 [WARN] n"]) := by
  have hname : upper "notset" = "NOTSET" := by decide
  obtain ⟨-, hwrites⟩ := make_writes (fun _ => true) (some "notset") (some "a") true ""
  obtain ⟨resolved, hresolves, -, hmake⟩ := hwrites (by rw [Option.getD_some, hname]; decide)
  obtain rfl : resolved = .unset := by
    rw [Level.Resolves, Option.getD_some, hname] at hresolves
    rcases hresolves with hknown | ⟨hunknown, -⟩
    · exact Option.some.inj (((Entries.mem_iff_get? (by decide)).1 hknown).symm)
    · exact absurd (by decide) hunknown
  obtain ⟨s, hmade, hfile, hlines⟩ := hmake fun _ _ => rfl
  obtain ⟨-, hunset⟩ := hlines [⟨.info, "m", 0⟩, ⟨.warning, "n", 1⟩]
  obtain ⟨hstream, hfileLines⟩ := hunset rfl
  have hpath : s.file = some "log/a/a_TIME.log" :=
    (hfile _).2 ⟨rfl, "a", rfl, by decide, by decide⟩
  rw [hpath] at hfileLines
  refine ⟨s, hmade, hstream.trans (by decide), hfileLines.trans (by decide)⟩

end LogSetup

end SearchBuilder
