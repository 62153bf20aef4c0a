import SearchRanking.Command.Run
import SearchRanking.Proofs.FiniteScores
import SearchRanking.Proofs.Json.Objects
import SearchRanking.Proofs.Json.ScoreText

/-!
# The ranking that is printed

A score that is not finite is written as `null`, which no decoder takes back. No such score gets
into a ranking that is printed, so every entry is written with its two keys and with numbers in its
score slots. The values of its list are those of the ranked record. What is read of the printed text
differs from them only in scores, which stray by two steps at the most.
-/

namespace SearchRanking

open Json

/-- The value is an object with the two keys of an entry and with numbers in both score slots, and
its list is decoded to the record. -/
def Shows (value : Value) (record : Record) (score : Score) : Prop :=
  ∃ values host effective,
    value = .object [("result", .array values), ("score", .number effective)] ∧
    values[4]? = some (.number host) ∧ Record.ofValues values = .ok record ∧
    effective.toScore = score

/-- A finite score of the same sign, two steps away at the most. -/
structure Near (score other : Score) : Prop where
  isFinite : other.isFinite = true
  negative_eq : other.negative = score.negative
  le_add_two : other.magnitude ≤ score.magnitude + 2
  ge_sub_two : score.magnitude ≤ other.magnitude + 2

theorem shows_valuesWith (record : Record) (host effective : Score) :
    Shows
      (.object [("result", .array (record.valuesWith (.number (.real host)))),
        ("score", .number (.real effective))])
      { record with score := host } effective :=
  ⟨_, .real host, .real effective, rfl, rfl, record.ofValues_valuesWith _, rfl⟩

theorem shows_toValue {entry : Entry} (hhost : entry.record.score.isFinite = true)
    (heffective : entry.score.isFinite = true) :
    Shows entry.toValue entry.record entry.score := by
  have hvalue : entry.toValue =
      .object [("result", .array (entry.record.valuesWith (.number (.real entry.record.score)))),
        ("score", .number (.real entry.score))] := by
    rw [Entry.toValue, Record.toValue_eq_array, Value.ofScore, Value.ofScore, if_pos hhost,
      if_pos heffective]
  rw [hvalue]
  exact shows_valuesWith entry.record entry.record.score entry.score

theorem exists_reads_near {score : Score} (hfinite : score.isFinite = true) (depth : Nat) :
    ∃ reread, Near score reread ∧
      Reads (readValue depth : Reader Mismatch Value) (compact (.ofScore score))
        (.number (.real reread)) := by
  obtain ⟨_, reread, -, hread, hreread⟩ := exists_reread (ε := Mismatch) hfinite
  refine ⟨reread, ⟨hreread.isFinite, hreread.negative_eq, hreread.le_add_two,
    hreread.ge_sub_two⟩, ?_⟩
  rw [Value.ofScore, if_pos hfinite, compact]
  exact reads_readValue (fun _ _ => reads_number hread) depth

theorem exists_reads_toValue {entry : Entry} (hhost : entry.record.score.isFinite = true)
    (heffective : entry.score.isFinite = true) (level depth : Nat) :
    ∃ host effective, Near entry.record.score host ∧ Near entry.score effective ∧
      Reads (readValue (depth + 2) : Reader Mismatch Value) (pretty level entry.toValue)
        (.object [("result", .array (entry.record.valuesWith (.number (.real host)))),
          ("score", .number (.real effective))]) := by
  obtain ⟨host, hnear, hslot⟩ := exists_reads_near hhost depth
  obtain ⟨effective, hnearEffective, hscore⟩ := exists_reads_near heffective (depth + 1)
  refine ⟨host, effective, hnear, hnearEffective, ?_⟩
  have hobject := @reads_object Mismatch (depth + 1) (newLine (level + 1)) (newLine level) [' ']
    [("result", pretty (level + 1) entry.record.toValue,
        .array (entry.record.valuesWith (.number (.real host)))),
      ("score", pretty (level + 1) (.ofScore entry.score), .number (.real effective))]
    isSpace_of_mem_newLine isSpace_of_mem_newLine (by simp [isSpace])
  rw [Entry.toValue, pretty_object]
  refine hobject ?_
  simp only [List.forall_mem_cons]
  refine ⟨Record.reads_pretty_toValue hslot, ?_, by simp⟩
  rwa [Record.pretty_ofScore]

def rankingText (entries : List Entry) : String := prettyText (Ranking.toValue entries) ++ "\n"

/-- The printed text is a list of entries whose scores are near those of the ranking. -/
theorem exists_readDocument_rankingText {entries : List Entry}
    (hfinite : ∀ entry ∈ entries,
      entry.record.score.isFinite = true ∧ entry.score.isFinite = true) :
    ∃ shown : Entry → Value,
      (readDocument (rankingText entries) : Except (Fault Mismatch) _) =
        .ok (.array (entries.map shown)) ∧
      ∀ entry ∈ entries, ∃ host effective,
        Near entry.record.score host ∧ Near entry.score effective ∧
        Shows (shown entry) { entry.record with score := host } effective := by
  have hentries : ∀ entry ∈ entries, ∃ value,
      (∃ host effective, Near entry.record.score host ∧ Near entry.score effective ∧
        Shows value { entry.record with score := host } effective) ∧
      Reads (readValue 126 : Reader Mismatch Value) (pretty 1 entry.toValue) value := by
    intro entry hentry
    obtain ⟨hhost, heffective⟩ := hfinite entry hentry
    obtain ⟨host, effective, hnear, hnearEffective, hreads⟩ :=
      exists_reads_toValue hhost heffective 1 124
    exact ⟨_, ⟨host, effective, hnear, hnearEffective, shows_valuesWith _ _ _⟩, hreads⟩
  have hnonempty : Nonempty Value := ⟨.null⟩
  choose! shown hshows hreads using hentries
  refine ⟨shown, readWhole_eq_ok_iff.mpr ⟨['\n'], ?_, rfl⟩, hshows⟩
  have htext : (rankingText entries).toList =
      '[' :: enclosed (newLine 1) (newLine 0) ']'
        (entries.map fun entry => pretty 1 entry.toValue) ++ ['\n'] := by
    rw [rankingText, prettyText, Ranking.toValue, pretty_array, List.map_map, String.toList_append,
      String.toList_ofList]
    rfl
  rw [htext]
  exact reads_array isSpace_of_mem_newLine isSpace_of_mem_newLine hreads ['\n'] rfl

namespace Command

section Actions

variable {α β ε : Type} {before middle after : Progress} {action : Action α} {next : α → Action β}

theorem run_bind_of_ok {found : α} (haction : action.run.run before = (.ok found, middle)) :
    (action >>= next).run.run before = (next found).run.run middle := by
  rw [ExceptT.run_bind, StateT.run_bind, haction]
  rfl

theorem run_bind_of_error {trouble : Trouble}
    (haction : action.run.run before = (.error trouble, middle)) :
    (action >>= next).run.run before = (.error trouble, middle) := by
  rw [ExceptT.run_bind, StateT.run_bind, haction]
  rfl

theorem run_bind_eq_ok_iff {value : β} :
    (action >>= next).run.run before = (.ok value, after) ↔
      ∃ found middle, action.run.run before = (.ok found, middle) ∧
        (next found).run.run middle = (.ok value, after) := by
  constructor
  · intro hrun
    rcases haction : action.run.run before with ⟨result, middle⟩
    cases result with
    | error trouble =>
        rw [run_bind_of_error haction] at hrun
        cases hrun
    | ok found =>
        rw [run_bind_of_ok haction] at hrun
        exact ⟨found, middle, rfl, hrun⟩
  · rintro ⟨found, middle, haction, hnext⟩
    rw [run_bind_of_ok haction, hnext]

@[simp]
theorem run_orTrouble_eq_ok_iff {trouble : ε → Trouble} {result : Except ε α} {value : α} :
    (orTrouble trouble result).run.run before = (.ok value, after) ↔
      result = .ok value ∧ after = before := by
  change (result.mapError trouble, before) = (.ok value, after) ↔ _
  rw [Prod.mk.injEq, mapError_eq_ok_iff, eq_comm (a := before)]

end Actions

section Ranks

variable {around : Surroundings} {file : Option String} {options : Options} {config : Config}
  {text : String} {records : List Record} {before after : Progress}

theorem loadable_of_configFor
    (hload : (configFor around options).run.run before = (.ok config, after)) :
    config.Loadable := by
  rw [configFor] at hload
  cases hpath : options.config with
  | none =>
      simp only [hpath] at hload
      obtain ⟨base, _, hbase, hpenalty⟩ := run_bind_eq_ok_iff.mp hload
      cases hbase
      exact ⟨_, _, .inl rfl, (run_orTrouble_eq_ok_iff.mp hpenalty).1⟩
  | some path =>
      simp only [hpath, run_bind_eq_ok_iff, run_orTrouble_eq_ok_iff] at hload
      obtain ⟨_, _, -, bytes, _, -, base, _, ⟨hbase, -⟩, _, _, -, _, _, hsame, hpenalty, -⟩ := hload
      cases hsame
      obtain ⟨found, -, hfound⟩ := bind_eq_ok_iff.mp hbase
      exact ⟨base, _, .inr ⟨found, hfound⟩, hpenalty⟩

/-- The surroundings give a command its configuration and the text of its records. -/
def Supplies (around : Surroundings) (file : Option String) (options : Options) (config : Config)
    (text : String) : Prop :=
  ∃ loaded taken, (configFor around options).run.run ⟨[], around.input⟩ = (.ok config, loaded) ∧
    (recordsText around file).run.run loaded = (.ok text, taken)

theorem run_rank_json (hsupplies : Supplies around file options config text)
    (hdecode : Record.decodeList text = .ok records) (limit : Option Nat) :
    (run around (.rank file options limit true)).exitCode = 0 ∧
      (run around (.rank file options limit true)).output =
        rankingText (Ranking.rank config.scorer limit records) := by
  obtain ⟨loaded, taken, hload, htake⟩ := hsupplies
  have hrecords : (orTrouble Trouble.decodingList (Record.decodeList text)).run.run taken =
      (.ok records, taken) := run_orTrouble_eq_ok_iff.mpr ⟨hdecode, rfl⟩
  have haction : ∃ last, (Command.action around (.rank file options limit true)).run.run
      ⟨[], around.input⟩ =
        (.ok (rankingText (Ranking.rank config.scorer limit records)), last) := by
    rw [Command.action, runRank, run_bind_of_ok hload, run_bind_of_ok htake,
      run_bind_of_ok hrecords]
    exact ⟨_, rfl⟩
  obtain ⟨last, hlast⟩ := haction
  rw [run, hlast]
  exact ⟨rfl, rfl⟩

/-- Whatever a run prints is the ranking of decoded records by a configuration that can be
loaded. -/
theorem exists_of_run_rank_json {limit : Option Nat}
    (hexit : (run around (.rank file options limit true)).exitCode = 0) :
    ∃ (config : Config) (text : String) (records : List Record),
      config.Loadable ∧ Record.decodeList text = .ok records ∧
      (run around (.rank file options limit true)).output =
        rankingText (Ranking.rank config.scorer limit records) := by
  rcases hrun : (Command.action around (.rank file options limit true)).run.run
    ⟨[], around.input⟩ with ⟨result, last⟩
  cases result with
  | error trouble =>
      rw [run, hrun] at hexit
      cases hexit
  | ok output =>
      rw [Command.action, runRank] at hrun
      obtain ⟨config, loaded, hload, hrun⟩ := run_bind_eq_ok_iff.mp hrun
      obtain ⟨text, taken, htake, hrun⟩ := run_bind_eq_ok_iff.mp hrun
      obtain ⟨records, _, hdecode, -⟩ := run_bind_eq_ok_iff.mp hrun
      have hrecords := (run_orTrouble_eq_ok_iff.mp hdecode).1
      have hsupplies : Supplies around file options config text := ⟨loaded, taken, hload, htake⟩
      exact ⟨config, text, records, loadable_of_configFor hload, hrecords,
        (run_rank_json hsupplies hrecords limit).2⟩

end Ranks

/-- **A ranking that is printed as JSON can be read back.** The records come from a text that is
decoded, the configuration is one that can be loaded. Then every score of the ranking is finite, and
every entry is written as an object with its two keys whose list gives the ranked record. The run
prints this value; and the printed text is a document of the same form, with every score a finite
one of the same sign, two steps away at the most. -/
theorem rank_json_reads_back {text : String} {records : List Record} {config : Config}
    (limit : Option Nat) (hdecode : Record.decodeList text = .ok records)
    (hconfig : config.Loadable) :
    (∀ entry ∈ Ranking.rank config.scorer limit records,
      entry.record.score.isFinite = true ∧ entry.score.isFinite = true ∧
        Shows entry.toValue entry.record entry.score) ∧
    (∀ around file options, Supplies around file options config text →
      (run around (.rank file options limit true)).exitCode = 0 ∧
        (run around (.rank file options limit true)).output =
          rankingText (Ranking.rank config.scorer limit records)) ∧
    ∃ shown : Entry → Value,
      (readDocument (rankingText (Ranking.rank config.scorer limit records)) :
        Except (Fault Mismatch) _) =
          .ok (.array ((Ranking.rank config.scorer limit records).map shown)) ∧
      ∀ entry ∈ Ranking.rank config.scorer limit records, ∃ host effective,
        Near entry.record.score host ∧ Near entry.score effective ∧
        Shows (shown entry) { entry.record with score := host } effective := by
  have hfinite : ∀ entry ∈ Ranking.rank config.scorer limit records,
      entry.record.score.isFinite = true ∧ entry.score.isFinite = true := fun entry hentry =>
    Ranking.isFinite_of_mem_rank (Record.isFinite_of_decodeList hdecode) hconfig.isFinite_penalty
      hentry
  refine ⟨?_, fun _ _ _ hsupplies => run_rank_json hsupplies hdecode limit,
    exists_readDocument_rankingText hfinite⟩
  intro entry hentry
  obtain ⟨hhost, heffective⟩ := hfinite entry hentry
  exact ⟨hhost, heffective, shows_toValue hhost heffective⟩

/-- A generated page, a guide whose score is text with blanks around it, and a page without a
filename. -/
def sampleInput : String :=
  "[[\"a\",\"std\",\"\",\"\",40,\"reference/modules/std/autodoc.html\"]," ++
  "[null,\"Intro\",[],\"\",\" 8.75e1 \",\"guide/intro.html\"]," ++
  "[\"b\",\"Index\",\"\",\"\",12,null]]"

def sampleRecords : List Record :=
  [⟨"a", "std", "", "", .ofNat 40, some "reference/modules/std/autodoc.html"⟩,
    ⟨"", "Intro", "", "", .ofBits 0x4055e00000000000, some "guide/intro.html"⟩,
    ⟨"b", "Index", "", "", .ofNat 12, none⟩]

def sampleOptions : Options := ⟨none, some (.ofNat 50)⟩

def sampleConfig : Config := { Config.standard with penalty := .ofNat 50 }

def sampleAround : Surroundings where
  find _ := .error .missing
  input := sampleInput.toUTF8
  settings := ⟨none, none, none, none, false⟩

theorem decodeList_sampleInput : Record.decodeList sampleInput = .ok sampleRecords := by
  have hread : (readDocument sampleInput : Except (Fault Mismatch) _) =
      .ok (.array [
        .array [.string "a", .string "std", .string "", .string "", .number (.natural 40),
          .string "reference/modules/std/autodoc.html"],
        .array [.null, .string "Intro", .array [], .string "", .string " 8.75e1 ",
          .string "guide/intro.html"],
        .array [.string "b", .string "Index", .string "", .string "", .number (.natural 12),
          .null]]) := by
    cbv
  have htext : Score.ofText? (Text.trim " 8.75e1 ") = some (.ofBits 0x4055e00000000000) := by
    decide +kernel
  have hscore : Record.scoreOf (.string " 8.75e1 ") = .ok (.ofBits 0x4055e00000000000) := by
    rw [Record.scoreOf_text, htext]
    rfl
  refine Record.decodeList_eq_ok_iff.mpr ⟨_, hread, ?_⟩
  simp only [Record.ofValuesFrom, Record.ofValue, Record.ofValues, hscore]
  rfl

/-- The guide before the generated page, which has the penalty in place of its score. The limit cuts
off the third page. -/
def sampleEntries : List Entry :=
  [⟨sampleRecords[1], .ofBits 0x4055e00000000000, 1⟩, ⟨sampleRecords[0], .ofNat 50, 0⟩]

theorem rank_sampleRecords :
    Ranking.rank sampleConfig.scorer (some 2) sampleRecords = sampleEntries := by
  have hfull : Ranking.sorted (Ranking.candidates sampleConfig.scorer sampleRecords) =
      sampleEntries ++ [⟨sampleRecords[2], .ofNat 12, 2⟩] := by
    refine Ranking.Ascending.eq_of_perm
      (Ranking.sorted_ascending (Ranking.nodup_positions_candidates _ _)) ?_
      ((Ranking.sorted_perm _).trans ?_)
    · rw [Ranking.Ascending]
      decide +kernel
    · decide +kernel
  rw [Ranking.rank_eq_take, hfull]
  rfl

theorem withPenalty_sampleConfig :
    Config.standard.withPenalty (some (.ofNat 50)) = .ok sampleConfig := by
  decide +kernel

theorem supplies_sampleAround :
    Supplies sampleAround none sampleOptions sampleConfig sampleInput := by
  have hload : (configFor sampleAround sampleOptions).run.run ⟨[], sampleInput.toUTF8⟩ =
      (.ok sampleConfig, ⟨[], sampleInput.toUTF8⟩) := by
    have hbase : (pure Config.standard : Action Config).run.run ⟨[], sampleInput.toUTF8⟩ =
        (.ok Config.standard, ⟨[], sampleInput.toUTF8⟩) := rfl
    exact (run_bind_of_ok hbase).trans
      (run_orTrouble_eq_ok_iff.mpr ⟨withPenalty_sampleConfig, rfl⟩)
  refine ⟨⟨[], sampleInput.toUTF8⟩, ⟨[], ByteArray.empty⟩, hload, ?_⟩
  have htaken : takeInput.run.run ⟨[], sampleInput.toUTF8⟩ =
      (.ok sampleInput.toUTF8, ⟨[], ByteArray.empty⟩) := rfl
  exact (run_bind_of_ok htaken).trans (run_orTrouble_eq_ok_iff.mpr ⟨textOf_toUTF8 _, rfl⟩)

theorem rank_json_sampleInput :
    (Record.decodeList sampleInput = .ok sampleRecords ∧ sampleConfig.Loadable ∧
      Supplies sampleAround none sampleOptions sampleConfig sampleInput) ∧
    Ranking.rank sampleConfig.scorer (some 2) sampleRecords = sampleEntries ∧
    (∀ entry ∈ sampleEntries, entry.record.score.isFinite = true ∧ entry.score.isFinite = true ∧
      Shows entry.toValue entry.record entry.score) ∧
    ((run sampleAround (.rank none sampleOptions (some 2) true)).exitCode = 0 ∧
      (run sampleAround (.rank none sampleOptions (some 2) true)).output =
        rankingText sampleEntries) ∧
    ∃ shown : Entry → Value,
      (readDocument (run sampleAround (.rank none sampleOptions (some 2) true)).output :
        Except (Fault Mismatch) _) = .ok (.array (sampleEntries.map shown)) ∧
      ∀ entry ∈ sampleEntries, ∃ host effective,
        Near entry.record.score host ∧ Near entry.score effective ∧
        Shows (shown entry) { entry.record with score := host } effective := by
  have hconfig : sampleConfig.Loadable := ⟨_, _, .inl rfl, withPenalty_sampleConfig⟩
  obtain ⟨hentries, hruns, hshown⟩ := rank_json_reads_back (some 2) decodeList_sampleInput hconfig
  rw [rank_sampleRecords] at hentries hruns hshown
  have hrun := hruns sampleAround none sampleOptions supplies_sampleAround
  refine ⟨⟨decodeList_sampleInput, hconfig, supplies_sampleAround⟩, rank_sampleRecords, hentries,
    hrun, ?_⟩
  rwa [hrun.2]

end Command

end SearchRanking
