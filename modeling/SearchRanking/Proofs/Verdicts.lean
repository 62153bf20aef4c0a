import SearchRanking.Proofs.Command.RankOutput
import SearchRanking.Proofs.Config.Reading
import SearchRanking.Proofs.Config.Validity
import SearchRanking.Record.Sample

namespace SearchRanking

open Json

namespace Config

variable {config : Config} {record : Record}

/-- The record has a filename, and the pattern of the configuration recognizes it. -/
def Generates (config : Config) (record : Record) : Prop :=
  ∃ path, record.filename = some path ∧ config.pattern.recognizes path = true

theorem recognizesRecord_iff_generates :
    config.pattern.recognizesRecord record = true ↔ config.Generates record := by
  rw [Pattern.recognizesRecord, Option.any_eq_true]
  rfl

theorem scorer_of_generates (hgenerates : config.Generates record) :
    config.scorer record = config.penalty := by
  obtain ⟨path, hfilename, hpath⟩ := hgenerates
  exact scorer_of_recognizes hfilename hpath

theorem scorer_of_not_generates (hgenerates : ¬config.Generates record) :
    config.scorer record = record.score := by
  rw [← recognizesRecord_iff_generates] at hgenerates
  rw [scorer, Scorer.demoting, if_neg hgenerates]

end Config

@[simp]
theorem Pattern.standard_recognizes_empty : Pattern.standard.recognizes "" = false := by
  decide +kernel

@[simp]
theorem Scorer.byPath_eq_standard (record : Record) :
    Scorer.byPath record = Scorer.standard record := by
  rw [Scorer.byPath, Scorer.standard, Scorer.demoting, Pattern.recognizesRecord]
  cases record.filename with
  | none => simp
  | some path => rw [Option.getD_some, Option.any_some]

/-- An object without members says nothing about a configuration, so all of it is standard. -/
theorem Config.ofText_of_no_members {text : String}
    (hread : (readDocument text : Except (Fault Mismatch) _) = .ok (.object [])) :
    Config.ofText text = .ok Config.standard := by
  have hdescribes : Describes standard [] standard := by
    refine ⟨by simp, by simp, ?_, ?_⟩
    · simp
    · intro field _
      cases field <;> rfl
  exact ofText_eq_ok_iff.mpr
    ⟨⟨_, _, hread, rfl, hdescribes⟩, validate_eq_ok_iff.mpr isValid_standard⟩

namespace Command

variable {around : Surroundings} {options : Options} {config : Config} {loaded : Progress}

theorem run_classify
    (hload : (configFor around options).run.run ⟨[], around.input⟩ = (.ok config, loaded))
    (paths : List String) :
    (run around (.classify paths options)).output =
      linesText (paths.map fun path =>
        Display.verdictLine around.settings.paint (config.pattern.recognizes path) path) := by
  have haction : (Command.action around (.classify paths options)).run.run ⟨[], around.input⟩ =
      (.ok (linesText (paths.map fun path =>
        Display.verdictLine around.settings.paint (config.pattern.recognizes path) path)),
        loaded) := by
    rw [Command.action, runClassify, run_bind_of_ok hload]
    rfl
  rw [run, haction]

theorem verdictLine_true_ne_false (paint : Display.Paint) (path : String) :
    Display.verdictLine paint true path ≠ Display.verdictLine paint false path := by
  have hwords : Display.painted paint .red true "generated" ≠
      Display.painted paint .green false "authored " := by
    rcases paint with _ | _ | _ <;> decide +kernel
  intro heq
  simp only [Display.verdictLine, Bool.false_eq_true, if_true, if_false, String.append_left_inj]
    at heq
  exact hwords heq

theorem linesText_singleton_inj {line other : String} (heq : linesText [line] = linesText [other]) :
    line = other := by
  simpa [linesText, String.join] using heq

/-- The command reports the path as generated. -/
def ReportsGenerated (around : Surroundings) (options : Options) (path : String) : Prop :=
  (run around (.classify [path] options)).output =
    linesText [Display.verdictLine around.settings.paint true path]

theorem reportsGenerated_iff
    (hload : (configFor around options).run.run ⟨[], around.input⟩ = (.ok config, loaded))
    (path : String) :
    ReportsGenerated around options path ↔ config.pattern.recognizes path = true := by
  rw [ReportsGenerated, run_classify hload, List.map_singleton]
  cases config.pattern.recognizes path with
  | true => exact iff_of_true rfl rfl
  | false =>
      refine iff_of_false (fun hlines => ?_) Bool.false_ne_true
      exact verdictLine_true_ne_false _ _ (linesText_singleton_inj hlines).symm

end Command

/-- **All verdicts agree.** The scorer of a configuration gives the penalty just to the records
with a filename that its pattern recognizes, every other record keeps the bits of its own score,
and the question about the record is answered in the same way. What a command that runs with the
configuration reports as generated are the paths that the pattern recognizes. And the standard rule
gives the same bits to every record in all its forms: by path alone, as a scorer of its own, in the
standard configuration and in one that is read from an object without members. -/
theorem verdicts_agree :
    (∀ (config : Config) (record : Record),
      (config.pattern.recognizesRecord record = true ↔ config.Generates record) ∧
      (config.Generates record → (config.scorer record).bits = config.penalty.bits) ∧
      (¬config.Generates record → (config.scorer record).bits = record.score.bits)) ∧
    (∀ (around : Command.Surroundings) (options : Command.Options) (config : Config)
        (loaded : Command.Progress),
      (Command.configFor around options).run.run ⟨[], around.input⟩ = (.ok config, loaded) →
      ∀ path, Command.ReportsGenerated around options path ↔
        config.pattern.recognizes path = true) ∧
    (∀ text, (readDocument text : Except (Fault Mismatch) _) = .ok (.object []) →
      ∃ config, Config.ofText text = .ok config ∧
        ∀ record,
          (Scorer.byPath record).bits = (Scorer.standard record).bits ∧
          (Config.standard.scorer record).bits = (Scorer.standard record).bits ∧
          (config.scorer record).bits = (Scorer.standard record).bits) := by
  refine ⟨?_, ?_, ?_⟩
  · intro config record
    refine ⟨Config.recognizesRecord_iff_generates, ?_, ?_⟩
    · intro hgenerates
      rw [Config.scorer_of_generates hgenerates]
    · intro hgenerates
      rw [Config.scorer_of_not_generates hgenerates]
  · intro around options config loaded hload path
    exact Command.reportsGenerated_iff hload path
  · intro text hread
    refine ⟨Config.standard, Config.ofText_of_no_members hread, fun record => ?_⟩
    exact ⟨congrArg Score.bits (Scorer.byPath_eq_standard record), rfl, rfl⟩

/-- Two pages with a score that is no number: one of a module, and one without a filename. -/
def unscored : Record × Record :=
  (.modulePage "foo" .notANumber, .plain "Index" .notANumber none)

theorem verdicts_agree_unscored :
    Command.ReportsGenerated Command.sampleAround ⟨none, none⟩
      "reference/modules/foo/autodoc.html" ∧
    (Config.standard.scorer unscored.1).bits = Scorer.standardPenalty.bits ∧
    ∃ config, Config.ofText " \x7b\n\x7d" = .ok config ∧
      (Scorer.byPath unscored.2).bits = Score.bits .notANumber ∧
      (config.scorer unscored.2).bits = Score.bits .notANumber := by
  obtain ⟨hrecords, hcommands, htexts⟩ := verdicts_agree
  have hpath : Config.standard.pattern.recognizes "reference/modules/foo/autodoc.html" = true := by
    decide +kernel
  have hnone : ¬Config.standard.Generates unscored.2 := by
    rintro ⟨path, hfilename, -⟩
    cases hfilename
  have hread : (readDocument " \x7b\n\x7d" : Except (Fault Mismatch) _) = .ok (.object []) := by
    cbv
  obtain ⟨config, hconfig, hscores⟩ := htexts _ hread
  obtain ⟨hbyPath, -, hscorer⟩ := hscores unscored.2
  have hkept := (hrecords Config.standard unscored.2).2.2 hnone
  exact ⟨(hcommands Command.sampleAround ⟨none, none⟩ Config.standard _ rfl _).mpr hpath,
    (hrecords Config.standard unscored.1).2.1 ⟨_, rfl, hpath⟩, config, hconfig, hbyPath.trans hkept,
    hscorer.trans hkept⟩

end SearchRanking
