import SearchRanking.Proofs.Command.RankOutput
import SearchRanking.Proofs.Decimal.Plain
import SearchRanking.Proofs.Record.ScoreFidelity
import SearchRanking.Proofs.Record.Spelling

namespace SearchRanking

open Json Record

theorem isFigure_of_mem_written {score : Score} (hfinite : score.isFinite = true) :
    ∀ c ∈ (score.written plainLayout).toList, isFigure c = true := by
  intro c hc
  rw [Score.toList_written_plain hfinite, List.mem_append] at hc
  rcases hc with hsign | hbody
  · rw [Score.signText] at hsign
    split at hsign
    · rw [List.mem_singleton.mp hsign]
      rfl
    · cases hsign
  · rcases Score.isDigit_or_point_of_mem_plainText _ c hbody with hdigit | rfl
    · exact isFigure_of_isDigit hdigit
    · rfl

theorem denotes_written {score : Score} (hfinite : score.isFinite = true) :
    Denotes (score.written plainLayout).toList score :=
  ⟨hfinite, Score.exists_signedNumeral_written hfinite⟩

namespace Command

section Runs

variable {around : Surroundings} {options : Options} {config : Config} {document : String}
  {record : Record}

def Configures (around : Surroundings) (options : Options) (config : Config) : Prop :=
  ∃ loaded, (configFor around options).run.run ⟨[], around.input⟩ = (.ok config, loaded)

theorem run_score (hconfig : Configures around options config)
    (hdecode : decode document = .ok record) :
    (run around (.score document options)).exitCode = 0 ∧
      (run around (.score document options)).output =
        (config.scorer record).written plainLayout ++ "\n" := by
  obtain ⟨loaded, hload⟩ := hconfig
  have hrecord : (orTrouble Trouble.decoding (decode document)).run.run loaded =
      (.ok record, loaded) := run_orTrouble_eq_ok_iff.mpr ⟨hdecode, rfl⟩
  have haction : ∃ last, (Command.action around (.score document options)).run.run
      ⟨[], around.input⟩ = (.ok ((config.scorer record).written plainLayout ++ "\n"), last) := by
    rw [Command.action, runScore, run_bind_of_ok hload, run_bind_of_ok hrecord]
    exact ⟨_, rfl⟩
  obtain ⟨last, hlast⟩ := haction
  rw [run, hlast]
  exact ⟨rfl, rfl⟩

end Runs

/-- **A printed score can be given back.** Let a record be decoded and a configuration be valid. The
effective score of the record is printed as a line of digits with an optional minus and an optional
point. Put as a string into the score slot of any record, it is taken, and that record has the
effective score with all its bits. -/
theorem score_output_reads_back {document : String} {record : Record} {config : Config}
    (hdecode : decode document = .ok record) (hvalid : config.validate = .ok ()) :
    (∀ around options, Configures around options config →
      (run around (.score document options)).exitCode = 0 ∧
        (run around (.score document options)).output =
          (config.scorer record).written plainLayout ++ "\n") ∧
    (∀ c ∈ ((config.scorer record).written plainLayout).toList, isFigure c = true) ∧
    Spells ("\"" ++ (config.scorer record).written plainLayout ++ "\"")
      (.string ((config.scorer record).written plainLayout)) ∧
    ∀ (texts : FrameText) (frame : Frame) (quoted : String), texts.Spells frame →
      Spells quoted (.string ((config.scorer record).written plainLayout)) →
      decode (texts.document quoted) = .ok (frame.record (config.scorer record)) := by
  have hfinite : (config.scorer record).isFinite = true :=
    Config.isFinite_scorer (Config.isFinite_of_validate hvalid) (isFinite_of_decode hdecode)
  have hfigures := isFigure_of_mem_written hfinite
  refine ⟨fun _ _ hconfig => run_score hconfig hdecode, hfigures,
    spells_quoted_of_figures hfigures, ?_⟩
  intro texts frame quoted hframe hquoted
  exact decode_document_of_scoreOf hframe hquoted
    (scoreOf_of_figures hfigures (denotes_written hfinite))

/-- A record with a score next to nought, which takes more than three hundred digits to print. -/
def leastDocument : String := oddTexts.document "\" -4.9e-324 \""

def leastRecord : Record := oddFrame.record (.ofBits 0x8000000000000001)

theorem decode_leastDocument : decode leastDocument = .ok leastRecord := by
  have hslot : Spells "\" -4.9e-324 \"" (.string " -4.9e-324 ") := ⟨by cbv, by decide⟩
  refine decode_document_of_scoreOf spells_oddTexts hslot (eq_ok_of_toOption ?_)
  rw [toOption_scoreOf]
  decide +kernel

theorem score_output_leastDocument :
    decode leastDocument = .ok leastRecord ∧ Config.standard.validate = .ok () ∧
    ∃ printed, (run sampleAround (.score leastDocument ⟨none, none⟩)).exitCode = 0 ∧
      (run sampleAround (.score leastDocument ⟨none, none⟩)).output = printed ++ "\n" ∧
      decode (oddTexts.document ("\"" ++ printed ++ "\"")) = .ok leastRecord := by
  have hvalid : Config.standard.validate = .ok () := by decide +kernel
  have heffective : Config.standard.scorer leastRecord = .ofBits 0x8000000000000001 := by
    decide +kernel
  obtain ⟨hruns, -, hspells, hreread⟩ := score_output_reads_back decode_leastDocument hvalid
  obtain ⟨hexit, houtput⟩ := hruns sampleAround ⟨none, none⟩ ⟨_, rfl⟩
  have hdecode := hreread oddTexts oddFrame _ spells_oddTexts hspells
  rw [heffective] at hdecode houtput
  exact ⟨decode_leastDocument, hvalid, _, hexit, houtput, hdecode⟩

end Command

end SearchRanking
