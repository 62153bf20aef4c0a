import SearchRanking.Proofs.Demotion
import SearchRanking.Proofs.InputOrder
import SearchRanking.Proofs.Pattern
import SearchRanking.Proofs.Score.Value

/-!
# Sample records keep apart

The page of a module lies under the standard root, and the segment behind the root is the beginning
of the module's name, whatever slashes follow in it. A guide lies two segments deep, too few for the
standard pattern, since neither lower case nor a hyphen brings a slash into its slug. So in a
ranking of samples all guides come first, as soon as their scores are above the penalty.
-/

namespace SearchRanking

namespace Text

theorem slash_lt_lowercaseRuns : ∀ run ∈ lowercaseRuns, 0x2f < (run.first : Int) + run.shift := by
  decide +kernel

theorem eq_of_ofNat_eq_slash {code : Nat} (heq : Char.ofNat code = '/') : code = 0x2f := by
  by_cases hvalid : code.isValidChar
  · have hchar : Char.ofNat code = Char.ofNatAux code hvalid := dif_pos hvalid
    exact congrArg Char.toNat (hchar.symm.trans heq)
  · have hchar : Char.ofNat code = '\x00' := dif_neg hvalid
    exact absurd (hchar.symm.trans heq) (by decide)

/-- Only a slash has a slash as its lower-case form. -/
theorem slash_not_mem_lowercaseChar {c : Char} (hc : c ≠ '/') : '/' ∉ lowercaseChar c := by
  rw [lowercaseChar]
  split
  · decide
  · split
    · next run hrun =>
      -- a code point that is moved stays above that of the slash
      have habove := slash_lt_lowercaseRuns run (List.mem_of_find?_eq_some hrun)
      have hcovers := List.find?_some hrun
      simp only [CaseRun.covers, Bool.and_eq_true, decide_eq_true_eq] at hcovers
      rw [List.mem_singleton]
      intro heq
      have hcode := eq_of_ofNat_eq_slash heq.symm
      omega
    · rw [List.mem_singleton]
      exact Ne.symm hc

theorem slash_not_mem_lowercaseAfter {text : List Char} (hfree : '/' ∉ text)
    (before : List Char) : '/' ∉ lowercaseAfter before text := by
  induction text generalizing before with
  | nil => exact List.not_mem_nil
  | cons c rest ih =>
      rw [List.mem_cons, not_or] at hfree
      rw [lowercaseAfter, List.mem_append, not_or]
      refine ⟨?_, ih hfree.2 _⟩
      split
      · split <;> decide
      · exact slash_not_mem_lowercaseChar (Ne.symm hfree.1)

end Text

namespace Record

variable {title name : String}

theorem slashFree_slug (hfree : Path.SlashFree title) : Path.SlashFree (slug title) := by
  rw [Path.SlashFree, slug, String.toList_ofList, List.mem_map]
  rintro ⟨c, hc, hslash⟩
  rw [Text.lowercase, String.toList_ofList] at hc
  split at hslash
  · exact absurd hslash (by decide)
  · exact Text.slash_not_mem_lowercaseAfter hfree [] (hslash ▸ hc)

theorem segments_guide (hfree : Path.SlashFree title) :
    Path.segments ("guide/" ++ slug title ++ ".html") = ["guide", slug title ++ ".html"] := by
  have hfile : Path.SlashFree (slug title ++ ".html") := by
    rw [Path.SlashFree, String.toList_append, List.mem_append, not_or]
    exact ⟨slashFree_slug hfree, by decide⟩
  have hpath : "guide/" ++ slug title ++ ".html" = "guide" ++ "/" ++ (slug title ++ ".html") :=
    String.append_assoc
  rw [hpath, Path.segments_append_slash, Path.segments_of_slashFree hfile,
    Path.segments_of_slashFree (by decide), List.singleton_append]

theorem recognizesRecord_guide (hfree : Path.SlashFree title) (score : Score) :
    Pattern.standard.recognizesRecord (.guide title score) = false := by
  rw [Pattern.recognizesRecord, guide, Option.any_some, Bool.eq_false_iff]
  intro hrecognized
  have hdepth := Pattern.length_segments_of_recognizes hrecognized
  rw [segments_guide hfree, List.length_cons, List.length_singleton] at hdepth
  exact absurd hdepth (by decide)

theorem recognizesRecord_modulePage (hname : name ≠ "") (hslash : name.toList.head? ≠ some '/')
    (score : Score) : Pattern.standard.recognizesRecord (.modulePage name score) = true := by
  obtain ⟨first, rest, hfirst, hsegments⟩ := Path.exists_segments_eq_cons hname hslash
  have hroot : Path.directory Pattern.standard.root = "reference/modules/" := by decide +kernel
  have hfree : ∀ segment ∈ Pattern.standard.root, Path.SlashFree segment := by decide
  have hleaf : Path.SlashFree Pattern.standard.leaf := by decide
  have hfile : "/" ++ Pattern.standard.leaf = "/autodoc.html" := by decide +kernel
  have hpath : "reference/modules/" ++ name ++ "/autodoc.html" =
      Path.directory Pattern.standard.root ++ (name ++ "/" ++ Pattern.standard.leaf) := by
    rw [hroot, String.append_assoc, String.append_assoc, hfile]
  have hfilename : (modulePage name score).filename =
      some ("reference/modules/" ++ name ++ "/autodoc.html") := rfl
  rw [Pattern.recognizesRecord, hfilename, Option.any_some, hpath,
    Pattern.recognizes_iff_segments]
  refine ⟨[], first, rest, hfirst, ?_⟩
  rw [Path.segments_directory_append hfree, Path.segments_append_slash, hsegments,
    Path.segments_of_slashFree hleaf]
  simp only [List.nil_append, List.append_assoc, List.cons_append]

end Record

/-- What a sample record is made from. -/
inductive Sample where
  | guide (title : String) (score : Score)
  | modulePage (name : String) (score : Score)

namespace Sample

variable {sample : Sample}

def record : Sample → Record
  | guide title score => .guide title score
  | modulePage name score => .modulePage name score

def isGuide : Sample → Bool
  | guide _ _ => true
  | modulePage _ _ => false

/-- The title of a guide has no slash in it. The name of a module is not empty, and a slash in it
does not come first. -/
def WellNamed : Sample → Prop
  | guide title _ => Path.SlashFree title
  | modulePage name _ => name ≠ "" ∧ name.toList.head? ≠ some '/'

/-- The score of a guide is a number above minus five, be it an infinity; that of a module page does
not matter. -/
def WellScored : Sample → Prop
  | guide _ score =>
      ∃ number, Score.numberOf? score.bits = some number ∧ ((-5 : ℚ) : WithTop ℚ) < number
  | modulePage _ _ => True

theorem WellNamed.recognizesRecord_eq (hnamed : sample.WellNamed) :
    Pattern.standard.recognizesRecord sample.record = !sample.isGuide := by
  cases sample with
  | guide title score => exact Record.recognizesRecord_guide hnamed score
  | modulePage name score => exact Record.recognizesRecord_modulePage hnamed.1 hnamed.2 score

theorem WellNamed.not_recognizesRecord_eq (hnamed : sample.WellNamed) :
    (!Pattern.standard.recognizesRecord sample.record) = sample.isGuide := by
  rw [hnamed.recognizesRecord_eq, Bool.not_not]

theorem numberOf?_standardPenalty :
    Score.numberOf? Scorer.standardPenalty.bits =
      some (((-5 : ℚ) : WithTop ℚ) : Score.ExtendedRational) := by
  have hword : Scorer.standardPenalty.bits = 0xc014000000000000 := by decide
  have hsign : Score.signBit 0xc014000000000000 = 1 := by decide
  have hexponent : Score.exponentField 0xc014000000000000 = 1025 := by decide
  have hfraction : Score.fractionField 0xc014000000000000 = 2 ^ 50 := by decide
  have hvalue : Score.rationalOf 0xc014000000000000 = -5 := by
    rw [Score.rationalOf, Score.unsignedOf, hsign, hexponent, hfraction]
    norm_num
  rw [Score.numberOf?, hword, hexponent, if_pos (by decide), hvalue]

theorem wellScored_guide_iff {title : String} {score : Score} :
    (guide title score).WellScored ↔
      score.isNaN = false ∧ Scorer.standardPenalty.signedUnits < score.signedUnits := by
  constructor
  · rintro ⟨number, hnumber, habove⟩
    exact ⟨(Score.numberOf?_eq_some_iff.mp hnumber).1,
      (Score.lt_iff_signedUnits_lt numberOf?_standardPenalty hnumber).mp habove⟩
  · rintro ⟨hnan, hunits⟩
    have hnumber := Score.numberOf?_eq_some_iff.mpr ⟨hnan, rfl⟩
    exact ⟨_, hnumber,
      (Score.lt_iff_signedUnits_lt numberOf?_standardPenalty hnumber).mpr hunits⟩

instance : DecidablePred WellNamed
  | guide title _ => inferInstanceAs (Decidable (Path.SlashFree title))
  | modulePage name _ => inferInstanceAs (Decidable (name ≠ "" ∧ name.toList.head? ≠ some '/'))

instance : DecidablePred WellScored
  | guide _ _ => decidable_of_iff _ wellScored_guide_iff.symm
  | modulePage _ _ => inferInstanceAs (Decidable True)

theorem WellScored.orderKey_lt (hscored : sample.WellScored) (hguide : sample.isGuide = true) :
    Scorer.standardPenalty.orderKey < sample.record.score.orderKey := by
  cases sample with
  | guide title score =>
      obtain ⟨hnan, hunits⟩ := wellScored_guide_iff.mp hscored
      exact Score.orderKey_lt_of_signedUnits_lt (by decide) hnan hunits
  | modulePage name score => exact absurd hguide Bool.false_ne_true

end Sample

namespace Ranking

theorem map_record_filter_rank (scorer : Scorer) (records : List Record) (test : Record → Bool) :
    (((rank scorer none records).filter fun entry => test entry.record).map Entry.record).Perm
      (records.filter test) := by
  have hperm := (records_rank_perm scorer records).filter test
  rwa [List.filter_map] at hperm

theorem filter_map_record {samples : List Sample} {kind : Sample → Bool} (test : Record → Bool)
    (hkind : ∀ sample ∈ samples, test sample.record = kind sample) :
    (samples.map Sample.record).filter test = (samples.filter kind).map Sample.record := by
  rw [List.filter_map]
  exact congrArg (List.map Sample.record) (List.filter_congr hkind)

theorem orderKey_lt_of_mem_samples {samples : List Sample}
    (hsamples : ∀ sample ∈ samples, sample.WellNamed ∧ sample.WellScored) {record : Record}
    (hrecord : record ∈ samples.map Sample.record)
    (hkept : Pattern.standard.recognizesRecord record = false) :
    Scorer.standardPenalty.orderKey < record.score.orderKey := by
  obtain ⟨sample, hsample, rfl⟩ := List.mem_map.mp hrecord
  obtain ⟨hnamed, hscored⟩ := hsamples sample hsample
  apply hscored.orderKey_lt
  rw [← hnamed.not_recognizesRecord_eq, hkept, Bool.not_false]

/-- **Samples are kept apart.** The page of a module is demoted whatever its score and its name,
provided that the name neither is empty nor starts with a slash, and a guide keeps its score
whatever it is, provided that no slash is in its title. So a ranking of such samples, with the
scores of the guides above the penalty, is made of all the guides and then all the module pages. -/
theorem rank_samples_apart :
    (∀ name score, name ≠ "" → name.toList.head? ≠ some '/' →
      Pattern.standard.recognizesRecord (.modulePage name score) = true ∧
        Scorer.standard (.modulePage name score) = Scorer.standardPenalty) ∧
    (∀ title score, Path.SlashFree title →
      Pattern.standard.recognizesRecord (.guide title score) = false ∧
        Scorer.standard (.guide title score) = score) ∧
    ∀ samples : List Sample, (∀ sample ∈ samples, sample.WellNamed ∧ sample.WellScored) →
      ∃ guides pages,
        rank Scorer.standard none (samples.map Sample.record) = guides ++ pages ∧
        (guides.map Entry.record).Perm ((samples.filter Sample.isGuide).map Sample.record) ∧
        (pages.map Entry.record).Perm
          ((samples.filter fun sample => !sample.isGuide).map Sample.record) := by
  refine ⟨?_, ?_, ?_⟩
  · intro name score hname hslash
    have hrecognized := Record.recognizesRecord_modulePage hname hslash score
    exact ⟨hrecognized, demoting_of_recognized hrecognized⟩
  · intro title score hfree
    have hrecognized := Record.recognizesRecord_guide hfree score
    exact ⟨hrecognized, demoting_of_not_recognized hrecognized⟩
  · intro samples hsamples
    have hguides := fun sample hsample => (hsamples sample hsample).1.not_recognizesRecord_eq
    have hpages := fun sample hsample => (hsamples sample hsample).1.recognizesRecord_eq
    refine ⟨_, _, rank_eq_undemoted_append_demoted fun _ => orderKey_lt_of_mem_samples hsamples,
      ?_, ?_⟩
    · rw [← filter_map_record (fun record => !Pattern.standard.recognizesRecord record) hguides]
      exact map_record_filter_rank _ _ fun record => !Pattern.standard.recognizesRecord record
    · rw [← filter_map_record Pattern.standard.recognizesRecord hpages]
      exact map_record_filter_rank _ _ Pattern.standard.recognizesRecord

/-- Module pages with the highest score and with none, whose names look like parts of their paths,
and guides whose lower case is longer than the title or empty, one with the least score above the
penalty. -/
def oddSamples : List Sample :=
  [.modulePage "modules//reference/" (.infinity false), .guide "İndex of modules" (.zero true),
    .modulePage "autodoc.html" .notANumber, .guide "" ⟨true, 0x4013ffffffffffff, by decide⟩]

theorem rank_oddSamples :
    ("modules//reference/" ≠ "" ∧ "modules//reference/".toList.head? ≠ some '/' ∧
      Pattern.standard.recognizesRecord
        (.modulePage "modules//reference/" (.infinity false)) = true) ∧
    (Path.SlashFree "İndex of modules" ∧
      Scorer.standard (.guide "İndex of modules" (.zero true)) = .zero true) ∧
    (∀ sample ∈ oddSamples, sample.WellNamed ∧ sample.WellScored) ∧
    ∃ guides pages,
      rank Scorer.standard none (oddSamples.map Sample.record) = guides ++ pages ∧
      (guides.map Entry.record).Perm ((oddSamples.filter Sample.isGuide).map Sample.record) ∧
      (pages.map Entry.record).Perm
        ((oddSamples.filter fun sample => !sample.isGuide).map Sample.record) := by
  have hname : "modules//reference/" ≠ "" := by decide
  have hslash : "modules//reference/".toList.head? ≠ some '/' := by decide
  have hfree : Path.SlashFree "İndex of modules" := by decide
  have hsamples : ∀ sample ∈ oddSamples, sample.WellNamed ∧ sample.WellScored := by
    decide +kernel
  obtain ⟨hpage, hguide, hapart⟩ := rank_samples_apart
  exact ⟨⟨hname, hslash, (hpage _ _ hname hslash).1⟩, ⟨hfree, (hguide _ _ hfree).2⟩, hsamples,
    hapart oddSamples hsamples⟩

end Ranking

end SearchRanking
