import SearchRanking.Config.Reader
import SearchRanking.Proofs.Demotion
import SearchRanking.Proofs.Json.Finite
import SearchRanking.Proofs.Record.Decoders

namespace SearchRanking

open Json

namespace Record

theorem isFinite_of_scoreOf {value : Value} {score : Score} (hread : IsRead value)
    (hscore : scoreOf value = .ok score) : score.isFinite = true := by
  cases value with
  | number number =>
      cases hscore
      exact hread.isFinite
  | string text =>
      rw [scoreOf_text] at hscore
      cases hread : Score.ofText? (Text.trim text) with
      | none =>
          rw [hread] at hscore
          cases hscore
      | some found =>
          rw [hread, Option.elim_some] at hscore
          split at hscore
          · next hfinite =>
            cases hscore
            exact hfinite
          · cases hscore
  | null | bool | array | object => cases hscore

theorem isFinite_of_ofValues {values : List Value} {record : Record}
    (hread : ∀ value ∈ values, IsRead value) (hrecord : ofValues values = .ok record) :
    record.score.isFinite = true := by
  unfold ofValues at hrecord
  split at hrecord
  · obtain ⟨score, hscore, heq⟩ := bind_eq_ok_iff.mp hrecord
    cases heq
    exact isFinite_of_scoreOf (hread _ (by simp)) hscore
  · cases hrecord

theorem isFinite_of_decode {text : String} {record : Record} (hdecode : decode text = .ok record) :
    record.score.isFinite = true := by
  obtain ⟨value, hread, hrecord⟩ := decode_eq_ok_iff.mp hdecode
  cases value with
  | array values => exact isFinite_of_ofValues (isRead_of_readDocument hread).of_mem_array hrecord
  | null | bool | number | string | object => cases hrecord

theorem isFinite_of_ofValuesFrom {index : Nat} {values : List Value} {records : List Record}
    (hread : ∀ value ∈ values, IsRead value) (hrecords : ofValuesFrom index values = .ok records) :
    ∀ record ∈ records, record.score.isFinite = true := by
  induction values generalizing index records with
  | nil =>
      cases hrecords
      simp
  | cons value values ih =>
      rw [List.forall_mem_cons] at hread
      rw [ofValuesFrom, bind_eq_ok_iff] at hrecords
      obtain ⟨record, hrecord, hrest⟩ := hrecords
      obtain ⟨later, hlater, heq⟩ := bind_eq_ok_iff.mp hrest
      cases heq
      rw [mapError_eq_ok_iff] at hrecord
      rw [List.forall_mem_cons]
      refine ⟨?_, ih hread.2 hlater⟩
      cases value with
      | array fields => exact isFinite_of_ofValues hread.1.of_mem_array hrecord
      | null | bool | number | string | object => cases hrecord

theorem isFinite_of_decodeList {text : String} {records : List Record}
    (hdecode : decodeList text = .ok records) :
    ∀ record ∈ records, record.score.isFinite = true := by
  obtain ⟨values, hread, hrecords⟩ := decodeList_eq_ok_iff.mp hdecode
  exact isFinite_of_ofValuesFrom (isRead_of_readDocument hread).of_mem_array hrecords

end Record

namespace Config

/-- The configurations that a command can run with: the standard one or that of a text, with
another penalty put in place or not. -/
def Loadable (config : Config) : Prop :=
  ∃ base penalty, (base = standard ∨ ∃ text, ofText text = .ok base) ∧
    base.withPenalty penalty = .ok config

theorem isFinite_of_validate {config : Config} (hvalid : config.validate = .ok ()) :
    config.penalty.isFinite = true := by
  rw [validate] at hvalid
  split at hvalid
  · cases hvalid
  · next hfinite => simpa using hfinite

theorem Loadable.isFinite_penalty {config : Config} (hloadable : config.Loadable) :
    config.penalty.isFinite = true := by
  obtain ⟨base, penalty, -, hpenalty⟩ := hloadable
  rw [withPenalty, validated, bind_eq_ok_iff] at hpenalty
  obtain ⟨_, hvalid, heq⟩ := hpenalty
  cases heq
  exact isFinite_of_validate hvalid

theorem isFinite_scorer {config : Config} {record : Record}
    (hpenalty : config.penalty.isFinite = true) (hscore : record.score.isFinite = true) :
    (config.scorer record).isFinite = true := by
  rw [scorer, Scorer.demoting]
  split
  · exact hpenalty
  · exact hscore

end Config

theorem Ranking.isFinite_of_mem_rank {config : Config} {limit : Option Nat} {records : List Record}
    {entry : Entry} (hrecords : ∀ record ∈ records, record.score.isFinite = true)
    (hpenalty : config.penalty.isFinite = true)
    (hentry : entry ∈ rank config.scorer limit records) :
    entry.record.score.isFinite = true ∧ entry.score.isFinite = true := by
  obtain ⟨hrecord, hscore⟩ := mem_rank hentry
  have hhost := hrecords entry.record hrecord
  rw [hscore]
  exact ⟨hhost, Config.isFinite_scorer hpenalty hhost⟩

end SearchRanking
