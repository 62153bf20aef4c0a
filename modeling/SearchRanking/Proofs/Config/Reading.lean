import Mathlib
import SearchRanking.Proofs.Config.Description

namespace SearchRanking.Config

open Json

section Pieces

variable {draft next : Draft} {text rest : List Char} {depth : Nat} {whole : List Char}

theorem judges_readField (draft : Draft) (field : Field) (depth : Nat) :
    Judges (readValue (depth + 1) : Reader Mismatch Value) (readField draft field)
      (judgeField draft field) := by
  rw [readValue]
  cases field with
  | penalty =>
      exact judges_expectNumber.map fun penalty => { draft with penalty := some penalty }
  | root =>
      obtain ⟨items, members, hvalue⟩ := exists_readValue_eq_readNode (ε := Mismatch) depth
      have hstrings :
          Judges (readValue depth : Reader Mismatch Value) expectString judgeString := by
        rw [hvalue]
        exact judges_expectString
      exact hstrings.list.map fun root => { draft with root := some root }
  | leaf => exact judges_expectString.map fun leaf => { draft with leaf := some leaf }

theorem judges_readNext (draft : Draft) (depth : Nat) :
    Judges (readValue (depth + 1) : Reader Mismatch Value) (readNext draft) (judgeNext draft) where
  exact := by
    intro text rest value hread
    rw [readNext, judgeNext]
    cases Field.all.find? fun field => !draft.has field with
    | none => rfl
    | some field => exact (judges_readField draft field depth).exact hread
  sound := by
    intro text rest next hread
    rw [readNext] at hread
    split at hread
    · exact (judges_readField draft _ depth).sound hread
    · cases hread

theorem readNamed_eq {member : String × Value}
    (hread : readPair (readValue (depth + 1) : Reader Mismatch Value) text = .ok (member, rest))
    (hknown : ∃ field : Field, field.name = member.1) :
    readNamed whole draft text = (judgeNamed draft member).map fun next => (next, rest) := by
  obtain ⟨name, value⟩ := member
  obtain ⟨field, rfl⟩ := hknown
  obtain ⟨after, tail, hname, hcolon, hvalue⟩ := readPair_eq_ok_iff.mp hread
  have hskip : (readColon after : Except (Fault Mismatch) _) = .ok ((), skipSpaces tail) :=
    readColon_eq_ok_iff.mpr ⟨tail, hcolon, rfl⟩
  simp only [readNamed, hname, bind, Except.bind, field.ofName?_name, judgeNamed]
  split
  · rfl
  · rw [hskip]
    exact (judges_readField draft field depth).exact hvalue

theorem exists_of_readNamed (hread : readNamed whole draft text = .ok (next, rest)) :
    ∃ member, readPair (readValue (depth + 1) : Reader Mismatch Value) text = .ok (member, rest) ∧
      ∃ field : Field, field.name = member.1 := by
  rw [readNamed, bind_eq_ok_iff] at hread
  obtain ⟨⟨name, after⟩, hname, hread⟩ := hread
  simp only at hread
  split at hread
  · cases hread
  · next field hfield =>
    split at hread
    · cases hread
    · obtain ⟨⟨_, behind⟩, hcolon, hread⟩ := bind_eq_ok_iff.mp hread
      obtain ⟨tail, hskip, rfl⟩ := readColon_eq_ok_iff.mp hcolon
      obtain ⟨value, hvalue⟩ := (judges_readField draft field depth).sound hread
      exact ⟨(name, value), readPair_eq_ok_iff.mpr ⟨after, tail, hname, hskip, hvalue⟩, field,
        Field.ofName?_eq_some_iff.mp hfield⟩

end Pieces

section Drafts

variable {draft : Draft} {text rest : List Char} {whole : List Char}
  {members : List (String × Value)} {items : List Value}

theorem readDraft_of_object
    (hread : (readValue maxDepth text : Except (Fault Mismatch) _) = .ok (.object members, rest))
    (hknown : ∀ name ∈ members.map Prod.fst, ∃ field : Field, field.name = name) :
    readDraft whole text =
      (members.foldlM judgeNamed Draft.empty).map fun draft => (draft, rest) := by
  cases readNode_eq_ok_iff.mp hread with
  | object hmembers =>
      rw [readDraft]
      refine readContainer_eq_foldlM (by decide) (readMembers_eq_ok_iff.mp hmembers) ?_ _
      intro member hmember before after hpair draft
      exact readNamed_eq hpair (hknown member.1 (List.mem_map_of_mem hmember))

theorem readDraft_of_array
    (hread : (readValue maxDepth text : Except (Fault Mismatch) _) = .ok (.array items, rest)) :
    readDraft whole text =
      (items.foldlM judgeNext Draft.empty).map fun draft => (draft, rest) := by
  cases readNode_eq_ok_iff.mp hread with
  | array hitems =>
      rw [readDraft]
      refine readContainer_eq_foldlM (by decide) (readItems_eq_ok_iff.mp hitems) ?_ _
      intro item _ before after hitem draft
      exact (judges_readNext draft _).exact hitem

theorem exists_of_readDraft (hread : readDraft whole text = .ok (draft, rest)) :
    ∃ value, (readValue maxDepth text : Except (Fault Mismatch) _) = .ok (value, rest) ∧
      ((∃ members, value = .object members ∧
          ∀ name ∈ members.map Prod.fst, ∃ field : Field, field.name = name) ∨
        ∃ items, value = .array items) := by
  unfold readDraft at hread
  split at hread
  · obtain ⟨members, hmembers, hknown⟩ := exists_bracketed (by decide)
      (fun _ _ _ _ hpiece => exists_of_readNamed hpiece) hread
    refine ⟨.object members, readNode_eq_ok_iff.mpr (.object (readMembers_eq_ok_iff.mpr hmembers)),
      .inl ⟨members, rfl, ?_⟩⟩
    simpa using hknown
  · have hsound : ∀ draft before next after, readNext draft before = .ok (next, after) →
        ∃ item, (readValue 126 before : Except (Fault Mismatch) _) = .ok (item, after) ∧ True := by
      intro draft before next after hpiece
      obtain ⟨item, hitem⟩ := (judges_readNext draft 125).sound hpiece
      exact ⟨item, hitem, trivial⟩
    obtain ⟨items, hitems, -⟩ := exists_bracketed (by decide) hsound hread
    exact ⟨.array items, readNode_eq_ok_iff.mpr (.array (readItems_eq_ok_iff.mpr hitems)),
      .inr ⟨items, rfl⟩⟩
  · exact absurd hread (rejectNode_ne_ok _ _ _)

end Drafts

section Configs

variable {config : Config} {text other : String} {members reordered : List (String × Value)}
  {items : List Value}

theorem readWhole_of_object
    (hread : (readDocument text : Except (Fault Mismatch) _) = .ok (.object members))
    (hknown : ∀ name ∈ members.map Prod.fst, ∃ field : Field, field.name = name) :
    readWhole (readDraft text.toList) text = members.foldlM judgeNamed Draft.empty := by
  obtain ⟨rest, hvalue, hblank⟩ := readWhole_eq_ok_iff.mp hread
  exact readWhole_eq_of_map (readDraft_of_object hvalue hknown) hblank

theorem readWhole_of_array
    (hread : (readDocument text : Except (Fault Mismatch) _) = .ok (.array items)) :
    readWhole (readDraft text.toList) text = items.foldlM judgeNext Draft.empty := by
  obtain ⟨rest, hvalue, hblank⟩ := readWhole_eq_ok_iff.mp hread
  exact readWhole_eq_of_map (readDraft_of_array hvalue) hblank

/-- The document of a text describes the configuration. -/
def Says (text : String) (config : Config) : Prop :=
  ∃ value members, (readDocument text : Except (Fault Mismatch) _) = .ok value ∧
    membersOf? value = some members ∧ Describes standard members config

theorem says_iff :
    Says text config ↔
      ∃ draft, readWhole (readDraft text.toList) text = .ok draft ∧ draft.complete = config := by
  constructor
  · rintro ⟨value, members, hread, hmembers, hdescribes⟩
    obtain ⟨draft, hrun, hcomplete⟩ := foldlM_judgeNamed_iff.mpr hdescribes
    refine ⟨draft, ?_, hcomplete⟩
    cases value with
    | object found =>
        cases hmembers
        rw [readWhole_of_object hread hdescribes.known, hrun]
    | array items =>
        rw [membersOf?, Option.ite_none_right_eq_some] at hmembers
        obtain ⟨hle, heq⟩ := hmembers
        cases heq
        rw [readWhole_of_array hread, foldlM_judgeNext_eq hle]
        exact hrun
    | null | bool | number | string => cases hmembers
  · rintro ⟨draft, hdraft, hcomplete⟩
    obtain ⟨rest, hrest, hblank⟩ := readWhole_eq_ok_iff.mp hdraft
    obtain ⟨value, hvalue, hform⟩ := exists_of_readDraft hrest
    have hread := readWhole_eq_ok_iff.mpr ⟨rest, hvalue, hblank⟩
    rcases hform with ⟨members, rfl, hknown⟩ | ⟨items, rfl⟩
    · rw [readWhole_of_object hread hknown] at hdraft
      exact ⟨_, members, hread, rfl, foldlM_judgeNamed_iff.mp ⟨draft, hdraft, hcomplete⟩⟩
    · rw [readWhole_of_array hread] at hdraft
      have hle := length_le_of_foldlM_judgeNext hdraft
      rw [foldlM_judgeNext_eq hle] at hdraft
      exact ⟨_, _, hread, if_pos hle, foldlM_judgeNamed_iff.mp ⟨draft, hdraft, hcomplete⟩⟩

theorem Says.ofText_eq (hsaid : Says text config) :
    ofText text = (config.validate.mapError Failure.config).map fun _ => config := by
  obtain ⟨draft, hdraft, rfl⟩ := says_iff.mp hsaid
  rw [ofText, hdraft]
  change draft.complete.validated.mapError Failure.config = _
  rw [validated]
  cases draft.complete.validate <;> rfl

theorem exists_ofText_eq_json (hnone : ¬∃ config, Says text config) :
    ∃ fault, ofText text = .error (.json fault) := by
  cases hread : readWhole (readDraft text.toList) text with
  | error fault =>
      refine ⟨fault, ?_⟩
      rw [ofText, hread]
      rfl
  | ok draft => exact absurd ⟨_, says_iff.mpr ⟨draft, hread, rfl⟩⟩ hnone

theorem ofText_eq_ok_iff :
    ofText text = .ok config ↔ Says text config ∧ config.validate = .ok () := by
  constructor
  · intro haccepted
    by_cases hsaid : ∃ found, Says text found
    · obtain ⟨found, hfound⟩ := hsaid
      rw [hfound.ofText_eq, map_eq_ok_iff] at haccepted
      obtain ⟨_, hvalid, rfl⟩ := haccepted
      exact ⟨hfound, mapError_eq_ok_iff.mp hvalid⟩
    · obtain ⟨fault, hrefused⟩ := exists_ofText_eq_json hsaid
      rw [hrefused] at haccepted
      cases haccepted
  · rintro ⟨hsaid, hvalid⟩
    rw [hsaid.ofText_eq, hvalid]
    rfl

theorem ofText_eq_config_fault_iff {fault : ConfigFault} :
    ofText text = .error (.config fault) ↔
      ∃ config, Says text config ∧ config.validate = .error fault := by
  constructor
  · intro hrefused
    by_cases hsaid : ∃ found, Says text found
    · obtain ⟨found, hfound⟩ := hsaid
      rw [hfound.ofText_eq] at hrefused
      cases hvalid : found.validate with
      | error cause =>
          rw [hvalid] at hrefused
          cases hrefused
          exact ⟨found, hfound, hvalid⟩
      | ok valid =>
          rw [hvalid] at hrefused
          cases hrefused
    · obtain ⟨cause, hjson⟩ := exists_ofText_eq_json hsaid
      rw [hjson] at hrefused
      cases hrefused
  · rintro ⟨config, hsaid, hfault⟩
    rw [hsaid.ofText_eq, hfault]
    rfl

theorem Says.of_perm
    (hread : (readDocument text : Except (Fault Mismatch) _) = .ok (.object members))
    (hother : (readDocument other : Except (Fault Mismatch) _) = .ok (.object reordered))
    (hperm : members.Perm reordered) (hsaid : Says text config) : Says other config := by
  obtain ⟨value, found, hvalue, hfound, hdescribes⟩ := hsaid
  rw [hread] at hvalue
  cases hvalue
  cases hfound
  exact ⟨_, reordered, hother, rfl, hdescribes.perm hperm⟩

end Configs

/-- **A configuration text is accepted exactly where it should be.** A text gives a configuration
where it is a document that describes it and the configuration is valid. So the order of the members
of an object decides neither on the configuration nor on a fault of it, and a list gives what the
object gives that names its items after the first fields. -/
theorem ofText_characterization :
    (∀ text config, ofText text = .ok config ↔ Says text config ∧ config.validate = .ok ()) ∧
    (∀ text other members reordered,
      (readDocument text : Except (Fault Mismatch) _) = .ok (.object members) →
      (readDocument other : Except (Fault Mismatch) _) = .ok (.object reordered) →
      members.Perm reordered →
        (∀ config, ofText text = .ok config ↔ ofText other = .ok config) ∧
        ∀ fault, ofText text = .error (.config fault) ↔ ofText other = .error (.config fault)) ∧
    ∀ text other items,
      (readDocument text : Except (Fault Mismatch) _) = .ok (.array items) →
      (readDocument other : Except (Fault Mismatch) _) =
        .ok (.object ((Field.all.map Field.name).zip items)) →
      items.length ≤ Field.all.length → ofText text = ofText other := by
  refine ⟨fun _ _ => ofText_eq_ok_iff, ?_, ?_⟩
  · intro text other members reordered hread hother hperm
    have hsaid : ∀ config, Says text config ↔ Says other config := fun config =>
      ⟨.of_perm hread hother hperm, .of_perm hother hread hperm.symm⟩
    simp only [ofText_eq_ok_iff, ofText_eq_config_fault_iff, hsaid, implies_true, and_self]
  · intro text other items hread hother hle
    have hknown : ∀ name ∈ ((Field.all.map Field.name).zip items).map Prod.fst,
        ∃ field : Field, field.name = name := by
      intro name hname
      obtain ⟨⟨_, item⟩, hmember, rfl⟩ := List.mem_map.mp hname
      obtain ⟨field, -, hfield⟩ := List.mem_map.mp (List.of_mem_zip hmember).1
      exact ⟨field, hfield⟩
    have hsame : readWhole (readDraft text.toList) text =
        readWhole (readDraft other.toList) other := by
      rw [readWhole_of_array hread, readWhole_of_object hother hknown]
      exact foldlM_judgeNext_eq hle
    rw [ofText, ofText, hsame]

/-- One configuration as a list, as an object, and with the members of the object turned round. -/
def rearrangedTexts : List String :=
  ["[-7,[\"api\"]]", "\x7b\"penalty\":-7,\"root\":[\"api\"]\x7d",
    " \x7b \"root\" : [ \"api\" ] , \"penalty\" : -7 \x7d\n"]

def rearrangedValues : List Value :=
  [.array [.number (.negative 7), .array [.string "api"]],
    .object [("penalty", .number (.negative 7)), ("root", .array [.string "api"])],
    .object [("root", .array [.string "api"]), ("penalty", .number (.negative 7))]]

theorem map_readDocument_rearrangedTexts :
    rearrangedTexts.map readDocument =
      rearrangedValues.map (Except.ok : Value → Except (Fault Mismatch) Value) := by
  cbv

def rearranged : Config := ⟨(Score.ofNat 7).negate, ["api"], standard.leaf⟩

theorem ofText_rearrangedTexts :
    rearrangedTexts.map ofText = List.replicate 3 (.ok rearranged) := by
  obtain ⟨hlist, hobject, hturned, -⟩ := by
    simpa only [rearrangedTexts, rearrangedValues, List.map_cons, List.cons.injEq] using
      map_readDocument_rearrangedTexts
  obtain ⟨haccepted, horder, hform⟩ := ofText_characterization
  have hrun : [.number (.negative 7), .array [.string "api"]].foldlM judgeNext Draft.empty =
      .ok ⟨some (Score.ofNat 7).negate, some ["api"], none⟩ := rfl
  have hcomplete : Draft.complete ⟨some (Score.ofNat 7).negate, some ["api"], none⟩ =
      rearranged := by
    simp only [Draft.complete, rearranged, Option.getD_some, Option.getD_none]
  have hsaid : Says "[-7,[\"api\"]]" rearranged :=
    says_iff.mpr ⟨_, (readWhole_of_array hlist).trans hrun, hcomplete⟩
  have hfirst := (haccepted _ _).mpr ⟨hsaid, by decide +kernel⟩
  have hsecond := (hform _ _ _ hlist hobject (by decide)).symm.trans hfirst
  have hthird := ((horder _ _ _ _ hobject hturned (.swap _ _ _)).1 rearranged).mp hsecond
  simp only [rearrangedTexts, List.map_cons, hfirst, hsecond, hthird]
  rfl

end SearchRanking.Config
