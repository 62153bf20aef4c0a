import SearchRanking.Config.Reader
import SearchRanking.Proofs.Json.Typed

/-!
# What members say about a configuration

`Describes` is what a reader of the documentation expects of a configuration: no member is given
twice, none is unknown, each has a value of its own type, which the configuration takes, and the
rest of the configuration is standard. The reader meets the members one after another and keeps a
draft. Every step fills one empty slot of the draft and leaves the others alone
(`judgeField_eq_ok`), so a run over all the members is possible exactly where they describe a
configuration, and completes to it (`foldlM_judgeNamed_iff`). The items of a list run like members
that name the fields in order (`foldlM_judgeNext_eq`).
-/

namespace SearchRanking.Config

open Json

/-- The configuration takes the value for the field. -/
def Holds (config : Config) : Field → Value → Prop
  | .penalty, value => ∃ number, value = .number number ∧ config.penalty = number.toScore
  | .root, value => value = .array (config.root.map .string)
  | .leaf, value => value = .string config.leaf

def AgreesAt (config other : Config) : Field → Prop
  | .penalty => config.penalty = other.penalty
  | .root => config.root = other.root
  | .leaf => config.leaf = other.leaf

/-- Members that name each field at most once, and the configuration that they make of a base. -/
structure Describes (base : Config) (members : List (String × Value)) (config : Config) : Prop where
  distinct : (members.map Prod.fst).Nodup
  known : ∀ name ∈ members.map Prod.fst, ∃ field : Field, field.name = name
  given : ∀ field value, (Field.name field, value) ∈ members → config.Holds field value
  missing : ∀ field, Field.name field ∉ members.map Prod.fst → config.AgreesAt base field

/-- The members that a document stands for: those of an object, or the items of a list for the
fields in order. -/
def membersOf? : Value → Option (List (String × Value))
  | .object members => some members
  | .array items =>
      if items.length ≤ Field.all.length then some ((Field.all.map Field.name).zip items) else none
  | _ => none

theorem Field.name_injective {field other : Field} (hname : field.name = other.name) :
    field = other := by
  cases field <;> cases other <;> first | rfl | (revert hname; decide)

@[simp]
theorem Field.ofName?_name (field : Field) : Field.ofName? field.name = some field := by
  cases field <;> decide

@[simp]
theorem Field.ofName?_eq_some_iff {name : String} {field : Field} :
    Field.ofName? name = some field ↔ field.name = name := by
  constructor
  · intro hfind
    have hmatch := List.find?_some hfind
    exact eq_of_beq hmatch
  · rintro rfl
    exact field.ofName?_name

section Descriptions

variable {base config other third : Config} {field : Field} {value : Value}
  {members : List (String × Value)}

theorem AgreesAt.trans (hfirst : config.AgreesAt other field)
    (hsecond : other.AgreesAt third field) : config.AgreesAt third field := by
  cases field <;> exact Eq.trans hfirst hsecond

theorem AgreesAt.symm (hagrees : config.AgreesAt other field) : other.AgreesAt config field := by
  cases field <;> exact Eq.symm hagrees

theorem eq_of_agreesAt (hagrees : ∀ field, config.AgreesAt other field) : config = other := by
  have hpenalty : config.penalty = other.penalty := hagrees .penalty
  have hroot : config.root = other.root := hagrees .root
  have hleaf : config.leaf = other.leaf := hagrees .leaf
  cases config
  cases other
  simp_all

theorem Holds.of_agreesAt (hholds : other.Holds field value)
    (hagrees : config.AgreesAt other field) : config.Holds field value := by
  cases field with
  | penalty =>
      obtain ⟨number, hvalue, hpenalty⟩ := hholds
      exact ⟨number, hvalue, Eq.trans hagrees hpenalty⟩
  | root => exact Eq.trans hholds (by rw [show config.root = other.root from hagrees])
  | leaf => exact Eq.trans hholds (by rw [show config.leaf = other.leaf from hagrees])

theorem Holds.agreesAt (hconfig : config.Holds field value) (hother : other.Holds field value) :
    config.AgreesAt other field := by
  cases field with
  | penalty =>
      obtain ⟨number, rfl, hpenalty⟩ := hconfig
      obtain ⟨same, heq, hsame⟩ := hother
      cases heq
      exact hpenalty.trans hsame.symm
  | root =>
      have hroots := Value.array.inj (Eq.trans (Eq.symm hconfig) hother)
      exact (List.map_inj_right fun _ _ hstring => Value.string.inj hstring).mp hroots
  | leaf => exact Value.string.inj (Eq.trans (Eq.symm hconfig) hother)

theorem exists_mem_of_name_mem {name : String} (hname : name ∈ members.map Prod.fst) :
    ∃ value, (name, value) ∈ members := by
  obtain ⟨⟨_, value⟩, hmember, rfl⟩ := List.mem_map.mp hname
  exact ⟨value, hmember⟩

theorem Describes.unique (hconfig : Describes base members config)
    (hother : Describes base members other) : config = other := by
  refine eq_of_agreesAt fun field => ?_
  by_cases hgiven : field.name ∈ members.map Prod.fst
  · obtain ⟨value, hmember⟩ := exists_mem_of_name_mem hgiven
    exact (hconfig.given field value hmember).agreesAt (hother.given field value hmember)
  · exact (hconfig.missing field hgiven).trans (hother.missing field hgiven).symm

theorem Describes.perm {reordered : List (String × Value)}
    (hdescribes : Describes base members config) (hperm : members.Perm reordered) :
    Describes base reordered config where
  distinct := (hperm.map Prod.fst).nodup_iff.mp hdescribes.distinct
  known name hname := hdescribes.known name ((hperm.map Prod.fst).mem_iff.mpr hname)
  given field value hmember := hdescribes.given field value (hperm.mem_iff.mpr hmember)
  missing field hmissing :=
    hdescribes.missing field fun hname => hmissing ((hperm.map Prod.fst).mem_iff.mp hname)

end Descriptions

def judgeField (draft : Draft) : Field → Value → Except (Fault Mismatch) Draft
  | .penalty, value =>
      (judgeNumber value).map fun penalty => { draft with penalty := some penalty }
  | .root, value =>
      (judgeList judgeString value).map fun root => { draft with root := some root }
  | .leaf, value => (judgeString value).map fun leaf => { draft with leaf := some leaf }

@[simp]
theorem judgeNumber_eq_ok_iff {value : Value} {score : Score} :
    judgeNumber value = .ok score ↔ ∃ number, value = .number number ∧ number.toScore = score := by
  cases value <;> simp [judgeNumber, mistyped]

@[simp]
theorem judgeString_eq_ok_iff {value : Value} {text : String} :
    judgeString value = .ok text ↔ value = .string text := by
  cases value <;> simp [judgeString, mistyped]

@[simp]
theorem mapM_judgeString_eq_ok_iff {items : List Value} {texts : List String} :
    items.mapM judgeString = .ok texts ↔ items = texts.map .string := by
  induction items generalizing texts with
  | nil => cases texts <;> simp [pure, Except.pure]
  | cons item items ih =>
      simp only [List.mapM_cons, bind_eq_ok_iff, judgeString_eq_ok_iff, ih]
      constructor
      · rintro ⟨text, rfl, texts, rfl, heq⟩
        cases heq
        rfl
      · intro heq
        cases texts with
        | nil => cases heq
        | cons text texts =>
            cases heq
            exact ⟨text, rfl, texts, rfl, rfl⟩

@[simp]
theorem judgeList_judgeString_eq_ok_iff {value : Value} {texts : List String} :
    judgeList judgeString value = .ok texts ↔ value = .array (texts.map .string) := by
  cases value <;> simp [judgeList, mistyped]

section Fields

variable {draft next : Draft} {field : Field} {value : Value}

theorem judgeField_eq_ok (hjudge : judgeField draft field value = .ok next) :
    next.complete.Holds field value ∧ next.has field = true ∧
      ∀ other, other ≠ field →
        next.complete.AgreesAt draft.complete other ∧ next.has other = draft.has other := by
  cases field with
  | penalty =>
      obtain ⟨penalty, hvalue, rfl⟩ := map_eq_ok_iff.mp hjudge
      obtain ⟨number, rfl, rfl⟩ := judgeNumber_eq_ok_iff.mp hvalue
      refine ⟨⟨number, rfl, rfl⟩, rfl, ?_⟩
      intro other hother
      cases other <;> first | exact absurd rfl hother | exact ⟨rfl, rfl⟩
  | root =>
      obtain ⟨root, hvalue, rfl⟩ := map_eq_ok_iff.mp hjudge
      refine ⟨judgeList_judgeString_eq_ok_iff.mp hvalue, rfl, ?_⟩
      intro other hother
      cases other <;> first | exact absurd rfl hother | exact ⟨rfl, rfl⟩
  | leaf =>
      obtain ⟨leaf, hvalue, rfl⟩ := map_eq_ok_iff.mp hjudge
      refine ⟨judgeString_eq_ok_iff.mp hvalue, rfl, ?_⟩
      intro other hother
      cases other <;> first | exact absurd rfl hother | exact ⟨rfl, rfl⟩

theorem exists_judgeField_eq_ok {config : Config} (hholds : config.Holds field value)
    (draft : Draft) : ∃ next, judgeField draft field value = .ok next := by
  cases field with
  | penalty =>
      obtain ⟨number, rfl, -⟩ := hholds
      exact ⟨_, rfl⟩
  | root => exact ⟨_, map_eq_ok_iff.mpr ⟨_, judgeList_judgeString_eq_ok_iff.mpr hholds, rfl⟩⟩
  | leaf => exact ⟨_, map_eq_ok_iff.mpr ⟨_, judgeString_eq_ok_iff.mpr hholds, rfl⟩⟩

end Fields

/-- The judgement on a member with a known name. The fault of an unknown name shows its place in the
text, which the member itself does not tell. -/
def judgeNamed (draft : Draft) (member : String × Value) : Except (Fault Mismatch) Draft :=
  match Field.ofName? member.1 with
  | none => .error .malformed
  | some field =>
      if draft.has field then .error (.rejected (.duplicateField member.1))
      else judgeField draft field member.2

def judgeNext (draft : Draft) (value : Value) : Except (Fault Mismatch) Draft :=
  match Field.all.find? fun field => !draft.has field with
  | some field => judgeField draft field value
  | none => .error .malformed

section Runs

variable {draft next last : Draft} {members : List (String × Value)} {items : List Value}

theorem judgeNamed_eq_ok_iff {member : String × Value} :
    judgeNamed draft member = .ok next ↔
      ∃ field : Field, field.name = member.1 ∧ draft.has field = false ∧
        judgeField draft field member.2 = .ok next := by
  rw [judgeNamed]
  constructor
  · intro hjudge
    split at hjudge
    · cases hjudge
    · next field hfield =>
      split at hjudge
      · cases hjudge
      · next hempty =>
        exact ⟨field, Field.ofName?_eq_some_iff.mp hfield, Bool.eq_false_iff.mpr hempty, hjudge⟩
  · rintro ⟨field, hname, hempty, hjudge⟩
    rw [← hname, field.ofName?_name]
    simpa [hempty] using hjudge

/-- A run that ends well has met members that describe what it made of the draft, and none for a
slot that was filled before. -/
theorem foldlM_judgeNamed_eq_ok (hrun : members.foldlM judgeNamed draft = .ok last) :
    Describes draft.complete members last.complete ∧
      ∀ field, Field.name field ∈ members.map Prod.fst → draft.has field = false := by
  induction members generalizing draft with
  | nil =>
      cases hrun
      refine ⟨⟨List.nodup_nil, by simp, by simp, ?_⟩, by simp⟩
      intro field _
      cases field <;> rfl
  | cons member members ih =>
      rw [List.foldlM_cons, bind_eq_ok_iff] at hrun
      obtain ⟨next, hnext, hrest⟩ := hrun
      obtain ⟨name, value⟩ := member
      obtain ⟨field, rfl, hempty, hjudge⟩ := judgeNamed_eq_ok_iff.mp hnext
      obtain ⟨hholds, hfilled, hothers⟩ := judgeField_eq_ok hjudge
      obtain ⟨hdescribes, hslots⟩ := ih hrest
      -- The slot is filled now, so no later member names the same field.
      have hfresh : field.name ∉ members.map Prod.fst := by
        intro hname
        rw [hslots field hname] at hfilled
        cases hfilled
      refine ⟨⟨?_, ?_, ?_, ?_⟩, ?_⟩
      · exact List.nodup_cons.mpr ⟨hfresh, hdescribes.distinct⟩
      · rw [List.map_cons, List.forall_mem_cons]
        exact ⟨⟨field, rfl⟩, hdescribes.known⟩
      · intro other found hmember
        rcases List.mem_cons.mp hmember with heq | hmember
        · obtain ⟨hname, rfl⟩ := Prod.mk.inj heq
          obtain rfl := Field.name_injective hname
          exact hholds.of_agreesAt (hdescribes.missing _ hfresh)
        · exact hdescribes.given other found hmember
      · intro other hmissing
        rw [List.map_cons, List.mem_cons, not_or] at hmissing
        have hne : other ≠ field := fun heq => hmissing.1 (congrArg Field.name heq)
        exact (hdescribes.missing other hmissing.2).trans (hothers other hne).1
      · intro other hname
        rw [List.map_cons, List.mem_cons] at hname
        rcases hname with hname | hname
        · rwa [Field.name_injective hname]
        · have hne : other ≠ field := by
            rintro rfl
            exact hfresh hname
          rw [← (hothers other hne).2]
          exact hslots other hname

theorem exists_foldlM_judgeNamed_eq_ok {config : Config}
    (hdistinct : (members.map Prod.fst).Nodup)
    (hknown : ∀ member ∈ members, ∃ field : Field, field.name = member.1 ∧
      draft.has field = false ∧ config.Holds field member.2) :
    ∃ last, members.foldlM judgeNamed draft = .ok last := by
  induction members generalizing draft with
  | nil => exact ⟨draft, rfl⟩
  | cons member members ih =>
      rw [List.map_cons, List.nodup_cons] at hdistinct
      rw [List.forall_mem_cons] at hknown
      obtain ⟨⟨field, hname, hempty, hholds⟩, hrest⟩ := hknown
      obtain ⟨next, hjudge⟩ := exists_judgeField_eq_ok hholds draft
      obtain ⟨-, -, hothers⟩ := judgeField_eq_ok hjudge
      have hstill : ∀ member ∈ members, ∃ field : Field, field.name = member.1 ∧
          next.has field = false ∧ config.Holds field member.2 := by
        intro other hother
        obtain ⟨otherField, hotherName, hotherEmpty, hotherHolds⟩ := hrest other hother
        have hne : otherField ≠ field := by
          rintro rfl
          refine hdistinct.1 ?_
          rw [← hname, hotherName]
          exact List.mem_map_of_mem hother
        refine ⟨otherField, hotherName, ?_, hotherHolds⟩
        rw [(hothers otherField hne).2]
        exact hotherEmpty
      obtain ⟨last, hlast⟩ := ih hdistinct.2 hstill
      refine ⟨last, ?_⟩
      rw [List.foldlM_cons, judgeNamed_eq_ok_iff.mpr ⟨field, hname, hempty, hjudge⟩]
      exact hlast

theorem foldlM_judgeNamed_iff {config : Config} :
    (∃ last, members.foldlM judgeNamed Draft.empty = .ok last ∧ last.complete = config) ↔
      Describes standard members config := by
  constructor
  · rintro ⟨last, hrun, rfl⟩
    exact (foldlM_judgeNamed_eq_ok hrun).1
  · intro hdescribes
    have hknown : ∀ member ∈ members, ∃ field : Field, field.name = member.1 ∧
        Draft.empty.has field = false ∧ config.Holds field member.2 := by
      rintro ⟨name, value⟩ hmember
      obtain ⟨field, rfl⟩ := hdescribes.known name (List.mem_map_of_mem hmember)
      refine ⟨field, rfl, ?_, hdescribes.given field value hmember⟩
      cases field <;> rfl
    obtain ⟨last, hrun⟩ := exists_foldlM_judgeNamed_eq_ok hdescribes.distinct hknown
    exact ⟨last, hrun, (foldlM_judgeNamed_eq_ok hrun).1.unique hdescribes⟩

end Runs

/-- The fields without a value, in order: the next items of a list are for them. -/
def Draft.lacking (draft : Draft) : List Field := Field.all.filter fun field => !draft.has field

section Lists

variable {draft next last : Draft} {items : List Value} {field : Field} {later : List Field}

theorem judgeNext_of_lacking_nil (hlacking : draft.lacking = []) (item : Value) :
    judgeNext draft item = .error .malformed := by
  rw [judgeNext, ← List.head?_filter, ← Draft.lacking, hlacking]
  rfl

theorem has_of_mem_lacking (hmem : field ∈ draft.lacking) : draft.has field = false := by
  simpa using (List.mem_filter.mp hmem).2

theorem judgeNext_of_lacking_cons (hlacking : draft.lacking = field :: later) (item : Value) :
    judgeNext draft item = judgeField draft field item ∧
      judgeNext draft item = judgeNamed draft (field.name, item) := by
  have hempty : draft.has field = false :=
    has_of_mem_lacking (hlacking ▸ List.mem_cons_self)
  have hnext : judgeNext draft item = judgeField draft field item := by
    rw [judgeNext, ← List.head?_filter, ← Draft.lacking, hlacking]
    rfl
  refine ⟨hnext, ?_⟩
  rw [hnext, judgeNamed, field.ofName?_name]
  simp [hempty]

theorem lacking_of_judgeField {item : Value} (hlacking : draft.lacking = field :: later)
    (hjudge : judgeField draft field item = .ok next) : next.lacking = later := by
  obtain ⟨-, hfilled, hothers⟩ := judgeField_eq_ok hjudge
  have hnodup : (field :: later).Nodup := by
    rw [← hlacking]
    exact List.Pairwise.filter _ (by decide : Field.all.Nodup)
  have hrest : next.lacking = draft.lacking.filter fun other => decide (other ≠ field) := by
    rw [Draft.lacking, Draft.lacking, List.filter_filter]
    refine List.filter_congr fun other _ => ?_
    by_cases hother : other = field
    · simp [hother, hfilled]
    · simp [hother, (hothers other hother).2]
  rw [hrest, hlacking, List.filter_cons_of_neg (by simp), List.filter_eq_self]
  intro other hother
  rw [decide_eq_true_iff]
  rintro rfl
  exact (List.nodup_cons.mp hnodup).1 hother

theorem foldlM_judgeNext_eq (hle : items.length ≤ draft.lacking.length) :
    items.foldlM judgeNext draft =
      ((draft.lacking.map Field.name).zip items).foldlM judgeNamed draft := by
  induction items generalizing draft with
  | nil =>
      rw [List.zip_nil_right]
      rfl
  | cons item items ih =>
      obtain ⟨field, later, hlacking⟩ := List.exists_cons_of_length_pos (Nat.zero_lt_of_lt hle)
      obtain ⟨hfield, hnamed⟩ := judgeNext_of_lacking_cons hlacking item
      rw [hlacking] at hle ⊢
      rw [List.map_cons, List.zip_cons_cons, List.foldlM_cons, List.foldlM_cons, ← hnamed]
      cases hjudge : judgeNext draft item with
      | error fault => rfl
      | ok next =>
          have hlater := lacking_of_judgeField hlacking (hfield.symm.trans hjudge)
          rw [← hlater] at hle ⊢
          exact ih (Nat.le_of_succ_le_succ hle)

theorem length_le_of_foldlM_judgeNext (hrun : items.foldlM judgeNext draft = .ok last) :
    items.length ≤ draft.lacking.length := by
  induction items generalizing draft with
  | nil => exact Nat.zero_le _
  | cons item items ih =>
      rw [List.foldlM_cons, bind_eq_ok_iff] at hrun
      obtain ⟨next, hnext, hrest⟩ := hrun
      cases hlacking : draft.lacking with
      | nil =>
          rw [judgeNext_of_lacking_nil hlacking] at hnext
          cases hnext
      | cons field later =>
          have hfield := (judgeNext_of_lacking_cons hlacking item).1
          have hlater := lacking_of_judgeField hlacking (hfield.symm.trans hnext)
          have hle := ih hrest
          rw [hlater] at hle
          exact Nat.succ_le_succ hle

end Lists

end SearchRanking.Config
