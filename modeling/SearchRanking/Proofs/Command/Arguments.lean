import Mathlib.Data.List.Forall2
import SearchRanking.Command.Arguments
import SearchRanking.Proofs.Decimal.Literal
import SearchRanking.Proofs.Json.Container

/-!
# Arguments in any order

A command line is a sequence of pieces behind the name of its command: plain words, options with
their values, and a flag. Every piece can be spelled in several ways, and the value of an option may
be pending when the next piece begins. Settling what is pending turns the draft of a command line
into that of its pieces, whatever their spelling. A draft collects each option once and the plain
words in turn, so the order of the pieces decides on nothing but the order of the plain words.
-/

namespace SearchRanking.Command

open Json

def Verb.name : Verb → String
  | .rank => "rank"
  | .score => "score"
  | .classify => "classify"

def verb : Command → Verb
  | .rank .. => .rank
  | .score .. => .score
  | .classify .. => .classify

def words : Command → List String
  | .rank file _ _ _ => file.toList
  | .score record _ => [record]
  | .classify paths _ => paths

def options : Command → Options
  | .rank _ options _ _ => options
  | .score _ options => options
  | .classify _ options => options

def limit : Command → Option Nat
  | .rank _ _ limit _ => limit
  | _ => none

def json : Command → Bool
  | .rank _ _ _ json => json
  | _ => false

inductive Piece where
  | plain (word : String)
  | option (key : Key) (value : String)
  | json
  deriving DecidableEq

namespace Piece

def word? : Piece → Option String
  | .plain word => some word
  | _ => none

def value? (key : Key) : Piece → Option String
  | .option other value => if other = key then some value else none
  | _ => none

end Piece

/-- The pieces make up the command: its plain words in their order, each of its options once with a
text of its value, and the flag if it is set, at any places. -/
structure Arranges (command : Command) (pieces : List Piece) : Prop where
  words_eq : pieces.filterMap Piece.word? = command.words
  config_eq : pieces.filterMap (Piece.value? .config) = command.options.config.toList
  penalty_eq : (pieces.filterMap (Piece.value? .penalty)).map Score.ofText? =
    (command.options.penalty.map some).toList
  limit_eq : (pieces.filterMap (Piece.value? .limit)).map limitOf? =
    (command.limit.map some).toList
  json_eq : pieces.count .json = command.json.toNat

def Key.name : Key → String
  | .config => "config"
  | .penalty => "penalty"
  | .limit => "limit"

def Key.letter? : Key → Option Char
  | .config => some 'c'
  | .penalty => none
  | .limit => some 'l'

/-- A word that does not begin with a hyphen, or a hyphen alone. -/
def IsPlain (word : String) : Prop := word.toList.head? ≠ some '-' ∨ word = "-"

/-- The words that a piece can be spelled with. Only a path of a configuration needs to be plain
where it stands in a word of its own: limits are always plain, penalties need not be. -/
inductive Spelled : Piece → List String → Prop
  | plain {word : String} (hplain : IsPlain word) : Spelled (.plain word) [word]
  | joined (key : Key) (value : String) :
      Spelled (.option key value) ["--" ++ key.name ++ "=" ++ value]
  | next {key : Key} {value : String} (hplain : key = .config → IsPlain value) :
      Spelled (.option key value) ["--" ++ key.name, value]
  | short {key : Key} {value : String} {letter : Char} (hletter : key.letter? = some letter)
      (hplain : key = .config → IsPlain value) :
      Spelled (.option key value) [String.ofList ['-', letter], value]
  | json : Spelled .json ["--json"]

section Words

variable {word value : String} {key : Key}

theorem word_of_isPlain (hplain : IsPlain word) : Word.of word = .plain := by
  rcases hplain with hhead | rfl
  · rw [Word.of]
    split <;> simp_all
  · rfl

@[simp]
theorem word_of_name (key : Key) : Word.of ("--" ++ key.name) = .long key.name.toList none := by
  cases key <;> rfl

@[simp]
theorem word_of_joined (key : Key) (value : String) :
    Word.of ("--" ++ key.name ++ "=" ++ value) = .long key.name.toList (some value) := by
  cases key <;> simp [Word.of, Key.name, List.span, List.span.loop]

theorem word_of_letter {letter : Char} (hletter : key.letter? = some letter) :
    Word.of (String.ofList ['-', letter]) = .short letter [] := by
  cases key with
  | config => cases hletter; rfl
  | penalty => cases hletter
  | limit => cases hletter; rfl

theorem isPlain_of_limitOf? {n : Nat} (hlimit : limitOf? value = some n) : IsPlain value := by
  refine .inl fun hhead => ?_
  obtain ⟨rest, hchars⟩ := List.head?_eq_some_iff.mp hhead
  rw [limitOf?, hchars] at hlimit
  simp [Decimal.boundedOf?, Decimal.naturalOf?] at hlimit

theorem longSwitch?_name {verb : Verb} (hverb : key = .limit → verb = .rank) :
    verb.longSwitch? key.name.toList = some (.key key) := by
  cases key with
  | config => rfl
  | penalty => rfl
  | limit => rw [hverb rfl]; rfl

theorem shortSwitch?_letter {verb : Verb} {letter : Char} (hletter : key.letter? = some letter)
    (hverb : key = .limit → verb = .rank) : verb.shortSwitch? letter = some (.key key) := by
  cases key with
  | config => cases hletter; rfl
  | penalty => cases hletter
  | limit => cases hletter; rw [hverb rfl]; rfl

end Words

@[simp]
theorem limitOf?_repr {n : Nat} (hlt : n < 0x10000000000000000) : limitOf? n.repr = some n := by
  have hdigits := Decimal.allDigits_digitsOf n
  have hnatural : Decimal.naturalOf? (Decimal.digitsOf n) = some n := by
    have hall : (Decimal.digitsOf n).all Char.isDigit = true := List.all_eq_true.mpr hdigits
    have hne : (Decimal.digitsOf n).isEmpty = false := by
      rw [List.isEmpty_eq_false_iff]
      exact Nat.toDigits_ne_nil
    rw [Decimal.naturalOf?, hall, hne, Decimal.appendDigits_digitsOf]
    rfl
  rw [limitOf?, Decimal.toList_repr]
  unfold Decimal.boundedOf?
  split
  · next rest hplus =>
    exact absurd (hdigits '+' (hplus ▸ List.mem_cons_self)) (by decide)
  · simp [hnatural, hlt]

/-! ### Taking pieces

`put` takes a whole piece where nothing is pending. Taking the words of its spelling one by one
comes to the same, up to a value that is still pending and gets settled later. -/

namespace Draft

def put (verb : Verb) (draft : Draft) : Piece → Except UsageFault Draft
  | .plain word =>
      if verb ≠ .classify && !draft.plain.isEmpty then .error .unknownArgument
      else .ok { draft with plain := draft.plain ++ [word] }
  | .option key value =>
      if key = .limit && verb ≠ .rank then .error .unknownArgument else draft.store key value
  | .json =>
      if verb ≠ .rank then .error .unknownArgument
      else if draft.json then .error .repeated
      else .ok { draft with json := true }

structure IsSettled (draft : Draft) : Prop where
  pending_eq : draft.pending = none
  plainOnly_eq : draft.plainOnly = false

/-- No option waits for its value, and the draft becomes another one when a value that is pending is
taken. -/
structure Settles (draft settled : Draft) : Prop where
  isSettled : settled.IsSettled
  settle_eq : draft.settle = .ok settled
  plain_eq : draft.plain = settled.plain
  plainOnly_eq : draft.plainOnly = false
  not_waiting : ∀ key, draft.pending ≠ some (key, none)

section Pieces

variable {verb : Verb} {draft settled next : Draft} {key : Key} {value : String} {piece : Piece}

theorem IsSettled.settles (hsettled : settled.IsSettled) : Settles settled settled where
  isSettled := hsettled
  settle_eq := by rw [settle, hsettled.pending_eq]
  plain_eq := rfl
  plainOnly_eq := hsettled.plainOnly_eq
  not_waiting := by simp [hsettled.pending_eq]

/-- Storing a value touches nothing but its option. -/
theorem store_frame (hstore : settled.store key value = .ok next) :
    next.plain = settled.plain ∧ next.pending = settled.pending ∧
      next.plainOnly = settled.plainOnly := by
  unfold store at hstore
  split at hstore
  · cases hstore
  · cases key with
    | config =>
        cases hstore
        exact ⟨rfl, rfl, rfl⟩
    | penalty | limit =>
        simp only at hstore
        split at hstore
        · cases hstore
          exact ⟨rfl, rfl, rfl⟩
        · cases hstore

theorem IsSettled.of_store (hsettled : settled.IsSettled)
    (hstore : settled.store key value = .ok next) : next.IsSettled := by
  obtain ⟨-, hpending, hplainOnly⟩ := store_frame hstore
  exact ⟨hpending.trans hsettled.pending_eq, hplainOnly.trans hsettled.plainOnly_eq⟩

theorem takeKey_of_settles (hsettles : Settles draft settled) (key : Key)
    (value : Option String) :
    draft.takeKey key value =
      match value with
      | some value => settled.store key value
      | none => .ok { settled with pending := some (key, none) } := by
  rw [takeKey, hsettles.settle_eq]
  rfl

/-- A draft that waits for no value looks at the form of the next word. -/
theorem take_of_settles (hsettles : Settles draft settled) (verb : Verb) (word : String) :
    draft.take verb word =
      match Word.of word with
      | .stop => .ok { draft with plainOnly := true }
      | .long name value => draft.takeLong verb name value
      | .short letter rest => draft.takeShort verb letter rest
      | .plain => draft.takePlain verb word := by
  rw [take, hsettles.plainOnly_eq, if_neg Bool.false_ne_true,
    if_neg (hsettles.not_waiting .penalty)]
  cases hword : Word.of word with
  | plain =>
      simp only
      split
      · next key hpending => exact absurd hpending (hsettles.not_waiting key)
      · rfl
  | stop | long | short => rfl

/-- An option that waits takes the next word as its value, and gets it stored when it is settled. -/
theorem take_value (hsettled : settled.IsSettled) (hplain : key = .penalty ∨ IsPlain value)
    (hstore : settled.store key value = .ok next) (verb : Verb) :
    ∃ after, { settled with pending := some (key, none) }.take verb value = .ok after ∧
      Settles after next := by
  refine ⟨{ settled with pending := some (key, some value) }, ?_, ?_⟩
  · rw [take]
    simp only [hsettled.plainOnly_eq, Bool.false_eq_true, if_false]
    split
    · next hpenalty =>
      cases hpenalty
      rfl
    · next hother =>
      have hvalue : IsPlain value := hplain.resolve_left fun hkey => hother (by rw [hkey])
      rw [word_of_isPlain hvalue]
  · have hsame : { settled with pending := none } = settled := by
      rw [← hsettled.pending_eq]
    refine ⟨hsettled.of_store hstore, ?_, (store_frame hstore).1.symm, hsettled.plainOnly_eq,
      by simp⟩
    simp only [settle]
    rw [hsame, hstore]

theorem isPlain_of_store (hconfig : key = .config → IsPlain value)
    (hstore : settled.store key value = .ok next) : key = .penalty ∨ IsPlain value := by
  cases key with
  | config => exact .inr (hconfig rfl)
  | penalty => exact .inl rfl
  | limit =>
      unfold store at hstore
      split at hstore
      · cases hstore
      · simp only at hstore
        split at hstore
        · next hlimit => exact .inr (isPlain_of_limitOf? hlimit)
        · cases hstore

theorem take_option_value {word : String} (hword : draft.take verb word = draft.takeKey key none)
    (hsettles : Settles draft settled) (hconfig : key = .config → IsPlain value)
    (hstore : settled.store key value = .ok next) :
    ∃ after, [word, value].foldlM (fun draft word => draft.take verb word) draft = .ok after ∧
      Settles after next := by
  obtain ⟨after, hvalue, hafter⟩ :=
    take_value hsettles.isSettled (isPlain_of_store hconfig hstore) hstore verb
  refine ⟨after, ?_, hafter⟩
  have hwaits : draft.take verb word = .ok { settled with pending := some (key, none) } := by
    rw [hword, takeKey_of_settles hsettles]
  simp only [List.foldlM_cons, List.foldlM_nil, hwaits, bind_pure]
  exact hvalue

/-- Taking the words of a piece comes to the same as taking the piece. -/
theorem take_spelled {words : List String} (hspelled : Spelled piece words)
    (hsettles : Settles draft settled) (hput : settled.put verb piece = .ok next) :
    ∃ after, words.foldlM (fun draft word => draft.take verb word) draft = .ok after ∧
      Settles after next := by
  have hsettled := hsettles.isSettled
  have hoption : ∀ {key value}, piece = .option key value →
      (key = .limit → verb = .rank) ∧ settled.store key value = .ok next := by
    rintro key value rfl
    rw [put] at hput
    split at hput
    · cases hput
    · next hverb => exact ⟨by simpa using hverb, hput⟩
  cases hspelled with
  | @plain word hplain =>
      rw [put] at hput
      split at hput
      · cases hput
      · next hroom =>
        cases hput
        refine ⟨_, ?_, IsSettled.settles ⟨hsettled.pending_eq, hsettled.plainOnly_eq⟩⟩
        simp only [List.foldlM_cons, List.foldlM_nil, take_of_settles hsettles,
          word_of_isPlain hplain, takePlain, hsettles.plain_eq, if_neg hroom, hsettles.settle_eq]
        rfl
  | joined key value =>
      obtain ⟨hverb, hstore⟩ := hoption rfl
      refine ⟨next, ?_, (hsettled.of_store hstore).settles⟩
      simp only [List.foldlM_cons, List.foldlM_nil, take_of_settles hsettles, word_of_joined,
        takeLong, longSwitch?_name hverb, takeKey_of_settles hsettles, hstore]
      rfl
  | @next key value hplain =>
      obtain ⟨hverb, hstore⟩ := hoption rfl
      refine take_option_value ?_ hsettles hplain hstore
      simp only [take_of_settles hsettles, word_of_name, takeLong, longSwitch?_name hverb]
  | @short key value letter hletter hplain =>
      obtain ⟨hverb, hstore⟩ := hoption rfl
      refine take_option_value ?_ hsettles hplain hstore
      simp only [take_of_settles hsettles, word_of_letter hletter, takeShort,
        shortSwitch?_letter hletter hverb]
  | json =>
      rw [put] at hput
      split at hput
      · cases hput
      · next hverb =>
        have hrank : verb = .rank := by simpa using hverb
        split at hput
        · cases hput
        · next hfirst =>
          cases hput
          refine ⟨_, ?_, IsSettled.settles ⟨hsettled.pending_eq, hsettled.plainOnly_eq⟩⟩
          have hword : Word.of "--json" = .long "json".toList none := rfl
          have hswitch : Verb.rank.longSwitch? "json".toList = some .json := rfl
          simp only [List.foldlM_cons, List.foldlM_nil, take_of_settles hsettles, hword, takeLong,
            hrank, hswitch, Option.isSome_none, Bool.false_eq_true, if_false, takeJson,
            hsettles.settle_eq, bind_pure]
          exact if_neg hfirst

theorem take_all_spelled {pieces : List Piece} {spelled : List (List String)}
    (hspelled : List.Forall₂ Spelled pieces spelled) (hsettles : Settles draft settled)
    (hput : pieces.foldlM (put verb) settled = .ok next) :
    ∃ after, spelled.flatten.foldlM (fun draft word => draft.take verb word) draft = .ok after ∧
      Settles after next := by
  induction hspelled generalizing draft settled with
  | nil =>
      cases hput
      exact ⟨draft, rfl, hsettles⟩
  | cons hpiece _ ih =>
      rw [List.foldlM_cons, bind_eq_ok_iff] at hput
      obtain ⟨middle, hmiddle, hrest⟩ := hput
      obtain ⟨between, hwords, hbetween⟩ := take_spelled hpiece hsettles hmiddle
      obtain ⟨after, hafter, hnext⟩ := ih hbetween hrest
      refine ⟨after, ?_, hnext⟩
      rw [List.flatten_cons, List.foldlM_append, hwords]
      exact hafter

end Pieces

/-- A draft and the pieces that are still to come make up a final draft. -/
structure Completes (draft : Draft) (pieces : List Piece) (final : Draft) : Prop where
  plain_eq : draft.plain ++ pieces.filterMap Piece.word? = final.plain
  config_eq : draft.config.toList ++ pieces.filterMap (Piece.value? .config) = final.config.toList
  penalty_eq : (draft.penalty.map some).toList ++
    (pieces.filterMap (Piece.value? .penalty)).map Score.ofText? = (final.penalty.map some).toList
  limit_eq : (draft.limit.map some).toList ++
    (pieces.filterMap (Piece.value? .limit)).map limitOf? = (final.limit.map some).toList
  json_eq : draft.json.toNat + pieces.count .json = final.json.toNat
  pending_eq : draft.pending = final.pending
  plainOnly_eq : draft.plainOnly = final.plainOnly

/-- What a command of a verb can hold. -/
structure Suits (verb : Verb) (final : Draft) : Prop where
  plain : verb = .classify ∨ final.plain.length ≤ 1
  limit : verb = .rank ∨ final.limit = none
  json : verb = .rank ∨ final.json = false

theorem eq_of_toList_eq {α : Type} {left right : Option α} (heq : left.toList = right.toList) :
    left = right := by
  have hhead := congrArg List.head? heq
  simpa using hhead

theorem toList_append_cons {α : Type} {before after : Option α} {value : α} {rest : List α}
    (heq : before.toList ++ value :: rest = after.toList) :
    before = none ∧ after = some value ∧ rest = [] := by
  cases before <;> cases after <;> simp_all

section Collecting

variable {verb : Verb} {draft final : Draft} {piece : Piece} {pieces : List Piece}

theorem Completes.eq_of_nil (hcompletes : Completes draft [] final) : draft = final := by
  obtain ⟨hplain, hconfig, hpenalty, hlimit, hjson, hpending, hplainOnly⟩ := hcompletes
  simp only [List.filterMap_nil, List.map_nil, List.append_nil, List.count_nil, Nat.add_zero]
    at hplain hconfig hpenalty hlimit hjson
  have hsamePenalty := Option.map_injective (Option.some_injective _) (eq_of_toList_eq hpenalty)
  have hsameLimit := Option.map_injective (Option.some_injective _) (eq_of_toList_eq hlimit)
  have hsameJson : draft.json = final.json := by
    revert hjson
    cases draft.json <;> cases final.json <;> simp
  cases draft
  cases final
  simp only [mk.injEq]
  exact ⟨hplain, eq_of_toList_eq hconfig, hsamePenalty, hsameLimit, hsameJson, hpending,
    hplainOnly⟩

theorem Completes.step_plain {word : String}
    (hcompletes : Completes draft (.plain word :: pieces) final) (hsuits : Suits verb final) :
    ∃ next, draft.put verb (.plain word) = .ok next ∧ Completes next pieces final := by
  have hplain : draft.plain ++ word :: pieces.filterMap Piece.word? = final.plain :=
    hcompletes.plain_eq
  have hroom : ¬ (verb ≠ .classify && !draft.plain.isEmpty) = true := by
    rcases hsuits.plain with rfl | hlength
    · simp
    · have hempty : draft.plain = [] := by
        rw [← hplain, List.length_append, List.length_cons] at hlength
        exact List.eq_nil_of_length_eq_zero (by omega)
      simp [hempty]
  refine ⟨_, if_neg hroom, { hcompletes with plain_eq := ?_ }⟩
  rw [← hplain, List.append_assoc]
  rfl

theorem Completes.step_option {key : Key} {value : String}
    (hcompletes : Completes draft (.option key value :: pieces) final) (hsuits : Suits verb final) :
    ∃ next, draft.put verb (.option key value) = .ok next ∧ Completes next pieces final := by
  cases key with
  | config =>
      have hconfig : draft.config.toList ++ value :: pieces.filterMap (Piece.value? .config) =
          final.config.toList := hcompletes.config_eq
      obtain ⟨hnone, hsome, hrest⟩ := toList_append_cons hconfig
      refine ⟨{ draft with config := some value }, ?_, { hcompletes with config_eq := ?_ }⟩
      · simp [put, store, has, hnone]
      · rw [hsome, hrest]
        rfl
  | penalty =>
      have hpenalty : (draft.penalty.map some).toList ++ Score.ofText? value ::
          (pieces.filterMap (Piece.value? .penalty)).map Score.ofText? =
            (final.penalty.map some).toList := hcompletes.penalty_eq
      obtain ⟨hnone, hsome, hrest⟩ := toList_append_cons hpenalty
      obtain ⟨penalty, hfinal, hread⟩ := Option.map_eq_some_iff.mp hsome
      rw [Option.map_eq_none_iff] at hnone
      refine ⟨{ draft with penalty := some penalty }, ?_, { hcompletes with penalty_eq := ?_ }⟩
      · simp [put, store, has, hnone, ← hread]
      · rw [hfinal, hrest]
        rfl
  | limit =>
      have hlimit : (draft.limit.map some).toList ++ limitOf? value ::
          (pieces.filterMap (Piece.value? .limit)).map limitOf? =
            (final.limit.map some).toList := hcompletes.limit_eq
      obtain ⟨hnone, hsome, hrest⟩ := toList_append_cons hlimit
      obtain ⟨limit, hfinal, hread⟩ := Option.map_eq_some_iff.mp hsome
      rw [Option.map_eq_none_iff] at hnone
      have hrank : verb = .rank := hsuits.limit.resolve_right (by simp [hfinal])
      refine ⟨{ draft with limit := some limit }, ?_, { hcompletes with limit_eq := ?_ }⟩
      · simp [put, store, has, hnone, ← hread, hrank]
      · rw [hfinal, hrest]
        rfl

theorem Completes.step_json
    (hcompletes : Completes draft (.json :: pieces) final) (hsuits : Suits verb final) :
    ∃ next, draft.put verb .json = .ok next ∧ Completes next pieces final := by
  have hjson := hcompletes.json_eq
  rw [List.count_cons_self] at hjson
  have hbound := Bool.toNat_le final.json
  have hfirst : draft.json = false := by
    cases hflag : draft.json with
    | false => rfl
    | true =>
        rw [hflag, Bool.toNat_true] at hjson
        omega
  have hset : final.json = true := by
    cases hflag : final.json with
    | true => rfl
    | false =>
        rw [hflag, Bool.toNat_false] at hjson
        omega
  have hrank : verb = .rank := hsuits.json.resolve_right (by simp [hset])
  refine ⟨{ draft with json := true }, ?_, { hcompletes with json_eq := ?_ }⟩
  · rw [put, hrank, hfirst]
    rfl
  · rw [hfirst, hset] at hjson
    rw [hset, Bool.toNat_true]
    simpa using hjson

/-- The next piece can be taken, and the others still make up the final draft. -/
theorem Completes.step (hcompletes : Completes draft (piece :: pieces) final)
    (hsuits : Suits verb final) :
    ∃ next, draft.put verb piece = .ok next ∧ Completes next pieces final := by
  cases piece with
  | plain word => exact hcompletes.step_plain hsuits
  | option key value => exact hcompletes.step_option hsuits
  | json => exact hcompletes.step_json hsuits

theorem Completes.run (hcompletes : Completes draft pieces final) (hsuits : Suits verb final) :
    pieces.foldlM (put verb) draft = .ok final := by
  induction pieces generalizing draft with
  | nil =>
      rw [hcompletes.eq_of_nil]
      rfl
  | cons piece pieces ih =>
      obtain ⟨next, hput, hnext⟩ := hcompletes.step hsuits
      rw [List.foldlM_cons, hput]
      exact ih hnext

end Collecting

end Draft

/-! ### Every arrangement of a command -/

section Arrangements

variable {command : Command} {pieces : List Piece}

def draft (command : Command) : Draft where
  plain := command.words
  config := command.options.config
  penalty := command.options.penalty
  limit := command.limit
  json := command.json
  pending := none
  plainOnly := false

theorem suits_draft (command : Command) : Draft.Suits command.verb command.draft := by
  cases command with
  | rank file options limit json =>
      exact ⟨.inr (by cases file <;> simp [draft, words]), .inl rfl, .inl rfl⟩
  | score record options => exact ⟨.inr (by simp [draft, words]), .inr rfl, .inr rfl⟩
  | classify paths options => exact ⟨.inl rfl, .inr rfl, .inr rfl⟩

theorem Arranges.completes (harranges : Arranges command pieces) :
    Draft.Completes Draft.empty pieces command.draft where
  plain_eq := harranges.words_eq
  config_eq := harranges.config_eq
  penalty_eq := harranges.penalty_eq
  limit_eq := harranges.limit_eq
  json_eq := (Nat.zero_add _).trans harranges.json_eq
  pending_eq := rfl
  plainOnly_eq := rfl

theorem Draft.finish_of_settles {draft settled : Draft} (hsettles : Draft.Settles draft settled)
    (verb : Verb) : draft.finish verb = settled.finish verb := by
  rw [finish, finish, hsettles.settle_eq, hsettles.isSettled.settles.settle_eq]

theorem finish_draft (hpaths : command.verb = .classify → command.words ≠ []) :
    command.draft.finish command.verb = .ok command := by
  cases command with
  | rank file options limit json => cases file <;> rfl
  | score record options => rfl
  | classify paths options =>
      cases paths with
      | nil => exact absurd rfl (hpaths rfl)
      | cons path paths => rfl

@[simp]
theorem parse_name_cons (verb : Verb) (words : List String) :
    parse (verb.name :: words) = ofVerb verb words := by
  cases verb <;> rfl

/-- A command line says what its pieces say: however the pieces of a command are ordered and
spelled, exactly that command is read back, with its plain words in their order. A limit may be
any number of 64 bits, in its decimal digits for one. -/
theorem parse_any_arrangement :
    (∀ n, n < 0x10000000000000000 → limitOf? n.repr = some n) ∧
      ∀ (command : Command) (pieces : List Piece) (spelled : List (List String)),
        Arranges command pieces → List.Forall₂ Spelled pieces spelled →
          (command.verb = .classify → command.words ≠ []) →
            parse (command.verb.name :: spelled.flatten) = .ok command := by
  refine ⟨fun n hlt => limitOf?_repr hlt, ?_⟩
  intro command pieces spelled harranges hspelled hpaths
  have hput := harranges.completes.run (suits_draft command)
  have hempty : Draft.Settles Draft.empty Draft.empty := Draft.IsSettled.settles ⟨rfl, rfl⟩
  obtain ⟨after, hwords, hafter⟩ := Draft.take_all_spelled hspelled hempty hput
  calc parse (command.verb.name :: spelled.flatten)
      = ofVerb command.verb spelled.flatten := parse_name_cons _ _
    _ = after.finish command.verb := by rw [ofVerb, hwords]; rfl
    _ = command.draft.finish command.verb := Draft.finish_of_settles hafter _
    _ = .ok command := finish_draft hpaths

/-- A penalty below zero in a word of its own, and paths on both sides of an option. -/
theorem parse_mixed_lines :
    parse ["rank", "--penalty", "-0.5", "-c", "conf.json", "--json", "-", "--limit=007"] =
        .ok (.rank (some "-") ⟨some "conf.json", some (.ofBits 0xbfe0000000000000)⟩ (some 7)
          true) ∧
      parse ["classify", "b.html", "--config=-c", "a.html", "--penalty", "-0.5", "c.html"] =
        .ok (.classify ["b.html", "a.html", "c.html"]
          ⟨some "-c", some (.ofBits 0xbfe0000000000000)⟩) := by
  have hhalf : Score.ofText? "-0.5" = some (.ofBits 0xbfe0000000000000) := by decide +kernel
  have hrank : Arranges
      (.rank (some "-") ⟨some "conf.json", some (.ofBits 0xbfe0000000000000)⟩ (some 7) true)
      [.option .penalty "-0.5", .option .config "conf.json", .json, .plain "-",
        .option .limit "007"] :=
    ⟨rfl, rfl, congrArg (fun read => [read]) hhalf, by decide, rfl⟩
  have hclassify : Arranges
      (.classify ["b.html", "a.html", "c.html"] ⟨some "-c", some (.ofBits 0xbfe0000000000000)⟩)
      [.plain "b.html", .option .config "-c", .plain "a.html", .option .penalty "-0.5",
        .plain "c.html"] :=
    ⟨rfl, rfl, congrArg (fun read => [read]) hhalf, rfl, rfl⟩
  constructor
  · refine parse_any_arrangement.2 _ _ _ hrank
      (.cons (.next ?_) (.cons (.short rfl ?_) (.cons .json (.cons (.plain (.inr rfl))
        (.cons (.joined _ _) .nil))))) ?_
    · exact fun hkey => nomatch hkey
    · exact fun _ => .inl (by decide)
    · exact fun hverb => nomatch hverb
  · refine parse_any_arrangement.2 _ _ _ hclassify
      (.cons (.plain (.inl ?_)) (.cons (.joined _ _) (.cons (.plain (.inl ?_))
        (.cons (.next ?_) (.cons (.plain (.inl ?_)) .nil))))) ?_
    · decide
    · decide
    · exact fun hkey => nomatch hkey
    · decide
    · exact fun _ => List.cons_ne_nil _ _

end Arrangements

end SearchRanking.Command
