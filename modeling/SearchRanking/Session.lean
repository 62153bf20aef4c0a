import SearchRanking.Config.Reader
import SearchRanking.Json.Writer
import SearchRanking.Ranking
import SearchRanking.Record.Codec

namespace SearchRanking

structure Session where
  config : Config
  candidates : List Record
  limit : Option Nat
  ranking : List Entry

namespace Session

def start : Session where
  config := Config.standard
  candidates := []
  limit := none
  ranking := []

inductive Step where
  | configure (text : String)
  | setPenalty (penalty : Option Score)
  | addList (text : String)
  | addOne (text : String)
  | setLimit (limit : Option Nat)
  | clear
  | rank
  | feedBack
  | roundTrip
  | stats
  | classify (path : String)
  | score (text : String)

inductive Answer where
  | config (config : Config)
  | count (count : Nat)
  | limit (limit : Option Nat)
  | ranking (entries : List Entry)
  | records (records : List Record)
  | stats (stats : Stats)
  | verdict (generated : Bool)
  | score (score : Score)

def withCandidates (session : Session) (records : List Record) : Session × Answer :=
  ({ session with candidates := records }, .records records)

/-- Appends candidates and answers how many there are. -/
def append (session : Session) (records : List Record) : Session × Answer :=
  let candidates := session.candidates ++ records
  ({ session with candidates := candidates }, .count candidates.length)

/-- The session after a step, and the answer to it. -/
def step (session : Session) : Step → Except Failure (Session × Answer)
  | .configure text => do
      let config ← Config.ofText text
      .ok ({ session with config := config }, .config config)
  | .setPenalty penalty => do
      let config ← (session.config.withPenalty penalty).mapError .config
      .ok ({ session with config := config }, .config config)
  | .addList text => do
      let records ← Record.decodeList text
      .ok (session.append records)
  | .addOne text => do
      let record ← Record.decode text
      .ok (session.append [record])
  | .setLimit limit => .ok ({ session with limit := limit }, .limit limit)
  | .clear => .ok ({ session with candidates := [] }, .count 0)
  | .rank =>
      let entries := Ranking.rank session.config.scorer session.limit session.candidates
      .ok ({ session with ranking := entries }, .ranking entries)
  | .feedBack =>
      .ok (session.withCandidates (session.ranking.map fun entry =>
        { entry.record with score := entry.score }))
  | .roundTrip => do
      let records := session.ranking.map Entry.record
      let decoded ← Record.decodeList (Json.compactText (Record.listValue records))
      .ok (session.withCandidates decoded)
  | .stats => .ok (session, .stats (Ranking.stats session.ranking))
  | .classify path => .ok (session, .verdict (session.config.pattern.recognizes path))
  | .score text => do
      let record ← Record.decode text
      .ok (session, .score (session.config.scorer record))

/-- A step that fails changes nothing. -/
def answers (session : Session) : List Step → List (Except Failure Answer)
  | [] => []
  | step :: steps =>
      match session.step step with
      | .ok (next, answer) => .ok answer :: next.answers steps
      | .error failure => .error failure :: session.answers steps

end Session

end SearchRanking
