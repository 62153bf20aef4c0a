import SearchRanking.Record.Basic
import SearchRanking.Text.Lowercase

namespace SearchRanking.Record

/-- A title as it stands in a path: in lower case, with hyphens for spaces. -/
def slug (title : String) : String :=
  String.ofList ((Text.lowercase title).toList.map fun c => if c = ' ' then '-' else c)

def guide (title : String) (score : Score) : Record where
  docName := "guide/" ++ slug title
  title := title
  anchor := ""
  description := "Guide to " ++ title
  score := score
  filename := some ("guide/" ++ slug title ++ ".html")

def modulePage (name : String) (score : Score) : Record where
  docName := "reference/modules/" ++ name ++ "/autodoc"
  title := name
  anchor := ""
  description := "API reference for " ++ name
  score := score
  filename := some ("reference/modules/" ++ name ++ "/autodoc.html")

def plain (title : String) (score : Score) (filename : Option String) : Record where
  docName := title
  title := title
  anchor := ""
  description := ""
  score := score
  filename := filename

end SearchRanking.Record
