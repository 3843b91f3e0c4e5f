import TermScore.Path

/-!
# Where reports are written

The report of a document stands next to it, and the summary next to the query.
-/

namespace TermScore.Report

def documentExtension : String := "hiscore.json"

def summaryExtension : String := "summary.hiscore.json"

def documentPlace (document : Path) : Path :=
  document.withExtension documentExtension

def summaryPlace (query : Path) : Path :=
  query.withExtension summaryExtension

end TermScore.Report
