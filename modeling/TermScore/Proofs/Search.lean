import TermScore.Proofs.Batch
import TermScore.Proofs.Query.Source
import TermScore.Proofs.Scalar
import TermScore.Search

/-!
# What a search finds

A search compiles one line to a profile of one expression, scores all the documents and keeps those
that score above zero. All of that only asks of which documents the expression holds.
-/

namespace TermScore

open Query

/-! ## One expression -/

theorem Query.Profile.total_scoreDocument (c : Criterion Float) (d : Document) :
    ((⟨[c]⟩ : Profile Float).scoreDocument d).score.total =
      Score.part c.weight (c.expr.holds d.counts) :=
  Scalar.sum_singleton _

theorem Score.zero_lt_part_iff {weight : Float} {hit : Bool} :
    Scalar.zero < Score.part weight hit ↔ Scalar.zero < weight ∧ hit = true := by
  unfold Score.part
  cases hit with
  | false => simpa using Scalar.not_zero_lt_zero
  | true => simp

/-! ## Documents that can be read -/

theorem Document.path_of_read {files : Files} {split : Split} {path : Path} {d : Document}
    (h : Document.read files split path = .ok d) : d.path = path := by
  obtain ⟨data, -, rfl⟩ := Document.read_eq_ok_iff.mp h
  rfl

namespace Search

/-! ## The documents that are found -/

/-- The document can be read, and the expression holds of it. -/
def isMatch (files : Files) (split : Split) (e : Expr) (path : Path) : Bool :=
  match Document.read files split path with
  | .ok d => e.holds d.counts
  | .error _ => false

/-- The terms of the expression that occur, each once and in the order of the first occurrences. -/
structure Lists (e : Expr) (m : Counts) (terms : List TermCount) : Prop where
  mem_iff : ∀ t n, ⟨t, n⟩ ∈ terms ↔ t ∈ e.terms ∧ m.count t = n ∧ 0 < n
  ordered : terms.Pairwise fun a b => e.terms.idxOf a.term < e.terms.idxOf b.term

/-- One hit for each of the paths, with the name and the terms of the document. -/
structure Finds (files : Files) (split : Split) (e : Expr) (found : List Path)
    (hits : List SearchHit) : Prop where
  paths : hits.map (·.path) = found
  shows : ∀ hit ∈ hits, ∃ d, Document.read files split hit.path = .ok d ∧ hit.name = d.name ∧
    Lists e d.counts hit.terms

/-- The inputs that an expression of some weight matches, in their order. -/
def foundPaths (files : Files) (split : Split) (weight : Float) (e : Expr) (paths : List Path) :
    List Path :=
  if Scalar.zero < weight then paths.filter (isMatch files split e) else []

theorem lists_termCounts (c : Criterion Float) (m : Counts) :
    Lists c.expr m ((⟨[c]⟩ : Profile Float).termCounts m) where
  mem_iff t n := by
    rw [Profile.mem_termCounts_iff, Profile.mem_terms_iff]
    simp
  ordered := by
    have h := Profile.pairwise_termCounts (⟨[c]⟩ : Profile Float) m
    rwa [List.flatMap_singleton] at h

theorem zero_lt_total_iff {files : Files} {split : Split} {path : Path} {d : Document}
    (h : Document.read files split path = .ok d) (c : Criterion Float) :
    Scalar.zero < ((⟨[c]⟩ : Profile Float).scoreDocument d).score.total ↔
      Scalar.zero < c.weight ∧ isMatch files split c.expr path = true := by
  rw [Profile.total_scoreDocument, Score.zero_lt_part_iff, isMatch, h]

theorem map_path_hits (c : Criterion Float) (files : Files) (split : Split) (paths : List Path) :
    (hits ⟨[c]⟩ ((⟨[c]⟩ : Profile Float).scoreAll files split paths)).map (·.path) =
      paths.filter fun path => Scalar.zero < c.weight ∧ isMatch files split c.expr path = true := by
  unfold hits
  rw [Profile.scored_scoreAll]
  induction paths with
  | nil => rfl
  | cons path paths ih =>
    cases hread : Document.read files split path with
    | error cause =>
      rw [List.filterMap_cons_none (by rw [hread]; rfl), List.filter_cons_of_neg, ih]
      simp [isMatch, hread]
    | ok d =>
      have hscore := zero_lt_total_iff hread c
      rw [List.filterMap_cons_some (by rw [hread]; rfl)]
      by_cases hfound : Scalar.zero < c.weight ∧ isMatch files split c.expr path = true
      · rw [List.filter_cons_of_pos (by simpa using hscore.mpr hfound),
          List.filter_cons_of_pos (by simpa using hfound), List.map_cons, List.map_cons, ih]
        exact congrArg (· :: _) (Document.path_of_read hread)
      · rw [List.filter_cons_of_neg (by simpa using mt hscore.mp hfound),
          List.filter_cons_of_neg (by simpa using hfound)]
        exact ih

theorem foundPaths_eq (files : Files) (split : Split) (weight : Float) (e : Expr)
    (paths : List Path) : foundPaths files split weight e paths =
      paths.filter fun path => Scalar.zero < weight ∧ isMatch files split e path = true := by
  unfold foundPaths
  split
  · rename_i h
    simp [h]
  · rename_i h
    simp [h]

theorem finds_hits (c : Criterion Float) (files : Files) (split : Split) (paths : List Path) :
    Finds files split c.expr (foundPaths files split c.weight c.expr paths)
      (hits ⟨[c]⟩ ((⟨[c]⟩ : Profile Float).scoreAll files split paths)) where
  paths := by rw [map_path_hits, foundPaths_eq]
  shows := by
    intro hit hhit
    unfold hits at hhit
    rw [Profile.scored_scoreAll] at hhit
    obtain ⟨s, hs, rfl⟩ := List.mem_map.mp hhit
    obtain ⟨path, -, hpath⟩ := List.mem_filterMap.mp (List.mem_filter.mp hs).1
    cases hread : Document.read files split path with
    | error cause =>
      rw [hread] at hpath
      cases hpath
    | ok d =>
      rw [hread] at hpath
      obtain rfl := Option.some.inj hpath
      refine ⟨d, ?_, rfl, lists_termCounts c d.counts⟩
      rw [← hread]
      exact congrArg _ (Document.path_of_read hread)

/-! ## The whole search -/

theorem compile_of_not_isEnding {expression : String} (h : ¬ IsEnding (lineText expression)) :
    compile (α := Float) expression = .error .emptySearch := by
  unfold compile
  rw [Profile.compile_eq, logicalLines_singleton_of_not_isEnding h]
  rfl

theorem compile_of_error {expression : String} (h : IsEnding (lineText expression))
    {weight : Float} {rest : List Char} (hsplit : splitOptions (lineText expression) = (weight, rest))
    {cause : ParseError} (hparse : parse (String.ofList rest) = .error cause) :
    compile (α := Float) expression = .error (.invalidSearch ⟨String.ofList rest, 1, cause⟩) := by
  unfold compile
  rw [Profile.compile_eq, logicalLines_singleton h hsplit, Profile.compileLines, Profile.criterionOf,
    hparse]
  rfl

theorem compile_of_ok {expression : String} (h : IsEnding (lineText expression))
    {weight : Float} {rest : List Char} (hsplit : splitOptions (lineText expression) = (weight, rest))
    {e : Expr} (hparse : parse (String.ofList rest) = .ok e) :
    compile (α := Float) expression = .ok ⟨[⟨e, weight, String.ofList rest⟩]⟩ := by
  unfold compile
  rw [Profile.compile_eq, logicalLines_singleton h hsplit, Profile.compileLines, Profile.criterionOf,
    hparse]
  rfl

section

variable (files : Files) (split : Split) (expression : String) (paths : List Path)

theorem search_of_error {f : Failure} (h : compile (α := Float) expression = .error f) :
    search Float files split expression paths = .error f := by
  unfold search
  rw [h]
  rfl

theorem search_of_ok {c : Criterion Float} (h : compile expression = .ok ⟨[c]⟩) :
    ∃ hits, search Float files split expression paths = .ok hits ∧
      Finds files split c.expr (foundPaths files split c.weight c.expr paths) hits := by
  refine ⟨_, ?_, finds_hits c files split paths⟩
  unfold search
  rw [h]
  rfl

/-- A line with nothing on it, a comment and a continued line are no search. Any other line finds
the documents that its expression matches, when its weight is above zero. Without options these are
the documents that the text itself matches. -/
theorem search_finds :
    ((lineText expression = [] ∨ (lineText expression).head? = some '#' ∨
        (lineText expression).getLast? = some '\\') →
      search Float files split expression paths = .error .emptySearch) ∧
    (¬ (lineText expression = [] ∨ (lineText expression).head? = some '#' ∨
        (lineText expression).getLast? = some '\\') →
      ∀ (weight : Float) (rest : List Char), splitOptions (lineText expression) = (weight, rest) →
        (∀ cause, parse (String.ofList rest) = .error cause →
          search Float files split expression paths =
            .error (.invalidSearch ⟨String.ofList rest, 1, cause⟩)) ∧
        ∀ e, parse (String.ofList rest) = .ok e →
          ∃ hits, search Float files split expression paths = .ok hits ∧
            Finds files split e (foundPaths files split weight e paths) hits) ∧
    ((lineText expression).head? ≠ some '[' →
      (∀ cause, Query.compile expression = .error cause →
        ∃ f, search Float files split expression paths = .error f) ∧
      ∀ e, Query.compile expression = .ok e →
        ∃ hits, search Float files split expression paths = .ok hits ∧
          Finds files split e (paths.filter (isMatch files split e)) hits) := by
  simp only [← not_isEnding_iff, not_not]
  refine ⟨?_, ?_, fun hfirst => ⟨?_, ?_⟩⟩
  · intro hnot
    exact search_of_error files split expression paths (compile_of_not_isEnding hnot)
  · intro hending weight rest hsplit
    refine ⟨fun cause hparse => ?_, fun e hparse => ?_⟩
    · exact search_of_error files split expression paths (compile_of_error hending hsplit hparse)
    · exact search_of_ok files split expression paths (compile_of_ok hending hsplit hparse)
  · intro cause hparse
    rw [compile_eq_parse] at hparse
    by_cases hending : IsEnding (lineText expression)
    · exact ⟨_, search_of_error files split expression paths
        (compile_of_error hending (splitOptions_of_head? hfirst) hparse)⟩
    · exact ⟨_, search_of_error files split expression paths (compile_of_not_isEnding hending)⟩
  · intro e hparse
    rw [compile_eq_parse] at hparse
    have hending := isEnding_of_parse hparse
    rw [String.toList_ofList] at hending
    have hfound : foundPaths files split Scalar.one e paths = paths.filter (isMatch files split e) :=
      if_pos Scalar.zero_lt_one
    rw [← hfound]
    exact search_of_ok files split expression paths
      (compile_of_ok hending (splitOptions_of_head? hfirst) hparse)

theorem search_apple :
    (∃ hits, search Float ⟨.file "apple" ⟨"Big apple".toUTF8, ""⟩ .empty, []⟩ .spaces
        "[weight=2] Apple" [⟨"apple"⟩, ⟨"missing"⟩, ⟨"apple"⟩] = .ok hits ∧
      hits.map (·.path) = [⟨"apple"⟩, ⟨"apple"⟩]) ∧
    (∃ hits, search Float ⟨.file "apple" ⟨"Big apple".toUTF8, ""⟩ .empty, []⟩ .spaces
        "Apple\n" [⟨"missing"⟩, ⟨"apple"⟩] = .ok hits ∧ hits.map (·.path) = [⟨"apple"⟩]) ∧
    search Float ⟨.file "apple" ⟨"Big apple".toUTF8, ""⟩ .empty, []⟩ .spaces "Apple \\" [⟨"apple"⟩] =
      .error .emptySearch := by
  have htokens : tokenize "apple" = .ok [⟨.word "apple", 0⟩] := by decide +kernel
  have hparse : parse (String.ofList ['a', 'p', 'p', 'l', 'e']) = .ok (.term "apple") := by
    rw [parse, htokens]
    rfl
  have found := search_finds ⟨.file "apple" ⟨"Big apple".toUTF8, ""⟩ .empty, []⟩ .spaces
  refine ⟨?_, ?_, (found "Apple \\" [⟨"apple"⟩]).1 (.inr (.inr (by decide +kernel)))⟩
  · obtain ⟨-, weighted, -⟩ := found "[weight=2] Apple" [⟨"apple"⟩, ⟨"missing"⟩, ⟨"apple"⟩]
    obtain ⟨hits, hsearch, finds⟩ := (weighted (by decide +kernel) 2 _ rfl).2 _ hparse
    exact ⟨hits, hsearch, finds.paths.trans (by decide +kernel)⟩
  · obtain ⟨-, -, plain⟩ := found "Apple\n" [⟨"missing"⟩, ⟨"apple"⟩]
    have hcompile : Query.compile "Apple\n" = .ok (.term "apple") := by
      have hline : lineText "Apple\n" = ['a', 'p', 'p', 'l', 'e'] := by decide +kernel
      rw [compile_eq_parse, hline, hparse]
    obtain ⟨hits, hsearch, finds⟩ := (plain (by decide +kernel)).2 _ hcompile
    exact ⟨hits, hsearch, finds.paths.trans (by decide +kernel)⟩

end

end Search

end TermScore
