import TermScore.Proofs.Query.TermOrder
import TermScore.Proofs.Ranking
import TermScore.Proofs.Words.Terms
import TermScore.Report.Document

/-!
# What a report says

The sections of a report are made in different ways: the terms of the query are looked up, the
histograms are listed, and the score is worked out for each criterion. They say the same of the
document.
-/

namespace TermScore

open Query

/-! ## Terms without and with a space -/

namespace WordCounts

variable {split : Split} {text t : String}

theorem count_single_of_space (h : ' ' ∈ t.toList) : (ofText split text).single.count t = 0 := by
  by_contra hcount
  have hmem := Histogram.mem_entries_iff.mpr (Nat.pos_of_ne_zero hcount)
  exact (proper_of_mem_single hmem).spaceless h

theorem count_compound_of_spaceless (h : ' ' ∉ t.toList) :
    (ofText split text).compound.count t = 0 := by
  apply count_compound_eq_zero
  intro hmem
  have := count_space_of_mem_compound hmem
  rw [List.count_eq_zero.mpr h] at this
  cases this

/-! ## Sections of a text -/

theorem listed_of_count {least n : Nat} (h : (ofText split text).models.count t = n) (hpos : 0 < n)
    (hleast : least ≤ n) :
    (' ' ∉ t.toList → ⟨t, n⟩ ∈ (ofText split text).single.listing least ∧
      ∀ other ∈ (ofText split text).compound.listing least, other.term ≠ t) ∧
    (' ' ∈ t.toList → ⟨t, n⟩ ∈ (ofText split text).compound.listing least ∧
      ∀ other ∈ (ofText split text).single.listing least, other.term ≠ t) := by
  have enough : max least 1 ≤ n := Nat.max_le.mpr ⟨hleast, hpos⟩
  rw [models_count] at h
  constructor
  · intro spaceless
    rw [if_neg spaceless] at h
    exact ⟨Histogram.mem_listing_iff.mpr ⟨h, enough⟩,
      Histogram.ne_of_mem_listing (count_compound_of_spaceless spaceless)⟩
  · intro hspace
    rw [if_pos hspace] at h
    exact ⟨Histogram.mem_listing_iff.mpr ⟨h, enough⟩,
      Histogram.ne_of_mem_listing (count_single_of_space hspace)⟩

theorem sum_listing_ofTerms {l : List String} (h : l.length ≤ maxCount) {least : Nat}
    (hleast : least ≤ 1) :
    (((Histogram.ofTerms l).listing least).map TermCount.count).sum = l.length := by
  rw [(((Histogram.ofTerms l).listing_perm_toList hleast).map _).sum_eq,
    Histogram.sum_toList_ofTerms h]

theorem sum_listings {least : Nat} (hleast : least ≤ 1)
    (h : (ofText split text).wordCount < 2 ^ 64) :
    (((ofText split text).single.listing least).map TermCount.count).sum =
        (ofText split text).wordCount ∧
      (((ofText split text).compound.listing least).map TermCount.count).sum =
        (ofText split text).wordCount - 1 := by
  rw [ofText_eq] at h ⊢
  have hwords : (Words.wordsOf split text).length ≤ maxCount := Nat.le_of_lt_succ h
  have hpairs : (Words.pairsOf (Words.wordsOf split text)).length ≤ maxCount := by
    rw [Words.length_pairsOf]
    omega
  refine ⟨sum_listing_ofTerms hwords hleast, ?_⟩
  exact (sum_listing_ofTerms hpairs hleast).trans (Words.length_pairsOf _)

end WordCounts

/-! ## Terms and parts of the score -/

namespace Query.Profile

variable {α : Type}

theorem nodup_termCounts (p : Profile α) (m : Counts) :
    ((p.termCounts m).map TermCount.term).Nodup := by
  have hterms : (p.terms.map fun t => (⟨t, m.count t⟩ : TermCount)).map TermCount.term = p.terms := by
    rw [List.map_map]
    exact List.map_id _
  have front : ((p.termCounts m).map TermCount.term).Sublist p.terms := by
    rw [← hterms]
    exact List.filter_sublist.map _
  exact p.nodup_terms.sublist front

theorem parts_scoreDocument [Scalar α] (p : Profile α) (d : Document) :
    (p.scoreDocument d).score.parts =
      p.criteria.map fun c => Score.part c.weight (c.expr.holds d.counts) := by
  unfold scoreDocument Score.ofHits weights Profile.hits
  dsimp only
  rw [List.zipWith_map, List.zipWith_self]

end Query.Profile

/-! ## The sections -/

namespace DocumentReport

variable {α : Type} [Scalar α]

/-- What the sections of a report have in common: the scores `parts` of the criteria, and the terms that
are listed as `single` words and as `compound` ones. -/
structure Agrees (p : Profile α) (m : Counts) (least : Nat) (r : DocumentReport α)
    (parts : List (CriterionScore α)) (single compound : List TermCount) : Prop where
  criteria_eq : r.criteria = some parts
  single_eq : r.single = some single
  compound_eq : r.compound = some compound
  mem_terms : ∀ t n, ⟨t, n⟩ ∈ r.terms ↔ t ∈ p.terms ∧ m.count t = n ∧ 0 < n
  nodup_terms : (r.terms.map TermCount.term).Nodup
  in_single : ∀ c ∈ r.terms, least ≤ c.count → ' ' ∉ c.term.toList →
    c ∈ single ∧ ∀ other ∈ compound, other.term ≠ c.term
  in_compound : ∀ c ∈ r.terms, least ≤ c.count → ' ' ∈ c.term.toList →
    c ∈ compound ∧ ∀ other ∈ single, other.term ≠ c.term
  sum_single : least ≤ 1 → r.wordCount < 2 ^ 64 → (single.map TermCount.count).sum = r.wordCount
  sum_compound : least ≤ 1 → r.wordCount < 2 ^ 64 →
    (compound.map TermCount.count).sum = r.wordCount - 1
  parts_eq : parts = p.criteria.map fun c =>
    ⟨c.source, c.weight, if c.expr.holds m then c.weight else Scalar.zero⟩
  sum_parts : Scalar.sum (parts.map CriterionScore.score) = r.total

theorem criteria_build (p : Profile α) (d : Document) (flags : ReportFlags) (least : Nat)
    (date : String) (file : FileInfo) :
    (build p (p.scoreDocument d) flags least date file).criteria =
      if flags.explain then
        some (p.criteria.map fun c => ⟨c.source, c.weight, Score.part c.weight (c.expr.holds d.counts)⟩)
      else none := by
  unfold build
  dsimp only
  rw [p.parts_scoreDocument, List.zipWith_map_right, List.zipWith_self]

/-- A report about a text with all its sections says the same in each of them. -/
theorem build_agrees (p : Profile α) (split : Split) (path : Path) (text : String)
    (flags : ReportFlags) (explain : flags.explain = true) (histograms : flags.histograms = true)
    (least : Nat) (date : String) (file : FileInfo) :
    ∃ parts single compound,
      (build p (p.scoreDocument (.ofText split path text)) flags least date file).Agrees p
        (WordCounts.ofText split text).models least parts single compound := by
  have criteria := criteria_build p (.ofText split path text) flags least date file
  rw [if_pos explain] at criteria
  have mem : ∀ t n, ⟨t, n⟩ ∈ TermCount.sorted (p.termCounts (WordCounts.ofText split text).models) ↔
      t ∈ p.terms ∧ (WordCounts.ofText split text).models.count t = n ∧ 0 < n := by
    intro t n
    rw [(TermCount.sorted_perm _).mem_iff, p.mem_termCounts_iff]
  refine ⟨_, (WordCounts.ofText split text).single.listing least,
    (WordCounts.ofText split text).compound.listing least, criteria, if_pos histograms,
    if_pos histograms, mem, ?nodup_terms, ?in_single, ?in_compound, ?sum_single, ?sum_compound, rfl,
    ?sum_parts⟩
  case nodup_terms =>
    exact ((TermCount.sorted_perm _).map _).nodup_iff.mpr (p.nodup_termCounts _)
  case in_single =>
    rintro ⟨t, n⟩ hc hleast
    obtain ⟨-, hcount, hpos⟩ := (mem t n).mp hc
    exact (WordCounts.listed_of_count hcount hpos hleast).1
  case in_compound =>
    rintro ⟨t, n⟩ hc hleast
    obtain ⟨-, hcount, hpos⟩ := (mem t n).mp hc
    exact (WordCounts.listed_of_count hcount hpos hleast).2
  case sum_single => exact fun hleast hcount => (WordCounts.sum_listings hleast hcount).1
  case sum_compound => exact fun hleast hcount => (WordCounts.sum_listings hleast hcount).2
  case sum_parts =>
    rw [List.map_map]
    exact congrArg Scalar.sum (p.parts_scoreDocument _).symm

theorem build_agrees_apple_pie :
    ∃ (p : Profile Float) (r : DocumentReport Float) (single compound : List TermCount),
      p = ⟨[⟨.and [.term "apple pie", .not (.term "fig")], Scalar.one, "'apple pie' !fig"⟩]⟩ ∧
      r = build p (p.scoreDocument (.ofText .spaces ⟨"a.txt"⟩ "Apple pie: (apple - pie) apple"))
        (.parse "explain+histograms") 1 "" ⟨"a.txt", ⟨"a.txt"⟩, 30, ""⟩ ∧
      r.single = some single ∧ r.compound = some compound ∧
      (single.map TermCount.count).sum = 5 ∧ ⟨"apple pie", 2⟩ ∈ r.terms ∧
      ⟨"apple pie", 2⟩ ∈ compound := by
  obtain ⟨parts, single, compound, agrees⟩ := build_agrees
    (⟨[⟨.and [.term "apple pie", .not (.term "fig")], Scalar.one, "'apple pie' !fig"⟩]⟩ : Profile Float)
    .spaces ⟨"a.txt"⟩ "Apple pie: (apple - pie) apple" (.parse "explain+histograms")
    (by decide +kernel) (by decide +kernel) 1 "" ⟨"a.txt", ⟨"a.txt"⟩, 30, ""⟩
  have hcount : (WordCounts.ofText .spaces "Apple pie: (apple - pie) apple").wordCount = 5 := by
    decide +kernel
  have htwo : (WordCounts.ofText .spaces "Apple pie: (apple - pie) apple").models.count
      "apple pie" = 2 := by decide +kernel
  have hterm := (agrees.mem_terms "apple pie" 2).mpr ⟨by decide +kernel, htwo, by decide⟩
  refine ⟨_, _, single, compound, rfl, rfl, agrees.single_eq, agrees.compound_eq, ?_, hterm, ?_⟩
  · exact (agrees.sum_single (by decide) (by decide +kernel)).trans hcount
  · exact (agrees.in_compound _ hterm (by decide) (by decide)).1

end DocumentReport

end TermScore
