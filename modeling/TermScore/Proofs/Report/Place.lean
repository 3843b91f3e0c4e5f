import TermScore.Proofs.Extension
import TermScore.Proofs.Files.System
import TermScore.Report.Place

/-!
# Reports with one place

The report of a document stands in the folder of the document and is named for its stem. So it is the
stems that tell whether two reports have one place, and whether a report has the place of a summary.
-/

namespace TermScore

/-! ## One path -/

namespace Report

section

open TermScore.Path

variable {d d' q : Path} {name other : String}

theorem isExtension_documentExtension : IsExtension documentExtension :=
  ⟨by decide, by decide⟩

theorem isExtension_summaryExtension : IsExtension summaryExtension :=
  ⟨by decide, by decide⟩

theorem same_documentPlace_iff (hd : d.fileName? = some name) (hd' : d'.fileName? = some other) :
    (documentPlace d).same (documentPlace d') = true ↔
      d.folder? = d'.folder? ∧ d.stem? = d'.stem? ∧ (d.BareDots ↔ d'.BareDots) := by
  rw [documentPlace, documentPlace, same_withExtension_iff hd hd' isExtension_documentExtension
    isExtension_documentExtension, renamed_eq_iff, List.append_left_inj, and_congr_right_iff]
  intro _
  rw [← Option.some_inj, ← stem?_eq hd, ← stem?_eq hd']
  constructor
  · rintro (⟨bare, bare'⟩ | ⟨bare, bare', hstem⟩)
    · exact ⟨bare.1.trans bare'.1.symm, iff_of_true bare bare'⟩
    · exact ⟨hstem, iff_of_false bare bare'⟩
  · rintro ⟨hstem, hbare⟩
    by_cases bare : d.BareDots
    · exact .inl ⟨bare, hbare.mp bare⟩
    · exact .inr ⟨bare, mt hbare.mpr bare, hstem⟩

theorem same_summaryPlace_iff (hd : d.fileName? = some name) (hq : q.fileName? = some other) :
    (documentPlace d).same (summaryPlace q) = true ↔ d.folder? = q.folder? ∧
      (d.BareDots ∧ q.BareDots ∨
        ¬ q.BareDots ∧ d.stem? = q.stem?.map (· ++ ".summary".toList)) := by
  have hextension : '.' :: summaryExtension.toList =
      ".summary".toList ++ '.' :: documentExtension.toList := rfl
  rw [documentPlace, summaryPlace, same_withExtension_iff hd hq isExtension_documentExtension
    isExtension_summaryExtension, renamed_eq_iff, hextension, ← List.append_assoc,
    List.append_left_inj, and_congr_right_iff]
  intro _
  have hstem : d.stem? = q.stem?.map (· ++ ".summary".toList) ↔
      (splitName name.toList).1 = (splitName other.toList).1 ++ ".summary".toList := by
    rw [stem?_eq hd, stem?_eq hq, Option.map_some, Option.some_inj]
  rw [hstem]
  constructor
  · rintro (⟨bare, bare'⟩ | ⟨-, bare', heq⟩)
    · exact .inl ⟨bare, bare'⟩
    · exact .inr ⟨bare', heq⟩
  · rintro (⟨bare, bare'⟩ | ⟨bare', heq⟩)
    · exact .inl ⟨bare, bare'⟩
    · refine .inr ⟨?_, bare', heq⟩
      -- A stem that ends so is longer than a dot.
      intro bare
      have hdot := (stem?_eq hd).symm.trans bare.1
      rw [heq, Option.some_inj] at hdot
      have hlength := congrArg List.length hdot
      simp at hlength

/-- A report never replaces its document, and it stands beside it. Reports share a place when their
documents share folder and stem, and only a stem that ends so gives a report the place of a summary. But
names of two dots and an extension are left without the extension that sets their places apart.
-/
theorem places_meet (hd : d.fileName?.isSome) (hd' : d'.fileName?.isSome)
    (hq : q.fileName?.isSome) :
    ¬ (documentPlace d).same d ∧ (documentPlace d).folder? = d.folder? ∧
      ((documentPlace d).same (documentPlace d') ↔
        d.folder? = d'.folder? ∧ d.stem? = d'.stem? ∧ (d.BareDots ↔ d'.BareDots)) ∧
      ((documentPlace d).same (summaryPlace q) ↔ d.folder? = q.folder? ∧
        (d.BareDots ∧ q.BareDots ∨
          ¬ q.BareDots ∧ d.stem? = q.stem?.map (· ++ ".summary".toList))) ∧
      (¬ q.BareDots → d.stem? = q.stem? → ¬ (documentPlace d).same (summaryPlace q)) := by
  obtain ⟨name, hname⟩ := Option.isSome_iff_exists.mp hd
  obtain ⟨name', hname'⟩ := Option.isSome_iff_exists.mp hd'
  obtain ⟨query, hquery⟩ := Option.isSome_iff_exists.mp hq
  have hsummary := same_summaryPlace_iff hname hquery
  refine ⟨not_same_withExtension hname isExtension_documentExtension (by decide),
    folder?_withExtension hname isExtension_documentExtension,
    same_documentPlace_iff hname hname', hsummary, ?_⟩
  intro bare hstem hplace
  rcases (hsummary.mp hplace).2 with ⟨-, bare'⟩ | ⟨-, heq⟩
  · exact bare bare'
  · rw [hstem, stem?_eq hquery, Option.map_some, Option.some_inj] at heq
    have hlength := congrArg List.length heq
    simp at hlength

theorem places_meet_topic :
    (documentPlace ⟨"x/topic.v2.summary.txt"⟩).same (documentPlace ⟨"x//topic.v2.summary.md/."⟩) ∧
      (documentPlace ⟨"x/topic.v2.summary.txt"⟩).same (summaryPlace ⟨"x/./topic.v2.hql"⟩) := by
  have hd : (fileName? ⟨"x/topic.v2.summary.txt"⟩).isSome = true := by decide +kernel
  have hd' : (fileName? ⟨"x//topic.v2.summary.md/."⟩).isSome = true := by decide +kernel
  have hq : (fileName? ⟨"x/./topic.v2.hql"⟩).isSome = true := by decide +kernel
  obtain ⟨-, -, reports, summary, -⟩ := places_meet hd hd' hq
  exact ⟨reports.mpr (by decide +kernel), summary.mpr (by decide +kernel)⟩

/-- Of a name that is two dots and an extension the two dots are left, but not when something follows it.
So reports of one stem have two places, and a report takes the place of the summary. -/
theorem places_of_bareDots :
    (∀ p ∈ [⟨"..a"⟩, ⟨"..a/"⟩, ⟨"..b"⟩], stem? p = some ['.'] ∧ folder? p = some []) ∧
      ¬ (documentPlace ⟨"..a"⟩).same (documentPlace ⟨"..a/"⟩) ∧
      (documentPlace ⟨"..a"⟩).same (summaryPlace ⟨"..b"⟩) := by
  decide +kernel

end

end Report

/-! ## One file -/

/-- The folder that a path leads into, and the last name on the way up to its last dot. -/
def Files.stem? (files : Files) (p : Path) : Option (List String × List Char) :=
  match files.resolve p with
  | .ok names => some (names.dropLast, (Path.splitName (names.getLastD "").toList).1)
  | .error _ => none

namespace Report

variable {files : Files} {p q : Path} {names : List String} {data data' : FileData}

theorem target_documentPlace (hread : files.read p = .ok data)
    (htarget : files.target (documentPlace p) = .ok names) :
    ∃ folder stem, files.stem? p = some (folder, stem) ∧
      names = folder ++ [String.ofList (stem ++ '.' :: documentExtension.toList)] := by
  obtain ⟨folder, directory, last, hcut, proper, hparent, hresolve⟩ :=
    Files.exists_folder_of_read hread
  have hplace : (documentPlace p).Cut directory
      (p.renamed (Path.splitName last).1 documentExtension).text.toList := by
    have ends := Path.Ends.of_cut hcut (Path.component?_of_proper proper)
    have hrenamed := ends.cut_withExtension isExtension_documentExtension
    rwa [String.toList_ofList] at hrenamed
  obtain ⟨-, -, folder', hparent', hchild⟩ := Files.target_eq_ok_iff.mp htarget
  rw [Files.parent_eq_of_cut hplace hcut, hparent] at hparent'
  obtain rfl := Except.ok.inj hparent'
  obtain ⟨-, ⟨-, -, up⟩, -, -, rfl⟩ := Files.child_eq_ok_iff.mp hchild
  rw [hplace.segments_eq, List.getLastD_concat, String.ofList_toList] at up ⊢
  refine ⟨folder, (Path.splitName last).1, ?_, ?_⟩
  · rw [Files.stem?, hresolve]
    dsimp only
    rw [List.dropLast_concat, List.getLastD_concat, String.toList_ofList]
  · unfold Path.renamed at up ⊢
    split
    · rename_i bare
      rw [if_pos bare] at up
      exact absurd rfl up
    · rfl

theorem stem?_eq_of_sameFile (hp : files.read p = .ok data) (hq : files.read q = .ok data')
    (h : files.SameFile (documentPlace p) (documentPlace q)) : files.stem? p = files.stem? q := by
  obtain ⟨names, hp', hq'⟩ := h
  obtain ⟨folder₁, stem₁, hstem₁, hnames₁⟩ := target_documentPlace hp hp'
  obtain ⟨folder₂, stem₂, hstem₂, hnames₂⟩ := target_documentPlace hq hq'
  obtain ⟨rfl, hnames⟩ := List.append_inj' (hnames₁.symm.trans hnames₂) rfl
  obtain ⟨rfl, -⟩ := List.append_inj' (String.ofList_injective (List.singleton_inj.mp hnames)) rfl
  rw [hstem₁, hstem₂]

end Report

end TermScore
