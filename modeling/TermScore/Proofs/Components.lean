import TermScore.Proofs.Path

/-!
# What the components of a path say

A path starts somewhere, and then each of its segments that leads somewhere is a component. So the end
of a path that does not matter changes no component, and the path above has all components but the last.
-/

namespace TermScore.Path

/-! ## Where a path starts -/

/-- The component in front of those that segments lead to. -/
def anchor (p : Path) : List Component :=
  if p.isAbsolute then [.root] else if p.segments.head? = some "." then [.here] else []

/-- Whether a segment leads away from where it is found. -/
def leads (segment : String) : Bool :=
  !(segment == "" || segment == ".")

theorem segments_ofList (l : List Char) :
    segments ⟨String.ofList l⟩ = (Text.cutAt (· == '/') l).map String.ofList := by
  rw [segments, String.toList_ofList]

theorem segments_ne_nil (p : Path) : p.segments ≠ [] :=
  mt List.map_eq_nil_iff.mp (Text.cutAt_ne_nil _ _)

theorem head?_segments_of_isAbsolute {p : Path} (h : p.isAbsolute = true) :
    p.segments.head? = some "" := by
  unfold isAbsolute at h
  unfold segments
  cases htext : p.text.toList with
  | nil => simp [htext] at h
  | cons c rest =>
    obtain rfl : c = '/' := by simpa [htext] using h
    rw [Text.cutAt_cons_of_cut rfl]
    rfl

theorem components_eq (p : Path) : p.components = p.anchor ++ p.segments.filterMap component? := by
  unfold components anchor
  cases hsegments : p.segments with
  | nil => exact absurd hsegments p.segments_ne_nil
  | cons first rest =>
    cases hroot : p.isAbsolute with
    | true =>
      have hfirst := head?_segments_of_isAbsolute hroot
      rw [hsegments] at hfirst
      obtain rfl : first = "" := Option.some_inj.mp hfirst
      rfl
    | false =>
      rw [List.filterMap_cons]
      by_cases hdot : first = "."
      · subst hdot
        rfl
      · cases hfirst : component? first <;> simp [hdot, hfirst]

theorem component?_eq_none_iff {segment : String} :
    component? segment = none ↔ leads segment = false := by
  rw [leads, Bool.not_eq_false', Bool.or_eq_true, beq_iff_eq, beq_iff_eq]
  unfold component?
  split
  · rename_i h
    exact iff_of_true rfl h
  · rename_i h
    split
    · exact iff_of_false (Option.some_ne_none _) h
    · exact iff_of_false (Option.some_ne_none _) h

theorem text_of_component? {segment : String} {c : Component} (h : component? segment = some c) :
    c.text = segment := by
  unfold component? at h
  split at h
  · cases h
  · split at h
    · obtain rfl := Option.some_inj.mp h
      symm
      assumption
    · obtain rfl := Option.some_inj.mp h
      rfl

theorem filterMap_component? (l : List String) :
    (l.filter leads).filterMap component? = l.filterMap component? := by
  rw [List.filterMap_filter]
  congr 1
  funext segment
  cases h : leads segment with
  | true => rfl
  | false => exact (component?_eq_none_iff.mpr h).symm

theorem components_congr {p q : Path} (start : p.anchor = q.anchor)
    (h : p.segments.filter leads = q.segments.filter leads) : p.components = q.components := by
  rw [components_eq, components_eq, start, ← filterMap_component?, h, filterMap_component?]

theorem anchor_eq_root_iff {p : Path} : p.anchor = [.root] ↔ p.isAbsolute = true := by
  unfold anchor
  cases p.isAbsolute with
  | true => simp
  | false => by_cases hdot : p.segments.head? = some "." <;> simp [hdot]

theorem isAbsolute_congr {p q : Path} (start : p.anchor = q.anchor) :
    p.isAbsolute = q.isAbsolute := by
  rw [Bool.eq_iff_iff, ← anchor_eq_root_iff, ← anchor_eq_root_iff, start]

theorem anchor_append {l : List Char} (ne : l ≠ []) (rest : List Char) :
    anchor ⟨String.ofList (l ++ '/' :: rest)⟩ = anchor ⟨String.ofList l⟩ := by
  obtain ⟨c, l, rfl⟩ := List.exists_cons_of_ne_nil ne
  obtain ⟨first, others, hcut⟩ := List.exists_cons_of_ne_nil (Text.cutAt_ne_nil (· == '/') (c :: l))
  unfold anchor isAbsolute
  rw [segments_ofList, segments_ofList, Text.cutAt_append_cons rfl, hcut, String.toList_ofList,
    String.toList_ofList]
  rfl

/-! ## The end that does not matter -/

theorem dropTrailing_cases (l : List Char) :
    dropTrailing l = l ∨ ∃ rest, l.reverse = (dropTrailing l).reverse ++ '/' :: rest := by
  induction l using dropTrailing.induct with
  | case1 rest ih =>
    rw [dropTrailing, List.reverse_cons]
    rcases ih with heq | ⟨rest', heq⟩
    · exact .inr ⟨[], by rw [heq]⟩
    · exact .inr ⟨rest' ++ ['/'], by rw [heq, List.append_assoc, List.cons_append]⟩
  | case2 rest ih =>
    rw [dropTrailing, List.reverse_cons, List.reverse_cons, List.append_assoc]
    rcases ih with heq | ⟨rest', heq⟩
    · exact .inr ⟨['.'], by rw [heq]; rfl⟩
    · exact .inr ⟨rest' ++ ['/', '.'], by rw [heq, List.append_assoc, List.cons_append]; rfl⟩
  | case3 l h₁ h₂ => exact .inl (dropTrailing.eq_3 l h₁ h₂)

theorem dropTrailing_ne (l rest : List Char) :
    dropTrailing l ≠ '/' :: rest ∧ dropTrailing l ≠ '.' :: '/' :: rest := by
  induction l using dropTrailing.induct with
  | case1 _ ih => rwa [dropTrailing]
  | case2 _ ih => rwa [dropTrailing]
  | case3 l h₁ h₂ =>
    rw [dropTrailing.eq_3 l h₁ h₂]
    exact ⟨fun h => h₁ rest h, fun h => h₂ rest h⟩

theorem dropTrailing_leads (l : List Char) :
    (segments ⟨String.ofList (dropTrailing l).reverse⟩).filter leads =
      (segments ⟨String.ofList l.reverse⟩).filter leads := by
  induction l using dropTrailing.induct with
  | case1 rest ih =>
    rw [dropTrailing, ih, List.reverse_cons, segments_ofList, segments_ofList,
      Text.cutAt_append_cons rfl, List.map_append, List.filter_append]
    exact (List.append_nil _).symm
  | case2 rest ih =>
    rw [dropTrailing, ih, List.reverse_cons, List.reverse_cons, List.append_assoc,
      List.singleton_append, segments_ofList, segments_ofList, Text.cutAt_append_cons rfl,
      List.map_append, List.filter_append]
    exact (List.append_nil _).symm
  | case3 l h₁ h₂ => rw [dropTrailing.eq_3 l h₁ h₂]

/-- The path without slashes and dots at its end that do not matter. -/
def trimmed (p : Path) : Path :=
  ⟨String.ofList (dropTrailing p.text.toList.reverse).reverse⟩

theorem toList_trimmed (p : Path) :
    p.trimmed.text.toList = (dropTrailing p.text.toList.reverse).reverse :=
  String.toList_ofList

theorem trimmed_cases (p : Path) :
    p.trimmed = p ∨ ∃ rest, p.text.toList = p.trimmed.text.toList ++ '/' :: rest := by
  rw [toList_trimmed]
  rcases dropTrailing_cases p.text.toList.reverse with heq | ⟨rest, heq⟩
  · left
    rw [trimmed, heq, List.reverse_reverse, String.ofList_toList]
  · right
    rw [List.reverse_reverse] at heq
    exact ⟨rest, heq⟩

theorem leads_trimmed (p : Path) :
    p.trimmed.segments.filter leads = p.segments.filter leads := by
  have h := dropTrailing_leads p.text.toList.reverse
  rwa [List.reverse_reverse, String.ofList_toList] at h

theorem anchor_trimmed {p : Path} (ne : p.trimmed.text.toList ≠ []) : p.trimmed.anchor = p.anchor := by
  rcases p.trimmed_cases with heq | ⟨rest, heq⟩
  · rw [heq]
  · have h := anchor_append ne rest
    rw [← heq, String.ofList_toList, String.ofList_toList] at h
    exact h.symm

theorem components_trimmed {p : Path} (ne : p.trimmed.text.toList ≠ []) :
    p.trimmed.components = p.components :=
  components_congr (anchor_trimmed ne) p.leads_trimmed

theorem isAbsolute_trimmed {p : Path} (ne : p.trimmed.text.toList ≠ []) :
    p.trimmed.isAbsolute = p.isAbsolute := by
  rcases p.trimmed_cases with heq | ⟨rest, heq⟩
  · rw [heq]
  · unfold isAbsolute
    rw [heq, List.head?_append_of_ne_nil _ ne]

theorem components_of_trimmed_eq_nil {p : Path} (h : p.trimmed.text.toList = []) :
    p.components = p.anchor := by
  have hempty : p.trimmed = ⟨""⟩ := congrArg Path.mk (String.toList_inj.mp h)
  have hleads := p.leads_trimmed
  rw [hempty] at hleads
  rw [components_eq, ← filterMap_component?, ← hleads]
  exact List.append_nil _

theorem eq_of_mem_anchor {p : Path} {c : Component} (h : c ∈ p.anchor) : c = .root ∨ c = .here := by
  unfold anchor at h
  split at h
  · exact .inl (List.mem_singleton.mp h)
  · split at h
    · exact .inr (List.mem_singleton.mp h)
    · cases h

/-! ## The last component -/

/-- Without the end that does not matter, a path is a directory and the segment of its last component. -/
structure Ends (p : Path) (directory : List Char) (c : Component) : Prop where
  cut : p.trimmed.Cut directory c.text.toList
  leads : component? c.text = some c

variable {p q : Path} {directory last : List Char} {c : Component}

theorem Cut.front (h : p.Cut directory last) :
    Cut ⟨String.ofList directory⟩ directory [] where
  text := by rw [String.toList_ofList, List.append_nil]
  whole := List.not_mem_nil
  ends := h.ends

theorem Cut.anchor_eq (h : p.Cut directory last) (hdot : last ≠ ['.']) :
    p.anchor = anchor ⟨String.ofList directory⟩ := by
  unfold anchor
  rw [h.segments_eq, h.front.segments_eq, h.isAbsolute_eq, h.front.isAbsolute_eq]
  cases heads directory with
  | cons first rest => rfl
  | nil =>
    have hlast : String.ofList last ≠ "." := fun heq => hdot (String.ofList_injective heq)
    simp [hlast]

theorem Cut.components_eq (h : p.Cut directory last)
    (hc : component? (String.ofList last) = some c) :
    p.components = (⟨String.ofList directory⟩ : Path).components ++ [c] := by
  have hdot : last ≠ ['.'] := by
    rintro rfl
    cases hc
  have hnone : component? (String.ofList []) = none := rfl
  rw [Path.components_eq, Path.components_eq, h.anchor_eq hdot, h.segments_eq,
    h.front.segments_eq, List.filterMap_append, List.filterMap_append,
    List.filterMap_cons_some hc, List.filterMap_cons_none hnone, List.filterMap_nil,
    List.append_nil, List.append_assoc]

namespace Ends

theorem ne_nil (h : p.Ends directory c) : p.trimmed.text.toList ≠ [] := by
  intro hnil
  have htext := h.cut.text
  rw [hnil] at htext
  have hempty : c.text = "" := String.toList_inj.mp (List.append_eq_nil_iff.mp htext.symm).2
  have hleads := h.leads
  rw [hempty] at hleads
  cases hleads

theorem components_eq (h : p.Ends directory c) :
    p.components = (⟨String.ofList directory⟩ : Path).components ++ [c] := by
  rw [← components_trimmed h.ne_nil]
  apply h.cut.components_eq
  rw [String.ofList_toList]
  exact h.leads

theorem getLast?_components (h : p.Ends directory c) : p.components.getLast? = some c := by
  rw [h.components_eq, List.getLast?_concat]

end Ends

theorem Cut.leads_of_trimmed (h : p.trimmed.Cut directory last)
    (ne : p.trimmed.text.toList ≠ []) :
    p.trimmed = ⟨"."⟩ ∨ ∃ c, component? (String.ofList last) = some c := by
  cases hc : component? (String.ofList last) with
  | some c => exact .inr ⟨c, rfl⟩
  | none =>
    rw [component?_eq_none_iff, leads, Bool.not_eq_false', Bool.or_eq_true, beq_iff_eq,
      beq_iff_eq] at hc
    have hlast : last = [] ∨ last = ['.'] :=
      hc.imp (fun heq => String.ofList_injective heq) (fun heq => String.ofList_injective heq)
    have htext := h.text
    rcases h.ends with rfl | ⟨front, rfl⟩
    · rcases hlast with rfl | rfl
      · exact absurd htext ne
      · exact .inl (congrArg Path.mk (String.toList_inj.mp htext))
    · have left := dropTrailing_ne p.text.toList.reverse front.reverse
      rw [toList_trimmed, List.reverse_eq_iff] at htext
      rcases hlast with rfl | rfl
      · exact absurd (by simpa using htext) left.1
      · exact absurd (by simpa using htext) left.2

theorem Ends.of_trimmed (h : p.trimmed.Cut directory last)
    (hc : component? (String.ofList last) = some c) : p.Ends directory c := by
  have htext := text_of_component? hc
  constructor
  · rwa [htext, String.toList_ofList]
  · rwa [htext]

theorem dropTrailing_append (whole : '/' ∉ last) (ne : last ≠ []) (dot : last ≠ ['.']) :
    dropTrailing (directory ++ last).reverse = (directory ++ last).reverse := by
  rw [List.reverse_append]
  rw [← List.mem_reverse] at whole
  have ne' : last.reverse ≠ [] := List.reverse_ne_nil_iff.mpr ne
  have dot' : last.reverse ≠ ['.'] := fun h => dot (List.reverse_eq_iff.mp h)
  generalize last.reverse = l at whole ne' dot' ⊢
  rw [dropTrailing.eq_def]
  split
  · cases l with
    | nil => exact absurd rfl ne'
    | cons c l => simp_all
  · match l, ne' with
    | [c], _ => simp_all
    | c :: d :: l, _ => simp_all
  · rfl

theorem Cut.trimmed_eq (h : p.Cut directory last)
    (hc : component? (String.ofList last) = some c) : p.trimmed = p := by
  have ne : last ≠ [] := by
    rintro rfl
    cases hc
  have dot : last ≠ ['.'] := by
    rintro rfl
    cases hc
  rw [trimmed, h.text, dropTrailing_append h.whole ne dot, List.reverse_reverse, ← h.text,
    String.ofList_toList]

theorem Ends.of_cut (h : p.Cut directory last) (hc : component? (String.ofList last) = some c) :
    p.Ends directory c :=
  .of_trimmed (by rwa [h.trimmed_eq hc]) hc

theorem exists_ends {name : String} (h : p.fileName? = some name) :
    ∃ directory, p.Ends directory (.name name) := by
  have hname : p.components.getLast? = some (.name name) := by
    unfold fileName? at h
    split at h
    · rename_i text hlast
      rw [hlast, Option.some_inj.mp h]
    · cases h
  have ne : p.trimmed.text.toList ≠ [] := by
    intro hnil
    rw [components_of_trimmed_eq_nil hnil] at hname
    rcases eq_of_mem_anchor (List.mem_of_getLast? hname) with heq | heq <;> cases heq
  obtain ⟨directory, last, hcut⟩ := p.trimmed.exists_cut
  rcases hcut.leads_of_trimmed ne with hdot | ⟨c, hc⟩
  · rw [← components_trimmed ne, hdot] at hname
    cases hname
  · have ends := Ends.of_trimmed hcut hc
    rw [ends.getLast?_components] at hname
    obtain rfl := Option.some_inj.mp hname
    exact ⟨directory, ends⟩

/-! ## The path above -/

/-- The components of the path above. -/
def folder? (p : Path) : Option (List Component) :=
  p.parent?.map components

theorem anchor_withoutTrailing {d : Path} (h : d.isAbsolute = p.isAbsolute) :
    anchor ⟨String.ofList (p.withoutTrailing d.text.toList)⟩ = d.anchor ∧
      (segments ⟨String.ofList (p.withoutTrailing d.text.toList)⟩).filter leads =
        d.segments.filter leads := by
  unfold withoutTrailing
  rw [← toList_trimmed]
  dsimp only
  by_cases hnil : d.trimmed.text.toList = []
  · have hempty : d.trimmed = ⟨""⟩ := congrArg Path.mk (String.toList_inj.mp hnil)
    rw [← d.leads_trimmed, hempty, ← h]
    cases hroot : d.isAbsolute with
    | true => exact ⟨(anchor_eq_root_iff.mpr hroot).symm, rfl⟩
    | false =>
      refine ⟨?_, rfl⟩
      rcases d.trimmed_cases with heq | ⟨rest, heq⟩
      · rw [← heq, hempty]
        rfl
      · rw [isAbsolute, heq, hnil] at hroot
        cases hroot
  · rw [List.isEmpty_eq_false_iff.mpr hnil, Bool.false_and, if_neg Bool.false_ne_true,
      String.ofList_toList]
    exact ⟨anchor_trimmed hnil, d.leads_trimmed⟩

namespace Ends

theorem parent?_eq (h : p.Ends directory c) :
    p.parent? = some ⟨String.ofList (p.withoutTrailing directory)⟩ := by
  have kept : p.withoutTrailing p.text.toList = directory ++ c.text.toList := by
    unfold withoutTrailing
    rw [← toList_trimmed, ← h.cut.text]
    simp [h.ne_nil]
  have hroot : c ≠ .root := by
    rintro rfl
    cases h.leads
  unfold parent?
  rw [h.getLast?_components]
  cases c with
  | root => exact absurd rfl hroot
  | here | parent | name =>
    dsimp only
    rw [kept, List.length_append, String.length_toList, Nat.add_sub_cancel, List.take_left]

theorem isAbsolute_eq (h : p.Ends directory c) :
    isAbsolute ⟨String.ofList directory⟩ = p.isAbsolute := by
  rw [h.cut.front.isAbsolute_eq, ← h.cut.isAbsolute_eq, isAbsolute_trimmed h.ne_nil]

theorem folder?_eq (h : p.Ends directory c) : p.folder? = some p.components.dropLast := by
  obtain ⟨start, hleads⟩ := anchor_withoutTrailing h.isAbsolute_eq
  rw [String.toList_ofList] at start hleads
  rw [folder?, h.parent?_eq, Option.map_some, components_congr start hleads, h.components_eq,
    List.dropLast_concat]

end Ends

theorem Cut.exists_parent (h : p.Cut directory last) (proper : Proper last) :
    ∃ above, p.parent? = some above ∧ above.isAbsolute = p.isAbsolute ∧
      above.segments.filter leads = (heads directory).filter leads := by
  have ends := Ends.of_cut h (component?_of_proper proper)
  have hheads : (segments ⟨String.ofList directory⟩).filter leads =
      (heads directory).filter leads := by
    rw [h.front.segments_eq, List.filter_append]
    exact List.append_nil _
  obtain ⟨start, hleads⟩ := anchor_withoutTrailing ends.isAbsolute_eq
  rw [String.toList_ofList] at start hleads
  exact ⟨_, ends.parent?_eq, (isAbsolute_congr start).trans ends.isAbsolute_eq,
    hleads.trans hheads⟩

end TermScore.Path
