import Mathlib.Data.List.Lex
import Mathlib.Data.String.Basic
import TermScore.Proofs.Files.Folders

/-!
# Paths below a folder

A path that goes on by some names has these names behind its other components. So the paths below a
folder are in the order of their names, and they lead where the names lead from the folder.
-/

namespace TermScore

namespace Path

variable {p : Path} {name : String} {names others : List String}

/-! ## One more name -/

theorem exists_cut_join (ne : p.text ≠ "") (h : IsName name) :
    ∃ directory, (p.join name).Cut directory name.toList ∧ heads directory ≠ [] ∧
      (p.segments = heads directory ∨ p.segments = heads directory ++ [""]) := by
  unfold join
  rw [if_neg ne]
  split
  · rename_i slash
    obtain ⟨front, hfront⟩ := List.getLast?_eq_some_iff.mp slash
    have whole : p.Cut p.text.toList [] :=
      ⟨(List.append_nil _).symm, List.not_mem_nil, .inr ⟨front, hfront⟩⟩
    refine ⟨p.text.toList, ⟨String.toList_append, h.whole, whole.ends⟩, ?_, .inr whole.segments_eq⟩
    rw [hfront]
    exact heads_concat_ne_nil front
  · refine ⟨p.text.toList ++ ['/'], ⟨?_, h.whole, .inr ⟨_, rfl⟩⟩, heads_concat_ne_nil _,
      .inl (heads_concat _).symm⟩
    rw [String.toList_append, String.toList_append]
    rfl

theorem text_join (p : Path) (name : String) : p.text.toList <+: (p.join name).text.toList := by
  unfold join
  split
  · simp [*]
  · split
    · rw [String.toList_append]
      exact List.prefix_append _ _
    · rw [String.toList_append, String.toList_append, List.append_assoc]
      exact List.prefix_append _ _

theorem text_join_ne (ne : p.text ≠ "") (name : String) : (p.join name).text ≠ "" := by
  intro empty
  have := p.text_join name
  rw [empty] at this
  exact ne (String.toList_eq_nil_iff.mp (List.prefix_nil.mp this))

theorem isAbsolute_join (ne : p.text ≠ "") : (p.join name).isAbsolute = p.isAbsolute := by
  obtain ⟨c, rest, hc⟩ := List.exists_cons_of_ne_nil (mt String.toList_eq_nil_iff.mp ne)
  obtain ⟨more, hmore⟩ := p.text_join name
  unfold isAbsolute
  rw [← hmore, hc]
  rfl

theorem components_join (ne : p.text ≠ "") (h : IsName name) :
    (p.join name).components = p.components ++ [.name name] := by
  obtain ⟨directory, hcut, hne, hsegments⟩ := exists_cut_join ne h
  obtain ⟨first, rest, hheads⟩ := List.exists_cons_of_ne_nil hne
  have last : component? name = some (.name name) := by
    have := component?_of_proper h.proper
    rwa [String.ofList_toList] at this
  have none : component? "" = none := rfl
  unfold components
  rw [hcut.segments_eq, hheads, isAbsolute_join ne, String.ofList_toList]
  rcases hsegments with hsegments | hsegments <;>
    simp [hsegments, hheads, last, none]

theorem join_join (ne : p.text ≠ "") (h : IsName name) (other : String) :
    (p.join name).join other = p.join (name ++ "/" ++ other) := by
  obtain ⟨directory, hcut, -⟩ := exists_cut_join ne h
  have ends : (p.join name).text.toList.getLast? ≠ some '/' := by
    obtain ⟨front, c, hname⟩ := (List.eq_nil_or_concat name.toList).resolve_left h.proper.1
    have hc : c ∈ name.toList := by simp [hname]
    rw [hcut.text, hname, List.concat_eq_append, ← List.append_assoc, List.getLast?_concat]
    rintro ⟨⟩
    exact h.whole hc
  rw [join, if_neg (text_join_ne ne name), if_neg ends]
  unfold join
  rw [if_neg ne, if_neg ne]
  split <;> simp [String.append_assoc]

/-! ## Names -/

/-- The path of what the names lead to from `p`. -/
def below (p : Path) (names : List String) : Path :=
  names.foldl join p

theorem text_below (p : Path) (names : List String) :
    p.text.toList <+: (p.below names).text.toList := by
  induction names generalizing p with
  | nil => exact List.prefix_rfl
  | cons name rest ih => exact (p.text_join name).trans (ih (p.join name))

theorem components_below (ne : p.text ≠ "") (h : ∀ name ∈ names, IsName name) :
    (p.below names).components = p.components ++ names.map .name := by
  induction names generalizing p with
  | nil => exact (List.append_nil _).symm
  | cons name rest ih =>
    obtain ⟨first, others⟩ := List.forall_mem_cons.mp h
    have := ih (text_join_ne ne name) others
    rw [components_join ne first, List.append_assoc] at this
    exact this

theorem displayName_below (ne : p.text ≠ "") (h : ∀ name ∈ names, IsName name)
    (last : names.getLast? = some name) : (p.below names).displayName = name := by
  unfold displayName fileName?
  rw [components_below ne h, List.getLast?_append, List.getLast?_map, last]
  rfl

/-! ## Order -/

theorem Component.before_self (a : Component) : a.before a = false := by
  cases a <;> simp [before]

theorem componentsBefore_append (front as bs : List Component) :
    componentsBefore (front ++ as) (front ++ bs) = componentsBefore as bs := by
  induction front with
  | nil => rfl
  | cons a front ih => simp [componentsBefore, Component.before_self, ih]

theorem componentsBefore_self (as : List Component) : componentsBefore as as = false := by
  have := componentsBefore_append as [] []
  rwa [List.append_nil] at this

theorem componentsBefore_names (names others : List String) :
    componentsBefore (names.map .name) (others.map .name) = decide (names < others) := by
  induction names generalizing others with
  | nil => cases others <;> simp [componentsBefore]
  | cons name rest ih =>
    cases others with
    | nil => simp [componentsBefore]
    | cons other others =>
      rw [Bool.eq_iff_iff]
      simp [componentsBefore, Component.before, ih, List.cons_lt_cons_iff]

theorem componentsBefore_below (ne : p.text ≠ "") (h : ∀ name ∈ names, IsName name)
    (h' : ∀ name ∈ others, IsName name) :
    componentsBefore (p.below names).components (p.below others).components =
      decide (names < others) := by
  rw [components_below ne h, components_below ne h', componentsBefore_append,
    componentsBefore_names]

theorem le_below (ne : p.text ≠ "") (h : ∀ name ∈ names, IsName name)
    (h' : ∀ name ∈ others, IsName name) :
    (p.below names).le (p.below others) = decide (names ≤ others) := by
  rw [le, componentsBefore_below ne h' h, ← decide_not, decide_eq_decide]
  exact not_lt

end Path

/-! ## Where they lead -/

namespace Files

variable {files : Files} {p : Path} {name : String} {names : List String} {data : FileData}

/-- The path leads along these names, if it leads anywhere. -/
structure LeadsAlong (files : Files) (p : Path) (names : List String) : Prop where
  ne : p.text ≠ ""
  ends : ∀ others, p.segments.foldlM files.follow (files.start p) = .ok others → others = names

theorem leadsAlong_of_resolve (h : files.resolve p = .ok names) : files.LeadsAlong p names := by
  obtain ⟨-, ne, hfold⟩ := resolve_eq_ok_iff_foldlM.mp h
  exact ⟨ne, fun others hothers => Except.ok.inj (hothers.symm.trans hfold)⟩

theorem follow_of_isName {others : List String} (h : Path.IsName name)
    (hfollow : files.follow names name = .ok others) : others = names ++ [name] := by
  obtain ⟨h₁, h₂, h₃⟩ := h.ne
  have here : files.root.entryAt names = some none := isFolderAt_of_follow hfollow
  rw [follow_eq, here] at hfollow
  dsimp only at hfollow
  rw [if_neg (not_or.mpr ⟨h₁, h₂⟩), if_neg h₃] at hfollow
  split_ifs at hfollow
  exact (Except.ok.inj hfollow).symm

namespace LeadsAlong

theorem join (h : files.LeadsAlong p names) (isName : Path.IsName name) :
    files.LeadsAlong (p.join name) (names ++ [name]) := by
  refine ⟨Path.text_join_ne h.ne name, fun others hothers => ?_⟩
  obtain ⟨directory, hcut, -, hsegments⟩ := Path.exists_cut_join h.ne isName
  have hstart : files.start (p.join name) = files.start p := by
    unfold start
    rw [Path.isAbsolute_join h.ne]
  rw [hcut.segments_eq, String.ofList_toList, hstart] at hothers
  obtain ⟨folder, hfold, hfollow⟩ := foldlM_follow_concat.mp hothers
  obtain rfl : folder = names := by
    apply h.ends
    rcases hsegments with hsegments | hsegments
    · rw [hsegments, hfold]
    · -- An empty segment at the end stays in the folder that it is found in.
      rw [hsegments, foldlM_follow_concat]
      exact ⟨folder, hfold, follow_of_not_leads (isFolderAt_of_follow hfollow) rfl⟩
  exact follow_of_isName isName hfollow

theorem below (h : files.LeadsAlong p names) {others : List String}
    (areNames : ∀ name ∈ others, Path.IsName name) :
    files.LeadsAlong (p.below others) (names ++ others) := by
  induction others generalizing p names with
  | nil =>
    rw [List.append_nil]
    exact h
  | cons name rest ih =>
    obtain ⟨first, rest⟩ := List.forall_mem_cons.mp areNames
    rw [List.append_cons]
    exact ih (h.join first) rest

theorem dataAt?_of_read (h : files.LeadsAlong p names) (hread : files.read p = .ok data) :
    files.dataAt? names = some data := by
  obtain ⟨others, hresolve, hdata⟩ := read_eq_ok_iff.mp hread
  obtain ⟨-, -, hfold⟩ := resolve_eq_ok_iff_foldlM.mp hresolve
  rw [← h.ends others hfold]
  exact hdata

theorem isFile_eq_false (h : files.LeadsAlong p names) (free : files.dataAt? names = none) :
    files.isFile p = false := by
  rw [← Bool.not_eq_true, isFile_eq_true_iff]
  rintro ⟨data, hread⟩
  rw [h.dataAt?_of_read hread] at free
  cases free

end LeadsAlong

/-! ## From the root -/

theorem segments_placeOf (ne : names ≠ []) (h : ∀ name ∈ names, Path.IsName name) :
    (placeOf names).segments = "" :: names := by
  have separated : Text.Separated '/' (['/'].intercalate (names.map String.toList))
      (names.map String.toList) := by
    refine ⟨mt List.map_eq_nil_iff.mp ne, ?_, rfl⟩
    intro piece hpiece
    obtain ⟨name, hname, rfl⟩ := List.mem_map.mp hpiece
    exact (h name hname).whole
  have text : (placeOf names).text.toList = '/' :: ['/'].intercalate (names.map String.toList) := by
    rw [placeOf, String.toList_append, String.toList_intercalate]
    rfl
  rw [Path.segments, text, Text.cutAt_cons_of_cut rfl, ← Text.separated_iff.mp separated]
  simp

theorem foldlM_follow_names {start others : List String} (h : ∀ name ∈ names, Path.IsName name)
    (hfold : names.foldlM files.follow start = .ok others) : others = start ++ names := by
  induction names using List.reverseRecOn generalizing others with
  | nil =>
    rw [List.append_nil]
    exact (Except.ok.inj hfold).symm
  | append_singleton front name ih =>
    obtain ⟨areNames, isName⟩ := List.forall_mem_append.mp h
    obtain ⟨folder, hfront, hfollow⟩ := foldlM_follow_concat.mp hfold
    rw [follow_of_isName (isName name (List.mem_singleton_self name)) hfollow, ih areNames hfront,
      List.append_assoc]

theorem leadsAlong_placeOf (h : ∀ name ∈ names, Path.IsName name) :
    files.LeadsAlong (placeOf names) names := by
  have absolute : (placeOf names).isAbsolute = true := by
    simp [placeOf, Path.isAbsolute]
  have stay : files.follow [] "" = .ok [] := follow_of_not_leads rfl rfl
  refine ⟨by simp [placeOf], fun others hothers => ?_⟩
  rw [start, if_pos absolute] at hothers
  cases names with
  | nil =>
    have segments : (placeOf []).segments = ["", ""] := rfl
    simpa [segments, stay, bind, Except.bind, pure, Except.pure] using hothers
  | cons first rest =>
    rw [segments_placeOf (List.cons_ne_nil _ _) h, List.foldlM_cons, stay] at hothers
    exact foldlM_follow_names h hothers

end Files

end TermScore
