import Mathlib.Data.List.Basic
import Mathlib.Data.List.TakeWhile
import TermScore.Json.Read

/-!
# Reading back JSON

The text of a value is read as that value. This holds at every indent and before everything that can
follow a value, so it holds of the items and members inside too.
-/

namespace TermScore.JsonValue

variable {blanks l rest : List Char} {c : Char} {indent steps n : Nat}

/-! ## Blanks -/

theorem skipBlanks_append (h : ∀ c ∈ blanks, isJsonBlank c = true) (l : List Char) :
    skipBlanks (blanks ++ l) = skipBlanks l :=
  List.dropWhile_append_of_pos h

theorem skipBlanks_cons (h : isJsonBlank c = false) : skipBlanks (c :: l) = c :: l := by
  rw [skipBlanks, List.dropWhile_cons_of_neg (by simp [h])]

theorem readValue_append (h : ∀ c ∈ blanks, isJsonBlank c = true) (steps : Nat) (l : List Char) :
    readValue steps (blanks ++ l) = readValue steps l := by
  cases steps with
  | zero => rfl
  | succ steps => rw [readValue, readValue, skipBlanks_append h]

theorem readItems_append (h : ∀ c ∈ blanks, isJsonBlank c = true) (steps : Nat) (l : List Char) :
    readItems steps (blanks ++ l) = readItems steps l := by
  cases steps with
  | zero => rfl
  | succ steps => rw [readItems, readItems, readValue_append h]

theorem readItems_skipBlanks (steps : Nat) (l : List Char) :
    readItems steps (skipBlanks l) = readItems steps l := by
  rw [← readItems_append (fun c hc => List.mem_takeWhile_imp hc) steps (skipBlanks l), skipBlanks,
    List.takeWhile_append_dropWhile]

theorem readMembers_append (h : ∀ c ∈ blanks, isJsonBlank c = true) (steps : Nat)
    (l : List Char) : readMembers steps (blanks ++ l) = readMembers steps l := by
  cases steps with
  | zero => rfl
  | succ steps => rw [readMembers, readMembers, skipBlanks_append h]

theorem readMembers_skipBlanks (steps : Nat) (l : List Char) :
    readMembers steps (skipBlanks l) = readMembers steps l := by
  rw [← readMembers_append (fun c hc => List.mem_takeWhile_imp hc) steps (skipBlanks l), skipBlanks,
    List.takeWhile_append_dropWhile]

/-! ## Strings -/

theorem controlDigits : ∀ n < 0x20,
    'u' :: List.replicate (4 - (Text.hexDigits n).length) '0' ++ Text.hexDigits n =
      ['u', '0', '0', (n / 16).digitChar, (n % 16).digitChar] ∧
    unit? '0' '0' (n / 16).digitChar (n % 16).digitChar = some n := by
  decide +kernel

theorem readChars_control {a b : Char} (hunit : unit? '0' '0' a b = some c.toNat)
    (control : c.toNat < 0x20) (l : List Char) :
    readChars ('\\' :: 'u' :: '0' :: '0' :: a :: b :: l) = (readChars l).push c := by
  have high : isHighSurrogate c.toNat = false := by
    simp only [isHighSurrogate, Bool.and_eq_false_iff, decide_eq_false_iff_not]
    omega
  have low : isLowSurrogate c.toNat = false := by
    simp only [isLowSurrogate, Bool.and_eq_false_iff, decide_eq_false_iff_not]
    omega
  rw [readChars]
  simp [hunit, high, low]

theorem readChars_plain (quote : c ≠ '"') (backslash : c ≠ '\\') (control : ¬ c.toNat < 0x20)
    (l : List Char) : readChars (c :: l) = (readChars l).push c := by
  rw [readChars]
  · rw [if_neg (not_or.mpr ⟨control, backslash⟩)]
  all_goals simp_all

theorem readChars_jsonEscape (c : Char) (l : List Char) :
    readChars (Text.jsonEscape c ++ l) = (readChars l).push c := by
  unfold Text.jsonEscape
  split_ifs with quote backslash feed ret tab back page control
  · rw [quote]; rfl
  · rw [backslash]; rfl
  · rw [feed]; rfl
  · rw [ret]; rfl
  · rw [tab]; rfl
  · rw [back]; rfl
  · rw [page]; rfl
  · obtain ⟨hdigits, hunit⟩ := controlDigits c.toNat control
    dsimp only
    rw [List.cons_append, hdigits]
    exact readChars_control hunit control l
  · exact readChars_plain quote backslash control l

theorem readChars_flatMap (text rest : List Char) :
    readChars (text.flatMap Text.jsonEscape ++ '"' :: rest) = some (some text, rest) := by
  induction text with
  | nil => rfl
  | cons c text ih =>
    rw [List.flatMap_cons, List.append_assoc, readChars_jsonEscape, ih]
    rfl

/-! ## Numbers -/

/-- What follows a value, inside another one or at the end of the text. -/
def Stops (rest : List Char) : Prop :=
  rest = [] ∨ (∃ tail, rest = ',' :: tail) ∨ ∃ tail, rest = '\n' :: tail

theorem takeDigits?_append (ne : l ≠ []) (digits : ∀ c ∈ l, c.isDigit = true)
    (h : Stops rest) : takeDigits? (l ++ rest) = some (l, rest) := by
  have htake : rest.takeWhile Char.isDigit = [] := by
    obtain rfl | ⟨tail, rfl⟩ | ⟨tail, rfl⟩ := h <;> rfl
  have hdrop : rest.dropWhile Char.isDigit = rest := by
    obtain rfl | ⟨tail, rfl⟩ | ⟨tail, rfl⟩ := h <;> rfl
  unfold takeDigits?
  rw [List.takeWhile_append_of_pos digits, List.dropWhile_append_of_pos digits, htake, hdrop,
    List.append_nil, if_neg (by simpa using ne)]

theorem head?_toDigits_ne (h : 0 < n) : (Nat.toDigits 10 n).head? ≠ some '0' := by
  induction n using Nat.strongRecOn with
  | ind n ih =>
    by_cases small : n < 10
    · have nonzero : ∀ n < 10, 0 < n → [n.digitChar].head? ≠ some '0' := by decide
      rw [Nat.toDigits_of_lt_base small]
      exact nonzero n small h
    · rw [Nat.toDigits_of_base_le (by decide) (Nat.not_lt.mp small),
        List.head?_append_of_ne_nil _ Nat.toDigits_ne_nil]
      exact ih (n / 10) (by omega) (by omega)

theorem takeWhole?_toDigits (n : Nat) (h : Stops rest) :
    takeWhole? (Nat.toDigits 10 n ++ rest) = some (Nat.toDigits 10 n, rest) := by
  rcases Nat.eq_zero_or_pos n with rfl | pos
  · obtain rfl | ⟨tail, rfl⟩ | ⟨tail, rfl⟩ := h <;> rfl
  · have digits : ∀ c ∈ Nat.toDigits 10 n, c.isDigit = true :=
      fun c hc => Nat.isDigit_of_mem_toDigits (by decide) (by decide) hc
    rw [← takeDigits?_append Nat.toDigits_ne_nil digits h]
    -- The first digit is no zero, so all digits are taken at once.
    have hhead := head?_toDigits_ne pos
    cases hl : Nat.toDigits 10 n with
    | nil => exact absurd hl Nat.toDigits_ne_nil
    | cons c digits =>
      rw [hl, List.head?_cons, ne_eq, Option.some.injEq] at hhead
      rw [takeWhole?]
      intro rest' heq
      exact hhead (List.head_eq_of_cons_eq heq)

theorem readNumber_toDigits (n : Nat) (h : Stops rest) :
    readNumber (Nat.toDigits 10 n ++ rest) = some (.ofNat n, rest) := by
  have hfraction : takeFraction? rest = some ([], rest) := by
    obtain rfl | ⟨tail, rfl⟩ | ⟨tail, rfl⟩ := h <;> rfl
  have hexponent : takeExponent? rest = some ([], rest) := by
    obtain rfl | ⟨tail, rfl⟩ | ⟨tail, rfl⟩ := h <;> rfl
  have hwhole := takeWhole?_toDigits n h
  unfold readNumber ofNat
  rw [Nat.toString_eq_ofList_toDigits]
  cases hl : Nat.toDigits 10 n with
  | nil => exact absurd hl Nat.toDigits_ne_nil
  | cons c digits =>
    have digit : c.isDigit = true :=
      Nat.isDigit_of_mem_toDigits (b := 10) (n := n) (by decide) (by decide) (by simp [hl])
    have sign : c ≠ '-' := by
      rintro rfl
      cases digit
    rw [hl, List.cons_append] at hwhole
    rw [List.cons_append]
    split
    rename_i heq
    obtain ⟨rfl, rfl⟩ : _ = [] ∧ c :: (digits ++ rest) = _ := by simpa [sign] using heq
    simp [hwhole, hfraction, hexponent]

/-! ## Values -/

/-- The text of the value is read as the value, at every indent. -/
structure ReadsBack (v : JsonValue) : Prop where
  /-- No blank stands in front, and no bracket that would end an array. -/
  starts : ∀ indent, ∃ c l, (v.pretty indent).toList = c :: l ∧ isJsonBlank c = false ∧ c ≠ ']'
  reads : ∀ {indent steps rest}, Stops rest → (v.pretty indent).length ≤ steps →
    readValue steps ((v.pretty indent).toList ++ rest) = some (v, rest)

theorem readsBack_of_cons {v : JsonValue} (c : Char) (text : Nat → List Char)
    (htext : ∀ indent, (v.pretty indent).toList = c :: text indent)
    (nonblank : isJsonBlank c = false) (ne : c ≠ ']')
    (h : ∀ indent steps rest, Stops rest → (text indent).length ≤ steps →
      readValue (steps + 1) (c :: (text indent ++ rest)) = some (v, rest)) : ReadsBack v := by
  refine ⟨fun indent => ⟨c, text indent, htext indent, nonblank, ne⟩, ?_⟩
  intro indent steps rest stops enough
  rw [← String.length_toList, htext, List.length_cons] at enough
  obtain ⟨steps, rfl⟩ : ∃ fewer, steps = fewer + 1 := ⟨steps - 1, by omega⟩
  rw [htext, List.cons_append]
  exact h indent steps rest stops (Nat.le_of_succ_le_succ enough)

theorem readsBack_null : ReadsBack .null :=
  readsBack_of_cons 'n' (fun _ => ['u', 'l', 'l']) (fun _ => by rw [pretty]; rfl) rfl (by decide)
    fun _ _ _ _ _ => rfl

theorem readsBack_bool (b : Bool) : ReadsBack (.bool b) := by
  cases b
  · exact readsBack_of_cons 'f' (fun _ => ['a', 'l', 's', 'e']) (fun _ => by rw [pretty]; rfl) rfl
      (by decide) fun _ _ _ _ _ => rfl
  · exact readsBack_of_cons 't' (fun _ => ['r', 'u', 'e']) (fun _ => by rw [pretty]; rfl) rfl
      (by decide) fun _ _ _ _ _ => rfl

theorem isJsonBlank_of_isDigit (digit : c.isDigit = true) : isJsonBlank c = false := by
  rw [← Bool.not_eq_true]
  intro blank
  simp only [isJsonBlank, Bool.or_eq_true, beq_iff_eq] at blank
  rcases blank with ((rfl | rfl) | rfl) | rfl <;> cases digit

theorem readValue_digit (digit : c.isDigit = true) (steps : Nat) (l : List Char) :
    readValue (steps + 1) (c :: l) = readNumber (c :: l) := by
  rw [readValue, skipBlanks_cons (isJsonBlank_of_isDigit digit)]
  split
  case h_1 heq => cases heq
  case h_8 => rfl
  -- Every other value starts with something else.
  all_goals
    rename_i heq
    obtain ⟨rfl, -⟩ := List.cons.inj heq
    cases digit

theorem readsBack_ofNat (n : Nat) : ReadsBack (.ofNat n) := by
  obtain ⟨c, digits, hdigits⟩ := List.exists_cons_of_ne_nil (Nat.toDigits_ne_nil (n := n) (b := 10))
  have digit : c.isDigit = true :=
    Nat.isDigit_of_mem_toDigits (b := 10) (n := n) (by decide) (by decide) (by simp [hdigits])
  refine readsBack_of_cons c (fun _ => digits) ?_ (isJsonBlank_of_isDigit digit) ?_ ?_
  · intro indent
    rw [ofNat, pretty, Nat.toString_eq_ofList_toDigits, String.toList_ofList, hdigits]
  · rintro rfl
    cases digit
  · intro indent steps rest stops _
    rw [readValue_digit digit, ← List.cons_append, ← hdigits, readNumber_toDigits n stops]

theorem readsBack_string (text : String) : ReadsBack (.string text) := by
  refine readsBack_of_cons '"' (fun _ => text.toList.flatMap Text.jsonEscape ++ ['"']) ?_ rfl
    (by decide) ?_
  · intro indent
    rw [pretty, Text.jsonString, String.toList_ofList, Text.jsonChars, List.cons_append]
  · intro indent steps rest _ _
    rw [readValue, skipBlanks_cons rfl, List.append_assoc, List.singleton_append]
    simp [readChars_flatMap]

/-! ## Items and members -/

/-- The entries of a block, each on a line of its own. -/
def lines (indent : Nat) (entries : List String) : List Char :=
  [',', '\n'].intercalate (entries.map fun entry => List.replicate indent ' ' ++ entry.toList)

theorem lines_singleton (indent : Nat) (entry : String) :
    lines indent [entry] = List.replicate indent ' ' ++ entry.toList := by
  simp [lines]

theorem lines_cons_cons (indent : Nat) (entry next : String) (more : List String) :
    lines indent (entry :: next :: more) = List.replicate indent ' ' ++
      (entry.toList ++ ',' :: '\n' :: lines indent (next :: more)) := by
  simp [lines]

theorem toList_block {entries : List String} (ne : entries ≠ []) (opening closing : String)
    (indent : Nat) : (block opening closing indent entries).toList =
      opening.toList ++ '\n' :: (lines (indent + 2) entries ++
        '\n' :: (List.replicate indent ' ' ++ closing.toList)) := by
  unfold block lines
  rw [if_neg (by simpa using ne)]
  simp [String.toList_intercalate, Function.comp_def]

theorem blank_replicate (indent : Nat) : ∀ c ∈ List.replicate indent ' ', isJsonBlank c = true := by
  intro c hc
  rw [List.eq_of_mem_replicate hc]
  rfl

theorem blank_newLine : ∀ c ∈ ['\n'], isJsonBlank c = true :=
  List.forall_mem_singleton.mpr rfl

theorem skipBlanks_newLine (outer : Nat) (h : isJsonBlank c = false) (l : List Char) :
    skipBlanks ('\n' :: (List.replicate outer ' ' ++ c :: l)) = c :: l := by
  rw [← List.cons_append, skipBlanks_append, skipBlanks_cons h]
  exact List.forall_mem_cons.mpr ⟨rfl, blank_replicate outer⟩

theorem skipBlanks_lines {entry : String} {first : List Char} (hentry : entry.toList = c :: first)
    (h : isJsonBlank c = false) (indent : Nat) (more : List String) (l : List Char) :
    ∃ tail, skipBlanks ('\n' :: (lines indent (entry :: more) ++ l)) = c :: tail := by
  have hlines : ∃ tail, lines indent (entry :: more) = List.replicate indent ' ' ++ c :: tail := by
    cases more with
    | nil => exact ⟨_, by rw [lines_singleton, hentry]⟩
    | cons next more => exact ⟨_, by rw [lines_cons_cons, hentry, List.cons_append]⟩
  obtain ⟨tail, hlines⟩ := hlines
  rw [hlines, List.append_assoc, List.cons_append, skipBlanks_newLine indent h]
  exact ⟨_, rfl⟩

theorem readItems_item {item : JsonValue} (h : item.ReadsBack) (stops : Stops rest)
    (enough : (item.pretty indent).length ≤ steps) :
    readItems (steps + 1) ((item.pretty indent).toList ++ rest) =
      match skipBlanks rest with
      | ']' :: rest => some ([item], rest)
      | ',' :: rest => do
        let (items, rest) ← readItems steps rest
        return (item :: items, rest)
      | _ => none := by
  rw [readItems, h.reads stops enough]
  rfl

theorem readItems_lines {items : List JsonValue} (ne : items ≠ [])
    (h : ∀ item ∈ items, item.ReadsBack) (indent : Nat)
    (enough : (lines indent (prettyItems indent items)).length < steps) (outer : Nat)
    (rest : List Char) :
    readItems steps (lines indent (prettyItems indent items) ++
      '\n' :: (List.replicate outer ' ' ++ ']' :: rest)) = some (items, rest) := by
  induction items generalizing steps with
  | nil => exact absurd rfl ne
  | cons item more ih =>
    obtain ⟨steps, rfl⟩ : ∃ fewer, steps = fewer + 1 := ⟨steps - 1, by omega⟩
    have first := h item List.mem_cons_self
    cases more with
    | nil =>
      rw [prettyItems, prettyItems, lines_singleton] at enough ⊢
      simp only [List.length_append, String.length_toList] at enough
      rw [List.append_assoc, readItems_append (blank_replicate indent),
        readItems_item first (.inr (.inr ⟨_, rfl⟩)) (by omega), skipBlanks_newLine outer rfl]
      rfl
    | cons next more =>
      have others := fun item hitem => h item (List.mem_cons_of_mem _ hitem)
      rw [prettyItems, prettyItems, lines_cons_cons, ← prettyItems] at enough ⊢
      simp only [List.length_append, List.length_cons, String.length_toList] at enough
      -- One step is gone, and so is the text of one item, which is longer.
      have hmore := ih (List.cons_ne_nil next more) others (show _ < steps by omega)
      rw [← readItems_append blank_newLine, List.cons_append, List.nil_append] at hmore
      rw [List.append_assoc, List.append_assoc, readItems_append (blank_replicate indent),
        List.cons_append, readItems_item first (.inr (.inl ⟨_, rfl⟩)) (by omega),
        skipBlanks_cons rfl]
      simp [hmore]

/-- A line of an object. -/
def memberLine (indent : Nat) (member : String × JsonValue) : String :=
  Text.jsonString member.1 ++ ": " ++ member.2.pretty indent

theorem prettyMembers_cons (indent : Nat) (member : String × JsonValue)
    (more : List (String × JsonValue)) :
    prettyMembers indent (member :: more) =
      memberLine indent member :: prettyMembers indent more := by
  rw [prettyMembers, memberLine]

theorem toList_memberLine (indent : Nat) (member : String × JsonValue) :
    (memberLine indent member).toList = '"' :: (member.1.toList.flatMap Text.jsonEscape ++
      '"' :: ':' :: ' ' :: (member.2.pretty indent).toList) := by
  simp [memberLine, Text.jsonString, Text.jsonChars]

theorem readMembers_memberLine {member : String × JsonValue} (h : member.2.ReadsBack)
    (stops : Stops rest) (enough : (member.2.pretty indent).length ≤ steps) :
    readMembers (steps + 1) ((memberLine indent member).toList ++ rest) =
      match skipBlanks rest with
      | '\x7d' :: rest => some (some [member], rest)
      | ',' :: rest => do
        let (members, rest) ← readMembers steps rest
        return (members.map (member :: ·), rest)
      | _ => none := by
  have space : ∀ c ∈ [' '], isJsonBlank c = true := List.forall_mem_singleton.mpr rfl
  have hvalue := h.reads stops enough
  rw [← readValue_append space, List.cons_append, List.nil_append] at hvalue
  rw [toList_memberLine, readMembers, List.cons_append, skipBlanks_cons rfl]
  simp only [List.append_assoc, List.cons_append, readChars_flatMap, Option.bind_eq_bind,
    Option.bind_some, Option.map_some, skipBlanks_cons (c := ':') rfl, hvalue,
    String.ofList_toList]
  rfl

theorem readMembers_lines {members : List (String × JsonValue)} (ne : members ≠ [])
    (h : ∀ member ∈ members, member.2.ReadsBack) (indent : Nat)
    (enough : (lines indent (prettyMembers indent members)).length < steps) (outer : Nat)
    (rest : List Char) :
    readMembers steps (lines indent (prettyMembers indent members) ++
      '\n' :: (List.replicate outer ' ' ++ '\x7d' :: rest)) = some (some members, rest) := by
  induction members generalizing steps with
  | nil => exact absurd rfl ne
  | cons member more ih =>
    obtain ⟨steps, rfl⟩ : ∃ fewer, steps = fewer + 1 := ⟨steps - 1, by omega⟩
    have first := h member List.mem_cons_self
    have short : (member.2.pretty indent).length ≤ (memberLine indent member).length := by
      rw [← String.length_toList, ← String.length_toList, toList_memberLine]
      simp only [List.length_append, List.length_cons]
      omega
    cases more with
    | nil =>
      rw [prettyMembers_cons, prettyMembers, lines_singleton] at enough ⊢
      simp only [List.length_append, String.length_toList] at enough
      rw [List.append_assoc, readMembers_append (blank_replicate indent),
        readMembers_memberLine first (.inr (.inr ⟨_, rfl⟩)) (by omega),
        skipBlanks_newLine outer rfl]
      rfl
    | cons next more =>
      have others := fun member hmember => h member (List.mem_cons_of_mem _ hmember)
      rw [prettyMembers_cons, prettyMembers_cons, lines_cons_cons, ← prettyMembers_cons] at enough ⊢
      simp only [List.length_append, List.length_cons, String.length_toList] at enough
      have hmore := ih (List.cons_ne_nil next more) others (show _ < steps by omega)
      rw [← readMembers_append blank_newLine, List.cons_append, List.nil_append] at hmore
      rw [List.append_assoc, List.append_assoc, readMembers_append (blank_replicate indent),
        List.cons_append, readMembers_memberLine first (.inr (.inl ⟨_, rfl⟩)) (by omega),
        skipBlanks_cons rfl]
      simp [hmore]

/-! ## Arrays and objects -/

theorem readsBack_of_block {v : JsonValue} (opening closing : Char) (entries : Nat → List String)
    (ne : ∀ indent, entries indent ≠ []) (nonblank : isJsonBlank opening = false)
    (apart : opening ≠ ']')
    (htext : ∀ indent, v.pretty indent =
      block (String.ofList [opening]) (String.ofList [closing]) indent (entries (indent + 2)))
    (h : ∀ indent steps rest, (lines (indent + 2) (entries (indent + 2))).length < steps →
      readValue (steps + 1) (opening :: '\n' :: (lines (indent + 2) (entries (indent + 2)) ++
        '\n' :: (List.replicate indent ' ' ++ closing :: rest))) = some (v, rest)) :
    ReadsBack v := by
  refine readsBack_of_cons opening
    (fun indent => '\n' :: (lines (indent + 2) (entries (indent + 2)) ++
      '\n' :: (List.replicate indent ' ' ++ [closing]))) ?_ nonblank apart ?_
  · intro indent
    rw [htext, toList_block (ne (indent + 2)), String.toList_ofList, String.toList_ofList]
    rfl
  · intro indent steps rest _ enough
    simp only [List.length_append, List.length_cons] at enough
    rw [← h indent steps rest (by omega)]
    simp

theorem readsBack_array {items : List JsonValue} (h : ∀ item ∈ items, item.ReadsBack) :
    ReadsBack (.array items) := by
  cases items with
  | nil =>
    refine readsBack_of_cons '[' (fun _ => [']']) ?_ rfl (by decide) fun _ _ _ _ _ => rfl
    intro indent
    rw [pretty, prettyItems, block, List.isEmpty_nil, if_pos rfl]
    rfl
  | cons item more =>
    refine readsBack_of_block '[' ']' (fun indent => prettyItems indent (item :: more))
      (fun indent => by simp [prettyItems]) rfl (by decide) (fun indent => by rw [pretty]) ?_
    intro indent steps rest enough
    have hitems := readItems_lines (List.cons_ne_nil item more) h (indent + 2) enough indent rest
    -- The first item does not look like the end of the array.
    obtain ⟨c, first, hfirst, nonblank, apart⟩ := (h item List.mem_cons_self).starts (indent + 2)
    obtain ⟨tail, hskip⟩ := skipBlanks_lines hfirst nonblank (indent + 2)
      (prettyItems (indent + 2) more) ('\n' :: (List.replicate indent ' ' ++ ']' :: rest))
    rw [← prettyItems] at hskip
    rw [← readItems_append blank_newLine, List.cons_append, List.nil_append,
      ← readItems_skipBlanks, hskip] at hitems
    rw [readValue, skipBlanks_cons rfl]
    simp [hskip, apart, hitems]

theorem readsBack_object {members : List (String × JsonValue)}
    (h : ∀ member ∈ members, member.2.ReadsBack) : ReadsBack (.object members) := by
  cases members with
  | nil =>
    refine readsBack_of_cons '\x7b' (fun _ => ['\x7d']) ?_ rfl (by decide) fun _ _ _ _ _ => rfl
    intro indent
    rw [pretty, prettyMembers, block, List.isEmpty_nil, if_pos rfl]
    rfl
  | cons member more =>
    refine readsBack_of_block '\x7b' '\x7d' (fun indent => prettyMembers indent (member :: more))
      (fun indent => by simp [prettyMembers_cons]) rfl (by decide) (fun indent => by rw [pretty]) ?_
    intro indent steps rest enough
    have hmembers :=
      readMembers_lines (List.cons_ne_nil member more) h (indent + 2) enough indent rest
    -- The first member starts with the quote of its key.
    obtain ⟨tail, hskip⟩ := skipBlanks_lines (toList_memberLine (indent + 2) member) rfl
      (indent + 2) (prettyMembers (indent + 2) more)
      ('\n' :: (List.replicate indent ' ' ++ '\x7d' :: rest))
    rw [← prettyMembers_cons] at hskip
    rw [← readMembers_append blank_newLine, List.cons_append, List.nil_append,
      ← readMembers_skipBlanks, hskip] at hmembers
    rw [readValue, skipBlanks_cons rfl]
    simp [hskip, hmembers]

/-! ## Documents -/

theorem read?_text_of_readsBack {v : JsonValue} (h : v.ReadsBack) : read? v.text = some v := by
  have enough : (v.pretty 0).length ≤ 2 * (v.pretty 0).toList.length + 2 := by
    rw [String.length_toList]
    omega
  have hread := h.reads (.inl rfl : Stops []) enough
  rw [List.append_nil] at hread
  simp only [read?, text, hread]
  rfl

/-- A value without the strings that are no text, and with no numbers but natural numbers. -/
inductive Plain : JsonValue → Prop where
  | null : Plain .null
  | bool (b : Bool) : Plain (.bool b)
  | ofNat (n : Nat) : Plain (.ofNat n)
  | string (text : String) : Plain (.string text)
  | array {items : List JsonValue} (h : ∀ item ∈ items, Plain item) : Plain (.array items)
  | object {members : List (String × JsonValue)} (h : ∀ member ∈ members, Plain member.2) :
      Plain (.object members)

theorem read?_text {v : JsonValue} (h : v.Plain) : read? v.text = some v := by
  refine read?_text_of_readsBack ?_
  induction h with
  | null => exact readsBack_null
  | bool b => exact readsBack_bool b
  | ofNat n => exact readsBack_ofNat n
  | string text => exact readsBack_string text
  | array _ ih => exact readsBack_array ih
  | object _ ih => exact readsBack_object ih

end TermScore.JsonValue
