import ApiDrift.Proofs.Scan

/-!
# Reading what was written

A word is read back whole where the character behind it belongs to no word, and blanks before it are
passed over. A scan with a recogniser that begins with a word finds nothing in a gap without word
characters, so that entries written on lines of their own are found one by one.
-/
namespace ApiDrift.Text

variable {α β : Type}

/-- A text of one or more word characters. -/
structure Word where
  text : List Char
  ne_nil : text ≠ []
  all : ∀ c ∈ text, isWordChar c = true

/-- A text of word characters as a word. -/
def Sample.word (s : String) (h : s.toList ≠ [] ∧ s.toList.all isWordChar = true) : Word :=
  ⟨s.toList, h.1, List.all_eq_true.mp h.2⟩

/-- A class of characters without any of the blanks is told from them by its members. -/
theorem not_isBlank_of_class {p : Char → Bool} (hp : ∀ n ∈ blanks, p (Char.ofNat n) = false)
    {c : Char} (h : p c = true) : isBlank c = false := by
  by_contra hblank
  have hmem : c.toNat ∈ blanks := List.contains_iff_mem.mp (by simpa [isBlank] using hblank)
  have hc := hp c.toNat hmem
  rw [Char.ofNat_toNat, h] at hc
  cases hc

theorem not_isBlank_of_isWordChar {c : Char} (h : isWordChar c = true) : isBlank c = false :=
  not_isBlank_of_class (by decide +kernel) h

theorem isWordChar_space : isWordChar ' ' = false := by decide

theorem literal?_self (word : String) (rest : List Char) :
    literal? word (word.toList ++ rest) = some rest := by
  rw [literal?, if_pos (List.isPrefixOf_iff_prefix.mpr (List.prefix_append _ _)), List.drop_left]

theorem skipBlanks_cons_of_not {c : Char} (h : isBlank c = false) (rest : List Char) :
    skipBlanks (c :: rest) = c :: rest :=
  List.dropWhile_cons_of_neg (by simp [h])

theorem skipBlanks_space (rest : List Char) : skipBlanks (' ' :: rest) = skipBlanks rest :=
  List.dropWhile_cons_of_pos (by decide)

theorem blanks?_space (rest : List Char) : blanks? (' ' :: rest) = some (skipBlanks rest) := by
  rw [blanks?, if_pos (by decide), skipBlanks_space]

theorem blanks?_of_not {c : Char} (h : isBlank c = false) (rest : List Char) :
    blanks? (c :: rest) = none := by
  rw [blanks?, if_neg (by simp [h])]

theorem word?_of_not {c : Char} (h : isWordChar c = false) (rest : List Char) :
    word? (c :: rest) = none := by
  have htake : (c :: rest).takeWhile isWordChar = [] := List.takeWhile_cons_of_neg (by simp [h])
  simp only [word?, htake, List.isEmpty_nil, if_true]

theorem all_of_word? {cs w rest : List Char} (h : word? cs = some (w, rest)) :
    ∀ c ∈ w, isWordChar c = true := by
  unfold word? at h
  dsimp only at h
  split at h
  · cases h
  · cases h
    exact List.all_eq_true.mp List.all_takeWhile

/-- A word behind blanks is a word. -/
theorem all_of_blankWord? {cs w rest : List Char} (h : blankWord? cs = some (w, rest)) :
    ∀ c ∈ w, isWordChar c = true := by
  obtain ⟨after, -, h⟩ := Option.bind_eq_some_iff.mp h
  exact all_of_word? h

namespace Word
variable {w : Word} {c : Char} {rest : List Char}

theorem notMem (hc : isWordChar c = false) : c ∉ w.text := fun hmem => by
  rw [w.all c hmem] at hc
  cases hc

theorem exists_cons (w : Word) : ∃ d ds, w.text = d :: ds ∧ isWordChar d = true := by
  obtain ⟨d, ds, hw⟩ := List.exists_cons_of_ne_nil w.ne_nil
  exact ⟨d, ds, hw, w.all d (hw ▸ List.mem_cons_self)⟩

theorem read (hc : isWordChar c = false) :
    word? (w.text ++ c :: rest) = some (w.text, c :: rest) := by
  have htake : w.text.takeWhile isWordChar = w.text := List.takeWhile_eq_self_iff.mpr w.all
  have hdrop : w.text.dropWhile isWordChar = [] := List.dropWhile_eq_nil_iff.mpr w.all
  have hempty : w.text.isEmpty = false := List.isEmpty_eq_false_iff.mpr w.ne_nil
  rw [word?_append hc]
  simp only [word?, htake, hdrop, hempty, Bool.false_eq_true, if_false, Option.map_some,
    List.nil_append]

theorem skipBlanks_append (w : Word) (rest : List Char) :
    skipBlanks (w.text ++ rest) = w.text ++ rest := by
  obtain ⟨d, ds, hw, hd⟩ := w.exists_cons
  rw [hw, List.cons_append, skipBlanks_cons_of_not (not_isBlank_of_isWordChar hd)]

theorem readAfterBlank (hc : isWordChar c = false) :
    blankWord? (' ' :: (w.text ++ c :: rest)) = some (w.text, c :: rest) := by
  rw [blankWord?, blanks?_space, skipBlanks_append]
  exact w.read hc

end Word

theorem blankWord?_space_of_not {c : Char} (hblank : isBlank c = false)
    (hword : isWordChar c = false) (rest : List Char) : blankWord? (' ' :: c :: rest) = none := by
  rw [blankWord?, blanks?_space, skipBlanks_cons_of_not hblank]
  exact word?_of_not hword rest

theorem literal?_of_not {keyword : String} (hkeyword : keyword.toList.all isWordChar = true)
    (hne : keyword.toList ≠ []) {c : Char} (hc : isWordChar c = false) (rest : List Char) :
    literal? keyword (c :: rest) = none := by
  refine if_neg fun hfront => ?_
  obtain ⟨d, ds, hd⟩ := List.exists_cons_of_ne_nil hne
  have hword := List.all_eq_true.mp hkeyword d (hd ▸ List.mem_cons_self)
  rw [List.isPrefixOf_iff_prefix, hd, List.cons_prefix_cons] at hfront
  rw [hfront.1, hc] at hword
  cases hword

/-- A keyword is followed by no further word character, so that of a longer word it is no part. -/
theorem literal?_word_bind {keyword : String} (hkeyword : keyword.toList.all isWordChar = true)
    {w : List Char} (hw : ∀ d ∈ w, isWordChar d = true) {c : Char} (hc : isWordChar c = false)
    {g : List Char → Option β} (hg : ∀ d rest, isWordChar d = true → g (d :: rest) = none)
    (rest : List Char) :
    (literal? keyword (w ++ c :: rest) >>= g) =
      if w = keyword.toList then g (c :: rest) else none := by
  have hnotMem : c ∉ keyword.toList := fun hmem => by
    rw [List.all_eq_true.mp hkeyword c hmem] at hc
    cases hc
  rw [literal?_append hnotMem]
  by_cases hfront : keyword.toList <+: w
  · obtain ⟨t, rfl⟩ := hfront
    rw [literal?_self]
    cases t with
    | nil => simp
    | cons d t =>
      rw [if_neg (by simp)]
      exact hg d (t ++ c :: rest) (hw d (by simp))
  · have hliteral : literal? keyword w = none := by
      rw [literal?, if_neg fun h => hfront (List.isPrefixOf_iff_prefix.mp h)]
    have hne : w ≠ keyword.toList := fun heq => hfront (heq ▸ List.prefix_refl w)
    rw [hliteral, if_neg hne]
    rfl

/-- The recogniser succeeds at word characters only. -/
def BeginsWithWord (r : Recogniser α) : Prop :=
  ∀ c rest, isWordChar c = false → r (c :: rest) = none

section
variable {r : Recogniser α}

theorem findAll_append_of_forall_none {gap : List Char}
    (h : ∀ c ∈ gap, ∀ rest, r (c :: rest) = none) (rest : List Char) :
    findAll r (gap ++ rest) = findAll r rest := by
  induction gap with
  | nil => rfl
  | cons c gap ih =>
    rw [List.cons_append, findAll_cons_of_none (h c List.mem_cons_self _)]
    exact ih fun d hd => h d (List.mem_cons_of_mem c hd)

theorem BeginsWithWord.literal {keyword : String}
    (hkeyword : keyword.toList.all isWordChar = true) (hne : keyword.toList ≠ [])
    (g : List Char → Option (α × List Char)) :
    BeginsWithWord fun cs => literal? keyword cs >>= g := by
  intro c rest hc
  show literal? keyword (c :: rest) >>= g = none
  rw [literal?_of_not hkeyword hne hc]
  rfl

theorem BeginsWithWord.findAll_gap (hr : BeginsWithWord r) {gap : List Char}
    (hgap : gap.any isWordChar = false) (rest : List Char) :
    findAll r (gap ++ rest) = findAll r rest := by
  refine findAll_append_of_forall_none (fun c hc rest => hr c rest ?_) rest
  simpa only [Bool.not_eq_true] using List.any_eq_false.mp hgap c hc

theorem findAll_append_of_suffix {w rest : List Char}
    (h : ∀ s, s <:+ w → s ≠ [] → r (s ++ rest) = none) :
    findAll r (w ++ rest) = findAll r rest := by
  induction w with
  | nil => rfl
  | cons c w ih =>
    have hc := h (c :: w) (List.suffix_refl _) (List.cons_ne_nil _ _)
    rw [List.cons_append] at hc ⊢
    rw [findAll_cons_of_none hc]
    exact ih fun s hs => h s (hs.trans (List.suffix_cons c w))

/-- An entry on a line of its own, between two blanks and a mark for its end. -/
def line (mark entry : List Char) : List Char := "  ".toList ++ (entry ++ (mark ++ ['\n']))

/-- Entries on lines of their own are found one by one. -/
theorem BeginsWithWord.findAll_lines (hr : BeginsWithWord r) {mark : List Char}
    (hmark : mark.any isWordChar = false) {text : β → List Char} {found : β → α}
    {entries : List β} (hne : ∀ e ∈ entries, text e ≠ [])
    (hread : ∀ e ∈ entries, ∀ rest,
      r (text e ++ (mark ++ '\n' :: rest)) = some (found e, mark ++ '\n' :: rest)) :
    findAll r ('\n' :: entries.flatMap fun e => line mark (text e)) = entries.map found := by
  have hnewline : ∀ rest, findAll r ('\n' :: rest) = findAll r rest := fun rest =>
    findAll_cons_of_none (hr '\n' rest (by decide))
  rw [hnewline]
  induction entries with
  | nil => rfl
  | cons e entries ih =>
    have he := hread e List.mem_cons_self (entries.flatMap fun e => line mark (text e))
    have htext := findAll_append_of_some (hne e List.mem_cons_self) he
    have hentries := ih (fun e' h' => hne e' (List.mem_cons_of_mem e h'))
      fun e' h' => hread e' (List.mem_cons_of_mem e h')
    rw [List.flatMap_cons, line, List.append_assoc, hr.findAll_gap (by decide), List.append_assoc,
      List.append_assoc, List.singleton_append, htext, hr.findAll_gap hmark, hnewline, hentries,
      List.map_cons]

end

end ApiDrift.Text
