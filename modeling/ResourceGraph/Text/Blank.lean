/-!
# Blank characters

The characters that separate words: the Unicode white space characters together with the four
information separators `U+001C` to `U+001F`.  `trim` removes them from both ends of a text.
-/

namespace ResourceGraph.Text

/-- The blank characters outside the ranges `U+0009`–`U+000D`, `U+001C`–`U+0020` and
`U+2000`–`U+200A`. -/
def scatteredBlanks : List Nat :=
  [0x85, 0xA0, 0x1680, 0x2028, 0x2029, 0x202F, 0x205F, 0x3000]

/-- Whether a character is blank. -/
def isBlank (c : Char) : Bool :=
  let point := c.toNat
  (0x9 ≤ point && point ≤ 0xD) || (0x1C ≤ point && point ≤ 0x20) ||
    (0x2000 ≤ point && point ≤ 0x200A) || scatteredBlanks.contains point

/-- Whether a character may surround a number: a blank one that separates no information. -/
def surroundsNumber (c : Char) : Bool :=
  isBlank c && !(0x1C ≤ c.toNat && c.toNat ≤ 0x1F)

/-- The characters left once those that satisfy a condition are removed from both ends. -/
def stripWhile (condition : Char → Bool) (characters : List Char) : List Char :=
  ((characters.dropWhile condition).reverse.dropWhile condition).reverse

/-- A text without the blank characters at its two ends. -/
def trim (text : String) : String :=
  String.ofList (stripWhile isBlank text.toList)

/-- Whether a text has no character but blank ones. -/
def isAllBlank (text : String) : Bool :=
  text.toList.all isBlank

/-! ## Laws -/

theorem isBlank_of_isWhitespace {c : Char} (hwhite : c.isWhitespace = true) :
    isBlank c = true := by
  simp only [Char.isWhitespace, Bool.or_eq_true, decide_eq_true_eq] at hwhite
  rcases hwhite with ((rfl | rfl) | rfl) | rfl <;> decide

/-- Some characters are others with nothing around them but characters that satisfy a condition, and
those others neither begin nor end with such a character. -/
structure Surrounds (condition : Char → Bool) (characters stripped : List Char) : Prop where
  around : ∃ before after, characters = before ++ stripped ++ after ∧
    (∀ c ∈ before, condition c = true) ∧ ∀ c ∈ after, condition c = true
  first : ∀ c, stripped.head? = some c → condition c = false
  last : ∀ c, stripped.getLast? = some c → condition c = false

variable {condition : Char → Bool} {characters stripped : List Char}

theorem condition_of_mem_takeWhile {c : Char} (hc : c ∈ characters.takeWhile condition) :
    condition c = true :=
  List.all_eq_true.mp List.all_takeWhile c hc

theorem condition_of_head?_dropWhile {c : Char}
    (hc : (characters.dropWhile condition).head? = some c) : condition c = false := by
  have hfirst := List.head?_dropWhile_not condition characters
  rwa [hc] at hfirst

theorem surrounds_stripWhile (condition : Char → Bool) (characters : List Char) :
    Surrounds condition characters (stripWhile condition characters) := by
  unfold stripWhile
  generalize hrest : characters.dropWhile condition = rest
  generalize hkept : rest.reverse.dropWhile condition = kept
  have hback : rest = kept.reverse ++ (rest.reverse.takeWhile condition).reverse := by
    rw [← hkept, ← List.reverse_append, List.takeWhile_append_dropWhile, List.reverse_reverse]
  refine ⟨⟨characters.takeWhile condition, (rest.reverse.takeWhile condition).reverse, ?_, ?_, ?_⟩,
    ?_, ?_⟩
  · rw [List.append_assoc, ← hback, ← hrest, List.takeWhile_append_dropWhile]
  · exact fun c hc => condition_of_mem_takeWhile hc
  · exact fun c hc => condition_of_mem_takeWhile (List.mem_reverse.mp hc)
  · intro c hc
    have hhead : (characters.dropWhile condition).head? = some c := by
      rw [hrest, hback, List.head?_append, hc]
      rfl
    exact condition_of_head?_dropWhile hhead
  · intro c hc
    rw [List.getLast?_reverse, ← hkept] at hc
    exact condition_of_head?_dropWhile hc

/-- What is left once the characters that satisfy a condition are removed from both ends. -/
theorem stripWhile_eq_iff :
    stripWhile condition characters = stripped ↔ Surrounds condition characters stripped := by
  constructor
  · rintro rfl
    exact surrounds_stripWhile condition characters
  · rintro ⟨⟨before, after, rfl, hbefore, hafter⟩, hfirst, hlast⟩
    have hfront : (before ++ stripped ++ after).dropWhile condition = (stripped ++ after).dropWhile
        condition := by
      rw [List.append_assoc, List.dropWhile_append_of_pos hbefore]
    rw [stripWhile, hfront]
    cases stripped with
    | nil =>
        have hnone : ([] ++ after).dropWhile condition = [] := by
          rw [List.nil_append, ← List.append_nil after, List.dropWhile_append_of_pos hafter]
          rfl
        rw [hnone]
        rfl
    | cons c rest =>
        have hc : ¬ condition c = true := by
          rw [hfirst c rfl]
          exact Bool.false_ne_true
        rw [List.cons_append, List.dropWhile_cons_of_neg hc, ← List.cons_append,
          List.reverse_append,
          List.dropWhile_append_of_pos (fun d hd => hafter d (List.mem_reverse.mp hd))]
        have hback : (c :: rest).reverse.dropWhile condition = (c :: rest).reverse := by
          generalize hreversed : (c :: rest).reverse = reversed
          cases reversed with
          | nil => rfl
          | cons d others =>
              have hd : condition d = false := by
                apply hlast d
                rw [List.getLast?_eq_head?_reverse, hreversed]
                rfl
              exact List.dropWhile_cons_of_neg (by rw [hd]; exact Bool.false_ne_true)
        rw [hback, List.reverse_reverse]

theorem trim_eq_iff {text trimmed : String} :
    trim text = trimmed ↔ Surrounds isBlank text.toList trimmed.toList := by
  rw [← stripWhile_eq_iff, trim, ← String.toList_inj, String.toList_ofList]

end ResourceGraph.Text
