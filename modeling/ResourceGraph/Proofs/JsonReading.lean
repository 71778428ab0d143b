import ResourceGraph.Json.Printer
import ResourceGraph.Json.Reader
import ResourceGraph.Proofs.Except
import ResourceGraph.Proofs.Key

/-!
# Reading printed JSON

The reader of JSON inverts the printer on values of texts, truth values and nulls: what is printed
for such a value is read as the value again (`Json.read_print`), so nothing in a text can end it
early or pass for a bracket or a comma.

* A character is read back from what stands for it in a string (`readString_escapeCharacter`), and
  so are the characters of a whole text up to the quote that closes it (`readString_escaped`).
* `IsReadBack` says that a value is read back at a level of indentation, whatever follows it.  The
  reader counts its steps; the number of characters printed for a value is enough for it.
* The items of a list, and the members of a mapping, are read one after another
  (`readItems_printed`, `readMembers_printed`).  The induction is on the parts that are left, the
  reader holding those before them.
* `isReadBack_of_isTextual` is the induction on the value.

Numbers are left out.  Those with a fraction come back as the nearest binary number, which is a
matter of how a shortest decimal is found and not of how it is framed.
-/

namespace ResourceGraph

/-! ## Strings -/

namespace Text

/-- A character is no half of a pair. -/
theorem isHalf_toNat (c : Char) : isHalf c.toNat = false := by
  have hvalid : c.toNat < 0xD800 ∨ 0xDFFF < c.toNat ∧ c.toNat < 0x110000 := c.valid
  simp only [isHalf, isFirstHalf, isSecondHalf, Bool.or_eq_false_iff, Bool.and_eq_false_iff,
    decide_eq_false_iff_not]
  omega

theorem characterOf_toNat (c : Char) : characterOf c.toNat = c := by
  rw [characterOf, isHalf_toNat]
  exact Char.ofNat_toNat c

/-- The code points of characters write these characters. -/
theorem joinUnits_map_toNat (characters : List Char) :
    joinUnits (characters.map Char.toNat) = characters := by
  induction characters with
  | nil => rfl
  | cons first rest ih =>
      cases rest with
      | nil => exact congrArg (fun c => [c]) (characterOf_toNat first)
      | cons second rest =>
          have hfirst : isFirstHalf first.toNat = false :=
            (Bool.or_eq_false_iff.mp (isHalf_toNat first)).1
          rw [List.map_cons, List.map_cons, joinUnits, hfirst, Bool.false_and,
            if_neg Bool.false_ne_true, characterOf_toNat, ← List.map_cons, ih]

end Text

namespace Json

/-- Four hexadecimal digits write a control character. -/
theorem exists_hexQuad?_eq {point : ℕ} (h : point < 0x20) : ∃ a b c d,
    Text.hexadecimal 4 point = [a, b, c, d] ∧ hexQuad? a b c d = some point := by
  interval_cases point <;> exact ⟨_, _, _, _, rfl, rfl⟩

/-- A character that needs no escape stands for itself. -/
theorem readString_cons (start : List Char) (reversed : List ℕ) {c : Char} (rest : List Char)
    (hquote : c ≠ '"') (hbackslash : c ≠ '\\') (hcontrol : 0x20 ≤ c.toNat) :
    readString start reversed (c :: rest) = readString start (c.toNat :: reversed) rest := by
  rw [readString]
  · exact if_neg (by omega)
  · exact hquote
  all_goals
    intros
    contradiction

/-- What stands for a character is read as the character; the string has to go on after it. -/
theorem readString_escapeCharacter (start : List Char) (reversed : List ℕ) (c : Char)
    {rest : List Char} (hrest : rest ≠ []) :
    readString start reversed (escapeCharacter c ++ rest) =
      readString start (c.toNat :: reversed) rest := by
  unfold escapeCharacter
  split
  -- the characters with an escape of their own
  iterate 7 rfl
  next hquote hbackslash _ _ _ _ _ =>
    split
    -- the four digits use up the string unless something follows them
    · next hcontrol =>
        obtain ⟨a, b, c', d, hdigits, hpoint⟩ := exists_hexQuad?_eq hcontrol
        have hempty : rest.isEmpty = false := List.isEmpty_eq_false_iff.mpr hrest
        rw [hdigits, List.cons_append, List.cons_append, List.cons_append, List.cons_append,
          List.cons_append, List.cons_append, List.nil_append, readString]
        simp only [hempty, hpoint]
    · next hcontrol => exact readString_cons start reversed rest hquote hbackslash (by omega)

/-- What stands for some characters, up to a closing quote, is read as the characters. -/
theorem readString_escaped (start : List Char) (reversed : List ℕ) (characters rest : List Char) :
    readString start reversed (characters.flatMap escapeCharacter ++ '"' :: rest) =
      .ok (String.ofList (Text.joinUnits (reversed.reverse ++ characters.map Char.toNat)),
        rest) := by
  induction characters generalizing reversed with
  | nil => rw [List.flatMap_nil, List.nil_append, readString, List.map_nil, List.append_nil]
  | cons c others ih =>
      have hrest : others.flatMap escapeCharacter ++ '"' :: rest ≠ [] :=
        List.append_ne_nil_of_right_ne_nil _ (List.cons_ne_nil _ _)
      rw [List.flatMap_cons, List.append_assoc, readString_escapeCharacter start reversed c hrest,
        ih, List.reverse_cons, List.append_assoc, List.singleton_append, List.map_cons]

theorem toList_printText (text : String) (rest : List Char) : (printText text).toList ++ rest =
    '"' :: (text.toList.flatMap escapeCharacter ++ '"' :: rest) := by
  rw [printText, String.toList_ofList]
  simp

theorem readString_printText (start : List Char) (text : String) (rest : List Char) :
    readString start [] (text.toList.flatMap escapeCharacter ++ '"' :: rest) =
      .ok (text, rest) := by
  rw [readString_escaped, List.reverse_nil, List.nil_append, Text.joinUnits_map_toNat,
    String.ofList_toList]

/-! ## Spaces -/

theorem skipSpace_cons {c : Char} (rest : List Char) (h : isSpace c = false) :
    skipSpace (c :: rest) = c :: rest := by
  rw [skipSpace, List.dropWhile_cons_of_neg (by rw [h]; exact Bool.false_ne_true)]

theorem skipSpace_append {blank : List Char} (rest : List Char)
    (h : ∀ c ∈ blank, isSpace c = true) : skipSpace (blank ++ rest) = skipSpace rest :=
  List.dropWhile_append_of_pos h

/-- The characters of a line break and the indentation of a level. -/
def indentation (level : ℕ) : List Char := '\n' :: List.replicate (2 * level) ' '

theorem toList_newLine (level : ℕ) : (newLine level).toList = indentation level := by
  rw [newLine, String.toList_append, String.toList_ofList, String.toList_ofList]
  rfl

theorem skipSpace_indentation (level : ℕ) (rest : List Char) :
    skipSpace (indentation level ++ rest) = skipSpace rest := by
  refine skipSpace_append rest fun c hc => ?_
  rcases List.mem_cons.mp hc with rfl | hc
  · rfl
  · rw [List.eq_of_mem_replicate hc]
    rfl

end Json

/-! ## Mappings -/

namespace Entries

theorem put_eq_append {key : Scalar} {value : Value} {entries : List (Scalar × Value)}
    (h : key.key ∉ keys entries) : put key value entries = entries ++ [(key, value)] := by
  induction entries with
  | nil => rfl
  | cons entry rest ih =>
      obtain ⟨hentry, hrest⟩ := not_or.mp (mt List.mem_cons.mpr h)
      have hother : ¬ entry.1.same key = true := fun hsame =>
        hentry (Scalar.same_iff.mp hsame).symm
      rw [put, if_neg hother, ih hrest]
      rfl

theorem overlay_eq_append {base upper : List (Scalar × Value)} (h : (keys (base ++ upper)).Nodup) :
    overlay base upper = base ++ upper := by
  induction upper generalizing base with
  | nil => exact (List.append_nil base).symm
  | cons entry rest ih =>
      rw [List.append_cons] at h
      have hentry : entry.1.key ∉ keys base := by
        rw [keys, List.map_append, List.map_append, List.append_assoc] at h
        intro hbase
        exact (List.nodup_append.mp h).2.2 _ hbase _ (List.mem_cons_self ..) rfl
      rw [overlay, List.foldl_cons, ← overlay, put_eq_append hentry, ih h, ← List.append_cons]

/-- Entries with different keys declare themselves. -/
theorem ofList_eq_self {entries : List (Scalar × Value)} (h : (keys entries).Nodup) :
    ofList entries = entries :=
  overlay_eq_append h

end Entries

/-! ## Values -/

/-- A value of nulls, truth values and texts, in lists and in mappings from different texts. -/
inductive Value.IsTextual : Value → Prop
  | null : IsTextual .null
  | bool (value : Bool) : IsTextual (.bool value)
  | text (value : String) : IsTextual (.text value)
  | list {items : List Value} (hitems : ∀ item ∈ items, IsTextual item) : IsTextual (.list items)
  | map {entries : List (Scalar × Value)} (hkeys : ∀ entry ∈ entries, ∃ name, entry.1 = .text name)
      (hdistinct : (Entries.keys entries).Nodup) (hentries : ∀ entry ∈ entries, IsTextual entry.2) :
      IsTextual (.map entries)

namespace Json

/-- A character that may begin a value: no space, no closing bracket and no byte order mark. -/
def IsOpening (c : Char) : Prop := isSpace c = false ∧ c ∉ [']', '\x7d', '\uFEFF']

instance (c : Char) : Decidable (IsOpening c) := inferInstanceAs (Decidable (_ ∧ _))

/-- Characters that begin like a value. -/
def IsSolid (characters : List Char) : Prop := ∃ c rest, characters = c :: rest ∧ IsOpening c

theorem IsSolid.append {characters : List Char} (h : IsSolid characters) (rest : List Char) :
    IsSolid (characters ++ rest) := by
  obtain ⟨c, others, rfl, hc⟩ := h
  exact ⟨c, others ++ rest, rfl, hc⟩

theorem IsSolid.skipSpace_eq {characters : List Char} (h : IsSolid characters) :
    skipSpace characters = characters := by
  obtain ⟨c, others, rfl, hopening⟩ := h
  exact skipSpace_cons others hopening.1

/-- What is printed for a value at a level is read as the value, whatever follows.  The length of
what is printed is enough for the steps of the reader. -/
structure IsReadBack (level : ℕ) (value : Value) : Prop where
  solid : IsSolid (printAt level value).toList
  read : ∀ steps rest, (printAt level value).toList.length ≤ steps →
    readValue steps ((printAt level value).toList ++ rest) = .ok (value, rest)

/-! ### Parts -/

section Parts

variable {α : Type}

/-- The characters of parts, one part to a line. -/
def linesOf (level : ℕ) (charactersOf : α → List Char) (parts : List α) : List Char :=
  (',' :: indentation level).intercalate (parts.map charactersOf)

theorem linesOf_singleton (level : ℕ) (charactersOf : α → List Char) (part : α) :
    linesOf level charactersOf [part] = charactersOf part :=
  List.intercalate_singleton

theorem linesOf_cons_cons (level : ℕ) (charactersOf : α → List Char) (first second : α)
    (rest : List α) : linesOf level charactersOf (first :: second :: rest) =
      charactersOf first ++
        ',' :: (indentation level ++ linesOf level charactersOf (second :: rest)) := by
  rw [linesOf, List.map_cons, List.map_cons, List.intercalate_cons_cons, ← List.map_cons,
    List.append_assoc]
  rfl

/-- Lines begin as the first part does. -/
theorem isSolid_linesOf (level : ℕ) {charactersOf : α → List Char} {parts : List α}
    (hparts : parts ≠ []) (hsolid : ∀ part ∈ parts, IsSolid (charactersOf part)) :
    IsSolid (linesOf level charactersOf parts) := by
  cases parts with
  | nil => exact absurd rfl hparts
  | cons first others =>
      have hfirst := hsolid first (List.mem_cons_self ..)
      cases others with
      | nil => rwa [linesOf_singleton]
      | cons second others =>
          rw [linesOf_cons_cons]
          exact hfirst.append _

theorem toList_printParts (opening closing : String) (level : ℕ) {parts : List α}
    (h : parts ≠ []) (print : α → String) (rest : List Char) :
    (printParts opening closing level (parts.map print)).toList ++ rest =
      opening.toList ++ (indentation (level + 1) ++
        (linesOf (level + 1) (fun part => (print part).toList) parts ++
          (indentation level ++ (closing.toList ++ rest)))) := by
  have hparts : ¬ (parts.map print).isEmpty = true := by
    rwa [List.isEmpty_iff, List.map_eq_nil_iff]
  rw [printParts, if_neg hparts]
  simp only [String.toList_append, String.toList_intercalate, toList_newLine, List.append_assoc,
    List.map_map]
  rfl

end Parts

theorem printItems_eq_map (level : ℕ) (items : List Value) :
    printItems level items = items.map (printAt level) := by
  induction items with
  | nil => rfl
  | cons item rest ih => rw [printItems, ih, List.map_cons]

/-- What is printed for an entry. -/
def printEntry (level : ℕ) (entry : Scalar × Value) : String :=
  printKey entry.1 ++ ": " ++ printAt level entry.2

theorem printEntries_eq_map (level : ℕ) (entries : List (Scalar × Value)) :
    printEntries level entries = entries.map (printEntry level) := by
  induction entries with
  | nil => rfl
  | cons entry rest ih =>
      rw [printEntries, ih, List.map_cons]
      rfl

/-- Items are read back if each of them is. -/
theorem readItems_printed {level : ℕ} {items : List Value} (hitems : items ≠ [])
    (hread : ∀ item ∈ items, IsReadBack (level + 1) item) {steps : ℕ} (reversed : List Value)
    (rest : List Char)
    (hsteps : (linesOf (level + 1) (fun item => (printAt (level + 1) item).toList)
      items).length < steps) :
    readItems steps reversed
      (linesOf (level + 1) (fun item => (printAt (level + 1) item).toList) items ++
        (indentation level ++ ']' :: rest)) =
      .ok (.list (reversed.reverse ++ items), rest) := by
  induction items generalizing steps reversed with
  | nil => exact absurd rfl hitems
  | cons item others ih =>
      -- a step is spent on each item, and what separates it from the next is longer than that
      obtain ⟨steps, rfl⟩ : ∃ less, steps = less + 1 := ⟨steps - 1, by omega⟩
      have hitem := hread item (List.mem_cons_self ..)
      cases others with
      | nil =>
          rw [linesOf_singleton] at hsteps ⊢
          rw [readItems, hitem.read steps _ (by omega)]
          simp only [bind, Except.bind, skipSpace_indentation, skipSpace_cons rest (c := ']') rfl]
          rw [List.reverse_cons]
          rfl
      | cons second others =>
          rw [linesOf_cons_cons] at hsteps ⊢
          rw [List.length_append, List.length_cons, List.length_append] at hsteps
          have hothers : ∀ other ∈ second :: others, IsReadBack (level + 1) other :=
            fun other hother => hread other (List.mem_cons_of_mem _ hother)
          rw [List.append_assoc, readItems, hitem.read steps _ (by omega)]
          have hsolid := isSolid_linesOf (level + 1) (List.cons_ne_nil second others)
            fun other hother => (hothers other hother).solid
          simp only [bind, Except.bind, List.cons_append, List.append_assoc,
            skipSpace_cons _ (c := ',') rfl, skipSpace_indentation, (hsolid.append _).skipSpace_eq]
          rw [ih (List.cons_ne_nil _ _) hothers _ (by omega), List.reverse_cons, List.append_assoc]
          rfl

theorem toList_printEntry (level : ℕ) (name : String) (value : Value) (rest : List Char) :
    (printEntry level (.text name, value)).toList ++ rest =
      '"' :: (name.toList.flatMap escapeCharacter ++
        '"' :: ':' :: ' ' :: ((printAt level value).toList ++ rest)) := by
  rw [printEntry, String.toList_append, String.toList_append, List.append_assoc, List.append_assoc,
    printKey, toList_printText]
  rfl

theorem isSolid_printEntry (level : ℕ) {entry : Scalar × Value}
    (hkey : ∃ name, entry.1 = .text name) : IsSolid (printEntry level entry).toList := by
  obtain ⟨key, value⟩ := entry
  obtain ⟨name, rfl⟩ := hkey
  rw [← List.append_nil (printEntry _ _).toList, toList_printEntry]
  exact ⟨'"', _, rfl, by decide⟩

/-- The first member is read back if its value is. -/
theorem readMembers_printEntry {level : ℕ} {name : String} {value : Value}
    (hread : IsReadBack level value) {steps : ℕ} (reversed : List (Scalar × Value))
    (rest : List Char) (hsteps : (printEntry level (.text name, value)).toList.length ≤ steps) :
    readMembers (steps + 1) reversed ((printEntry level (.text name, value)).toList ++ rest) =
      match skipSpace rest with
      | '\x7d' :: after =>
        .ok (.map (Entries.ofList (reversed.reverse ++ [(.text name, value)])), after)
      | ',' :: after => readMembers steps ((.text name, value) :: reversed) (skipSpace after)
      | other => .error ⟨.expectingComma, other⟩ := by
  have hlength : (printAt level value).toList.length ≤ steps := by
    rw [printEntry, String.toList_append, List.length_append] at hsteps
    exact le_of_add_le_right hsteps
  have hblank (others : List Char) : skipSpace (' ' :: others) = skipSpace others := rfl
  rw [toList_printEntry, readMembers]
  simp only [readString_printText, bind, Except.bind, skipSpace_cons _ (c := ':') rfl, hblank,
    (hread.solid.append _).skipSpace_eq, hread.read steps rest hlength]
  rw [List.reverse_cons]
  rfl

/-- Members are read back if their values are. -/
theorem readMembers_printed {level : ℕ} {entries : List (Scalar × Value)} (hentries : entries ≠ [])
    (hkeys : ∀ entry ∈ entries, ∃ name, entry.1 = .text name)
    (hread : ∀ entry ∈ entries, IsReadBack (level + 1) entry.2) {steps : ℕ}
    (reversed : List (Scalar × Value)) (rest : List Char)
    (hsteps : (linesOf (level + 1) (fun entry => (printEntry (level + 1) entry).toList)
      entries).length < steps) :
    readMembers steps reversed
      (linesOf (level + 1) (fun entry => (printEntry (level + 1) entry).toList) entries ++
        (indentation level ++ '\x7d' :: rest)) =
      .ok (.map (Entries.ofList (reversed.reverse ++ entries)), rest) := by
  induction entries generalizing steps reversed with
  | nil => exact absurd rfl hentries
  | cons entry others ih =>
      obtain ⟨steps, rfl⟩ : ∃ less, steps = less + 1 := ⟨steps - 1, by omega⟩
      obtain ⟨key, value⟩ := entry
      obtain ⟨name, rfl⟩ := hkeys (key, value) (List.mem_cons_self ..)
      have hvalue : IsReadBack (level + 1) value := hread _ (List.mem_cons_self ..)
      cases others with
      | nil =>
          rw [linesOf_singleton] at hsteps ⊢
          rw [readMembers_printEntry hvalue _ _ (by omega), skipSpace_indentation,
            skipSpace_cons _ rfl]
          rfl
      | cons second others =>
          rw [linesOf_cons_cons] at hsteps ⊢
          rw [List.length_append, List.length_cons, List.length_append] at hsteps
          have hothers : ∀ other ∈ second :: others, IsReadBack (level + 1) other.2 :=
            fun other hother => hread other (List.mem_cons_of_mem _ hother)
          have hnames : ∀ other ∈ second :: others, ∃ name, other.1 = .text name :=
            fun other hother => hkeys other (List.mem_cons_of_mem _ hother)
          have hsolid := isSolid_linesOf (level + 1) (List.cons_ne_nil second others)
            fun other hother => isSolid_printEntry (level + 1) (hnames other hother)
          rw [List.append_assoc, readMembers_printEntry hvalue _ _ (by omega), List.cons_append,
            skipSpace_cons _ rfl]
          simp only [List.append_assoc, skipSpace_indentation, (hsolid.append _).skipSpace_eq]
          rw [ih (List.cons_ne_nil _ _) hnames hothers _ (by omega), List.reverse_cons,
            List.append_assoc]
          rfl

/-! ### Trees -/

/-- A value is read back if the reader, set on the first character, comes to the end of it. -/
theorem isReadBack_of_toList_eq {level : ℕ} {value : Value} {c : Char} {printed : List Char}
    (htext : (printAt level value).toList = c :: printed) (hopening : IsOpening c)
    (hread : ∀ steps rest, printed.length ≤ steps →
      readValue (steps + 1) (c :: (printed ++ rest)) = .ok (value, rest)) :
    IsReadBack level value where
  solid := ⟨c, printed, htext, hopening⟩
  read steps rest hsteps := by
    rw [htext, List.length_cons] at hsteps
    obtain ⟨steps, rfl⟩ : ∃ less, steps = less + 1 := ⟨steps - 1, by omega⟩
    rw [htext, List.cons_append, hread steps rest (by omega)]

/-- A word is read back. -/
theorem isReadBack_word {level : ℕ} {value : Scalar} {c : Char} {printed : List Char}
    (htext : (printScalar value).toList = c :: printed) (hopening : IsOpening c)
    (hread : ∀ steps rest,
      readValue (steps + 1) (c :: (printed ++ rest)) = .ok (.scalar value, rest)) :
    IsReadBack level (.scalar value) :=
  isReadBack_of_toList_eq (by rw [printAt, htext]) hopening fun steps rest _ => hread steps rest

theorem isReadBack_null (level : ℕ) : IsReadBack level .null :=
  @isReadBack_word level .null 'n' ['u', 'l', 'l'] rfl (by decide) fun _ _ => rfl

theorem isReadBack_bool (level : ℕ) (value : Bool) : IsReadBack level (.bool value) := by
  cases value with
  | true =>
      exact @isReadBack_word level (.bool true) 't' ['r', 'u', 'e'] rfl (by decide) fun _ _ => rfl
  | false =>
      exact @isReadBack_word level (.bool false) 'f' ['a', 'l', 's', 'e'] rfl (by decide)
        fun _ _ => rfl

theorem isReadBack_text (level : ℕ) (value : String) : IsReadBack level (.text value) := by
  have htext : (printScalar (.text value)).toList =
      '"' :: (value.toList.flatMap escapeCharacter ++ ['"']) := by
    rw [printScalar, ← List.append_nil (printText value).toList, toList_printText]
  refine isReadBack_word htext (by decide) fun steps rest => ?_
  rw [List.append_assoc, List.singleton_append, readValue, readString_printText]
  rfl

/-- The items of a list are read if there is a first one. -/
theorem readValue_list {characters : List Char} (hsolid : IsSolid characters) (steps level : ℕ) :
    readValue (steps + 1) ('[' :: (indentation level ++ characters)) =
      readItems steps [] characters := by
  rw [readValue, skipSpace_indentation, hsolid.skipSpace_eq]
  obtain ⟨c, others, rfl, -, hclosing⟩ := hsolid
  split
  · next heq =>
      rw [(List.cons.inj heq).1] at hclosing
      exact absurd (by decide) hclosing
  · rfl

/-- The members of a mapping are read if there is a first one. -/
theorem readValue_map {characters : List Char} (hsolid : IsSolid characters) (steps level : ℕ) :
    readValue (steps + 1) ('\x7b' :: (indentation level ++ characters)) =
      readMembers steps [] characters := by
  rw [readValue, skipSpace_indentation, hsolid.skipSpace_eq]
  obtain ⟨c, others, rfl, -, hclosing⟩ := hsolid
  split
  · next heq =>
      rw [(List.cons.inj heq).1] at hclosing
      exact absurd (by decide) hclosing
  · rfl

/-- A list is read back if its items are, one level further in. -/
theorem isReadBack_list {level : ℕ} {items : List Value}
    (hitems : ∀ item ∈ items, IsReadBack (level + 1) item) : IsReadBack level (.list items) := by
  by_cases hempty : items = []
  · subst hempty
    have htext : (printAt level (.list [])).toList = ['[', ']'] := by
      rw [printAt, printItems, printParts, if_pos List.isEmpty_nil]
      rfl
    refine isReadBack_of_toList_eq htext (by decide) fun steps rest _ => ?_
    rw [List.singleton_append, readValue, skipSpace_cons _ rfl]
    rfl
  -- the first item keeps the reader from taking the list for an empty one
  · have htext (rest : List Char) : (printAt level (.list items)).toList ++ rest =
        '[' :: (indentation (level + 1) ++
          (linesOf (level + 1) (fun item => (printAt (level + 1) item).toList) items ++
            (indentation level ++ (']' :: rest)))) := by
      rw [printAt, printItems_eq_map, toList_printParts _ _ _ hempty]
      rfl
    refine isReadBack_of_toList_eq ((List.append_nil _).symm.trans (htext [])) (by decide)
      fun steps rest hsteps => ?_
    simp only [List.length_append, List.length_singleton] at hsteps
    have hsolid := isSolid_linesOf (level + 1) hempty fun item hitem =>
      (hitems item hitem).solid
    simp only [List.append_assoc, List.singleton_append]
    rw [readValue_list (hsolid.append _), readItems_printed hempty hitems _ _ (by omega)]
    rfl

/-- A mapping from different texts is read back if its values are, one level further in. -/
theorem isReadBack_map {level : ℕ} {entries : List (Scalar × Value)}
    (hkeys : ∀ entry ∈ entries, ∃ name, entry.1 = .text name)
    (hdistinct : (Entries.keys entries).Nodup)
    (hentries : ∀ entry ∈ entries, IsReadBack (level + 1) entry.2) :
    IsReadBack level (.map entries) := by
  by_cases hempty : entries = []
  · subst hempty
    have htext : (printAt level (.map [])).toList = ['\x7b', '\x7d'] := by
      rw [printAt, printEntries, printParts, if_pos List.isEmpty_nil]
      rfl
    refine isReadBack_of_toList_eq htext (by decide) fun steps rest _ => ?_
    rw [List.singleton_append, readValue, skipSpace_cons _ rfl]
    rfl
  · have htext (rest : List Char) : (printAt level (.map entries)).toList ++ rest =
        '\x7b' :: (indentation (level + 1) ++
          (linesOf (level + 1) (fun entry => (printEntry (level + 1) entry).toList) entries ++
            (indentation level ++ ('\x7d' :: rest)))) := by
      rw [printAt, printEntries_eq_map, toList_printParts _ _ _ hempty]
      rfl
    refine isReadBack_of_toList_eq ((List.append_nil _).symm.trans (htext [])) (by decide)
      fun steps rest hsteps => ?_
    simp only [List.length_append, List.length_singleton] at hsteps
    have hsolid := isSolid_linesOf (level + 1) hempty fun entry hentry =>
      isSolid_printEntry (level + 1) (hkeys entry hentry)
    simp only [List.append_assoc, List.singleton_append]
    rw [readValue_map (hsolid.append _), readMembers_printed hempty hkeys hentries _ _ (by omega),
      List.reverse_nil, List.nil_append, Entries.ofList_eq_self hdistinct]

theorem isReadBack_of_isTextual {value : Value} (h : value.IsTextual) (level : ℕ) :
    IsReadBack level value := by
  induction h generalizing level with
  | null => exact isReadBack_null level
  | bool value => exact isReadBack_bool level value
  | text value => exact isReadBack_text level value
  | list _ ih => exact isReadBack_list fun item hitem => ih item hitem (level + 1)
  | map hkeys hdistinct _ ih =>
      exact isReadBack_map hkeys hdistinct fun entry hentry => ih entry hentry (level + 1)

/-- **What is printed is read back**, with a line feed at its end. -/
theorem read_print {value : Value} (h : value.IsTextual) :
    read (print value ++ "\n") = .ok value := by
  have hback := isReadBack_of_isTextual h 0
  have htext : (print value ++ "\n").toList = (printAt 0 value).toList ++ ['\n'] := by
    rw [print, String.toList_append]
    rfl
  have hread : readText (print value ++ "\n").toList = .ok value := by
    have hlength : (printAt 0 value).toList.length ≤
        2 * ((printAt 0 value).toList ++ ['\n']).length + 2 := by
      rw [List.length_append]
      omega
    have hmark : ¬ ((printAt 0 value).toList ++ ['\n']).head? = some '\uFEFF' := by
      obtain ⟨c, others, hcharacters, -, hc⟩ := hback.solid
      rw [hcharacters, List.cons_append, List.head?_cons, Option.some_inj]
      rintro rfl
      exact hc (by decide)
    rw [htext, readText, if_neg hmark, (hback.solid.append _).skipSpace_eq]
    simp only [hback.read _ _ hlength]
    rfl
  rw [read, hread]

end Json

end ResourceGraph
