import Mathlib
import ResourceGraph.Region.Placeholder

/-!
# The grammar of placeholders

A placeholder is `${`, a keyword and `}` somewhere in a host.  The keyword is plain: no dollar sign
and no brace occurs in it.  `placeholders` finds every place where one stands, each of them once
(`mem_placeholders_iff`, `nodup_placeholders`).

A host serves several regions when one placeholder stands in it and no other, between text without
blank characters (`Placeholder.Serves`).  The keyword of this placeholder is the keyword of the host
(`keyword?_eq_some_iff`), and a region takes the place of this placeholder and of nothing else
(`Placeholder.Serves.substitute_eq`), whatever other dollar signs and braces the host may have.
-/

namespace ResourceGraph.Region

/-- Characters that a keyword may have. -/
def Plain (characters : List Char) : Prop := ∀ c ∈ characters, isKeywordCharacter c = true

/-- At least one character, and no blank ones. -/
def Solid (characters : List Char) : Prop :=
  characters ≠ [] ∧ ∀ c ∈ characters, Text.isBlank c = false

/-- Solid characters, perhaps with a line feed after them. -/
def SolidBeforeFeed (characters : List Char) : Prop :=
  ∃ front, Solid front ∧ (characters = front ∨ characters = front ++ ['\n'])

namespace Placeholder

/-- The characters of the host that a placeholder and the text around it make up. -/
def text (placeholder : Placeholder) : List Char :=
  placeholder.before ++ '$' :: '{' :: placeholder.keyword ++ '}' :: placeholder.after

/-- A placeholder stands in a host, with this text before and after it. -/
structure StandsIn (placeholder : Placeholder) (host : List Char) : Prop where
  text_eq : host = placeholder.text
  keyword_ne_nil : placeholder.keyword ≠ []
  keyword_plain : Plain placeholder.keyword

/-- A placeholder makes a host serve several regions: no other one stands in the host, and neither
the text around it nor its keyword has blank characters. -/
structure Serves (placeholder : Placeholder) (host : List Char) : Prop where
  stands : placeholder.StandsIn host
  unique : ∀ other : Placeholder, other.StandsIn host → other = placeholder
  before_solid : Solid placeholder.before
  keyword_solid : Solid placeholder.keyword
  after_solid : SolidBeforeFeed placeholder.after

end Placeholder

variable {host keyword after reversed : List Char} {placeholder : Placeholder}

/-! ## The placeholders of a host -/

theorem keywordAt?_eq_some_iff : keywordAt? host = some (keyword, after) ↔
    (⟨[], keyword, after⟩ : Placeholder).StandsIn host := by
  constructor
  · intro h
    unfold keywordAt? at h
    split at h
    · next rest =>
        simp only at h
        split at h
        · next found hdrop =>
            split at h
            · cases h
            · next hne =>
                cases h
                have hrest : rest.takeWhile isKeywordCharacter ++ '}' :: after = rest := by
                  rw [← hdrop]
                  exact List.takeWhile_append_dropWhile
                refine ⟨?_, by simpa using hne, fun c hc => List.mem_takeWhile_imp hc⟩
                simp [Placeholder.text, hrest]
        · cases h
    · cases h
  · rintro ⟨rfl, hne, hplain⟩
    have htake : (keyword ++ '}' :: after).takeWhile isKeywordCharacter = keyword := by
      rw [List.takeWhile_append_of_pos hplain]
      simp [isKeywordCharacter]
    have hdrop : (keyword ++ '}' :: after).dropWhile isKeywordCharacter = '}' :: after := by
      rw [List.dropWhile_append_of_pos hplain]
      simp [isKeywordCharacter]
    simp [keywordAt?, Placeholder.text, htake, hdrop, hne]

/-- A placeholder of a host stands at its front, or in what follows the first character. -/
theorem standsIn_cons_iff {c : Char} {rest : List Char} :
    placeholder.StandsIn (c :: rest) ↔
      (placeholder.before = [] ∧
        keywordAt? (c :: rest) = some (placeholder.keyword, placeholder.after)) ∨
      ∃ front, placeholder.before = c :: front ∧
        (⟨front, placeholder.keyword, placeholder.after⟩ : Placeholder).StandsIn rest := by
  obtain ⟨before, keyword, after⟩ := placeholder
  rw [keywordAt?_eq_some_iff]
  constructor
  · rintro ⟨htext, hne, hplain⟩
    cases before with
    | nil => exact Or.inl ⟨rfl, htext, hne, hplain⟩
    | cons first front =>
        obtain ⟨rfl, hrest⟩ := List.cons.inj htext
        exact Or.inr ⟨front, rfl, hrest, hne, hplain⟩
  · rintro (⟨rfl, hstands⟩ | ⟨front, rfl, htext, hne, hplain⟩)
    · exact hstands
    · exact ⟨congrArg (c :: ·) htext, hne, hplain⟩

theorem not_standsIn_nil : ¬ placeholder.StandsIn [] := by
  rintro ⟨htext, -, -⟩
  simp [Placeholder.text] at htext

theorem mem_placeholdersAfter_cons {c : Char} {rest : List Char} :
    placeholder ∈ placeholdersAfter reversed (c :: rest) ↔
      (placeholder.before = reversed.reverse ∧
        keywordAt? (c :: rest) = some (placeholder.keyword, placeholder.after)) ∨
      placeholder ∈ placeholdersAfter (c :: reversed) rest := by
  obtain ⟨before, keyword, after⟩ := placeholder
  rw [placeholdersAfter]
  split
  · next found behind hfound =>
      rw [List.mem_cons, hfound]
      refine or_congr_left ?_
      simp only [Placeholder.mk.injEq, Option.some.injEq, Prod.mk.injEq, eq_comm]
  · next hnone => simp [hnone]

/-- The placeholders that are found are those of the characters, with what is passed in front. -/
theorem mem_placeholdersAfter_iff : placeholder ∈ placeholdersAfter reversed host ↔
    ∃ front, placeholder.before = reversed.reverse ++ front ∧
      (⟨front, placeholder.keyword, placeholder.after⟩ : Placeholder).StandsIn host := by
  induction host generalizing reversed with
  | nil => simp [placeholdersAfter, not_standsIn_nil]
  | cons c rest ih =>
      rw [mem_placeholdersAfter_cons, ih]
      simp only [standsIn_cons_iff, List.reverse_cons, List.append_assoc, List.cons_append,
        List.nil_append]
      constructor
      · rintro (⟨hbefore, hkeyword⟩ | ⟨front, hbefore, hstands⟩)
        · exact ⟨[], by simpa using hbefore, Or.inl ⟨rfl, hkeyword⟩⟩
        · exact ⟨c :: front, hbefore, Or.inr ⟨front, rfl, hstands⟩⟩
      · rintro ⟨front, hbefore, ⟨rfl, hkeyword⟩ | ⟨rest, rfl, hstands⟩⟩
        · exact Or.inl ⟨by simpa using hbefore, hkeyword⟩
        · exact Or.inr ⟨rest, hbefore, hstands⟩

/-- **Every placeholder of a host is found**, with the text around it. -/
theorem mem_placeholders_iff : placeholder ∈ placeholders host ↔ placeholder.StandsIn host := by
  rw [placeholders, mem_placeholdersAfter_iff]
  simp

/-- Placeholders are found from left to right. -/
theorem pairwise_placeholdersAfter : (placeholdersAfter reversed host).Pairwise
    fun first second => first.before.length < second.before.length := by
  induction host generalizing reversed with
  | nil => exact List.Pairwise.nil
  | cons c rest ih =>
      rw [placeholdersAfter]
      split
      · refine List.pairwise_cons.mpr ⟨fun later hlater => ?_, ih⟩
        obtain ⟨front, hbefore, -⟩ := mem_placeholdersAfter_iff.mp hlater
        rw [hbefore]
        simp only [List.reverse_cons, List.length_append, List.length_reverse,
          List.length_singleton]
        omega
      · exact ih

theorem nodup_placeholders (host : List Char) : (placeholders host).Nodup := by
  refine pairwise_placeholdersAfter.imp fun {first second} hless => ?_
  rintro rfl
  exact lt_irrefl _ hless

/-- A host has a single placeholder if one stands in it and no other does. -/
theorem placeholders_eq_singleton_iff : placeholders host = [placeholder] ↔
    placeholder.StandsIn host ∧
      ∀ other : Placeholder, other.StandsIn host → other = placeholder := by
  rw [← List.perm_singleton,
    List.perm_ext_iff_of_nodup (nodup_placeholders host) (List.nodup_singleton _)]
  simp only [mem_placeholders_iff, List.mem_singleton]
  constructor
  · intro h
    exact ⟨(h placeholder).mpr rfl, fun other hother => (h other).mp hother⟩
  · rintro ⟨hstands, hunique⟩ other
    exact ⟨hunique other, fun heq => heq ▸ hstands⟩

/-! ## The keyword of a host -/

theorem isSolid_iff {characters : List Char} : isSolid characters = true ↔ Solid characters := by
  simp [isSolid, Solid]

theorem solid_withoutFinalFeed_iff {characters : List Char} :
    Solid (withoutFinalFeed characters) ↔ SolidBeforeFeed characters := by
  rw [withoutFinalFeed]
  have hfeed : Text.isBlank '\n' = true := by decide
  split
  · next hlast =>
      obtain ⟨front, rfl⟩ := List.getLast?_eq_some_iff.mp hlast
      rw [List.dropLast_concat]
      constructor
      · intro hfront
        exact ⟨front, hfront, Or.inr rfl⟩
      · rintro ⟨solid, hsolid, heq | heq⟩
        · -- solid characters do not end in a line feed
          have hblank := hsolid.2 '\n' (by simp [← heq])
          rw [hfeed] at hblank
          cases hblank
        · rwa [List.append_cancel_right heq]
  · next hlast =>
      constructor
      · intro hsolid
        exact ⟨characters, hsolid, Or.inl rfl⟩
      · rintro ⟨solid, hsolid, rfl | rfl⟩
        · exact hsolid
        · simp at hlast

/-- **When a host serves several regions.**  Its keyword is that of the only placeholder in it,
which stands between text without blank characters. -/
theorem keyword?_eq_some_iff {host keyword : String} : keyword? host = some keyword ↔
    ∃ placeholder : Placeholder, placeholder.Serves host.toList ∧
      String.ofList placeholder.keyword = keyword := by
  unfold keyword?
  constructor
  · intro h
    split at h
    · next placeholder hsingle =>
        obtain ⟨hstands, hunique⟩ := placeholders_eq_singleton_iff.mp hsingle
        split at h
        · next hsolid =>
            simp only [Bool.and_eq_true, isSolid_iff, solid_withoutFinalFeed_iff] at hsolid
            obtain ⟨⟨hbefore, hkeyword⟩, hafter⟩ := hsolid
            exact ⟨placeholder, ⟨hstands, hunique, hbefore, hkeyword, hafter⟩, Option.some.inj h⟩
        · cases h
    · cases h
  · rintro ⟨placeholder, hserves, rfl⟩
    rw [placeholders_eq_singleton_iff.mpr ⟨hserves.stands, hserves.unique⟩]
    simp only
    rw [if_pos]
    simp only [Bool.and_eq_true, isSolid_iff, solid_withoutFinalFeed_iff]
    exact ⟨⟨hserves.before_solid, hserves.keyword_solid⟩, hserves.after_solid⟩

theorem keyword?_eq_none_iff {host : String} :
    keyword? host = none ↔ ∀ placeholder : Placeholder, ¬ placeholder.Serves host.toList := by
  rw [Option.eq_none_iff_forall_ne_some]
  simp only [ne_eq, keyword?_eq_some_iff, not_exists, not_and]
  constructor
  · intro h placeholder hserves
    exact h _ placeholder hserves rfl
  · intro h keyword placeholder hserves
    exact absurd hserves (h placeholder)

/-- A region takes the place of the placeholder, as it is written. -/
theorem Placeholder.Serves.substitute_eq {host : String} (h : placeholder.Serves host.toList)
    (region : String) : substitute host region =
      String.ofList (placeholder.before ++ region.toList ++ placeholder.after) := by
  rw [substitute, placeholders_eq_singleton_iff.mpr ⟨h.stands, h.unique⟩]

end ResourceGraph.Region
