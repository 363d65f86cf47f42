import Mathlib.Data.List.Infix
import RuleFlow.Builtin.Basic

/-!
# The pieces of a text

Splitting, replacing and searching go by one notion of occurrence: from the left, each one after the
end of the one before. A text is searched character by character for the next occurrence; what lies
before it is a piece, and the search goes on behind it.

* `RuleFlow.Text.FirstAt` is the first occurrence, which `RuleFlow.Text.indexOf?` finds.
* `RuleFlow.Text.Pieces` relates a text to its pieces, one occurrence after the other, and
  `RuleFlow.Text.pieces_splitOn` says that these are the pieces that a text is split into.
* `RuleFlow.OnText.searches_agree` is what the functions on texts have in common by it.
-/

namespace RuleFlow

namespace Text

variable {pattern separator text piece rest : List Char} {pieces : List (List Char)} {n : Nat}

/-! ### Occurrences -/

/-- A text holds a pattern if an occurrence starts somewhere. -/
theorem infix_iff_exists_drop : pattern <:+: text ↔ ∃ n, pattern <+: text.drop n := by
  constructor
  · rintro ⟨before, behind, rfl⟩
    exact ⟨before.length, by simp [List.append_assoc]⟩
  · rintro ⟨n, h⟩
    exact h.isInfix.trans (List.drop_suffix n text).isInfix

/-- **No occurrence starts** within the first characters of a text. -/
def ClearBefore (pattern text : List Char) (n : Nat) : Prop :=
  ∀ m < n, ¬pattern <+: text.drop m

/-- **The first occurrence** of a pattern, by the number of characters before it. -/
structure FirstAt (pattern text : List Char) (n : Nat) : Prop where
  /-- The pattern occurs there. -/
  occurs : pattern <+: text.drop n
  /-- It occurs nowhere before. -/
  clear : ClearBefore pattern text n

theorem FirstAt.unique {m : Nat} (h : FirstAt pattern text n) (h' : FirstAt pattern text m) :
    n = m := by
  rcases Nat.lt_trichotomy n m with hlt | heq | hgt
  · exact absurd h.occurs (h'.clear n hlt)
  · exact heq
  · exact absurd h'.occurs (h.clear m hgt)

/-- **What the search finds is the first occurrence.** -/
theorem firstAt_of_indexOf? (h : indexOf? pattern text = some n) : FirstAt pattern text n := by
  induction text generalizing n with
  | nil =>
    rw [indexOf?] at h
    split_ifs at h with hempty
    obtain rfl := Option.some.inj h
    exact ⟨by simpa using hempty, nofun⟩
  | cons c rest ih =>
    rw [indexOf?] at h
    split_ifs at h with hhere
    · obtain rfl := Option.some.inj h
      exact ⟨List.isPrefixOf_iff_prefix.mp hhere, nofun⟩
    · obtain ⟨k, hk, rfl⟩ := Option.map_eq_some_iff.mp h
      refine ⟨(ih hk).occurs, fun m hm hoccurs => ?_⟩
      cases m with
      | zero => exact hhere (List.isPrefixOf_iff_prefix.mpr hoccurs)
      | succ m => exact (ih hk).clear m (by omega) hoccurs

/-- **The search ends without an answer** where there is no occurrence. -/
theorem indexOf?_eq_none_iff : indexOf? pattern text = none ↔ ¬pattern <:+: text := by
  induction text with
  | nil => simp [indexOf?]
  | cons c rest ih =>
    rw [indexOf?, List.infix_cons_iff, ← List.isPrefixOf_iff_prefix]
    split_ifs with hhere
    · simp [hhere]
    · simp [hhere, ih]

theorem indexOf?_eq_some_iff : indexOf? pattern text = some n ↔ FirstAt pattern text n := by
  refine ⟨firstAt_of_indexOf?, fun h => ?_⟩
  cases hfound : indexOf? pattern text with
  | none =>
    exact absurd (infix_iff_exists_drop.mpr ⟨n, h.occurs⟩) (indexOf?_eq_none_iff.mp hfound)
  | some m => rw [(firstAt_of_indexOf? hfound).unique h]

/-! ### Pieces -/

/-- **The pieces of a text** between the occurrences of a separator: up to the first occurrence, and
then those of the rest behind it. A text without an occurrence is one piece. -/
inductive Pieces (separator : List Char) : List Char → List (List Char) → Prop
  /-- There is no occurrence. -/
  | last {text : List Char} (absent : ¬separator <:+: text) : Pieces separator text [text]
  /-- There is a first occurrence, and what is behind it has pieces. -/
  | next {piece rest : List Char} {pieces : List (List Char)}
    (first : FirstAt separator (piece ++ separator ++ rest) piece.length)
    (behind : Pieces separator rest pieces) :
    Pieces separator (piece ++ separator ++ rest) (piece :: pieces)

namespace Pieces

theorem ne_nil (h : Pieces separator text pieces) : pieces ≠ [] := by
  cases h <;> exact List.cons_ne_nil _ _

/-- **Joining the pieces** with the separator gives the text back. -/
theorem intercalate_eq (h : Pieces separator text pieces) :
    separator.intercalate pieces = text := by
  induction h with
  | last absent => exact List.intercalate_singleton
  | @next piece rest pieces first behind ih =>
    obtain ⟨second, more, rfl⟩ := List.exists_cons_of_ne_nil behind.ne_nil
    rw [List.intercalate_cons_cons, ih]

/-- An occurrence within a piece would be one before the piece ends. -/
theorem not_infix_piece (hseparator : separator ≠ [])
    (h : ClearBefore separator (piece ++ rest) piece.length) : ¬separator <:+: piece := by
  rintro hinfix
  obtain ⟨m, hm⟩ := infix_iff_exists_drop.mp hinfix
  have hwithin : m < piece.length := by
    by_contra hbeyond
    rw [List.drop_eq_nil_of_le (Nat.not_lt.mp hbeyond)] at hm
    exact hseparator (List.prefix_nil.mp hm)
  refine h m hwithin ?_
  rw [List.drop_append_of_le_length hwithin.le]
  exact hm.trans (List.prefix_append ..)

/-- **No piece holds the separator.** -/
theorem not_infix_of_mem (hseparator : separator ≠ []) (h : Pieces separator text pieces) :
    ∀ piece ∈ pieces, ¬separator <:+: piece := by
  induction h with
  | last absent => simpa using absent
  | @next piece rest pieces first behind ih =>
    have hclear := first.clear
    rw [List.append_assoc] at hclear
    exact List.forall_mem_cons.mpr ⟨not_infix_piece hseparator hclear, ih⟩

/-- **The first occurrence** comes after the first piece, if that is not the only one. -/
theorem indexOf?_eq (h : Pieces separator text (piece :: pieces)) :
    indexOf? separator text =
      if 2 ≤ (piece :: pieces).length then some piece.length else none := by
  cases h with
  | last absent => exact indexOf?_eq_none_iff.mpr absent
  | next first behind =>
    have hmore : 0 < pieces.length := List.length_pos_iff.mpr behind.ne_nil
    rw [List.length_cons, if_pos (by omega), indexOf?_eq_some_iff.mpr first]

end Pieces

/-! ### Splitting -/

/-- **The loop finds the pieces.** The piece that has been gathered is clear: no occurrence starts in
it, also none that would end behind it. While a separator is skipped, nothing is gathered. -/
theorem pieces_splitLoop (hseparator : separator ≠ []) (skip : Nat) (gathered text : List Char)
    (hskip : skip = 0 ∨ gathered = [])
    (hclear : ClearBefore separator (gathered.reverse ++ text.drop skip) gathered.length) :
    Pieces separator (gathered.reverse ++ text.drop skip)
      (splitLoop separator skip gathered text) := by
  fun_induction splitLoop separator skip gathered text with
  | case1 skip gathered =>
    rw [List.drop_nil, List.append_nil] at hclear ⊢
    have hwhole : ClearBefore separator (gathered.reverse ++ []) gathered.reverse.length := by
      rwa [List.append_nil, List.length_reverse]
    exact .last (Pieces.not_infix_piece hseparator hwhole)
  | case2 skip gathered c rest ih =>
    obtain rfl : gathered = [] := hskip.resolve_left (Nat.succ_ne_zero skip)
    exact ih (.inr rfl) nofun
  | case3 gathered c rest hhere ih =>
    obtain ⟨behind, hbehind⟩ := List.isPrefixOf_iff_prefix.mp hhere
    -- Behind the first character of the separator, the others are still to be skipped.
    have hrest : rest.drop (separator.length - 1) = behind := by
      have hdrop := congrArg (List.drop separator.length) hbehind
      rw [List.drop_left] at hdrop
      obtain ⟨k, hk⟩ := Nat.exists_eq_succ_of_ne_zero (mt List.length_eq_zero_iff.mp hseparator)
      rw [hdrop, hk, List.drop_succ_cons]
      rfl
    have hpieces := ih (.inr rfl) nofun
    rw [List.reverse_nil, List.nil_append, hrest] at hpieces
    rw [List.drop_zero, ← hbehind, ← List.append_assoc] at hclear ⊢
    refine .next ⟨?_, List.length_reverse.symm ▸ hclear⟩ hpieces
    rw [List.append_assoc, List.drop_left]
    exact List.prefix_append ..
  | case4 gathered c rest hhere ih =>
    have hmoved : (c :: gathered).reverse ++ rest.drop 0 =
        gathered.reverse ++ (c :: rest).drop 0 := by
      simp
    rw [← hmoved]
    refine ih (.inl rfl) ?_
    intro m hm
    rw [hmoved]
    rcases Nat.lt_succ_iff_lt_or_eq.mp hm with hbefore | rfl
    · exact hclear m hbefore
    · rw [List.drop_zero, ← List.length_reverse, List.drop_left]
      exact fun hoccurs => hhere (List.isPrefixOf_iff_prefix.mpr hoccurs)

/-- **A text is split into its pieces.** -/
theorem pieces_splitOn (hseparator : separator ≠ []) (text : List Char) :
    Pieces separator text (splitOn separator text) :=
  pieces_splitLoop hseparator 0 [] text (.inl rfl) nofun

end Text

/-! ### The functions on texts -/

namespace OnText

/-- The characters of a text, joined without a separator. -/
theorem intercalate_nil_singletons (text : List Char) :
    [].intercalate (text.map ([·])) = text := by
  induction text with
  | nil => rfl
  | cons c rest ih =>
    cases rest with
    | nil => rfl
    | cons d rest =>
      rw [List.map_cons, List.map_cons, List.intercalate_cons_cons]
      exact congrArg (c :: ·) ih

/-- **The pieces joined** with what separates them, which may be nothing. -/
theorem intercalate_pieces (separator text : List Char) :
    separator.intercalate (pieces separator text) = text := by
  rw [pieces]
  by_cases hempty : separator = []
  · subst hempty
    exact intercalate_nil_singletons text
  · rw [if_neg (by simpa using hempty)]
    exact (Text.pieces_splitOn hempty text).intercalate_eq

/-- The pieces of a text, as texts. -/
def pieceTexts (separator text : String) : List String :=
  (pieces separator.toList text.toList).map String.ofList

theorem toList_intercalate_pieceTexts (joint separator text : String) :
    (joint.intercalate (pieceTexts separator text)).toList =
      joint.toList.intercalate (pieces separator.toList text.toList) := by
  rw [String.toList_intercalate, pieceTexts, List.map_map]
  simp [Function.comp_def]

theorem intercalate_pieceTexts (separator text : String) :
    separator.intercalate (pieceTexts separator text) = text := by
  rw [← String.toList_inj, toList_intercalate_pieceTexts, intercalate_pieces]

theorem pieceTexts_empty (text : String) :
    pieceTexts "" text = text.toList.map String.singleton := by
  rw [pieceTexts, show pieces "".toList text.toList = text.toList.map ([·]) from rfl, List.map_map]
  exact List.map_congr_left fun c _ => by simp

/-- **The pieces between occurrences** of a text that is not empty. -/
theorem exists_pieceTexts_eq {separator : String} (hne : separator ≠ "") (text : String) :
    ∃ first more, pieceTexts separator text = first :: more ∧
      (∀ piece ∈ first :: more, ¬separator.toList <:+: piece.toList) ∧
      Text.indexOf? separator.toList text.toList =
        if 2 ≤ (first :: more).length then some first.length else none := by
  have hsome : separator.toList ≠ [] := by simpa using hne
  have hpieces : Text.Pieces separator.toList text.toList
      (pieces separator.toList text.toList) := by
    rw [pieces, if_neg (by simpa using hsome)]
    exact Text.pieces_splitOn hsome text.toList
  rw [pieceTexts]
  obtain ⟨first, more, heq⟩ := List.exists_cons_of_ne_nil hpieces.ne_nil
  rw [heq] at hpieces ⊢
  refine ⟨_, _, rfl, ?_, ?_⟩
  · rw [← List.map_cons, List.forall_mem_map]
    simpa only [String.toList_ofList] using hpieces.not_infix_of_mem hsome
  · rw [hpieces.indexOf?_eq]
    simp only [List.length_cons, List.length_map, String.length_ofList]

/-- **Replacing** is joining the pieces with another text. -/
theorem invoke_findReplace (text separator replacement : String) :
    Builtin.findReplace.invoke [.text text, .text separator, .text replacement] =
      .success (.text (replacement.intercalate (pieceTexts separator text))) := by
  change Outcome.success (.text (String.ofList _)) = _
  rw [← toList_intercalate_pieceTexts, String.ofList_toList]

/-- **The functions that search a text agree.** The pieces of a text, joined by the separator, give
the text back, and joined by another text they are the text with every occurrence replaced. A
separator that is not empty is in no piece; it occurs in the text if there are at least two pieces,
and then for the first time behind the first. The empty separator stands between any two
characters. -/
theorem searches_agree (text separator : String) :
    ∃ pieces : List String,
      Builtin.split.invoke [.text text, .text separator] = .success (.list (pieces.map .text)) ∧
        separator.intercalate pieces = text ∧
        (∀ replacement : String,
          Builtin.findReplace.invoke [.text text, .text separator, .text replacement] =
            .success (.text (replacement.intercalate pieces))) ∧
        Builtin.findReplace.invoke [.text text, .text separator, .text separator] =
          .success (.text text) ∧
        (separator ≠ "" →
          (∀ piece ∈ pieces, ¬separator.toList <:+: piece.toList) ∧
          ∃ first more, pieces = first :: more ∧
            Builtin.indexOf.invoke [.text text, .text separator] =
              .success (.decimal (.ofInt (if 2 ≤ pieces.length then first.length else -1))) ∧
            Builtin.contains.invoke [.text text, .text separator] =
              .success (.bool (decide (2 ≤ pieces.length)))) ∧
        (separator = "" → pieces = text.toList.map String.singleton) := by
  refine ⟨pieceTexts separator text, ?split, intercalate_pieceTexts separator text,
    invoke_findReplace text separator, ?same, fun hne => ?some, fun hempty => ?empty⟩
  case split =>
    rw [pieceTexts, List.map_map]
    rfl
  case same => rw [invoke_findReplace, intercalate_pieceTexts]
  case some =>
    obtain ⟨first, more, heq, hapart, hfound⟩ := exists_pieceTexts_eq hne text
    rw [heq]
    refine ⟨hapart, first, more, rfl, ?_, ?_⟩
    · change Outcome.success (.decimal (.ofInt ((Text.indexOf? _ _).elim _ _))) = _
      rw [hfound]
      split_ifs <;> rfl
    · change Outcome.success (.bool (Text.indexOf? _ _).isSome) = _
      rw [hfound]
      split_ifs with hmany
      · rw [decide_eq_true hmany]
        rfl
      · rw [decide_eq_false hmany]
        rfl
  case empty => rw [hempty, pieceTexts_empty]

/-- A text in which two occurrences of another overlap. -/
theorem banana_searches_agree :
    "ana" ≠ "" ∧ ∃ pieces : List String,
      Builtin.split.invoke [.text "banana", .text "ana"] =
          .success (.list (pieces.map .text)) ∧
        (∀ piece ∈ pieces, ¬"ana".toList <:+: piece.toList) ∧
        ∃ first more, pieces = first :: more ∧
          Builtin.indexOf.invoke [.text "banana", .text "ana"] =
            .success (.decimal (.ofInt (if 2 ≤ pieces.length then first.length else -1))) ∧
          Builtin.contains.invoke [.text "banana", .text "ana"] =
            .success (.bool (decide (2 ≤ pieces.length))) := by
  obtain ⟨pieces, hsplit, -, -, -, hsome, -⟩ := searches_agree "banana" "ana"
  exact ⟨by decide, pieces, hsplit, hsome (by decide)⟩

/-- Of two occurrences that overlap, the left one counts. -/
example : pieceTexts "ana" "banana" = ["b", "na"] := by decide

end OnText

end RuleFlow
