import RuleFlow.Proofs.Number.Numeral
import RuleFlow.Proofs.Value.Reordered
import RuleFlow.Text.Case
import RuleFlow.Value.Display

/-!
# The texts of lists and records

Where a document has a list or a record in the place of a word, its text is taken for the word. That
text starts with a bracket, and so it does in any case and without the white space around it. No
word that is asked for does, so the order of keys inside such a value cannot be seen there.

* `RuleFlow.Text.isBracketed` tells such texts, and `RuleFlow.Value.isBracketed_display` finds them.
* `RuleFlow.Value.HasOneOrder` are the values whose keys cannot be put into another order, and
  `RuleFlow.Value.Reordered.eq_of_hasOneOrder` says so.
-/

namespace RuleFlow

namespace Text

/-- **A text that starts with a bracket** or a brace. -/
def isBracketed (s : String) : Bool :=
  match s.toList with
  | [] => false
  | c :: _ => c == '[' || c == '\x7b'

variable {s word : String}

theorem isBracketed_iff :
    isBracketed s = true ↔ ∃ c rest, s.toList = c :: rest ∧ (c = '[' ∨ c = '\x7b') := by
  rw [isBracketed]
  cases s.toList with
  | nil => simp
  | cons c rest => simp

theorem ne_of_isBracketed (h : isBracketed s = true) (hword : isBracketed word = false) :
    s ≠ word := by
  rintro rfl
  exact nomatch h.symm.trans hword

theorem isBracketed_trim (h : isBracketed s = true) : isBracketed (trim s) = true := by
  obtain ⟨c, rest, hs, hc⟩ := isBracketed_iff.mp h
  have hblank : isBlank c = false := by
    rcases hc with rfl | rfl <;> decide
  obtain ⟨rest', htrim⟩ := Number.exists_trimChars_append (List.cons_ne_nil c [])
    (List.forall_mem_singleton.mpr hblank) rest
  exact isBracketed_iff.mpr ⟨c, rest', by simpa [trim, hs] using htrim, hc⟩

set_option maxRecDepth 10000 in
theorem isBracketed_upper (h : isBracketed s = true) : isBracketed (upper s) = true := by
  obtain ⟨c, rest, hs, hc⟩ := isBracketed_iff.mp h
  have hupper : upperChar c = [c] := by
    rcases hc with rfl | rfl <;> decide
  exact isBracketed_iff.mpr ⟨c, upperChars rest, by simp [upper, hs, upperChars, hupper], hc⟩

set_option maxRecDepth 10000 in
theorem isBracketed_lower (h : isBracketed s = true) : isBracketed (lower s) = true := by
  obtain ⟨c, rest, hs, hc⟩ := isBracketed_iff.mp h
  obtain ⟨hsigma, hlower⟩ : c.toNat ≠ 931 ∧ lowerChar c = [c] := by
    rcases hc with rfl | rfl <;> decide
  refine isBracketed_iff.mpr ⟨c, lowerCharsAfter [c] rest, ?_, hc⟩
  simp [lower, hs, lowerChars, lowerCharsAfter, hsigma, hlower]

end Text

namespace Value

/-- **The text of a list or a record** starts with a bracket. -/
theorem isBracketed_display {v : Value} (h : v.isScalar = false) :
    Text.isBracketed v.display = true := by
  cases v with
  | list items =>
    refine Text.isBracketed_iff.mpr ⟨'[', (inspectItems items ++ "]").toList, ?_, .inl rfl⟩
    simp [display, inspect]
  | record fields =>
    refine Text.isBracketed_iff.mpr ⟨'\x7b', (inspectFields fields ++ "\x7d").toList, ?_, .inr rfl⟩
    simp [display, inspect]
  | _ => exact nomatch h

/-! ### Values of one order -/

mutual

/-- **A value of one order**: no record in it has more than one field. -/
def hasOneOrder : Value → Bool
  | .list items => haveOneOrder items
  | .record [] => true
  | .record [(_, v)] => v.hasOneOrder
  | .record _ => false
  | _ => true

/-- Values of one order. -/
def haveOneOrder : List Value → Bool
  | [] => true
  | v :: rest => v.hasOneOrder && haveOneOrder rest

end

theorem haveOneOrder_append (items items' : List Value) :
    haveOneOrder (items ++ items') = (haveOneOrder items && haveOneOrder items') := by
  induction items with
  | nil => rfl
  | cons v items ih => rw [List.cons_append, haveOneOrder, ih, haveOneOrder, Bool.and_assoc]

/-- **A value of one order** is not changed where keys change places. -/
theorem Reordered.eq_of_hasOneOrder {v w : Value} (h : Reordered v w)
    (hv : v.hasOneOrder = true) : w = v := by
  induction h with
  | refl v => rfl
  | trans _ _ ih ih' =>
    obtain rfl := ih hv
    exact ih' hv
  | swap before f g after hne =>
    cases before with
    | nil => exact nomatch hv
    | cons first before => cases before <;> exact nomatch hv
  | item before after _ ih =>
    rw [hasOneOrder, haveOneOrder_append, haveOneOrder] at hv
    simp only [Bool.and_eq_true] at hv
    rw [ih hv.2.1]
  | value before key after _ ih =>
    cases before with
    | nil =>
      cases after with
      | nil => rw [ih hv]
      | cons => exact nomatch hv
    | cons first before => cases before <;> exact nomatch hv

/-- **The text of a value of one order** does not depend on the order of keys. -/
theorem Reordered.display_eq {v w : Value} (h : Reordered v w) (hv : v.hasOneOrder = true) :
    v.display = w.display := by
  rw [h.eq_of_hasOneOrder hv]

theorem hasOneOrder_orElse {v w : Value} (hv : v.hasOneOrder = true) (hw : w.hasOneOrder = true) :
    (v.orElse w).hasOneOrder = true := by
  rw [orElse]
  split_ifs
  · exact hv
  · exact hw

end Value

end RuleFlow
