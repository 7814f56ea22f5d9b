import Narrowing.Guard.Logged
import Narrowing.Proofs.Text.Quoted
/-!
# Keys in messages

The message of a shape error names the field at fault by the text of its key.  The text tells
which key it is, symbols apart: it begins with a quote, a digit or a bracket, which tells the kind
of the key, then quoted text can be read back, and so can the numeral of an index.  The description
of a symbol is written as it is, but after a bracket.  All of this holds whichever characters are
taken as visible.
-/

namespace Narrowing

variable {visible : Char → Bool}

namespace Key

/-- The rank of a key whose text begins with a character. -/
def rankOfFirst (c : Char) : Nat := if c = '"' then 1 else if c = '[' then 2 else 0

/-- The first character of the text of a key tells the rank of the key. -/
lemma displayWith_eq_cons (visible : Char → Bool) (k : Key) :
    ∃ c rest, (k.displayWith visible).toList = c :: rest ∧ k.rank = rankOfFirst c := by
  cases k with
  | string s => exact ⟨'"', _, String.toList_ofList, rfl⟩
  | symbol s => exact ⟨'[', s.describe.toList ++ [']'], by simp [displayWith], rfl⟩
  | index n =>
    have hdigits : ((Key.index n).displayWith visible).toList = Nat.toDigits 10 n.toNat := by
      rw [displayWith, Nat.toString_eq_ofList_toDigits, String.toList_ofList]
    obtain ⟨c, rest, heq⟩ := List.exists_cons_of_ne_nil (Nat.toDigits_ne_nil (n := n.toNat) (b := 10))
    have hdigit : c.isDigit = true :=
      Nat.isDigit_of_mem_toDigits (by decide) (by decide) (heq ▸ List.mem_cons_self)
    refine ⟨c, rest, hdigits.trans heq, ?_⟩
    have hquote : c ≠ '"' := by rintro rfl; exact absurd hdigit (by decide)
    have hbracket : c ≠ '[' := by rintro rfl; exact absurd hdigit (by decide)
    rw [rankOfFirst, if_neg hquote, if_neg hbracket, rank]

/-- Keys of different kinds have different texts. -/
lemma rank_eq_of_displayWith_eq {k l : Key} (h : k.displayWith visible = l.displayWith visible) :
    k.rank = l.rank := by
  obtain ⟨c, rest, hk, hrank⟩ := displayWith_eq_cons visible k
  obtain ⟨d, rest', hl, hrank'⟩ := displayWith_eq_cons visible l
  obtain ⟨rfl, -⟩ := List.cons.inj (hk.symm.trans ((congrArg String.toList h).trans hl))
  rw [hrank, hrank']

lemma rank_eq_two_iff (k : Key) : k.rank = 2 ↔ k.isSymbol = true := by
  cases k <;> simp [rank, isSymbol]

/-- Keys with the same text are the same, or they are both symbols. -/
lemma eq_of_displayWith_eq {k l : Key} (h : k.displayWith visible = l.displayWith visible) :
    k = l ∨ k.isSymbol = true ∧ l.isSymbol = true := by
  have hrank := rank_eq_of_displayWith_eq h
  cases k with
  | string s =>
    cases l with
    | string t => exact .inl (congrArg Key.string (Text.quoteWith_injective visible h))
    | index => simp [rank] at hrank
    | symbol => simp [rank] at hrank
  | index m =>
    cases l with
    | string => simp [rank] at hrank
    | index n =>
      rw [displayWith, displayWith, Nat.toString_eq_ofList_toDigits,
        Nat.toString_eq_ofList_toDigits] at h
      have hnat : m.toNat = n.toNat :=
        Text.toDigits_injective (by decide) (by decide) (String.ofList_inj.1 h)
      exact .inl (congrArg Key.index (UInt32.toNat_inj.1 hnat))
    | symbol => simp [rank] at hrank
  | symbol s => exact .inr ⟨rfl, (rank_eq_two_iff l).1 hrank.symm⟩

end Key

namespace ShapeError

lemma messageWith_notAGuard (k : Key) :
    (notAGuard k).messageWith visible =
      "shape field " ++ k.displayWith visible ++ " is not a guard function" :=
  rfl

lemma displayWith_eq_of_messageWith_eq {k l : Key}
    (h : (notAGuard k).messageWith visible = (notAGuard l).messageWith visible) :
    k.displayWith visible = l.displayWith visible := by
  rw [messageWith_notAGuard, messageWith_notAGuard] at h
  exact (String.append_right_inj _).1 ((String.append_left_inj _).1 h)

end ShapeError

/-- **The message of a shape error tells the field at fault.**  Two keys that are no symbols have
different texts, and none of them has the text of a symbol, whatever the description of the
symbol.  So messages about two fields are the same only if the fields are, or if both are named by
symbols. -/
theorem shape_error_tells_field (visible : Char → Bool) (k l : Key) :
    (k.isSymbol = false → l.isSymbol = false →
        k.displayWith visible = l.displayWith visible → k = l) ∧
      (k.isSymbol = true → l.isSymbol = false →
        k.displayWith visible ≠ l.displayWith visible) ∧
      ((ShapeError.notAGuard k).messageWith visible = (ShapeError.notAGuard l).messageWith visible →
        k = l ∨ k.isSymbol = true ∧ l.isSymbol = true) := by
  refine ⟨fun hk _ h => ?_, fun hk hl h => ?_, fun h => ?_⟩
  · refine (Key.eq_of_displayWith_eq h).resolve_right fun hboth => ?_
    exact Bool.false_ne_true (hk.symm.trans hboth.1)
  · have hrank := Key.rank_eq_of_displayWith_eq h
    rw [(Key.rank_eq_two_iff k).2 hk, eq_comm, Key.rank_eq_two_iff, hl] at hrank
    exact Bool.false_ne_true hrank
  · exact Key.eq_of_displayWith_eq (ShapeError.displayWith_eq_of_messageWith_eq h)

/-- A text that is the numeral of an index and the index, a text that has a break and one that has
its escape, and a text that looks like a symbol. -/
theorem shape_error_tells_field_of_lookalikes :
    (ShapeError.notAGuard (.string "5")).message ≠ (ShapeError.notAGuard (.index 5)).message ∧
      (ShapeError.notAGuard (.string "\n")).message ≠
        (ShapeError.notAGuard (.string "\\n")).message ∧
      (Key.symbol ⟨16, some "x"⟩).display ≠ (Key.string "[Symbol(x)]").display := by
  have hdiffer (k l : Key) (hne : k ≠ l) (hk : k.isSymbol = false) :
      (ShapeError.notAGuard k).message ≠ (ShapeError.notAGuard l).message := by
    intro h
    rcases (shape_error_tells_field Text.isVisible k l).2.2 h with heq | ⟨hsymbol, -⟩
    · exact hne heq
    · exact Bool.false_ne_true (hk.symm.trans hsymbol)
  exact ⟨hdiffer _ _ (by decide) rfl, hdiffer _ _ (by decide) rfl,
    (shape_error_tells_field Text.isVisible _ _).2.1 rfl rfl⟩

end Narrowing
