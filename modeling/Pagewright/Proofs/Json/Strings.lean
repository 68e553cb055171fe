/-
# Strings as they are quoted

A text is quoted character by character, and each character is read back from its escape
(`exists_readPieces_escape`). So a quoted text is read as itself, up to its closing quote and
whatever stands behind it (`exists_readQuoted_quote`), and by itself it is the document of a string
(`parse_quote`).
-/

import Pagewright.Json.Document
import Pagewright.Json.Printer
import Pagewright.Proofs.Failing
import Mathlib.Tactic.SplitIfs

namespace Pagewright
namespace Json

/-! ## Pieces that are characters -/

/-- A piece that stands for one character by itself. -/
def Piece.IsChar (p : Piece) (c : Char) : Prop :=
  p = .plain c ∨ p = .escaped c ∨ ∃ stop, p = .unit c.toNat stop

/-- No character is a trailing surrogate. -/
theorem not_isTrailing_toNat (c : Char) : isTrailing c.toNat = false := by
  have h := c.valid
  simp only [UInt32.isValidChar, Nat.isValidChar] at h
  simp only [isTrailing, Char.toNat, Bool.and_eq_false_iff, decide_eq_false_iff_not]
  omega

/-- No character is a leading surrogate. -/
theorem not_isLeading_toNat (c : Char) : isLeading c.toNat = false := by
  have h := c.valid
  simp only [UInt32.isValidChar, Nat.isValidChar] at h
  simp only [isLeading, Char.toNat, Bool.and_eq_false_iff, decide_eq_false_iff_not]
  omega

/-- Putting a character before what is assembled is mapping. -/
theorem do_cons_eq_map (c : Char) (x : Except Nat (List Char)) :
    (do return c :: (← x) : Except Nat (List Char)) = x.map (c :: ·) := by
  cases x <;> rfl

/-- A piece that stands for one character is assembled as that character. -/
theorem assemble_cons_of_isChar {p : Piece} {c : Char} (h : p.IsChar c) (defect : Option Nat)
    (ps : List Piece) : assemble defect (p :: ps) = (assemble defect ps).map (c :: ·) := by
  rcases h with rfl | rfl | ⟨stop, rfl⟩
  · rw [assemble, do_cons_eq_map]
  · rw [assemble, do_cons_eq_map]
  · rw [assemble.eq_def]
    simp only [not_isTrailing_toNat, not_isLeading_toNat, Bool.false_eq_true, if_false,
      Char.ofNat_toNat, do_cons_eq_map]

/-- A plain piece is assembled to its character and nothing else. -/
theorem assemble_plain_cons_eq_ok_iff {defect : Option Nat} {c d : Char} {ps : List Piece}
    {l : List Char} :
    assemble defect (.plain c :: ps) = .ok (d :: l) ↔ c = d ∧ assemble defect ps = .ok l := by
  rw [assemble_cons_of_isChar (.inl rfl), map_eq_ok_iff]
  simp [and_comm]

/-- Characters are assembled as they are. -/
theorem assemble_map_plain (l : List Char) : assemble none (l.map .plain) = .ok l := by
  induction l with
  | nil => rfl
  | cons c l ih =>
    rw [List.map_cons, assemble_cons_of_isChar (.inl rfl), ih]
    rfl

/-! ## Escapes -/

/-- A hexadecimal digit is read back. -/
theorem hexValue?_hexDigit : ∀ n < 16, hexValue? (hexDigit n) = some n := by decide

/-- A control character is read back from its four digits. -/
theorem hexUnit?_control {n : Nat} (h : n < 0x20) :
    hexUnit? '0' '0' (hexDigit (n / 16)) (hexDigit (n % 16)) = some n := by
  have hzero : hexValue? '0' = some 0 := rfl
  rw [hexUnit?, hzero, hexValue?_hexDigit (n / 16) (by omega),
    hexValue?_hexDigit (n % 16) (by omega)]
  simp only [Option.bind_eq_bind, Option.bind_some, pure, Option.some.injEq]
  omega

/-- A character that needs no escape is read as it stands. -/
theorem readPieces_plain {c : Char} (hquote : c ≠ '"') (hslash : c ≠ '\\')
    (hcontrol : ¬ c.toNat < 0x20) (offset : Nat) (rest : List Char) :
    readPieces offset (c :: rest) =
      (.plain c :: (readPieces (offset + c.utf8Size) rest).1,
        (readPieces (offset + c.utf8Size) rest).2) := by
  rw [readPieces.eq_def]
  split <;> simp_all

/-- A code unit is read of its four digits. -/
theorem readPieces_unit {a b c d : Char} {n : Nat} (h : hexUnit? a b c d = some n) (offset : Nat)
    (rest : List Char) : readPieces offset ('\\' :: 'u' :: a :: b :: c :: d :: rest) =
      (.unit n (offset + 6) :: (readPieces (offset + 6) rest).1,
        (readPieces (offset + 6) rest).2) := by
  have hlength : ¬ Text.utf8Length (a :: b :: c :: d :: rest) < 4 := by
    simp only [Text.utf8Length]
    have ha := a.utf8Size_pos
    have hb := b.utf8Size_pos
    have hc := c.utf8Size_pos
    have hd := d.utf8Size_pos
    omega
  rw [readPieces, if_neg hlength]
  dsimp only
  rw [h]

/-- **An escaped character is read back,** as one piece. -/
theorem exists_readPieces_escape (c : Char) (offset : Nat) (rest : List Char) :
    ∃ p offset', p.IsChar c ∧ readPieces offset (escape c ++ rest) =
      (p :: (readPieces offset' rest).1, (readPieces offset' rest).2) := by
  unfold escape
  split_ifs with h₁ h₂ h₃ h₄ h₅ h₆ h₇ h₈
  · subst h₁
    exact ⟨.escaped '"', offset + 2, .inr (.inl rfl), rfl⟩
  · subst h₂
    exact ⟨.escaped '\\', offset + 2, .inr (.inl rfl), rfl⟩
  · subst h₃
    exact ⟨.escaped '\n', offset + 2, .inr (.inl rfl), rfl⟩
  · subst h₄
    exact ⟨.escaped '\r', offset + 2, .inr (.inl rfl), rfl⟩
  · subst h₅
    exact ⟨.escaped '\t', offset + 2, .inr (.inl rfl), rfl⟩
  · obtain rfl : c = Char.ofNat 8 := by rw [← h₆, Char.ofNat_toNat]
    exact ⟨.escaped (Char.ofNat 8), offset + 2, .inr (.inl rfl), rfl⟩
  · obtain rfl : c = Char.ofNat 12 := by rw [← h₇, Char.ofNat_toNat]
    exact ⟨.escaped (Char.ofNat 12), offset + 2, .inr (.inl rfl), rfl⟩
  · refine ⟨.unit c.toNat (offset + 6), offset + 6, .inr (.inr ⟨_, rfl⟩), ?_⟩
    exact readPieces_unit (hexUnit?_control h₈) offset rest
  · refine ⟨.plain c, offset + c.utf8Size, .inl rfl, ?_⟩
    rw [List.singleton_append, readPieces_plain h₁ h₂ h₈]

/-- What is read of a string is taken from the text. -/
theorem readPieces_shortens {offset : Nat} {l : List Char} {ps : List Piece} {after : Cursor}
    (h : readPieces offset l = (ps, .quote after)) : after.rest.length < l.length := by
  fun_induction readPieces offset l generalizing ps
  case case2 =>
    cases h
    exact Nat.lt_succ_self _
  case case4 pieces ending hread _ ih =>
    cases h
    have htail := ih hread
    simp only [List.length_cons]
    omega
  case case7 pieces ending hread ih =>
    cases h
    have htail := ih hread
    simp only [List.length_cons]
    omega
  case case11 pieces ending hread ih =>
    cases h
    exact Nat.lt_succ_of_lt (ih hread)
  all_goals cases h

/-- **A quoted text is read back** up to its closing quote. -/
theorem exists_readPieces_flatMap_escape (l : List Char) (offset : Nat) (rest : List Char) :
    ∃ ps after, readPieces offset (l.flatMap escape ++ '"' :: rest) = (ps, .quote after) ∧
      assemble none ps = .ok l ∧ after.rest = rest := by
  induction l generalizing offset with
  | nil => exact ⟨[], ⟨offset + 1, rest⟩, rfl, rfl, rfl⟩
  | cons c l ih =>
    obtain ⟨p, offset', hp, hread⟩ :=
      exists_readPieces_escape c offset (l.flatMap escape ++ '"' :: rest)
    obtain ⟨ps, after, hps, hl, hrest⟩ := ih offset'
    refine ⟨p :: ps, after, ?_, ?_, hrest⟩
    · rw [List.flatMap_cons, List.append_assoc, hread, hps]
    · rw [assemble_cons_of_isChar hp, hl]
      rfl

/-- **A quoted text is read** up to its closing quote, as the text. -/
theorem exists_readQuoted_quote (s : String) (offset : Nat) (rest : List Char) :
    ∃ after, readQuoted ⟨offset, s.toList.flatMap escape ++ '"' :: rest⟩ =
      (.ofString s, some after) ∧ after.rest = rest := by
  obtain ⟨ps, after, hread, hs, hrest⟩ :=
    exists_readPieces_flatMap_escape s.toList offset rest
  refine ⟨after, ?_, hrest⟩
  simp only [readQuoted, hread, hs, Except.map, String.ofList_toList, Quoted.ofString]

/-- **A quoted text is a document:** the string of the text. -/
theorem parse_quote (s : String) : parse (quote s) = .ok (.string s) := by
  obtain ⟨after, hread, hrest⟩ := exists_readQuoted_quote s 1 []
  have hstart : Cursor.ofString (quote s) = ⟨0, '"' :: (s.toList.flatMap escape ++ ['"'])⟩ := by
    rw [Cursor.ofString, quote, String.toList_ofList, List.cons_append]
  have hroot (fuel : Nat) : readNode (fuel + 1) (Cursor.ofString (quote s)) =
      (.string ⟨0, after.offset⟩ (.ofString s), some after) := by
    rw [hstart, readNode.eq_def]
    simp only [Cursor.skipBlank]
    simp [hread]
  have hended : after.skipBlank.rest = [] := by rw [Cursor.skipBlank, hrest, List.dropWhile_nil]
  rw [parse, Document.ofString]
  simp only [hroot, hended]
  rfl

/-- What is read of a string that ends is assembled from its pieces. -/
theorem readQuoted_eq_some {c after : Cursor} {q : Quoted} {s : String}
    (h : readQuoted c = (q, some after)) (hs : q.text = .ok s) :
    ∃ ps, readPieces c.offset c.rest = (ps, .quote after) ∧ assemble none ps = .ok s.toList := by
  rcases hread : readPieces c.offset c.rest with ⟨ps, ending⟩
  simp only [readQuoted, hread] at h
  cases ending with
  | quote after' =>
    cases h
    obtain ⟨l, hl, rfl⟩ := map_eq_ok_iff.1 hs
    exact ⟨ps, rfl, by rw [hl, String.toList_ofList]⟩
  | defect taken => cases h
  | control offset => cases h

/-- A text has at most as many characters as pieces. -/
theorem length_le_of_assemble {defect : Option Nat} {ps : List Piece} {l : List Char}
    (h : assemble defect ps = .ok l) : l.length ≤ ps.length := by
  fun_induction assemble defect ps generalizing l
  case case2 =>
    cases h
    exact Nat.le_refl 0
  case case3 ih | case4 ih | case11 ih =>
    obtain ⟨l', hl, rfl⟩ := map_eq_ok_iff.1 (do_cons_eq_map _ _ ▸ h)
    exact Nat.succ_le_succ (ih hl)
  case case6 ih =>
    -- A pair of surrogates is one character.
    obtain ⟨l', hl, rfl⟩ := map_eq_ok_iff.1 (do_cons_eq_map _ _ ▸ h)
    exact Nat.le_succ_of_le (Nat.succ_le_succ (ih hl))
  all_goals cases h

end Json
end Pagewright
