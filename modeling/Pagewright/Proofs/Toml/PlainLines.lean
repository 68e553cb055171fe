/-
# Plain lines in TOML documents

A plain text stands for itself between quotes: it has no quote, no backslash and no control
character (`basic?_plain`). So a line with a bare key and a plain text is read as the pair of the
two, and a line with a bare key in brackets opens the section of that name, whatever follows on
the next lines (`lines?_pair`, `lines?_header`).
-/

import Pagewright.Text.Search
import Pagewright.Toml.Document

namespace Pagewright
namespace Toml

/-- Whether a character stands for itself between double quotes. -/
def isPlainChar (c : Char) : Bool := isTextChar c && c != '"' && c != '\\'

/-- A plain character is one of a text, but no quote and no backslash. -/
theorem isPlainChar_iff {c : Char} :
    isPlainChar c ↔ isTextChar c ∧ c ≠ '"' ∧ c ≠ '\\' := by
  simp [isPlainChar, and_assoc]

variable {text key : List Char}

/-! ## Strings -/

/-- A plain text is read up to its closing quote. -/
theorem untilQuote_plain (h : text.all isPlainChar) (rest : List Char) :
    untilQuote (text ++ '"' :: rest) = some (text, rest) := by
  induction text with
  | nil => rfl
  | cons c text ih =>
    rw [List.all_cons, Bool.and_eq_true, isPlainChar_iff] at h
    obtain ⟨⟨-, hquote, hslash⟩, htext⟩ := h
    rw [List.cons_append, untilQuote, ih htext]
    · rfl
    · exact hquote
    · exact fun _ _ hc _ => hslash hc

/-- A plain text has no escapes. -/
theorem unescape?_plain (h : text.all isPlainChar) : unescape? text = some text := by
  rw [unescape?]
  induction text with
  | nil => rfl
  | cons c text ih =>
    rw [List.all_cons, Bool.and_eq_true, isPlainChar_iff] at h
    obtain ⟨⟨-, -, hslash⟩, htext⟩ := h
    rw [unescapeFrom.eq_def]
    simp [hslash, ih htext]

/-- **A plain text is read as itself** between quotes. -/
theorem basic?_plain (h : text.all isPlainChar) (rest : List Char) :
    basic? (text ++ '"' :: rest) = some (text, rest) := by
  have hchars : text.all isTextChar :=
    List.all_eq_true.2 fun c hc => (isPlainChar_iff.1 (List.all_eq_true.1 h c hc)).1
  rw [basic?, untilQuote_plain h]
  simp only [Option.bind_eq_bind, Option.bind_some, hchars, if_true, unescape?_plain h,
    Option.map_some]

/-- A quoted text at the end of a line is no text over lines. -/
theorem string?_plain (h : text.all isPlainChar) (rest : List Char) :
    string? ('"' :: (text ++ '"' :: '\n' :: rest)) =
      some (.string (String.ofList text), '\n' :: rest) := by
  have hread := basic?_plain h ('\n' :: rest)
  cases text with
  | nil => rfl
  | cons c text =>
    have hquote : c ≠ '"' := (isPlainChar_iff.1 (List.all_eq_true.1 h c (.head _))).2.1
    rw [string?.eq_def]
    split
    · next heq =>
      simp only [List.cons_append, List.cons.injEq] at heq
      exact absurd heq.2.1 hquote
    · next heq =>
      simp only [List.cons.injEq] at heq
      exact absurd heq.1 (by decide)
    · next heq =>
      obtain rfl := (List.cons.inj heq).2
      rw [string?.text, hread]
      rfl
    · next heq =>
      simp only [List.cons.injEq] at heq
      exact absurd heq.1 (by decide)
    · next hbasic _ => exact absurd rfl (hbasic _)

/-! ## Keys -/

/-- **A bare key is read** up to the first character that may not stand in it, with the blanks
behind it. -/
theorem key?_bare (hne : key ≠ []) (h : key.all isKeyChar) {rest : List Char}
    (hrest : ∀ c ∈ rest.head?, isKeyChar c = false)
    (hdot : ∀ s, skipBlanks rest ≠ '.' :: s) :
    key? (key ++ rest) = some ([String.ofList key], skipBlanks rest) := by
  obtain ⟨htake, hdrop⟩ := Text.takeWhile_append_stop (List.all_eq_true.1 h) hrest
  obtain ⟨c, cs, rfl⟩ := List.exists_cons_of_ne_nil hne
  have hpart : keyPart? (c :: cs ++ rest) = some (String.ofList (c :: cs), rest) := by
    have hc : isKeyChar c := List.all_eq_true.1 h c (.head _)
    rw [keyPart?.eq_def]
    split
    · next heq =>
      rw [List.cons_append, List.cons.injEq] at heq
      rw [heq.1] at hc
      cases hc
    · next heq =>
      rw [List.cons_append, List.cons.injEq] at heq
      rw [heq.1] at hc
      cases hc
    · rw [htake, hdrop]
  rw [key?, maxParts, keyParts?, hpart]
  simp only [Option.bind_eq_bind, Option.bind_some]

/-! ## Lines -/

/-- A character of a key is none that cannot stand in one. -/
theorem ne_of_isKeyChar {c d : Char} (hc : isKeyChar c) (hd : isKeyChar d = false) : c ≠ d := by
  rintro rfl
  exact Bool.false_ne_true (hd.symm.trans hc)

/-- A character of a key is no blank. -/
theorem isLineBlank_of_isKeyChar {c : Char} (hc : isKeyChar c) : isLineBlank c = false := by
  have hspace : c ≠ ' ' := ne_of_isKeyChar hc (by decide)
  have htab : c ≠ '\t' := ne_of_isKeyChar hc (by decide)
  simp [isLineBlank, hspace, htab]

/-- Before a key there are no blanks left to skip. -/
theorem skipBlanks_keyChar {c : Char} (hc : isKeyChar c) (s : List Char) :
    skipBlanks (c :: s) = c :: s :=
  List.dropWhile_cons_of_neg (by simp [isLineBlank_of_isKeyChar hc])

/-- Before a key there are no lines left to skip. -/
theorem skipLines_keyChar {c : Char} (hc : isKeyChar c) (s : List Char) :
    skipLines false (c :: s) = some (c :: s) := by
  have hfeed : c ≠ '\n' := ne_of_isKeyChar hc (by decide)
  have hreturn : c ≠ '\r' := ne_of_isKeyChar hc (by decide)
  have hcomment : c ≠ '#' := ne_of_isKeyChar hc (by decide)
  rw [skipLines]
  · simp [isLineBlank_of_isKeyChar hc, hcomment]
  · exact hfeed
  · exact fun _ h _ => hreturn h

/-- **A header** opens a section, with the pairs on the lines that follow. -/
theorem lines?_header (key : List Char) (hne : key ≠ []) (h : key.all isKeyChar) (fuel : Nat)
    (rest : List Char) :
    lines? (fuel + 1) ('[' :: (key ++ ']' :: '\n' :: rest)) =
      (lines? fuel rest).map
        fun lines => ([], ⟨false, [String.ofList key], lines.1⟩ :: lines.2) := by
  have hkey : key? (key ++ ']' :: '\n' :: rest) =
      some ([String.ofList key], ']' :: '\n' :: rest) :=
    key?_bare hne h (by simp; decide) (by intro s; simp [skipBlanks, isLineBlank])
  obtain ⟨c, cs, rfl⟩ := List.exists_cons_of_ne_nil hne
  have hc : isKeyChar c := List.all_eq_true.1 h c (.head _)
  have hheader : header? (c :: cs ++ ']' :: '\n' :: rest) =
      some ((false, [String.ofList (c :: cs)]), '\n' :: rest) := by
    rw [List.cons_append] at hkey ⊢
    rw [header?.eq_def]
    split
    · next heq => exact absurd (List.cons.inj heq).1 (ne_of_isKeyChar hc (by decide))
    · rw [skipBlanks_keyChar hc, hkey]
      rfl
  have hskip : skipLines false ('[' :: (c :: cs ++ ']' :: '\n' :: rest)) =
      some ('[' :: (c :: cs ++ ']' :: '\n' :: rest)) := rfl
  have hend : endLine? ('\n' :: rest) = some rest := rfl
  rw [lines?, hskip]
  simp only [Option.bind_eq_bind, Option.bind_some, hheader, hend]
  cases lines? fuel rest <;> rfl

/-- **A line with a bare key and a plain text** is the pair of the two. -/
theorem lines?_pair (key : List Char) (hne : key ≠ []) (hkey : key.all isKeyChar)
    (htext : text.all isPlainChar) (fuel : Nat) (rest : List Char) :
    lines? (fuel + 3) (key ++ ' ' :: '=' :: ' ' :: '"' :: (text ++ '"' :: '\n' :: rest)) =
      (lines? (fuel + 2) rest).map fun lines =>
        (⟨[String.ofList key], .string (String.ofList text)⟩ :: lines.1, lines.2) := by
  have hread : key? (key ++ ' ' :: '=' :: ' ' :: '"' :: (text ++ '"' :: '\n' :: rest)) =
      some ([String.ofList key], '=' :: ' ' :: '"' :: (text ++ '"' :: '\n' :: rest)) :=
    key?_bare hne hkey (by simp; decide) (by intro s; simp [skipBlanks, isLineBlank])
  have hvalue : value? (fuel + 1) maxDepth ('"' :: (text ++ '"' :: '\n' :: rest)) =
      some (.string (String.ofList text), '\n' :: rest) := by
    rw [value?, if_pos (by decide)]
    · exact string?_plain htext rest
    · decide
    · decide
  have hpair : pair? false (fuel + 2) maxDepth
      (key ++ ' ' :: '=' :: ' ' :: '"' :: (text ++ '"' :: '\n' :: rest)) =
      some (⟨[String.ofList key], .string (String.ofList text)⟩, '\n' :: rest) := by
    have hbefore (s : List Char) : skipGap false ('=' :: s) = some ('=' :: s) := rfl
    have hafter (s : List Char) : skipGap false (' ' :: '"' :: s) = some ('"' :: s) := rfl
    rw [pair?, hread]
    simp only [Option.bind_eq_bind, Option.bind_some, hbefore, hafter, hvalue]
  have hend : endLine? ('\n' :: rest) = some rest := rfl
  obtain ⟨c, cs, rfl⟩ := List.exists_cons_of_ne_nil hne
  have hc : isKeyChar c := List.all_eq_true.1 hkey c (.head _)
  rw [List.cons_append] at hpair ⊢
  rw [lines?, skipLines_keyChar hc]
  simp only [Option.bind_eq_bind, Option.bind_some]
  split
  · next heq => cases heq
  · next heq => exact absurd (List.cons.inj heq).1 (ne_of_isKeyChar hc (by decide))
  · rw [hpair]
    simp only [Option.bind_some, hend]
    cases lines? (fuel + 2) rest <;> rfl

end Toml
end Pagewright
