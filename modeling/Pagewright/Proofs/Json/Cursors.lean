/-
# Cursors within a text

A failure tells how many bytes were taken when it was noticed, and no reader takes more bytes than
there are. What is read next is known by a cursor, whose offset and rest make up the text
(`Cursor.IsIn`). Every character of more than one byte stands in a string, so a reader of anything
else counts characters:

| part | places |
| --- | --- |
| blanks, digits, the letters of a word | one byte for each character |
| an escape in a string | its characters too, unless it breaks there |
| any other character in a string | as many bytes as it has |

A string, a numeral or a word is read from a cursor in the text. It fails within the text, if at
all, and what follows it is in the text again (`staysIn_readQuoted`, `gives_readNumeral`,
`gives_readWord`).
-/

import Pagewright.Json.Document
import Pagewright.Proofs.Json.Strings
import Pagewright.Proofs.Text.Bytes
import Mathlib.Data.List.Basic

namespace Pagewright
namespace Json

variable {α β : Type} {n : Nat}

/-! ## Failures -/

/-- What a reader gives has a property, or it fails after at most `n` bytes. -/
def Gives (n : Nat) (P : α → Prop) : Except Nat α → Prop
  | .ok x => P x
  | .error taken => taken ≤ n

/-- A reader fails after at most `n` bytes, if at all. -/
abbrev FailsWithin (n : Nat) (x : Except Nat α) : Prop := Gives n (fun _ => True) x

/-- **One reader after another:** the second starts from what the first gives. -/
theorem Gives.bind {P : α → Prop} {Q : β → Prop} {x : Except Nat α} {f : α → Except Nat β}
    (hx : Gives n P x) (hf : ∀ a, P a → Gives n Q (f a)) : Gives n Q (x >>= f) := by
  cases x with
  | ok a => exact hf a hx
  | error taken => exact hx

/-- What a reading gives may be mapped to what has another property. -/
theorem Gives.map {P : α → Prop} {Q : β → Prop} {x : Except Nat α} {f : α → β}
    (hx : Gives n P x) (hf : ∀ a, P a → Q (f a)) : Gives n Q (x.map f) := by
  cases x with
  | ok a => exact hf a hx
  | error taken => exact hx

/-- Two readers, of which only the failures count. -/
theorem FailsWithin.bind {x : Except Nat α} {f : α → Except Nat β} (hx : FailsWithin n x)
    (hf : ∀ a, FailsWithin n (f a)) : FailsWithin n (x >>= f) :=
  Gives.bind hx fun a _ => hf a

/-- A map of the result leaves where a reading fails. -/
theorem FailsWithin.map {x : Except Nat α} (hx : FailsWithin n x) (f : α → β) :
    FailsWithin n (x.map f) :=
  Gives.map hx fun _ _ => trivial

/-- A reading that fails within a text has taken no more than the text. -/
theorem FailsWithin.le_of_eq_error {x : Except Nat α} {taken : Nat} (h : FailsWithin n x)
    (hx : x = .error taken) : taken ≤ n := by
  rw [hx] at h
  exact h

/-! ## Cursors -/

/-- A cursor stands in a text of `n` bytes: what is before it and behind it makes up the text. -/
def Cursor.IsIn (n : Nat) (c : Cursor) : Prop := c.offset + Text.utf8Length c.rest = n

variable {c : Cursor}

/-- A cursor is in a text if what is taken and what is left are the text. -/
theorem Cursor.isIn_mk_iff {offset : Nat} {rest : List Char} :
    Cursor.IsIn n ⟨offset, rest⟩ ↔ offset + Text.utf8Length rest = n := Iff.rfl

/-- The first cursor of a text is in the text. -/
theorem isIn_cursorOfString (s : String) : (Cursor.ofString s).IsIn s.utf8ByteSize := by
  rw [Cursor.IsIn, Cursor.ofString, Text.utf8Length_toList, Nat.zero_add]

/-- A cursor in a text has taken no more than the text. -/
theorem Cursor.IsIn.offset_le (h : c.IsIn n) : c.offset ≤ n := Nat.le_of_add_right_le h.le

/-- In front of a character there is room for a byte. -/
theorem Cursor.IsIn.offset_lt (h : c.IsIn n) (hrest : c.rest ≠ []) : c.offset < n := by
  obtain ⟨x, rest, hx⟩ := List.exists_cons_of_ne_nil hrest
  have hpos := x.utf8Size_pos
  rw [IsIn, hx, Text.utf8Length] at h
  omega

/-- **A defect at a cursor** is noticed within the text. -/
theorem Cursor.IsIn.reject_le (h : c.IsIn n) : c.reject ≤ n := by
  unfold reject
  split
  · exact h.offset_le
  · next hrest => exact h.offset_lt (by simpa using hrest)

/-- Behind a character of one byte. -/
theorem Cursor.IsIn.tail {x : Char} {rest : List Char} (h : c.IsIn n) (hrest : c.rest = x :: rest)
    (hx : x.utf8Size = 1) : Cursor.IsIn n ⟨c.offset + 1, rest⟩ := by
  rw [IsIn, hrest, Text.utf8Length, hx] at h
  rw [isIn_mk_iff]
  omega

/-- **A run of characters of one byte each** is as long as it has bytes. -/
theorem Cursor.IsIn.afterRun {p : Char → Bool} (h : c.IsIn n) (hp : ∀ x, p x → x.utf8Size = 1) :
    Cursor.IsIn n ⟨c.offset + (c.rest.takeWhile p).length, c.rest.dropWhile p⟩ := by
  have hrun (s : List Char) :
      (s.takeWhile p).length + Text.utf8Length (s.dropWhile p) = Text.utf8Length s := by
    induction s with
    | nil => rfl
    | cons x s ih =>
      by_cases hx : p x
      · rw [List.takeWhile_cons_of_pos hx, List.dropWhile_cons_of_pos hx, List.length_cons,
          Text.utf8Length, hp x hx]
        omega
      · rw [List.takeWhile_cons_of_neg hx, List.dropWhile_cons_of_neg hx, List.length_nil,
          Nat.zero_add]
  have hbytes := hrun c.rest
  rw [IsIn] at h
  rw [isIn_mk_iff]
  omega

/-- Behind blanks a cursor is still in the text. -/
theorem Cursor.IsIn.skipBlank (h : c.IsIn n) : c.skipBlank.IsIn n := by
  refine h.afterRun fun x hx => ?_
  simp only [Bool.or_eq_true, beq_iff_eq] at hx
  rcases hx with ((rfl | rfl) | rfl) | rfl <;> rfl

/-- A digit is one byte. -/
theorem utf8Size_of_isDigit {x : Char} (h : x.isDigit) : x.utf8Size = 1 := by
  simp only [Char.isDigit, Bool.and_eq_true, decide_eq_true_eq] at h
  exact Char.utf8Size_eq_one_iff.2 (UInt32.le_trans h.2 (by decide))

/-- **Behind digits** there are as many bytes more as there are digits. -/
theorem Cursor.IsIn.of_digits {ds : List Char} {after : Cursor} (h : c.IsIn n)
    (hdigits : c.digits = (ds, after)) :
    after.IsIn n ∧ after.offset = c.offset + ds.length := by
  have hafter := h.afterRun fun _ => utf8Size_of_isDigit
  simp only [digits, Prod.mk.injEq] at hdigits
  obtain ⟨rfl, rfl⟩ := hdigits
  exact ⟨hafter, rfl⟩

/-! ## Strings -/

/-- How the pieces of a string end, in a text of `n` bytes. -/
def Ending.IsIn (n : Nat) : Ending → Prop
  | .quote after => after.IsIn n
  | .defect taken => taken ≤ n
  | .control offset => offset < n

/-- What was taken of a string with a defect by a reader that takes the string. -/
def Ending.failure? : Ending → Option Nat
  | .quote _ => none
  | .defect taken => some taken
  | .control offset => some (offset + 1)

/-- Pieces that follow one another from a place on in a text of `n` bytes. Behind the last one there
is a defect or a closing quote. -/
inductive Follow (n : Nat) (defect : Option Nat) : Nat → List Piece → Prop where
  | nil {offset : Nat} (h : offset ≤ n) (hdefect : defect.getD (offset + 1) ≤ n) :
    Follow n defect offset []
  | plain {offset : Nat} {x : Char} {rest : List Piece}
    (h : Follow n defect (offset + x.utf8Size) rest) : Follow n defect offset (.plain x :: rest)
  | escaped {offset : Nat} {x : Char} {rest : List Piece} (h : Follow n defect (offset + 2) rest) :
    Follow n defect offset (.escaped x :: rest)
  | unit {offset stop m : Nat} {rest : List Piece} (hle : offset ≤ stop)
    (h : Follow n defect stop rest) : Follow n defect offset (.unit m stop :: rest)

/-- Pieces that follow each other stay within the text. -/
theorem Follow.offset_le {defect : Option Nat} {offset : Nat} {pieces : List Piece}
    (h : Follow n defect offset pieces) : offset ≤ n := by
  induction h with
  | nil h => exact h
  | plain _ ih => exact Nat.le_of_add_right_le ih
  | escaped _ ih => exact Nat.le_of_add_right_le ih
  | unit hle _ ih => exact Nat.le_trans hle ih

/-- A hexadecimal digit is one byte. -/
theorem utf8Size_of_hexValue? {x : Char} {m : Nat} (h : hexValue? x = some m) :
    x.utf8Size = 1 := by
  unfold hexValue? at h
  split at h
  · next hdigit => exact utf8Size_of_isDigit hdigit
  · split at h
    · next hsmall => exact Char.utf8Size_eq_one_iff.2 (UInt32.le_trans hsmall.2 (by decide))
    · split at h
      · next hcapital => exact Char.utf8Size_eq_one_iff.2 (UInt32.le_trans hcapital.2 (by decide))
      · cases h

/-- The letter of an escape is one byte. -/
theorem utf8Size_of_unescape? {x y : Char} (h : unescape? x = some y) : x.utf8Size = 1 := by
  unfold unescape? at h
  split at h
  case h_9 => cases h
  all_goals rfl

/-- The digits of a code unit are four bytes. -/
theorem utf8Length_of_hexUnit? {a b c d : Char} {m : Nat} {rest : List Char}
    (h : hexUnit? a b c d = some m) :
    Text.utf8Length (a :: b :: c :: d :: rest) = 4 + Text.utf8Length rest := by
  simp only [hexUnit?, Option.bind_eq_bind, Option.bind_eq_some_iff] at h
  obtain ⟨_, ha, _, hb, _, hc, _, hd, -⟩ := h
  simp only [Text.utf8Length, utf8Size_of_hexValue? ha, utf8Size_of_hexValue? hb,
    utf8Size_of_hexValue? hc, utf8Size_of_hexValue? hd]
  omega

theorem utf8Length_backslash (s : List Char) :
    Text.utf8Length ('\\' :: s) = 1 + Text.utf8Length s := rfl

/-- A string that breaks before its next piece. -/
theorem follow_defect {offset taken : Nat} (h : offset ≤ n) (htaken : taken ≤ n) :
    Follow n (Ending.defect taken).failure? offset [] ∧ (Ending.defect taken).IsIn n :=
  ⟨.nil h htaken, htaken⟩

/-- **The pieces of a string** follow one another in the text. -/
theorem follow_readPieces (offset : Nat) (s : List Char) (h : offset + Text.utf8Length s = n) :
    Follow n (readPieces offset s).2.failure? offset (readPieces offset s).1 ∧
      (readPieces offset s).2.IsIn n := by
  fun_induction readPieces offset s
  case case1 offset => exact follow_defect h.le h.le
  case case2 offset rest =>
    have hafter : Cursor.IsIn n ⟨offset + 1, rest⟩ := (Nat.add_assoc ..).trans h
    exact ⟨.nil (Nat.le_of_add_right_le h.le) hafter.offset_le, hafter⟩
  case case3 offset rest _ =>
    have hu : Text.utf8Length ('u' :: rest) = 1 + Text.utf8Length rest := rfl
    rw [utf8Length_backslash, hu] at h
    exact follow_defect (by omega) (by omega)
  case case4 offset a b c d tail m hunit pieces ending hread _ ih =>
    have hu : Text.utf8Length ('u' :: a :: b :: c :: d :: tail) = 5 + Text.utf8Length tail := by
      rw [Text.utf8Length, utf8Length_of_hexUnit? hunit, ← Nat.add_assoc]
      rfl
    rw [utf8Length_backslash, hu] at h
    have htail := ih (by omega)
    rw [hread] at htail
    exact ⟨.unit (Nat.le_add_right offset 6) htail.1, htail.2⟩
  case case5 hlength | case6 hlength _ =>
    rw [utf8Length_backslash, Text.utf8Length] at h
    have hu : ('u').utf8Size = 1 := rfl
    exact follow_defect (by omega) (by omega)
  case case7 offset c rest _ x hescape pieces ending hread ih =>
    rw [utf8Length_backslash, Text.utf8Length, utf8Size_of_unescape? hescape] at h
    have hrest := ih (by omega)
    rw [hread] at hrest
    exact ⟨.escaped hrest.1, hrest.2⟩
  case case8 offset c rest _ _ =>
    rw [utf8Length_backslash, Text.utf8Length] at h
    have hpos := c.utf8Size_pos
    exact follow_defect (by omega) (by omega)
  case case9 offset =>
    exact follow_defect (Nat.le_of_add_right_le h.le) h.le
  case case10 offset c rest _ _ _ _ _ =>
    have hlt : offset < n :=
      Cursor.IsIn.offset_lt (c := ⟨offset, c :: rest⟩) h (List.cons_ne_nil _ _)
    exact ⟨.nil hlt.le hlt, hlt⟩
  case case11 offset c rest _ _ _ _ _ pieces ending hread ih =>
    have hrest := ih ((Nat.add_assoc ..).trans h)
    rw [hread] at hrest
    exact ⟨.plain hrest.1, hrest.2⟩

/-- **The text of a string** fails within the text it stands in. -/
theorem failsWithin_assemble {defect : Option Nat} {offset : Nat} {pieces : List Piece}
    (h : Follow n defect offset pieces) : FailsWithin n (assemble defect pieces) := by
  fun_induction assemble defect pieces generalizing offset
  case case1 taken hsome =>
    cases h with
    | nil _ hdefect =>
      rw [hsome] at hdefect
      exact hdefect
  case case2 => exact trivial
  case case3 ih =>
    cases h with
    | plain h => exact (ih h).bind fun _ => trivial
  case case4 ih =>
    cases h with
    | escaped h => exact (ih h).bind fun _ => trivial
  case case5 =>
    cases h with
    | unit _ h => exact h.offset_le
  case case6 ih =>
    cases h with
    | unit _ h =>
      cases h with
      | unit _ h => exact (ih h).bind fun _ => trivial
  case case7 =>
    cases h with
    | unit _ h =>
      cases h with
      | unit _ h => exact h.offset_le
  case case8 =>
    cases h with
    | unit _ h =>
      cases h with
      | escaped h => exact h.offset_le
  case case9 =>
    cases h with
    | unit _ h =>
      cases h with
      | plain h => exact Nat.le_trans (Nat.add_le_add_left (Char.utf8Size_pos _) _) h.offset_le
  case case10 =>
    cases h with
    | unit _ h =>
      cases h with
      | nil _ hdefect => exact hdefect
  case case11 ih =>
    cases h with
    | unit _ h => exact (ih h).bind fun _ => trivial

/-- A string of which all failures are in a text of `n` bytes. -/
structure Quoted.IsIn (n : Nat) (q : Quoted) : Prop where
  text : FailsWithin n q.text
  skipped : FailsWithin n q.skipped

/-- What is read of a document has a property, and what follows it is in a text of `n` bytes. -/
structure Parsed.Holds (n : Nat) (P : α → Prop) (x : Parsed α) : Prop where
  part : P x.1
  after : ∀ c ∈ x.2, Cursor.IsIn n c

/-- Nothing is read behind a part that is broken. -/
theorem Parsed.Holds.alone {P : α → Prop} {a : α} (h : P a) : Parsed.Holds n P (a, none) where
  part := h
  after _ hc := absurd hc (Option.not_mem_none _)

/-- A part and the cursor behind it. -/
theorem Parsed.Holds.followed {P : α → Prop} {a : α} {after : Cursor} (h : P a)
    (hafter : after.IsIn n) : Parsed.Holds n P (a, some after) where
  part := h
  after _ hc := Option.some.inj hc ▸ hafter

/-- A reader of parts stays in a text of `n` bytes, and what it reads has a property. -/
def StaysIn (n : Nat) (P : α → Prop) (read : Cursor → Parsed α) : Prop :=
  ∀ c : Cursor, c.IsIn n → (read c).Holds n P

/-- **A string** stays in the text. -/
theorem staysIn_readQuoted : StaysIn n (Quoted.IsIn n) readQuoted := by
  intro c h
  obtain ⟨hpieces, hending⟩ := follow_readPieces c.offset c.rest h
  rcases hread : readPieces c.offset c.rest with ⟨pieces, ending⟩
  rw [hread] at hpieces hending
  have htext := (failsWithin_assemble hpieces).map String.ofList
  simp only [readQuoted, hread]
  cases ending with
  | quote after => exact .followed ⟨htext, trivial⟩ hending
  | defect taken => exact .alone ⟨htext, hending⟩
  | control offset => exact .alone ⟨htext, hending.le⟩

/-! ## Numerals and words -/

/-- The exponent of a numeral with its digits at a cursor. -/
theorem gives_exponentDigits (negative : Bool) (h : c.IsIn n) :
    Gives n (fun x => x.2.2.IsIn n ∧ ∀ e ∈ x.1, x.2.1 + e.2.length ≤ n)
      (match c.digits with
        | ([], _) => (.error c.reject : Except Nat (Option (Bool × List Char) × Nat × Cursor))
        | (ds, after) => .ok (some (negative, ds), c.offset, after)) := by
  split
  · exact h.reject_le
  · next ds after _ hdigits =>
    obtain ⟨hafter, hoffset⟩ := h.of_digits hdigits
    refine ⟨hafter, fun e he => ?_⟩
    obtain rfl := Option.some.inj he
    exact hoffset ▸ hafter.offset_le

/-- **The exponent of a numeral** has its digits in front of what follows. -/
theorem gives_readExponent (h : c.IsIn n) :
    Gives n (fun x => x.2.2.IsIn n ∧ ∀ e ∈ x.1, x.2.1 + e.2.length ≤ n) (readExponent c) := by
  unfold readExponent
  split
  · next x rest hrest =>
    split
    · next hx =>
      have hletter : x.utf8Size = 1 := by
        rcases hx with rfl | rfl <;> rfl
      have htail := h.tail hrest hletter
      refine gives_exponentDigits _ ?_
      split
      · exact htail.tail rfl rfl
      · exact htail.tail rfl rfl
      · exact htail
    · exact ⟨h, nofun⟩
  · exact ⟨h, nofun⟩

/-- Behind a fraction a cursor is still in the text. -/
theorem gives_readFraction (h : c.IsIn n) :
    Gives n (fun x => x.2.IsIn n) (readFraction c) := by
  unfold readFraction
  split
  · next rest hrest =>
    have htail := h.tail hrest rfl
    split
    · next after hdigits => exact (htail.of_digits hdigits).1.reject_le
    · next ds after _ hdigits => exact (htail.of_digits hdigits).1
  · exact h

/-- An exponent that is out of range is noticed within its digits. -/
theorem exponentReach_le (ds : List Char) : Numeral.exponentReach ds ≤ ds.length := by
  unfold Numeral.exponentReach
  cases hfind : (List.range (ds.length + 1)).find? fun k =>
      maxExponent < Text.ofDigits (ds.take k) with
  | none => exact Nat.le_refl _
  | some k => exact Nat.le_of_lt_succ (List.mem_range.1 (List.mem_of_find?_eq_some hfind))

/-- **A numeral** is read within the text, and if it is out of range this is noticed there. -/
theorem gives_readNumeral (negative : Bool) (h : c.IsIn n) :
    Gives n (fun (x : Except Nat Number × Cursor) => FailsWithin n x.1 ∧ x.2.IsIn n)
      (readNumeral negative c) := by
  unfold readNumeral
  dsimp only
  split
  · exact h.reject_le
  · next d ds after hdigits =>
    -- the second digit is in the text
    obtain ⟨hafter, hoffset⟩ := h.of_digits hdigits
    have hle := hafter.offset_le
    rw [hoffset, List.length_cons, List.length_cons] at hle
    exact Nat.le_trans (Nat.add_le_add_left (Nat.le_add_left 2 _) _) hle
  · next ds after _ _ hdigits =>
    have hwhole := (h.of_digits hdigits).1
    refine Gives.bind (P := fun (whole : List Char × Cursor) => whole.2.IsIn n) hwhole ?_
    rintro ⟨whole, after⟩ hafter
    refine Gives.bind (gives_readFraction hafter) ?_
    rintro ⟨fraction, after⟩ hafter
    refine Gives.bind (gives_readExponent hafter) ?_
    rintro ⟨exponent, exponentStart, after⟩ ⟨hafter, hreach⟩
    refine ⟨?_, hafter⟩
    dsimp only
    split
    · exact trivial
    · split
      · next ds _ =>
        split
        · exact Nat.le_trans (Nat.add_le_add_left (exponentReach_le ds) _) (hreach _ rfl)
        · exact hafter.offset_le
      · exact hafter.offset_le

/-- **A word** of characters of one byte each. -/
theorem gives_readWord (word : List Char) (h : c.IsIn n) (hword : ∀ x ∈ word, x.utf8Size = 1) :
    Gives n (Cursor.IsIn n) (readWord word c) := by
  induction word generalizing c with
  | nil =>
    unfold readWord
    exact h
  | cons w ws ih =>
    obtain ⟨hw, hws⟩ := List.forall_mem_cons.1 hword
    unfold readWord
    split
    · next heq => cases heq
    · next w' ws' x rest heq hrest =>
      obtain ⟨rfl, rfl⟩ := List.cons.inj heq
      split
      · next hx => exact ih (h.tail hrest (hx ▸ hw)) hws
      · exact h.offset_lt (by rw [hrest]; exact List.cons_ne_nil _ _)
    · exact h.offset_le

end Json
end Pagewright
