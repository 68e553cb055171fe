/-
# Templates between backticks

A template is a list of parts: characters, and holes that the value takes (`parts`). Filling it
puts the text of the value into every hole (`fill_eq_flatMap`); in emitted code a hole becomes
`${E}` and a backtick is escaped, and every other character stands as it is
(`fill_escaped_eq`). Three things in a template mean something else between backticks:

| in the template | in the template literal |
| --- | --- |
| a backslash | the start of an escape |
| a carriage return | a line feed |
| `${` that is not the start of `${}` | the start of a substitution |

A template without them is *faithful*: its template literal is its text with every hole filled,
whatever the value (`cook_written`). Any other template is betrayed by the value that is a
single backtick. Each part is filled with one character then, and the template literal, if it
has a value at all, is shorter or has a line feed for a carriage return (`bounded`): an escape
and a substitution of the template's own take more parts than they stand for, and neither can
reach into a hole, since the backtick in it closes the template literal.
-/

import Pagewright.Mapping.Transform
import Pagewright.Proofs.Script.Evaluation

namespace Pagewright
namespace Transform

open Json (Piece)
open Script (Scalar IsInert cook)

/-! ## Parts -/

/-- The parts of a template: its characters, and `none` for each hole. -/
def parts : List Char → List (Option Char)
  | [] => []
  | '\x7b' :: '\x7d' :: l => none :: parts l
  | c :: l => some c :: parts l

/-- A part that has been filled. -/
def fillPart (filling : List Char) : Option Char → List Char
  | none => filling
  | some c => [c]

/-- A part as it stands between backticks. -/
def writePart (code : List Char) : Option Char → List Char
  | none => '$' :: '\x7b' :: (code ++ ['\x7d'])
  | some c => if c = '\x60' then ['\\', '\x60'] else [c]

/-- A character that does not open a hole stays. -/
theorem fill_cons {c : Char} {l : List Char} (h : ∀ l', c = '\x7b' → l ≠ '\x7d' :: l')
    (filling : List Char) : fill (c :: l) filling = c :: fill l filling := by
  refine Text.replaceAll_cons_of_not_prefix ?_
  intro hprefix
  obtain ⟨l', hl'⟩ := List.isPrefixOf_iff_prefix.1 hprefix
  obtain ⟨rfl, rfl⟩ := List.cons.inj hl'
  exact h l' rfl rfl

/-- **A template is filled part by part.** -/
theorem fill_eq_flatMap (filling template : List Char) :
    fill template filling = (parts template).flatMap (fillPart filling) := by
  fun_induction parts template with
  | case1 => rfl
  | case2 l ih =>
    rw [List.flatMap_cons, ← ih]
    rfl
  | case3 c l hne ih =>
    rw [List.flatMap_cons, ← ih, fill_cons hne]
    rfl

/-- **In emitted code** a hole becomes a substitution and a backtick is escaped. -/
theorem fill_escaped_eq (code template : List Char) :
    fill (Text.replaceAll ['\x60'] ['\\', '\x60'] template) ('$' :: '\x7b' :: (code ++ ['\x7d'])) =
      (parts template).flatMap (writePart code) := by
  fun_induction parts template with
  | case1 => rfl
  | case2 l ih =>
    rw [List.flatMap_cons, ← ih]
    rfl
  | case3 c l hne ih =>
    rw [List.flatMap_cons, ← ih, writePart]
    by_cases hc : c = '\x60'
    · subst hc
      rfl
    · simp only [Text.replaceAll_singleton, List.flatMap_cons, if_neg hc]
      refine fill_cons (fun l' hbrace hl' => ?_) _
      -- No escape puts the closing brace of a hole behind its opening one.
      cases l with
      | nil => cases hl'
      | cons d l =>
        rw [List.flatMap_cons] at hl'
        split at hl'
        · exact absurd (List.cons.inj hl').1 (by decide)
        · exact hne l hbrace (by rw [(List.cons.inj hl').1])

/-! ## Faithful templates -/

/-- A template in which only the holes mean anything between backticks. -/
structure IsFaithful (template : List Char) : Prop where
  backslash : '\\' ∉ template
  carriageReturn : '\r' ∉ template
  dollar : ∀ rest, '$' :: '\x7b' :: rest <:+ template → rest.head? = some '\x7d'

/-- Parts of which only the holes mean anything between backticks. -/
def PlainParts : List (Option Char) → Prop
  | [] => True
  | none :: ps => PlainParts ps
  | some c :: ps =>
    c ≠ '\\' ∧ c ≠ '\r' ∧ (c = '$' → ps.head? ≠ some (some '\x7b')) ∧ PlainParts ps

/-- Whether a template is faithful can be told character by character. -/
theorem isFaithful_cons_iff {c : Char} {l : List Char} :
    IsFaithful (c :: l) ↔ c ≠ '\\' ∧ c ≠ '\r' ∧
      (c = '$' → ∀ rest, l = '\x7b' :: rest → rest.head? = some '\x7d') ∧ IsFaithful l := by
  constructor
  · rintro ⟨h₁, h₂, h₃⟩
    rw [List.mem_cons, not_or] at h₁ h₂
    refine ⟨Ne.symm h₁.1, Ne.symm h₂.1, ?_, h₁.2, h₂.2, fun rest hrest => ?_⟩
    · rintro rfl rest rfl
      exact h₃ rest List.suffix_rfl
    · exact h₃ rest (hrest.trans (List.suffix_cons ..))
  · rintro ⟨h₁, h₂, h₃, hl⟩
    refine ⟨?_, ?_, fun rest hrest => ?_⟩
    · simp [Ne.symm h₁, hl.backslash]
    · simp [Ne.symm h₂, hl.carriageReturn]
    · rcases List.suffix_cons_iff.1 hrest with heq | hrest
      · obtain ⟨rfl, rfl⟩ := List.cons.inj heq
        exact h₃ rfl rest rfl
      · exact hl.dollar rest hrest

/-- A brace that comes first is a part of its own unless it opens a hole. -/
theorem head?_parts_eq_iff {l : List Char} :
    (parts l).head? = some (some '\x7b') ↔
      ∃ rest, l = '\x7b' :: rest ∧ rest.head? ≠ some '\x7d' := by
  unfold parts
  split
  · simp
  · simp
  · next c l hne =>
    simp only [List.head?_cons, Option.some.injEq, List.cons.injEq]
    constructor
    · rintro rfl
      refine ⟨l, ⟨rfl, rfl⟩, fun hl => ?_⟩
      obtain ⟨l', rfl⟩ := List.head?_eq_some_iff.1 hl
      exact hne l' rfl rfl
    · rintro ⟨_, ⟨rfl, rfl⟩, -⟩
      rfl

/-- A template is faithful exactly if its parts are plain. -/
theorem isFaithful_iff_plainParts {template : List Char} :
    IsFaithful template ↔ PlainParts (parts template) := by
  fun_induction parts template with
  | case1 => exact ⟨fun _ => trivial, fun _ => ⟨by simp, by simp, by simp⟩⟩
  | case2 l ih =>
    rw [isFaithful_cons_iff, isFaithful_cons_iff, ih, PlainParts]
    simp
  | case3 c l hne ih =>
    rw [isFaithful_cons_iff, ih, PlainParts, ne_eq (parts l).head?, head?_parts_eq_iff]
    simp

/-! ## Faithful templates are filled in the template literal -/

/-- Parts between backticks, after the opening one. -/
def written (code : List Char) (ps : List (Option Char)) : List Char :=
  ps.flatMap (writePart code) ++ ['\x60']

/-- A hole is written as a substitution. -/
theorem written_none (code : List Char) (ps : List (Option Char)) :
    written code (none :: ps) = '$' :: '\x7b' :: (code ++ '\x7d' :: written code ps) := by
  simp [written, writePart]

/-- A backtick is written as an escape. -/
theorem written_backtick (code : List Char) (ps : List (Option Char)) :
    written code (some '\x60' :: ps) = '\\' :: '\x60' :: written code ps := rfl

/-- Any other character is written as it stands. -/
theorem written_some {c : Char} (h : c ≠ '\x60') (code : List Char) (ps : List (Option Char)) :
    written code (some c :: ps) = c :: written code ps := by
  rw [written, List.flatMap_cons, writePart, if_neg h]
  rfl

/-- **What stands in front** of written parts tells which part is the first. -/
theorem written_eq_cons {code : List Char} {ps : List (Option Char)} {c : Char} {l : List Char}
    (h : written code ps = c :: l) :
    (ps = [] ∧ c = '\x60' ∧ l = []) ∨
    (∃ ps', ps = none :: ps' ∧ c = '$' ∧ l = '\x7b' :: (code ++ '\x7d' :: written code ps')) ∨
    (∃ ps', ps = some '\x60' :: ps' ∧ c = '\\' ∧ l = '\x60' :: written code ps') ∨
    (∃ ps', ps = some c :: ps' ∧ c ≠ '\x60' ∧ l = written code ps') := by
  rcases ps with _ | ⟨_ | d, ps⟩
  · obtain ⟨rfl, rfl⟩ := List.cons.inj h
    exact .inl ⟨rfl, rfl, rfl⟩
  · rw [written_none] at h
    obtain ⟨rfl, rfl⟩ := List.cons.inj h
    exact .inr (.inl ⟨ps, rfl, rfl, rfl⟩)
  · by_cases hd : d = '\x60'
    · subst hd
      rw [written_backtick] at h
      obtain ⟨rfl, rfl⟩ := List.cons.inj h
      exact .inr (.inr (.inl ⟨ps, rfl, rfl, rfl⟩))
    · rw [written_some hd] at h
      obtain ⟨rfl, rfl⟩ := List.cons.inj h
      exact .inr (.inr (.inr ⟨ps, rfl, hd, rfl⟩))

/-- A backslash is one of the template or begins the escape of a backtick. -/
theorem written_eq_backslash {code : List Char} {ps : List (Option Char)} {l : List Char}
    (h : written code ps = '\\' :: l) :
    (∃ ps', ps = some '\\' :: ps' ∧ l = written code ps') ∨
      ∃ ps', ps = some '\x60' :: ps' ∧ l = '\x60' :: written code ps' := by
  rcases written_eq_cons h with ⟨-, hc, -⟩ | ⟨_, -, hc, -⟩ | ⟨ps', rfl, -, hl⟩ | ⟨ps', rfl, -, hl⟩
  · cases hc
  · cases hc
  · exact .inr ⟨ps', rfl, hl⟩
  · exact .inl ⟨ps', rfl, hl⟩

/-- At least the closing backtick is written. -/
theorem written_ne_nil (code : List Char) (ps : List (Option Char)) : written code ps ≠ [] := by
  simp [written]

/-- A brace comes first only if it is a part of the template. -/
theorem head?_written_eq {code : List Char} {ps : List (Option Char)}
    (h : (written code ps).head? = some '\x7b') : ps.head? = some (some '\x7b') := by
  obtain ⟨l, hl⟩ := List.head?_eq_some_iff.1 h
  rcases written_eq_cons hl with ⟨-, hc, -⟩ | ⟨-, -, hc, -⟩ | ⟨-, -, hc, -⟩ | ⟨ps', rfl, -⟩
  · cases hc
  · cases hc
  · cases hc
  · rfl

/-- **A faithful template is filled,** whatever the value. -/
theorem cook_written (v : Scalar) {ps : List (Option Char)} (h : PlainParts ps) :
    cook (written v.source ps) = some ((ps.flatMap (fillPart v.text)).map .plain) := by
  induction ps with
  | nil => simp [written, cook]
  | cons part ps ih =>
    cases part with
    | none =>
      have hslot : Script.readSlot (v.source ++ '\x7d' :: written v.source ps) =
          some (v.text, written v.source ps) :=
        Script.readSlot_eq_some_iff.2 ⟨v, Script.readScalar_source v _, rfl⟩
      rw [written_none, Script.cook_slot, hslot, Option.bind_some, ih h]
      simp [fillPart]
    | some c =>
      obtain ⟨hslash, hreturn, hdollar, hps⟩ := h
      by_cases hc : c = '\x60'
      · subst hc
        have hescape : Script.readEscape ('\x60' :: written v.source ps) =
            some ([.plain '\x60'], written v.source ps) := rfl
        rw [written_backtick, Script.cook_escape, hescape, Option.bind_some, ih hps]
        rfl
      · rw [written_some hc, Script.cook_cons hc hslash hreturn fun hd hhead =>
          hdollar hd (head?_written_eq hhead), ih hps]
        rfl

/-! ## The value that betrays all other templates -/

/-- The value that is a single backtick. -/
def tick : Scalar := .string "\x60"

/-- An inert character that comes first is a part of the template. -/
theorem written_eq_cons_of_isInert {ps : List (Option Char)} {code l : List Char} {c : Char}
    (hc : IsInert c) (h : written code ps = c :: l) :
    ∃ ps', ps = some c :: ps' ∧ l = written code ps' := by
  rcases written_eq_cons h with ⟨-, rfl, -⟩ | ⟨-, -, rfl, -⟩ | ⟨-, -, rfl, -⟩ | ⟨ps', hps, -, hl⟩
  · exact absurd rfl hc.1
  · exact absurd rfl hc.2.2
  · exact absurd rfl hc.2.1
  · exact ⟨ps', hps, hl⟩

/-- Inert characters are taken from as many parts. -/
theorem written_eq_append_of_isInert {ps : List (Option Char)} {code taken l : List Char}
    (htaken : ∀ c ∈ taken, IsInert c) (h : written code ps = taken ++ l) :
    ∃ ps', l = written code ps' ∧ taken.length + ps'.length = ps.length := by
  induction taken generalizing ps with
  | nil => exact ⟨ps, h.symm, Nat.zero_add _⟩
  | cons c taken ih =>
    obtain ⟨hc, htaken⟩ := List.forall_mem_cons.1 htaken
    obtain ⟨ps₁, rfl, h₁⟩ := written_eq_cons_of_isInert hc h
    obtain ⟨ps', hl, hlength⟩ := ih htaken h₁.symm
    refine ⟨ps', hl, ?_⟩
    simp only [List.length_cons]
    omega

/-! ### A string in a substitution of the template's own -/

/-- A text with `n` written parts, from a part on or from the second character of an escaped
backtick on. -/
def Inside (n : Nat) (l : List Char) : Prop :=
  (∃ ps, l = written tick.source ps ∧ ps.length = n) ∨
    ∃ ps, l = '\x60' :: written tick.source ps ∧ ps.length + 1 = n

/-- What stands behind a string of `pieces` pieces that was read from `n` parts: a backtick, or
parts, of which the pieces and the closing quote have taken one each. -/
def EndsWith (n pieces : Nat) (rest : List Char) : Prop :=
  rest.head? = some '\x60' ∨ ∃ ps, rest = written tick.source ps ∧ pieces + ps.length + 1 ≤ n

/-- Of more parts one more piece may be read. -/
theorem EndsWith.succ {m n pieces : Nat} {rest : List Char} (h : EndsWith m pieces rest)
    (hlt : m < n) : EndsWith n (pieces + 1) rest :=
  h.imp_right fun ⟨ps, hrest, hle⟩ => ⟨ps, hrest, by omega⟩

/-- A string that is closed at once has no piece. -/
theorem Inside.endsWith {n : Nat} {l : List Char} (h : Inside n ('"' :: l)) : EndsWith n 0 l := by
  rcases h with ⟨ps, hps, rfl⟩ | ⟨ps, hps, -⟩
  · obtain ⟨ps', rfl, hl⟩ := written_eq_cons_of_isInert (by simp [IsInert]) hps.symm
    exact .inr ⟨ps', hl, by simp⟩
  · cases (List.cons.inj hps).1

/-- A code unit takes parts. -/
theorem Inside.of_unit {n unit : Nat} {a b c d : Char} {l : List Char}
    (h : Inside n ('\\' :: 'u' :: a :: b :: c :: d :: l))
    (hunit : Json.hexUnit? a b c d = some unit) : ∃ m < n, Inside m l := by
  rcases h with ⟨ps, hps, rfl⟩ | ⟨ps, hps, -⟩
  · rcases written_eq_backslash hps.symm with ⟨ps₁, rfl, h₁⟩ | ⟨ps₁, rfl, h₁⟩
    · have hinert : ∀ x ∈ ['u', a, b, c, d], IsInert x :=
        List.forall_mem_cons.2 ⟨by simp [IsInert], Script.isInert_of_hexUnit? hunit⟩
      obtain ⟨ps₂, hl, hlength⟩ := written_eq_append_of_isInert hinert h₁.symm
      refine ⟨ps₂.length, ?_, .inl ⟨ps₂, hl, rfl⟩⟩
      simp only [List.length_cons, List.length_nil] at hlength ⊢
      omega
    · cases (List.cons.inj h₁).1
  · cases (List.cons.inj hps).1

/-- An escape takes parts. -/
theorem Inside.of_escaped {n : Nat} {c x : Char} {l : List Char}
    (h : Inside n ('\\' :: c :: l)) (hc : Json.unescape? c = some x) : ∃ m < n, Inside m l := by
  rcases h with ⟨ps, hps, rfl⟩ | ⟨ps, hps, -⟩
  · rcases written_eq_backslash hps.symm with ⟨ps₁, rfl, h₁⟩ | ⟨ps₁, rfl, h₁⟩
    · rcases written_eq_cons h₁.symm with ⟨-, rfl, -⟩ | ⟨_, -, rfl, -⟩ | ⟨ps₂, rfl, rfl, hl⟩ |
        ⟨ps₂, rfl, -, hl⟩
      · cases hc
      · cases hc
      · exact ⟨ps₂.length + 1, by simp, .inr ⟨ps₂, hl, rfl⟩⟩
      · exact ⟨ps₂.length, by simp only [List.length_cons]; omega, .inl ⟨ps₂, hl, rfl⟩⟩
    · obtain ⟨rfl, -⟩ := List.cons.inj h₁
      cases hc
  · cases (List.cons.inj hps).1

/-- A character that stands for itself in a string is a part, or it starts a hole, whose value
ends the string, or the text ends with it. -/
theorem Inside.of_plain {n : Nat} {c : Char} {l : List Char} (h : Inside n (c :: l))
    (hc : c ≠ '\\') : (∃ m < n, Inside m l) ∨ l = [] ∨ ∃ l', l = '\x7b' :: '"' :: '\x60' :: l' := by
  rcases h with ⟨ps, hps, rfl⟩ | ⟨ps, hps, rfl⟩
  · rcases written_eq_cons hps.symm with ⟨-, -, hl⟩ | ⟨ps₁, -, -, hl⟩ | ⟨_, -, rfl, -⟩ |
      ⟨ps₁, rfl, -, hl⟩
    · exact .inr (.inl hl)
    · exact .inr (.inr ⟨'"' :: '\x7d' :: written tick.source ps₁, hl⟩)
    · exact absurd rfl hc
    · exact .inl ⟨ps₁.length, by simp, .inl ⟨ps₁, hl, rfl⟩⟩
  · exact .inl ⟨ps.length, Nat.lt_succ_self _, .inl ⟨ps, (List.cons.inj hps).2, rfl⟩⟩

/-- **A string that is read inside** takes at least a part for each of its pieces. -/
theorem Inside.endsWith_of_readPieces {offset n : Nat} {l : List Char} {pieces : List Piece}
    {after : Json.Cursor} (h : Inside n l)
    (hread : Json.readPieces offset l = (pieces, .quote after)) :
    EndsWith n pieces.length after.rest := by
  fun_induction Json.readPieces offset l generalizing pieces n
  case case2 =>
    cases hread
    exact h.endsWith
  case case4 hunit pieces ending htail _ ih =>
    cases hread
    obtain ⟨m, hm, hinside⟩ := h.of_unit hunit
    exact (ih hinside htail).succ hm
  case case7 hunescape pieces ending htail ih =>
    cases hread
    obtain ⟨m, hm, hinside⟩ := h.of_escaped hunescape
    exact (ih hinside htail).succ hm
  case case11 c rest _ _ hescape hslash _ pieces ending htail ih =>
    cases hread
    have hc : c ≠ '\\' := by
      rintro rfl
      cases rest with
      | nil => exact hslash rfl rfl
      | cons d rest => exact hescape d rest rfl rfl
    rcases h.of_plain hc with ⟨m, hm, hinside⟩ | rfl | ⟨l', rfl⟩
    · exact (ih hinside htail).succ hm
    · cases htail
    · cases htail
      exact .inl rfl
  all_goals cases hread

/-! ### What a template literal loses -/

/-- A substitution of the template's own is longer than the text it stands for. -/
theorem exists_of_readSlot_written {ps : List (Option Char)} {text rest : List Char}
    (h : Script.readSlot (written tick.source ps) = some (text, rest)) :
    ∃ ps', rest = written tick.source ps' ∧ text.length + ps'.length + 1 ≤ ps.length := by
  have hbrace : IsInert '\x7d' := by simp [IsInert]
  obtain ⟨v, hv, rfl⟩ := Script.readSlot_eq_some_iff.1 h
  rcases Script.readScalar_eq_some hv with ⟨hl, -, halpha⟩ |
    ⟨l, pieces, after, hl, hread, hafter, hle⟩
  · have hinert : ∀ c ∈ v.text ++ ['\x7d'], IsInert c := by
      intro c hc
      rcases List.mem_append.1 hc with hc | hc
      · exact Script.isInert_of_isAlpha (halpha c hc)
      · rwa [List.mem_singleton.1 hc]
    have hl' : written tick.source ps = (v.text ++ ['\x7d']) ++ rest := by
      rw [hl, List.append_assoc, List.singleton_append]
    obtain ⟨ps', hrest, hlength⟩ := written_eq_append_of_isInert hinert hl'
    refine ⟨ps', hrest, ?_⟩
    simp only [List.length_append, List.length_singleton] at hlength
    omega
  · obtain ⟨ps₁, rfl, rfl⟩ := written_eq_cons_of_isInert (by simp [IsInert]) hl
    have hinside : Inside ps₁.length (written tick.source ps₁) := .inl ⟨ps₁, rfl, rfl⟩
    rcases hinside.endsWith_of_readPieces hread with hhead | ⟨ps₂, hps₂, hlength⟩
    · rw [hafter] at hhead
      cases hhead
    · rw [hafter] at hps₂
      obtain ⟨ps', rfl, hrest⟩ := written_eq_cons_of_isInert hbrace hps₂.symm
      refine ⟨ps', hrest, ?_⟩
      simp only [List.length_cons] at hlength ⊢
      omega

/-- A substitution of the template's own cannot reach into a hole. -/
theorem cook_tick (l : List Char) : cook ('\x7b' :: (tick.source ++ l)) = none := by
  have hbrace : IsInert '\x7b' := by simp [IsInert]
  have hquote : IsInert '"' := by simp [IsInert]
  have hsource : tick.source ++ l = '"' :: '\x60' :: '"' :: l := rfl
  rw [Script.cook_cons_of_isInert hbrace (by decide), hsource,
    Script.cook_cons_of_isInert hquote (by decide), Script.cook_backtick (by simp)]
  rfl

/-- An escape of the template's own takes at least one part besides the backslash. -/
theorem exists_of_readEscape_written {ps : List (Option Char)} {cooked pieces : List Piece}
    {rest : List Char} (h : Script.readEscape (written tick.source ps) = some (cooked, rest))
    (hrest : cook rest = some pieces) :
    cooked.length ≤ 1 ∧ ∃ ps', rest = written tick.source ps' ∧ ps'.length < ps.length := by
  obtain ⟨⟨taken, hl, hne, htaken⟩, hcooked⟩ := Script.takes_of_readEscape h
  refine ⟨hcooked, ?_⟩
  rcases htaken with htaken | ⟨c, rfl⟩
  · obtain ⟨ps', hps', hlength⟩ := written_eq_append_of_isInert htaken hl
    have hpos := List.length_pos_iff.2 hne
    exact ⟨ps', hps', by omega⟩
  · rcases written_eq_cons hl with ⟨-, -, rfl⟩ | ⟨ps₁, -, -, rfl⟩ | ⟨ps₁, -, -, rfl⟩ |
      ⟨ps₁, rfl, -, rfl⟩
    · rw [cook] at hrest
      cases hrest
    · -- The value of the hole closes the template literal before its end.
      rw [cook_tick] at hrest
      cases hrest
    · rw [Script.cook_backtick (written_ne_nil _ _)] at hrest
      cases hrest
    · exact ⟨ps₁, rfl, Nat.lt_succ_self _⟩

/-- Filled with a single character, a template is as long as its parts are many. -/
theorem length_flatMap_fillPart_tick (ps : List (Option Char)) :
    (ps.flatMap (fillPart tick.text)).length = ps.length := by
  induction ps with
  | nil => rfl
  | cons part ps ih => cases part <;> exact congrArg Nat.succ ih

/-- A text with fewer pieces than a template has parts is not that template filled. -/
theorem not_assembled_of_lt {ps : List (Option Char)} {pieces : List Piece}
    (h : pieces.length < ps.length) :
    Json.assemble none pieces ≠ .ok (ps.flatMap (fillPart tick.text)) := by
  intro hassemble
  have hle := Json.length_le_of_assemble hassemble
  rw [length_flatMap_fillPart_tick] at hle
  omega

/-- A template is at least as long as what its template literal stands for, and if this is the
template filled, nothing but holes means anything in it. -/
def Bounded (ps : List (Option Char)) : Prop :=
  ∀ pieces, cook (written tick.source ps) = some pieces → pieces.length ≤ ps.length ∧
    (Json.assemble none pieces = .ok (ps.flatMap (fillPart tick.text)) → PlainParts ps)

/-- A part that is filled as it is written. -/
theorem Bounded.cons {part : Option Char} {ps : List (Option Char)} {c : Char} (h : Bounded ps)
    (hcook : cook (written tick.source (part :: ps)) =
      (cook (written tick.source ps)).map (.plain c :: ·))
    (hfill : fillPart tick.text part = [c]) (hplain : PlainParts ps → PlainParts (part :: ps)) :
    Bounded (part :: ps) := by
  intro pieces hpieces
  rw [hcook] at hpieces
  obtain ⟨qs, hqs, rfl⟩ := Option.map_eq_some_iff.1 hpieces
  obtain ⟨hle, himp⟩ := h qs hqs
  refine ⟨Nat.succ_le_succ hle, fun hassemble => hplain (himp ?_)⟩
  rw [List.flatMap_cons, hfill] at hassemble
  exact (Json.assemble_plain_cons_eq_ok_iff.1 hassemble).2

/-- A template literal that stands for less than its parts is bounded. -/
theorem bounded_of_lt {ps : List (Option Char)}
    (h : ∀ pieces, cook (written tick.source ps) = some pieces → pieces.length < ps.length) :
    Bounded ps :=
  fun pieces hpieces => ⟨Nat.le_of_lt (h pieces hpieces), fun hassemble =>
    absurd hassemble (not_assembled_of_lt (h pieces hpieces))⟩

/-- The empty template is bounded. -/
theorem bounded_nil : Bounded [] := by
  intro pieces h
  rw [written, List.flatMap_nil, List.nil_append, cook] at h
  cases h
  exact ⟨Nat.le_refl 0, fun _ => trivial⟩

/-- A hole in front keeps a template bounded. -/
theorem Bounded.hole {ps : List (Option Char)} (h : Bounded ps) : Bounded (none :: ps) := by
  refine h.cons ?_ rfl id
  have hslot : Script.readSlot (tick.source ++ '\x7d' :: written tick.source ps) =
      some (tick.text, written tick.source ps) :=
    Script.readSlot_eq_some_iff.2 ⟨tick, Script.readScalar_source tick _, rfl⟩
  rw [written_none, Script.cook_slot, hslot]
  rfl

/-- A backtick in front keeps a template bounded. -/
theorem Bounded.backtick {ps : List (Option Char)} (h : Bounded ps) :
    Bounded (some '\x60' :: ps) := by
  refine h.cons ?_ rfl fun hplain => ⟨by simp, by simp, by simp, hplain⟩
  have hescape : Script.readEscape ('\x60' :: written tick.source ps) =
      some ([.plain '\x60'], written tick.source ps) := rfl
  rw [written_backtick, Script.cook_escape, hescape]
  rfl

/-- **A backslash** takes more parts than it stands for. -/
theorem bounded_backslash {ps : List (Option Char)}
    (h : ∀ ps', ps'.length < ps.length → Bounded ps') : Bounded (some '\\' :: ps) := by
  refine bounded_of_lt fun pieces hpieces => ?_
  rw [written_some (by decide), Script.cook_escape] at hpieces
  obtain ⟨⟨cooked, rest⟩, hescape, hpieces⟩ := Option.bind_eq_some_iff.1 hpieces
  obtain ⟨pieces, hrest, rfl⟩ := Option.map_eq_some_iff.1 hpieces
  obtain ⟨hcooked, ps', rfl, hlt⟩ := exists_of_readEscape_written hescape hrest
  have hle := (h ps' hlt pieces hrest).1
  simp only [List.length_append, List.length_cons]
  omega

/-- **A substitution of the template's own** takes more parts than it stands for. -/
theorem bounded_dollar {ps : List (Option Char)}
    (h : ∀ ps', ps'.length < ps.length → Bounded ps') :
    Bounded (some '$' :: some '\x7b' :: ps) := by
  refine bounded_of_lt fun pieces hpieces => ?_
  rw [written_some (by decide), written_some (by decide), Script.cook_slot] at hpieces
  obtain ⟨⟨text, rest⟩, hslot, hpieces⟩ := Option.bind_eq_some_iff.1 hpieces
  obtain ⟨pieces, hrest, rfl⟩ := Option.map_eq_some_iff.1 hpieces
  obtain ⟨ps', rfl, hlength⟩ := exists_of_readSlot_written hslot
  have hle := (h ps' (by omega) pieces hrest).1
  simp only [List.length_append, List.length_map, List.length_cons]
  omega

/-- **A carriage return** becomes a line feed, and swallows the one behind it. -/
theorem bounded_carriageReturn {ps : List (Option Char)} (h : Bounded ps)
    (htail : Bounded ps.tail) : Bounded (some '\r' :: ps) := by
  intro pieces hpieces
  obtain ⟨rest, hrest, hcook⟩ := Script.exists_cook_return (written tick.source ps)
  rw [written_some (by decide), hcook] at hpieces
  obtain ⟨qs, hqs, rfl⟩ := Option.map_eq_some_iff.1 hpieces
  constructor
  · rcases hrest with rfl | hrest
    · exact Nat.succ_le_succ (h qs hqs).1
    · obtain ⟨ps', rfl, rfl⟩ := written_eq_cons_of_isInert (by simp [IsInert]) hrest
      exact Nat.succ_le_succ (Nat.le_succ_of_le (htail qs hqs).1)
  · -- The template has the carriage return, its template literal a line feed.
    intro hassemble
    exact absurd (Json.assemble_plain_cons_eq_ok_iff.1 hassemble).1 (by decide)

/-- **Only a faithful template is filled with a backtick.** -/
theorem bounded (ps : List (Option Char)) : Bounded ps := by
  induction hn : ps.length using Nat.strongRecOn generalizing ps with
  | ind n ih =>
    have hlt : ∀ ps' : List (Option Char), ps'.length < ps.length → Bounded ps' :=
      fun ps' h => ih _ (hn ▸ h) ps' rfl
    rcases ps with _ | ⟨_ | c, ps⟩
    · exact bounded_nil
    · exact (hlt ps (Nat.lt_succ_self _)).hole
    · have hps : Bounded ps := hlt ps (Nat.lt_succ_self _)
      have hshort : ∀ ps' : List (Option Char), ps'.length < ps.length → Bounded ps' :=
        fun ps' h => hlt ps' (Nat.lt_succ_of_lt h)
      by_cases hbacktick : c = '\x60'
      · exact hbacktick ▸ hps.backtick
      by_cases hslash : c = '\\'
      · exact hslash ▸ bounded_backslash hshort
      by_cases hreturn : c = '\r'
      · have htail : ps.tail.length < ps.length + 1 := by
          rw [List.length_tail]
          omega
        exact hreturn ▸ bounded_carriageReturn hps (hlt ps.tail htail)
      by_cases hdollar : c = '$' ∧ ps.head? = some (some '\x7b')
      · obtain ⟨rfl, hhead⟩ := hdollar
        obtain ⟨ps, rfl⟩ := List.head?_eq_some_iff.1 hhead
        exact bounded_dollar fun ps' h => hshort ps' (Nat.lt_succ_of_lt h)
      · rw [not_and] at hdollar
        refine hps.cons ?_ rfl fun hplain => ⟨hslash, hreturn, hdollar, hplain⟩
        rw [written_some hbacktick, Script.cook_cons hbacktick hslash hreturn fun hd hhead =>
          hdollar hd (head?_written_eq hhead)]

end Transform
end Pagewright
