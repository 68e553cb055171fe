/-
# What emitted code evaluates to

Code around `E`, the source text of null, a boolean or a string, is written in four forms:

| form | value |
| --- | --- |
| `(E) === A ? B : C` | the value of `B` if those of `E` and `A` are the same, else that of `C` |
| a template literal | its text, with escapes processed and every `${E}` replaced by the text of `E` |
| `!(E)` | whether the value of `E` is falsy |
| `{ "k": E }` | the object with the value of `E` under the key `k` |

`evaluate` reads code by these rules of JavaScript. Code of no other form has a value here, nor
has code after which something is left. A template literal is read into pieces (`cook`): a
character stands for itself, a carriage return with or without a line feed for a line feed, and
an escape is one of these:

| after the backslash | stands for |
| --- | --- |
| `b` `f` `n` `r` `t` `v` | a control character |
| `0`, no digit behind it | the character zero |
| `x` and two, `u` and four hexadecimal digits | a code unit |
| `u` and hexadecimal digits in braces | a code point up to `10FFFF` |
| the end of a line | nothing |
| any other character but a digit | itself |

A surrogate without partner is no text, so a template with one has no value.
-/

import Pagewright.Component.PropValue
import Pagewright.Proofs.Json.Strings

namespace Pagewright
namespace Script

open Json (Piece)

/-! ## Values in source text -/

/-- Null, a boolean or a string. -/
inductive Scalar where
  | null
  | bool (b : Bool)
  | string (s : String)
deriving DecidableEq

namespace Scalar

/-- The value as JSON. -/
def toJson : Scalar → Json
  | .null => .null
  | .bool b => .bool b
  | .string s => .string s

/-- The string form of the value. -/
def text : Scalar → List Char
  | .null => "null".toList
  | .bool b => (if b then "true" else "false").toList
  | .string s => s.toList

/-- Whether the value counts as true. -/
def isTruthy : Scalar → Bool
  | .null => false
  | .bool b => b
  | .string s => s ≠ ""

/-- The source text of the value. -/
def source (v : Scalar) : List Char := v.toJson.compact.toList

end Scalar

/-- The value whose source text stands in front, and the text after it. -/
def readScalar : List Char → Option (Scalar × List Char)
  | 'n' :: 'u' :: 'l' :: 'l' :: rest => some (.null, rest)
  | 't' :: 'r' :: 'u' :: 'e' :: rest => some (.bool true, rest)
  | 'f' :: 'a' :: 'l' :: 's' :: 'e' :: rest => some (.bool false, rest)
  | '"' :: rest =>
    match Json.readQuoted ⟨0, rest⟩ with
    | (⟨.ok s, _⟩, some after) => some (.string s, after.rest)
    | _ => none
  | _ => none

/-- **Source text is read as its value,** whatever stands behind it. -/
theorem readScalar_source (v : Scalar) (rest : List Char) :
    readScalar (v.source ++ rest) = some (v, rest) := by
  cases v with
  | null => rfl
  | bool b => cases b <;> rfl
  | string s =>
    obtain ⟨after, hread, hrest⟩ := Json.exists_readQuoted_quote s 0 rest
    have hsource : (Scalar.string s).source ++ rest =
        '"' :: (s.toList.flatMap Json.escape ++ '"' :: rest) := by
      simp [Scalar.source, Scalar.toJson, Json.compact, Json.quote]
    rw [hsource, readScalar, hread]
    simp only [Json.Quoted.ofString, hrest]

/-- **What a value is read from:** a word that is its text, or a string, which has at least as
many pieces as its text has characters. -/
theorem readScalar_eq_some {l rest : List Char} {v : Scalar} (h : readScalar l = some (v, rest)) :
    (l = v.text ++ rest ∧ v.text ≠ [] ∧ ∀ c ∈ v.text, c.isAlpha) ∨
      ∃ l' ps after, l = '"' :: l' ∧ Json.readPieces 0 l' = (ps, .quote after) ∧
        after.rest = rest ∧ v.text.length ≤ ps.length := by
  unfold readScalar at h
  split at h
  · cases h
    exact .inl ⟨rfl, by simp [Scalar.text], by simp [Scalar.text]⟩
  · cases h
    exact .inl ⟨rfl, by simp [Scalar.text], by simp [Scalar.text]⟩
  · cases h
    exact .inl ⟨rfl, by simp [Scalar.text], by simp [Scalar.text]⟩
  · next l' =>
    split at h
    · next s skipped after hread =>
      cases h
      obtain ⟨ps, hps, hs⟩ := Json.readQuoted_eq_some hread rfl
      exact .inr ⟨l', ps, after, rfl, hps, rfl, Json.length_le_of_assemble hs⟩
    · cases h
  · cases h

/-- A value takes something of the text. -/
theorem readScalar_shortens {l rest : List Char} {v : Scalar} (h : readScalar l = some (v, rest)) :
    rest.length < l.length := by
  rcases readScalar_eq_some h with ⟨rfl, hv, -⟩ | ⟨l', ps, after, rfl, hread, rfl, -⟩
  · rw [List.length_append]
    exact Nat.lt_add_of_pos_left (List.length_pos_iff.2 hv)
  · exact Nat.lt_succ_of_lt (Json.readPieces_shortens hread)

/-! ## Template literals -/

/-- The piece for a code point. -/
def codePoint (n : Nat) : Piece := if n < 0x10000 then .unit n 0 else .plain (Char.ofNat n)

/-- The code point whose digits stand before a closing brace, with the value of the digits that
have been read, and the text after it. -/
def readCodePoint (value : Option Nat) : List Char → Option (Piece × List Char)
  | [] => none
  | '\x7d' :: rest => value.map fun n => (codePoint n, rest)
  | c :: rest => do
    let digit ← Json.hexValue? c
    let n := value.getD 0 * 16 + digit
    if 0x10FFFF < n then none else readCodePoint (some n) rest

/-- Whether a character ends a line. -/
def isLineEnd (c : Char) : Bool :=
  c = '\n' || c = '\r' || c = '\u2028' || c = '\u2029'

/-- The character that a letter after a backslash stands for. -/
def unescaped (c : Char) : Char :=
  if c = 'b' then Char.ofNat 8
  else if c = 't' then '\t'
  else if c = 'n' then '\n'
  else if c = 'v' then Char.ofNat 11
  else if c = 'f' then Char.ofNat 12
  else if c = 'r' then '\r'
  else if c = '0' then Char.ofNat 0
  else c

/-- What an escape stands for, read after its backslash, and the text after it. -/
def readEscape : List Char → Option (List Piece × List Char)
  | [] => none
  | 'u' :: '\x7b' :: rest => (readCodePoint none rest).map fun (p, rest) => ([p], rest)
  | 'u' :: a :: b :: c :: d :: rest => (Json.hexUnit? a b c d).map fun n => ([.unit n 0], rest)
  | 'x' :: a :: b :: rest => (Json.hexUnit? '0' '0' a b).map fun n => ([.unit n 0], rest)
  | '\r' :: '\n' :: rest => some ([], rest)
  | c :: rest =>
    if c = 'u' ∨ c = 'x' ∨ c.isDigit ∧ (c ≠ '0' ∨ (rest.head?.any Char.isDigit)) then none
    else if isLineEnd c then some ([], rest)
    else some ([.plain (unescaped c)], rest)

/-- The text of the value before a closing brace, and the text after the brace. -/
def readSlot (l : List Char) : Option (List Char × List Char) :=
  match readScalar l with
  | some (v, '\x7d' :: rest) => some (v.text, rest)
  | _ => none

/-! ### What is taken from the text -/

/-- A character with which nothing starts in a template literal, and which does not end it. -/
def IsInert (c : Char) : Prop := c ≠ '\x60' ∧ c ≠ '\\' ∧ c ≠ '$'

/-- Hexadecimal digits are inert. -/
theorem isInert_of_hexValue? {c : Char} {n : Nat} (h : Json.hexValue? c = some n) :
    IsInert c := by
  refine ⟨?_, ?_, ?_⟩ <;> rintro rfl <;> cases h

theorem isInert_of_isAlpha {c : Char} (h : c.isAlpha) : IsInert c := by
  refine ⟨?_, ?_, ?_⟩ <;> rintro rfl <;> exact absurd h (by decide)

/-- The characters that a reader takes from the front of a text: they are inert, or there is
only one. -/
def Takes (l rest : List Char) : Prop :=
  ∃ taken, l = taken ++ rest ∧ taken ≠ [] ∧ ((∀ c ∈ taken, IsInert c) ∨ ∃ c, taken = [c])

/-- What is taken from a text makes it shorter. -/
theorem Takes.length_lt {l rest : List Char} (h : Takes l rest) : rest.length < l.length := by
  obtain ⟨taken, rfl, hne, -⟩ := h
  rw [List.length_append]
  exact Nat.lt_add_of_pos_left (List.length_pos_iff.2 hne)

/-- The four digits of a code unit are inert. -/
theorem isInert_of_hexUnit? {a b c d : Char} {n : Nat} (h : Json.hexUnit? a b c d = some n) :
    ∀ x ∈ [a, b, c, d], IsInert x := by
  obtain ⟨_, ha, h⟩ := Option.bind_eq_some_iff.1 h
  obtain ⟨_, hb, h⟩ := Option.bind_eq_some_iff.1 h
  obtain ⟨_, hc, h⟩ := Option.bind_eq_some_iff.1 h
  obtain ⟨_, hd, h⟩ := Option.bind_eq_some_iff.1 h
  simp only [List.forall_mem_cons, List.not_mem_nil, false_imp_iff, implies_true, and_true]
  exact ⟨isInert_of_hexValue? ha, isInert_of_hexValue? hb, isInert_of_hexValue? hc,
    isInert_of_hexValue? hd⟩

/-- A code point in braces takes inert characters. -/
theorem exists_of_readCodePoint {value : Option Nat} {l rest : List Char} {p : Piece}
    (h : readCodePoint value l = some (p, rest)) :
    ∃ taken, l = taken ++ rest ∧ ∀ c ∈ taken, IsInert c := by
  induction l generalizing value with
  | nil => cases h
  | cons c l ih =>
    unfold readCodePoint at h
    split at h
    · cases ‹_›
    · next hcons =>
      obtain ⟨rfl, rfl⟩ := List.cons.inj hcons
      obtain ⟨n, -, ⟨⟩⟩ := Option.map_eq_some_iff.1 h
      exact ⟨['\x7d'], rfl, by simp [IsInert]⟩
    · next c' l' _ hcons =>
      obtain ⟨rfl, rfl⟩ := List.cons.inj hcons
      obtain ⟨digit, hdigit, h⟩ := Option.bind_eq_some_iff.1 h
      dsimp only at h
      split at h
      · cases h
      · obtain ⟨taken, rfl, htaken⟩ := ih h
        exact ⟨c :: taken, rfl, List.forall_mem_cons.2 ⟨isInert_of_hexValue? hdigit, htaken⟩⟩

/-- **An escape takes** inert characters, or only one character, and stands for at most one. -/
theorem takes_of_readEscape {l rest : List Char} {ps : List Piece}
    (h : readEscape l = some (ps, rest)) : Takes l rest ∧ ps.length ≤ 1 := by
  have hinert : ∀ c ∈ ['u', 'x', '\x7b', '\r', '\n'], IsInert c := by simp [IsInert]
  unfold readEscape at h
  split at h
  · cases h
  · obtain ⟨⟨p, _⟩, hp, ⟨⟩⟩ := Option.map_eq_some_iff.1 h
    obtain ⟨taken, rfl, htaken⟩ := exists_of_readCodePoint hp
    refine ⟨⟨'u' :: '\x7b' :: taken, rfl, by simp, .inl ?_⟩, Nat.le_refl 1⟩
    simp only [List.forall_mem_cons]
    exact ⟨hinert _ (by simp), hinert _ (by simp), htaken⟩
  · next a b c d rest' _ =>
    obtain ⟨n, hn, ⟨⟩⟩ := Option.map_eq_some_iff.1 h
    refine ⟨⟨['u', a, b, c, d], rfl, by simp, .inl ?_⟩, Nat.le_refl 1⟩
    exact List.forall_mem_cons.2 ⟨hinert _ (by simp), isInert_of_hexUnit? hn⟩
  · next a b rest' =>
    obtain ⟨n, hn, ⟨⟩⟩ := Option.map_eq_some_iff.1 h
    have hdigits := isInert_of_hexUnit? hn
    refine ⟨⟨['x', a, b], rfl, by simp, .inl ?_⟩, Nat.le_refl 1⟩
    simp only [List.forall_mem_cons] at hdigits ⊢
    exact ⟨hinert _ (by simp), hdigits.2.2⟩
  · cases h
    refine ⟨⟨['\r', '\n'], rfl, by simp, .inl fun c hc => hinert c ?_⟩, Nat.zero_le 1⟩
    exact List.mem_of_mem_drop (i := 3) hc
  · next c rest' _ _ _ _ =>
    split at h
    · cases h
    · split at h
      · cases h
        exact ⟨⟨[c], rfl, by simp, .inr ⟨c, rfl⟩⟩, Nat.zero_le 1⟩
      · cases h
        exact ⟨⟨[c], rfl, by simp, .inr ⟨c, rfl⟩⟩, Nat.le_refl 1⟩

/-- A slot is read exactly of a value and a closing brace, as the text of the value. -/
theorem readSlot_eq_some_iff {l text rest : List Char} :
    readSlot l = some (text, rest) ↔
      ∃ v : Scalar, readScalar l = some (v, '\x7d' :: rest) ∧ v.text = text := by
  unfold readSlot
  split
  · next v rest' h => simp [h, and_comm]
  · next h =>
    constructor
    · rintro ⟨⟩
    · rintro ⟨v, hv, -⟩
      exact absurd hv (h v rest)

/-- A slot takes something of the text. -/
theorem readSlot_shortens {l text rest : List Char} (h : readSlot l = some (text, rest)) :
    rest.length < l.length := by
  obtain ⟨v, hv, -⟩ := readSlot_eq_some_iff.1 h
  exact Nat.lt_of_succ_lt (readScalar_shortens hv)

/-- The pieces of a template literal, read after its opening backtick. The closing one ends the
code. -/
def cook : List Char → Option (List Piece)
  | [] => none
  | ['\x60'] => some []
  | '\x60' :: _ :: _ => none
  | '\\' :: rest =>
    match h : readEscape rest with
    | some (ps, rest') =>
      have := (takes_of_readEscape h).1.length_lt
      (cook rest').map (ps ++ ·)
    | none => none
  | '$' :: '\x7b' :: rest =>
    match h : readSlot rest with
    | some (text, rest') =>
      have := readSlot_shortens h
      (cook rest').map (text.map .plain ++ ·)
    | none => none
  | '\r' :: '\n' :: rest => (cook rest).map (.plain '\n' :: ·)
  | '\r' :: rest => (cook rest).map (.plain '\n' :: ·)
  | c :: rest => (cook rest).map (.plain c :: ·)
termination_by l => l.length

/-- A backslash starts an escape. -/
theorem cook_escape (l : List Char) :
    cook ('\\' :: l) = (readEscape l).bind fun found => (cook found.2).map (found.1 ++ ·) := by
  rw [cook]
  split <;> simp only [*, Option.bind_some, Option.bind_none]

/-- A dollar sign and a brace start a substitution. -/
theorem cook_slot (l : List Char) :
    cook ('$' :: '\x7b' :: l) =
      (readSlot l).bind fun found => (cook found.2).map (found.1.map .plain ++ ·) := by
  rw [cook]
  split <;> simp only [*, Option.bind_some, Option.bind_none]

/-- A carriage return stands for a line feed, with the line feed behind it if there is one. -/
theorem exists_cook_return (l : List Char) :
    ∃ rest, (l = rest ∨ l = '\n' :: rest) ∧
      cook ('\r' :: l) = (cook rest).map (.plain '\n' :: ·) := by
  by_cases h : ∃ rest, l = '\n' :: rest
  · obtain ⟨rest, rfl⟩ := h
    exact ⟨rest, .inr rfl, by rw [cook]⟩
  · exact ⟨l, .inl rfl, by rw [cook]; exact fun rest hrest => h ⟨rest, hrest⟩⟩

/-- Nothing may stand behind the closing backtick. -/
theorem cook_backtick {l : List Char} (h : l ≠ []) : cook ('\x60' :: l) = none := by
  obtain ⟨c, l, rfl⟩ := List.exists_cons_of_ne_nil h
  rw [cook]

/-- A character that means nothing but itself stands for itself. -/
theorem cook_cons {c : Char} {l : List Char} (hbacktick : c ≠ '\x60') (hslash : c ≠ '\\')
    (hreturn : c ≠ '\r') (hdollar : c = '$' → l.head? ≠ some '\x7b') :
    cook (c :: l) = (cook l).map (.plain c :: ·) := by
  rw [cook.eq_def]
  split
  · cases ‹_›
  · next h => exact absurd (List.cons.inj h).1 hbacktick
  · next h => exact absurd (List.cons.inj h).1 hbacktick
  · next h => exact absurd (List.cons.inj h).1 hslash
  · next h =>
    obtain ⟨rfl, rfl⟩ := List.cons.inj h
    exact absurd rfl (hdollar rfl)
  · next h => exact absurd (List.cons.inj h).1 hreturn
  · next h => exact absurd (List.cons.inj h).1 hreturn
  · next h =>
    obtain ⟨rfl, rfl⟩ := List.cons.inj h
    rfl

/-- An inert character that is no carriage return stands for itself. -/
theorem cook_cons_of_isInert {c : Char} (h : IsInert c) (hreturn : c ≠ '\r') (l : List Char) :
    cook (c :: l) = (cook l).map (.plain c :: ·) :=
  cook_cons h.1 h.2.1 hreturn fun hdollar => absurd hdollar h.2.2

/-! ## Code -/

/-- The value of code in one of the four forms. -/
def evaluate : List Char → Option Json
  | '(' :: rest => do
    let (v, rest) ← readScalar rest
    let (a, rest) ← readScalar (← ") === ".toList.isPrefixOf? rest)
    let (b, rest) ← readScalar (← " ? ".toList.isPrefixOf? rest)
    let (c, rest) ← readScalar (← " : ".toList.isPrefixOf? rest)
    if rest.isEmpty then some (if v = a then b else c).toJson else none
  | '\x60' :: rest => do
    let text ← (Json.assemble none (← cook rest)).toOption
    some (.string (String.ofList text))
  | '!' :: '(' :: rest =>
    match readScalar rest with
    | some (v, [')']) => some (.bool !v.isTruthy)
    | _ => none
  | '\x7b' :: ' ' :: rest =>
    match readScalar rest with
    | some (.string key, ':' :: ' ' :: rest) =>
      match readScalar rest with
      | some (v, [' ', '\x7d']) => some (.object [(key, v.toJson)])
      | _ => none
    | _ => none
  | _ => none

/-! ## The value of each form -/

theorem isPrefixOf?_append (p l : List Char) : p.isPrefixOf? (p ++ l) = some l :=
  List.isPrefixOf?_eq_some_iff_append_eq.2 rfl

/-- **A choice** has the value of the branch that the comparison selects. -/
theorem evaluate_choice (v a b c : Scalar) :
    evaluate ('(' :: (v.source ++ (") === ".toList ++ (a.source ++ (" ? ".toList ++
      (b.source ++ (" : ".toList ++ c.source))))))) = some (if v = a then b else c).toJson := by
  have hc : readScalar c.source = some (c, []) := by
    rw [← readScalar_source c [], List.append_nil]
  simp only [evaluate, Option.bind_eq_bind, readScalar_source, Option.bind_some,
    isPrefixOf?_append, hc, List.isEmpty_nil, if_true]

/-- **A negation** tells whether the value is falsy. -/
theorem evaluate_negation (v : Scalar) :
    evaluate ('!' :: '(' :: (v.source ++ [')'])) = some (.bool !v.isTruthy) := by
  simp only [evaluate, readScalar_source]

/-- **An object** has the value under its key. -/
theorem evaluate_object (key : String) (v : Scalar) :
    evaluate ('\x7b' :: ' ' :: ((Scalar.string key).source ++ (':' :: ' ' ::
      (v.source ++ [' ', '\x7d'])))) = some (.object [(key, v.toJson)]) := by
  simp only [evaluate, readScalar_source]

/-- A template literal has the text that its pieces make. -/
theorem evaluate_template_eq_some_iff {l text : List Char} :
    evaluate ('\x60' :: l) = some (.string (String.ofList text)) ↔
      ∃ ps, cook l = some ps ∧ Json.assemble none ps = .ok text := by
  simp only [evaluate, Option.bind_eq_bind, Option.bind_eq_some_iff, Option.some.injEq,
    Json.string.injEq, String.ofList_inj, toOption_eq_some_iff, exists_eq_right]

end Script
end Pagewright
