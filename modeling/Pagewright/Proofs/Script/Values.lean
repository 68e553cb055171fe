/-
# JSON values in source text

Source text may hold any JSON value in the compact layout. `readValue` reads the value in front of
a text:

| in front | value |
| --- | --- |
| `null`, `true`, `false`, a string | read as in the four forms of code |
| a numeral of the JSON grammar | an integer, or the float nearest to it |
| brackets | the values between the commas |
| braces | the fields between the commas, in their order |

A numeral ends where no character of a numeral follows (`readNumeral_source`). So a value in the
compact layout is read back in front of any such text (`readValue_compact`).
-/

import Pagewright.Proofs.Json.Numerals
import Pagewright.Proofs.Script.Evaluation

namespace Pagewright
namespace Script

open Json (IsDigits Numeral)

/-! ## Numerals -/

/-- The digits in front of a text, and the text after them. -/
def readDigits (l : List Char) : Option (List Char × List Char) :=
  if (l.takeWhile Char.isDigit).isEmpty then none
  else some (l.takeWhile Char.isDigit, l.dropWhile Char.isDigit)

/-- The fraction of a numeral, if there is one in front of a text. -/
def readFraction : List Char → Option (Option (List Char) × List Char)
  | '.' :: rest => (readDigits rest).map fun found => (some found.1, found.2)
  | l => some (none, l)

/-- The sign of an exponent, and the text after it. -/
def readSign : List Char → Bool × List Char
  | '-' :: rest => (true, rest)
  | '+' :: rest => (false, rest)
  | l => (false, l)

/-- The exponent of a numeral, if there is one in front of a text. -/
def readExponent : List Char → Option (Option (Bool × List Char) × List Char)
  | [] => some (none, [])
  | c :: rest =>
    if c = 'e' ∨ c = 'E' then
      let (sign, rest) := readSign rest
      (readDigits rest).map fun found => (some (sign, found.1), found.2)
    else some (none, c :: rest)

/-- A numeral without its sign. -/
def readUnsigned (negative : Bool) (l : List Char) : Option (Numeral × List Char) := do
  let (whole, l) ← readDigits l
  let (fraction, l) ← readFraction l
  let (exponent, l) ← readExponent l
  if whole.head? = some '0' ∧ whole ≠ ['0'] then none
  else some (⟨negative, whole, fraction, exponent⟩, l)

/-- The numeral in front of a text. -/
def readNumeral : List Char → Option (Numeral × List Char)
  | '-' :: rest => readUnsigned true rest
  | l => readUnsigned false l

/-- A text with which no numeral goes on. -/
def EndsNumeral (rest : List Char) : Prop := ∀ c ∈ rest.head?, ¬ Numeral.isNumeralChar c

/-- Digits are read up to what is no digit. -/
theorem readDigits_append {ds rest : List Char} (hds : IsDigits ds)
    (hrest : ∀ c ∈ rest.head?, c.isDigit = false) : readDigits (ds ++ rest) = some (ds, rest) := by
  obtain ⟨htake, hdrop⟩ := Text.takeWhile_append_stop hds.2 hrest
  rw [readDigits, htake, hdrop, if_neg (by simpa using hds.1)]

variable {rest : List Char}

/-- What ends a numeral does not begin with a digit. -/
theorem EndsNumeral.not_isDigit (h : EndsNumeral rest) : ∀ c ∈ rest.head?, c.isDigit = false := by
  intro c hc
  rw [Bool.eq_false_iff]
  exact fun hdigit => h c hc (Numeral.isNumeralChar_of_isDigit hdigit)

/-- Where a text ends a numeral, so does it with an exponent in front end the digits before. -/
theorem head?_exponentSource (hrest : EndsNumeral rest) (exponent : Option (Bool × List Char)) :
    ∀ c ∈ (Numeral.exponentSource exponent ++ rest).head?, c.isDigit = false ∧ c ≠ '.' := by
  cases exponent with
  | some e =>
    rintro c ⟨⟩
    decide
  | none =>
    intro c hc
    refine ⟨hrest.not_isDigit c hc, ?_⟩
    rintro rfl
    exact hrest _ hc (by decide)

/-- Behind whole digits comes no further digit. -/
theorem head?_fractionSource (hrest : ∀ c ∈ rest.head?, c.isDigit = false ∧ c ≠ '.')
    (fraction : Option (List Char)) :
    ∀ c ∈ (Numeral.fractionSource fraction ++ rest).head?, c.isDigit = false := by
  cases fraction with
  | some ds =>
    rintro c ⟨⟩
    decide
  | none => exact fun c hc => (hrest c hc).1

/-- A fraction is read back, with what stands behind it left. -/
theorem readFraction_source {fraction : Option (List Char)}
    (h : ∀ ds, fraction = some ds → IsDigits ds)
    (hrest : ∀ c ∈ rest.head?, c.isDigit = false ∧ c ≠ '.') :
    readFraction (Numeral.fractionSource fraction ++ rest) = some (fraction, rest) := by
  cases fraction with
  | some ds =>
    have hdigits := readDigits_append (h ds rfl) fun c hc => (hrest c hc).1
    rw [Numeral.fractionSource, List.cons_append, readFraction, hdigits]
    rfl
  | none =>
    rw [Numeral.fractionSource, List.nil_append, readFraction.eq_def]
    split
    · exact absurd rfl (hrest '.' rfl).2
    · rfl

/-- An exponent is read back, with what stands behind it left. -/
theorem readExponent_source {exponent : Option (Bool × List Char)}
    (h : ∀ sign ds, exponent = some (sign, ds) → IsDigits ds) (hrest : EndsNumeral rest) :
    readExponent (Numeral.exponentSource exponent ++ rest) = some (exponent, rest) := by
  cases exponent with
  | some e =>
    obtain ⟨sign, ds⟩ := e
    have hsign : readSign ((if sign then '-' else '+') :: (ds ++ rest)) = (sign, ds ++ rest) := by
      cases sign <;> rfl
    rw [Numeral.exponentSource, List.cons_append, List.cons_append, readExponent,
      if_pos (.inl rfl), hsign]
    dsimp only
    rw [readDigits_append (h sign ds rfl) hrest.not_isDigit]
    rfl
  | none =>
    rw [Numeral.exponentSource, List.nil_append]
    cases rest with
    | nil => rfl
    | cons c rest =>
      refine if_neg fun hletter => hrest c rfl ?_
      rcases hletter with rfl | rfl <;> decide

/-- **A numeral is read back** behind its sign. -/
theorem readUnsigned_source {x : Numeral} (hx : x.WellFormed) (hrest : EndsNumeral rest) :
    readUnsigned x.negative (x.whole ++ (Numeral.fractionSource x.fraction ++
      (Numeral.exponentSource x.exponent ++ rest))) = some (x, rest) := by
  have hexponent := head?_exponentSource hrest x.exponent
  have hleading : ¬ (x.whole.head? = some '0' ∧ x.whole ≠ ['0']) := fun h => h.2 (hx.leading h.1)
  rw [readUnsigned, readDigits_append hx.whole (head?_fractionSource hexponent x.fraction)]
  simp only [Option.bind_eq_bind, Option.bind_some, readFraction_source hx.fraction hexponent,
    readExponent_source hx.exponent hrest, if_neg hleading]

/-- **A numeral is read back** in front of a text with which it does not go on. -/
theorem readNumeral_source {x : Numeral} (hx : x.WellFormed) (hrest : EndsNumeral rest) :
    readNumeral (x.source ++ rest) = some (x, rest) := by
  have hread := readUnsigned_source hx hrest
  rw [Numeral.source, List.append_assoc, List.append_assoc, List.append_assoc]
  cases hsign : x.negative with
  | true =>
    rw [hsign] at hread
    exact hread
  | false =>
    rw [hsign] at hread
    obtain ⟨d, ds, hds⟩ := List.exists_cons_of_ne_nil hx.whole.1
    have hd : d ≠ '-' := by
      rintro rfl
      exact absurd (hx.whole.2 '-' (hds ▸ .head _)) (by decide)
    rw [if_neg Bool.false_ne_true, List.nil_append, readNumeral.eq_def]
    split
    · next heq =>
      rw [hds, List.cons_append] at heq
      exact absurd (List.cons.inj heq).1 hd
    · exact hread

/-! ## Values -/

/-- The number in front of a text. -/
def readNumber (l : List Char) : Option (Json × List Char) := do
  let (x, rest) ← readNumeral l
  let n ← x.denoted?
  some (.number n, rest)

/-- The key in front of a text, with its colon. -/
def readKey (l : List Char) : Option (String × List Char) :=
  match readScalar l with
  | some (.string key, ':' :: rest) => some (key, rest)
  | _ => none

mutual

/-- The value in front of a text, and the text after it. The fuel bounds the number of steps. -/
def readValue : Nat → List Char → Option (Json × List Char)
  | 0, _ => none
  | _ + 1, '[' :: ']' :: rest => some (.array [], rest)
  | _ + 1, '\x7b' :: '\x7d' :: rest => some (.object [], rest)
  | fuel + 1, '[' :: rest => (readItems fuel rest).map fun found => (.array found.1, found.2)
  | fuel + 1, '\x7b' :: rest => (readFields fuel rest).map fun found => (.object found.1, found.2)
  | _ + 1, l =>
    match readScalar l with
    | some (v, rest) => some (v.toJson, rest)
    | none => readNumber l

/-- The items up to a closing bracket, at least one. -/
def readItems : Nat → List Char → Option (List Json × List Char)
  | 0, _ => none
  | fuel + 1, l =>
    match readValue fuel l with
    | some (v, ']' :: rest) => some ([v], rest)
    | some (v, ',' :: rest) => (readItems fuel rest).map fun found => (v :: found.1, found.2)
    | _ => none

/-- The fields up to a closing brace, at least one. -/
def readFields : Nat → List Char → Option (List (String × Json) × List Char)
  | 0, _ => none
  | fuel + 1, l => do
    let (key, l) ← readKey l
    match readValue fuel l with
    | some (v, '\x7d' :: rest) => some ([(key, v)], rest)
    | some (v, ',' :: rest) =>
      (readFields fuel rest).map fun found => ((key, v) :: found.1, found.2)
    | _ => none

end

/-! ## Values in the compact layout -/

/-- A character that cannot stand in a numeral ends it. -/
theorem endsNumeral_cons {c : Char} (h : Numeral.isNumeralChar c = false) (rest : List Char) :
    EndsNumeral (c :: rest) := by
  rintro _ ⟨⟩
  exact Bool.eq_false_iff.1 h

/-- What does not begin with a bracket or a brace is a scalar or a number. -/
theorem readValue_of_head {l : List Char} (hbracket : l.head? ≠ some '[')
    (hbrace : l.head? ≠ some '\x7b') (fuel : ℕ) :
    readValue (fuel + 1) l =
      match readScalar l with
      | some (v, rest) => some (v.toJson, rest)
      | none => readNumber l := by
  rw [readValue.eq_def]
  split
  · next heq => cases heq
  · exact absurd rfl hbracket
  · exact absurd rfl hbrace
  · exact absurd rfl hbracket
  · exact absurd rfl hbrace
  · next heq _ _ _ _ =>
    cases heq
    rfl

/-- An array with items is read as these. -/
theorem readValue_brackets {l : List Char} (h : l.head? ≠ some ']') (fuel : ℕ) :
    readValue (fuel + 1) ('[' :: l) =
      (readItems fuel l).map fun found => (.array found.1, found.2) := by
  rw [readValue]
  rintro rest rfl
  exact h rfl

/-- An object with fields is read as these. -/
theorem readValue_braces {l : List Char} (h : l.head? ≠ some '\x7d') (fuel : ℕ) :
    readValue (fuel + 1) ('\x7b' :: l) =
      (readFields fuel l).map fun found => (.object found.1, found.2) := by
  rw [readValue]
  rintro rest rfl
  exact h rfl

/-- A quoted text begins with its quote. -/
theorem exists_cons_quote (s : String) : ∃ l, (Json.quote s).toList = '"' :: l :=
  ⟨s.toList.flatMap Json.escape ++ ['"'], by rw [Json.quote, String.toList_ofList]; rfl⟩

/-- A number begins with a digit or a sign. -/
theorem exists_cons_toText (n : Number) :
    ∃ c l, n.toText.toList = c :: l ∧ Numeral.isNumeralChar c := by
  obtain ⟨x, hx, htext, -⟩ := n.exists_numeral
  have hne : n.toText.toList ≠ [] := by
    rw [htext, Numeral.source]
    simp [hx.whole.1]
  obtain ⟨c, l, hl⟩ := List.exists_cons_of_ne_nil hne
  have hmem : c ∈ n.toText.toList := hl ▸ List.mem_cons_self
  exact ⟨c, l, hl, Number.isNumeralChar_of_mem_toText hmem⟩

/-- **The first character of a value.** -/
theorem exists_cons_compact (v : Json) : ∃ c l, v.compact.toList = c :: l ∧
    (c ∈ ['n', 't', 'f', '"', '[', '\x7b'] ∨ Numeral.isNumeralChar c) := by
  cases v with
  | null => exact ⟨'n', _, rfl, by decide⟩
  | bool b => cases b <;> exact ⟨_, _, rfl, by decide⟩
  | number n =>
    obtain ⟨c, l, hl, hc⟩ := exists_cons_toText n
    exact ⟨c, l, hl, .inr hc⟩
  | string s =>
    obtain ⟨l, hl⟩ := exists_cons_quote s
    exact ⟨_, l, hl, by decide⟩
  | array items => exact ⟨'[', _, by simp only [Json.compact, String.toList_append]; rfl, by decide⟩
  | object fields =>
    exact ⟨'\x7b', _, by simp only [Json.compact, String.toList_append]; rfl, by decide⟩

/-- Null, a boolean and a string are read back. -/
theorem readValue_scalar (v : Scalar) (fuel : ℕ) (rest : List Char) :
    readValue (fuel + 1) (v.source ++ rest) = some (v.toJson, rest) := by
  have hhead : (v.source ++ rest).head? ≠ some '[' ∧ (v.source ++ rest).head? ≠ some '\x7b' := by
    cases v with
    | null => simp [Scalar.source, Scalar.toJson, Json.compact]
    | bool b => cases b <;> simp [Scalar.source, Scalar.toJson, Json.compact]
    | string s =>
      obtain ⟨l, hl⟩ := exists_cons_quote s
      rw [Scalar.source, Scalar.toJson, Json.compact, hl]
      simp
  rw [readValue_of_head hhead.1 hhead.2, readScalar_source]

/-- **A number is read back** in front of a text that ends a numeral. -/
theorem readValue_number (n : Number) (fuel : ℕ) {rest : List Char} (hrest : EndsNumeral rest) :
    readValue (fuel + 1) (n.toText.toList ++ rest) = some (.number n, rest) := by
  obtain ⟨x, hx, htext, hdenoted⟩ := n.exists_numeral
  obtain ⟨c, l, hl, hc⟩ := exists_cons_toText n
  have hne {d : Char} (hd : Numeral.isNumeralChar d = false) :
      (n.toText.toList ++ rest).head? ≠ some d := by
    rw [hl, List.cons_append, List.head?_cons]
    rintro ⟨⟩
    exact absurd hc (Bool.eq_false_iff.1 hd)
  have hscalar : readScalar (n.toText.toList ++ rest) = none := by
    rw [readScalar.eq_def]
    split
    · next heq => exact absurd (congrArg List.head? heq) (hne (by decide))
    · next heq => exact absurd (congrArg List.head? heq) (hne (by decide))
    · next heq => exact absurd (congrArg List.head? heq) (hne (by decide))
    · next heq => exact absurd (congrArg List.head? heq) (hne (by decide))
    · rfl
  rw [readValue_of_head (hne (by decide)) (hne (by decide)), hscalar, htext]
  simp only [readNumber, readNumeral_source hx hrest, hdenoted, Option.bind_eq_bind,
    Option.bind_some]

/-- No value begins with a closing bracket. -/
theorem head?_compact_ne (v : Json) (l : List Char) :
    (v.compact.toList ++ l).head? ≠ some ']' := by
  obtain ⟨c, l', hl, hc⟩ := exists_cons_compact v
  rw [hl, List.cons_append, List.head?_cons]
  rintro ⟨⟩
  exact absurd hc (by decide)

/-- A key is read back with its colon. -/
theorem readKey_quote (key : String) (rest : List Char) :
    readKey ((Json.quote key).toList ++ ':' :: rest) = some (key, rest) := by
  have hread : readScalar ((Json.quote key).toList ++ ':' :: rest) =
      some (.string key, ':' :: rest) := readScalar_source (.string key) (':' :: rest)
  simp only [readKey, hread]

/-- Every value has a text. -/
theorem length_compact_pos (v : Json) : 0 < v.compact.toList.length := by
  obtain ⟨c, l, hl, -⟩ := exists_cons_compact v
  rw [hl]
  exact Nat.succ_pos _

/-- An array is its items between brackets. -/
theorem toList_compact_array (items : List Json) (rest : List Char) :
    (Json.array items).compact.toList ++ rest =
      '[' :: ((Text.join "," (Json.compactItems items)).toList ++ ']' :: rest) := by
  simp [Json.compact]

/-- An object is its fields between braces. -/
theorem toList_compact_object (fields : List (String × Json)) (rest : List Char) :
    (Json.object fields).compact.toList ++ rest =
      '\x7b' :: ((Text.join "," (Json.compactFields fields)).toList ++ '\x7d' :: rest) := by
  simp [Json.compact]

/-- A comma stands between an item and the next. -/
theorem toList_compactItems_cons (x : Json) {xs : List Json} (h : xs ≠ []) :
    (Text.join "," (Json.compactItems (x :: xs))).toList =
      x.compact.toList ++ ',' :: (Text.join "," (Json.compactItems xs)).toList := by
  obtain ⟨y, ys, rfl⟩ := List.exists_cons_of_ne_nil h
  rw [Json.compactItems, Text.toList_join_cons _ _ (by simp [Json.compactItems])]
  rfl

/-- The text of a field. -/
theorem toList_compactField (k : String) (v : Json) :
    (Json.quote k ++ ":" ++ v.compact).toList =
      (Json.quote k).toList ++ ':' :: v.compact.toList := by
  simp

/-- A comma stands between a field and the next. -/
theorem toList_compactFields_cons (k : String) (v : Json) {fields : List (String × Json)}
    (h : fields ≠ []) :
    (Text.join "," (Json.compactFields ((k, v) :: fields))).toList =
      (Json.quote k).toList ++ ':' ::
        (v.compact.toList ++ ',' :: (Text.join "," (Json.compactFields fields)).toList) := by
  obtain ⟨⟨k', w⟩, fields, rfl⟩ := List.exists_cons_of_ne_nil h
  rw [Json.compactFields, Text.toList_join_cons _ _ (by simp [Json.compactFields]),
    toList_compactField, List.append_assoc, List.cons_append]
  rfl

/-- Items begin as the first of them does. -/
theorem head?_compactItems_ne {items : List Json} (h : items ≠ []) (l : List Char) :
    ((Text.join "," (Json.compactItems items)).toList ++ l).head? ≠ some ']' := by
  obtain ⟨x, xs, rfl⟩ := List.exists_cons_of_ne_nil h
  by_cases hne : xs = []
  · rw [hne]
    exact head?_compact_ne x l
  · rw [toList_compactItems_cons x hne, List.append_assoc]
    exact head?_compact_ne x _

/-- Fields begin with the quote of a key. -/
theorem head?_compactFields_ne {fields : List (String × Json)} (h : fields ≠ []) (l : List Char) :
    ((Text.join "," (Json.compactFields fields)).toList ++ l).head? ≠ some '\x7d' := by
  obtain ⟨⟨k, v⟩, fields, rfl⟩ := List.exists_cons_of_ne_nil h
  obtain ⟨q, hq⟩ := exists_cons_quote k
  by_cases hne : fields = []
  · simp [hne, Json.compactFields, Text.join, hq]
  · simp [toList_compactFields_cons k v hne, hq]

mutual

/-- **A value in the compact layout is read back** in front of a text that ends a numeral. -/
theorem readValue_compact : ∀ (v : Json) {fuel : ℕ} {rest : List Char},
    v.compact.toList.length ≤ fuel + 1 → EndsNumeral rest →
      readValue (fuel + 1) (v.compact.toList ++ rest) = some (v, rest)
  | .null => fun _ _ => readValue_scalar .null _ _
  | .bool b => fun _ _ => readValue_scalar (.bool b) _ _
  | .number n => fun _ hrest => readValue_number n _ hrest
  | .string s => fun _ _ => readValue_scalar (.string s) _ _
  | .array items => fun hfuel _ => by
    by_cases hne : items = []
    · rw [hne]
      rfl
    · have hlength := congrArg List.length (toList_compact_array items [])
      simp only [List.append_nil, List.length_cons, List.length_append, List.length_nil] at hlength
      rw [toList_compact_array, readValue_brackets (head?_compactItems_ne hne _),
        readItems_compact items hne (by omega)]
      rfl
  | .object fields => fun hfuel _ => by
    by_cases hne : fields = []
    · rw [hne]
      rfl
    · have hlength := congrArg List.length (toList_compact_object fields [])
      simp only [List.append_nil, List.length_cons, List.length_append, List.length_nil] at hlength
      rw [toList_compact_object, readValue_braces (head?_compactFields_ne hne _),
        readFields_compact fields hne (by omega)]
      rfl

/-- **Items are read back** up to the closing bracket. -/
theorem readItems_compact : ∀ (items : List Json) {fuel : ℕ} {rest : List Char}, items ≠ [] →
    (Text.join "," (Json.compactItems items)).toList.length < fuel →
      readItems fuel ((Text.join "," (Json.compactItems items)).toList ++ ']' :: rest) =
        some (items, rest)
  | [], _, _, hne, _ => absurd rfl hne
  | x :: xs, fuel, rest, _, hfuel => by
    have hpos := length_compact_pos x
    by_cases hne : xs = []
    · subst hne
      have htext : (Text.join "," (Json.compactItems [x])).toList = x.compact.toList := by
        simp only [Json.compactItems, Text.join]
      rw [htext] at hfuel ⊢
      obtain ⟨fuel, rfl⟩ : ∃ n, fuel = n + 2 := ⟨fuel - 2, by omega⟩
      have hx := @readValue_compact x fuel (']' :: rest) (by omega)
        (endsNumeral_cons (by decide) _)
      simp only [readItems, hx]
    · rw [toList_compactItems_cons x hne, List.length_append, List.length_cons] at hfuel
      obtain ⟨fuel, rfl⟩ : ∃ n, fuel = n + 2 := ⟨fuel - 2, by omega⟩
      have hxs := @readItems_compact xs (fuel + 1) rest hne (by omega)
      have hx := @readValue_compact x fuel
        (',' :: ((Text.join "," (Json.compactItems xs)).toList ++ ']' :: rest)) (by omega)
        (endsNumeral_cons (by decide) _)
      rw [toList_compactItems_cons x hne, List.append_assoc, List.cons_append]
      rw [readItems, hx]
      exact congrArg (Option.map _) hxs

/-- **Fields are read back** up to the closing brace. -/
theorem readFields_compact : ∀ (fields : List (String × Json)) {fuel : ℕ} {rest : List Char},
    fields ≠ [] → (Text.join "," (Json.compactFields fields)).toList.length < fuel →
      readFields fuel ((Text.join "," (Json.compactFields fields)).toList ++ '\x7d' :: rest) =
        some (fields, rest)
  | [], _, _, hne, _ => absurd rfl hne
  | (k, v) :: fields, fuel, rest, _, hfuel => by
    have hpos := length_compact_pos v
    by_cases hne : fields = []
    · subst hne
      have htext : (Text.join "," (Json.compactFields [(k, v)])).toList =
          (Json.quote k).toList ++ ':' :: v.compact.toList := by
        simp only [Json.compactFields, Text.join, toList_compactField]
      rw [htext, List.length_append, List.length_cons] at hfuel
      obtain ⟨fuel, rfl⟩ : ∃ n, fuel = n + 2 := ⟨fuel - 2, by omega⟩
      have hx := @readValue_compact v fuel ('\x7d' :: rest) (by omega)
        (endsNumeral_cons (by decide) _)
      rw [htext, List.append_assoc, List.cons_append]
      simp only [readFields, readKey_quote, hx, Option.bind_eq_bind, Option.bind_some]
    · rw [toList_compactFields_cons k v hne] at hfuel
      simp only [List.length_append, List.length_cons] at hfuel
      obtain ⟨fuel, rfl⟩ : ∃ n, fuel = n + 2 := ⟨fuel - 2, by omega⟩
      have hfields := @readFields_compact fields (fuel + 1) rest hne (by omega)
      have hx := @readValue_compact v fuel
        (',' :: ((Text.join "," (Json.compactFields fields)).toList ++ '\x7d' :: rest)) (by omega)
        (endsNumeral_cons (by decide) _)
      rw [toList_compactFields_cons k v hne, List.append_assoc, List.cons_append, List.append_assoc,
        List.cons_append]
      rw [readFields, readKey_quote, Option.bind_eq_bind, Option.bind_some]
      dsimp only
      rw [hx]
      exact congrArg (Option.map _) hfields

end

/-- The value that a text spells in the compact layout, nothing in front of it or behind it. -/
def readWhole (l : List Char) : Option Json :=
  match readValue l.length l with
  | some (v, []) => some v
  | _ => none

/-- **A value is read back** with as many steps as the text has characters. -/
theorem readValue_append (v : Json) {rest : List Char} (hrest : EndsNumeral rest) :
    readValue (v.compact.toList ++ rest).length (v.compact.toList ++ rest) = some (v, rest) := by
  have hpos := length_compact_pos v
  rw [List.length_append]
  obtain ⟨fuel, hfuel⟩ : ∃ n, v.compact.toList.length + rest.length = n + 1 :=
    ⟨v.compact.toList.length + rest.length - 1, by omega⟩
  rw [hfuel]
  exact readValue_compact v (by omega) hrest

/-- **A value in the compact layout** is read back. -/
theorem readWhole_compact (v : Json) : readWhole v.compact.toList = some v := by
  have hread := readValue_append v (show EndsNumeral [] from fun c hc => by cases hc)
  rw [List.append_nil] at hread
  rw [readWhole, hread]

end Script
end Pagewright
