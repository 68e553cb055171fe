/-
# Import declarations, as they are read

A declaration imports a default name, named ones, both or none from a module. Named ones
stand in braces, with commas between them; the module is a string literal. Between tokens
there may be white space and line ends; comments are not read.

A string literal is read up to its closing quote: a character stands for itself, an escape
for what it stands for in a template literal, and a line feed or a carriage return may
not stand in it. A text between quotes that have not been escaped is therefore read as
itself exactly if it has none of these (`readModule_quoted_eq_some_iff`):

| character | what becomes of it |
| --- | --- |
| a quote | it closes the literal |
| a backslash | it starts an escape, which makes the text shorter |
| a line feed, a carriage return | the literal cannot be read |

The statements of generated code are declarations up to their module: where the names are
identifiers, a statement is read as what it was made from exactly if its module is plain
(`readImport_statement_eq_some_iff`).
-/

import Pagewright.Manifest.Name
import Pagewright.Proofs.Imports.Symbols
import Pagewright.Proofs.Script.Evaluation
import Pagewright.Proofs.Text.Names

namespace Pagewright
namespace Script

open Json (Piece)
open Source (Import)
open Source.Jsx (isIdentifierPart)

/-! ## String literals -/

/-- The pieces of a string literal, read after its opening quote, and the text after its
closing one. -/
def readString : List Char → Option (List Piece × List Char)
  | [] => none
  | '"' :: rest => some ([], rest)
  | '\\' :: rest =>
    match h : readEscape rest with
    | some (ps, rest') =>
      have := (takes_of_readEscape h).1.length_lt
      (readString rest').map fun found => (ps ++ found.1, found.2)
    | none => none
  | c :: rest =>
    if c = '\n' ∨ c = '\r' then none
    else (readString rest).map fun found => (.plain c :: found.1, found.2)
termination_by l => l.length

/-- A character that stands for itself in a string literal. -/
def IsPlainChar (c : Char) : Prop := c ≠ '"' ∧ c ≠ '\\' ∧ c ≠ '\n' ∧ c ≠ '\r'

instance : DecidablePred IsPlainChar := fun c =>
  inferInstanceAs (Decidable (c ≠ '"' ∧ c ≠ '\\' ∧ c ≠ '\n' ∧ c ≠ '\r'))

/-- A text that stands for itself between quotes. -/
def IsPlain (s : String) : Prop := ∀ c ∈ s.toList, IsPlainChar c

-- The instance is named because the characters are finitely many: a search finds a test of all.
instance : DecidablePred IsPlain := fun s => List.decidableBAll IsPlainChar s.toList

/-- A character of a string stands for itself, unless it ends a line. -/
theorem readString_cons {c : Char} (hquote : c ≠ '"') (hslash : c ≠ '\\') (l : List Char) :
    readString (c :: l) =
      if c = '\n' ∨ c = '\r' then none
      else (readString l).map fun found => (.plain c :: found.1, found.2) := by
  rw [readString.eq_def]
  split
  · cases ‹_›
  · next h => exact absurd (List.cons.inj h).1 hquote
  · next h => exact absurd (List.cons.inj h).1 hslash
  · next h =>
    obtain ⟨rfl, rfl⟩ := List.cons.inj h
    rfl

/-- **Plain text is read as it stands.** -/
theorem readString_plain {l : List Char} (h : ∀ c ∈ l, IsPlainChar c) (rest : List Char) :
    readString (l ++ '"' :: rest) = some (l.map .plain, rest) := by
  induction l with
  | nil => rw [List.nil_append, readString, List.map_nil]
  | cons c l ih =>
    obtain ⟨⟨hquote, hslash, hfeed, hreturn⟩, hl⟩ := List.forall_mem_cons.1 h
    rw [List.cons_append, readString_cons hquote hslash, ih hl, if_neg (by simp [hfeed, hreturn])]
    rfl

/-- What is read of a literal: plain text, or fewer pieces than characters are taken for them
from the text. -/
def ReadAs (l : List Char) (ps : List Piece) (rest : List Char) : Prop :=
  (∃ taken, l = taken ++ '"' :: rest ∧ ps = taken.map .plain ∧ ∀ c ∈ taken, IsPlainChar c) ∨
    ps.length + rest.length + 1 < l.length

/-- A string takes a character for each piece and one for its quote. -/
theorem ReadAs.length_le {l rest : List Char} {ps : List Piece} (h : ReadAs l ps rest) :
    ps.length + rest.length + 1 ≤ l.length := by
  rcases h with ⟨taken, rfl, rfl, -⟩ | h
  · simp only [List.length_map, List.length_append, List.length_cons]
    omega
  · exact Nat.le_of_lt h

/-- A plain character in front is one more piece. -/
theorem ReadAs.cons {l rest : List Char} {ps : List Piece} (h : ReadAs l ps rest) {c : Char}
    (hc : IsPlainChar c) : ReadAs (c :: l) (.plain c :: ps) rest := by
  rcases h with ⟨taken, rfl, rfl, htaken⟩ | h
  · exact .inl ⟨c :: taken, rfl, rfl, List.forall_mem_cons.2 ⟨hc, htaken⟩⟩
  · right
    simp only [List.length_cons]
    omega

/-- An escape takes at least two characters and gives at most one piece. -/
theorem ReadAs.escape {l l' rest : List Char} {ps qs : List Piece} (h : ReadAs l' ps rest)
    (hescape : readEscape l = some (qs, l')) : ReadAs ('\\' :: l) (qs ++ ps) rest := by
  obtain ⟨htakes, hle⟩ := takes_of_readEscape hescape
  have hlt := htakes.length_lt
  have hbound := h.length_le
  right
  simp only [List.length_append, List.length_cons]
  omega

/-- **What is read of a literal** is plain text, or shorter than what it was read from. -/
theorem readAs_of_readString {l rest : List Char} {ps : List Piece}
    (h : readString l = some (ps, rest)) : ReadAs l ps rest := by
  fun_induction readString l generalizing ps
  case case2 =>
    cases h
    exact .inl ⟨[], rfl, rfl, by simp⟩
  case case3 hescape _ ih =>
    obtain ⟨⟨ps', rest'⟩, htail, hfound⟩ := Option.map_eq_some_iff.1 h
    cases hfound
    exact (ih htail).escape hescape
  case case6 hquote hslash hline ih =>
    obtain ⟨⟨ps', rest'⟩, htail, hfound⟩ := Option.map_eq_some_iff.1 h
    cases hfound
    rw [not_or] at hline
    exact (ih htail).cons ⟨hquote, hslash, hline.1, hline.2⟩
  all_goals cases h

/-! ## Tokens -/

/-- Whether a character may stand between tokens: white space or the end of a line. -/
def isGap (c : Char) : Bool := Text.isBlank c && c != '\u0085' || c == '\ufeff'

/-- The text behind the gap in front of it. -/
def skipGap (l : List Char) : List Char := l.dropWhile isGap

/-- The word in front of a text, and the text behind it and the gap that follows. -/
def readWord (l : List Char) : String × List Char :=
  (String.ofList (l.takeWhile isIdentifierPart), skipGap (l.dropWhile isIdentifierPart))

/-- Whether a name may be imported under: it is an identifier and no reserved word. -/
def isBindingName (name : String) : Bool :=
  Source.Jsx.isIdentifier name && !Manifest.isReserved name

/-- The text behind a keyword. -/
def readKeyword (word : String) (l : List Char) : Option (List Char) :=
  if (readWord l).1 = word then some (readWord l).2 else none

/-- The name in front of a text, and the text behind it. -/
def readName (l : List Char) : Option (String × List Char) :=
  if isBindingName (readWord l).1 then some (readWord l) else none

/-- The name that a piece of text is, gaps aside. -/
def readOnly (piece : List Char) : Option String :=
  match readName (skipGap piece) with
  | some (name, []) => some name
  | _ => none

/-- The names before a closing brace, and the text behind the brace. -/
def readNamed (l : List Char) : Option (List String × List Char) := do
  let (inside, rest) ← Text.splitFirst? '\x7d' l
  let names ← (Text.splitWhere (· == ',') inside).mapM readOnly
  some (names, skipGap rest)

/-- The module that a string literal names, with nothing but a semicolon behind it. -/
def readModule : List Char → Option String
  | '"' :: l => do
    let (ps, rest) ← readString l
    match skipGap rest with
    | ';' :: rest =>
      if (skipGap rest).isEmpty then (Json.assemble none ps).toOption.map String.ofList else none
    | _ => none
  | _ => none

/-- What a text starts to import: a default name, named ones in braces, or both with a comma
between them. -/
def readClause : List Char → Option (Option String × List String × List Char)
  | '\x7b' :: l => (readNamed l).map fun found => (none, found)
  | l => do
    let (default, l) ← readName l
    match l with
    | ',' :: l =>
      match skipGap l with
      | '\x7b' :: l => (readNamed l).map fun found => (some default, found)
      | _ => none
    | l => some (some default, [], l)

/-- The import declaration that a text is. -/
def readImport (l : List Char) : Option Import := do
  match ← readKeyword "import" l with
  | '"' :: l => (readModule ('"' :: l)).map .effect
  | l =>
    let (default, named, l) ← readClause l
    let l ← readKeyword "from" l
    (readModule l).map fun module => ⟨module, default, named⟩

/-! ## The module -/

/-- A text between quotes, with a semicolon behind it. -/
def quoted (s : String) : List Char := '"' :: (s.toList ++ ['"', ';'])

/-- A module is read of a string that is not the last thing in the text. -/
theorem readModule_eq_some {l : List Char} {s : String} (h : readModule ('"' :: l) = some s) :
    ∃ ps rest, readString l = some (ps, rest) ∧ rest ≠ [] ∧
      Json.assemble none ps = .ok s.toList := by
  rw [readModule, Option.bind_eq_bind] at h
  obtain ⟨⟨ps, rest⟩, hread, h⟩ := Option.bind_eq_some_iff.1 h
  dsimp only at h
  refine ⟨ps, rest, hread, ?_, ?_⟩
  · rintro rfl
    cases h
  · split at h
    · split at h
      · obtain ⟨text, htext, rfl⟩ := Option.map_eq_some_iff.1 h
        rw [toOption_eq_some_iff] at htext
        rw [htext, String.toList_ofList]
      · cases h
    · cases h

/-- **When quotes are enough:** a text between quotes is read as itself exactly if it is
plain. -/
theorem readModule_quoted_eq_some_iff {s : String} :
    readModule (quoted s) = some s ↔ IsPlain s := by
  constructor
  · intro h
    obtain ⟨ps, rest, hread, hrest, hs⟩ := readModule_eq_some h
    have hle := Json.length_le_of_assemble hs
    have hpos := List.length_pos_iff.2 hrest
    rcases readAs_of_readString hread with ⟨taken, -, rfl, htaken⟩ | hless
    · rw [Json.assemble_map_plain] at hs
      intro c hc
      exact htaken c (Except.ok.inj hs ▸ hc)
    · -- An escape makes the text too short, as a semicolon is left behind the literal.
      simp only [List.length_append, List.length_cons, List.length_nil] at hless
      omega
  · intro h
    have hread : readString (s.toList ++ ['"', ';']) = some (s.toList.map .plain, [';']) :=
      readString_plain h [';']
    rw [quoted, readModule, hread]
    simp only [Option.bind_eq_bind, Option.bind_some, Json.assemble_map_plain]
    change (Except.ok s.toList : Except Nat (List Char)).toOption.map String.ofList = some s
    rw [Except.toOption, Option.map_some, String.ofList_toList]

/-! ## The names -/

/-- A character of an identifier is no gap. -/
theorem not_isGap_of_isIdentifierPart {c : Char} (h : isIdentifierPart c) : isGap c = false := by
  have hlow : ∀ n < 128, isIdentifierPart (Char.ofNat n) → isGap (Char.ofNat n) = false := by
    decide
  have hc : c.toNat < 128 := by
    simp only [isIdentifierPart, Source.Jsx.isIdentifierStart, Naming.isAsciiLetter,
      Bool.or_eq_true, beq_iff_eq, Naming.isAsciiLower_iff_toNat, Naming.isAsciiUpper_iff_toNat,
      Naming.isAsciiDigit_iff_toNat] at h
    rcases h with (((h | h) | rfl) | rfl) | h
    · omega
    · omega
    · decide
    · decide
    · omega
  have hgap := hlow c.toNat hc
  rw [Char.ofNat_toNat] at hgap
  exact hgap h

/-- A name that can be bound is made of characters of identifiers. -/
theorem forall_isIdentifierPart {name : String} (h : isBindingName name) :
    name.toList ≠ [] ∧ ∀ c ∈ name.toList, isIdentifierPart c := by
  rw [isBindingName, Bool.and_eq_true, Source.Jsx.isIdentifier] at h
  cases hname : name.toList with
  | nil => rw [hname] at h; cases h.1
  | cons c rest =>
    rw [hname, Bool.and_eq_true, List.all_eq_true] at h
    refine ⟨by simp, List.forall_mem_cons.2 ⟨?_, h.1.2⟩⟩
    rw [isIdentifierPart, h.1.1, Bool.true_or]

/-- Nothing but such characters stands in the name. -/
theorem not_mem_of_isBindingName {name : String} (h : isBindingName name) {c : Char}
    (hc : isIdentifierPart c = false) : c ∉ name.toList := by
  intro hmem
  rw [(forall_isIdentifierPart h).2 c hmem] at hc
  cases hc

/-- **A word is read** up to what cannot go on with it. -/
theorem readWord_append {word : String} {rest : List Char}
    (hword : ∀ c ∈ word.toList, isIdentifierPart c)
    (hrest : ∀ c ∈ rest.head?, ¬ isIdentifierPart c) :
    readWord (word.toList ++ rest) = (word, skipGap rest) := by
  have htake : rest.takeWhile isIdentifierPart = [] := by
    cases rest with
    | nil => rfl
    | cons c rest => exact List.takeWhile_cons_of_neg (hrest c rfl)
  have hdrop : rest.dropWhile isIdentifierPart = rest := by
    cases rest with
    | nil => rfl
    | cons c rest => exact List.dropWhile_cons_of_neg (hrest c rfl)
  rw [readWord, List.takeWhile_append_of_pos hword, List.dropWhile_append_of_pos hword, htake,
    hdrop, List.append_nil, String.ofList_toList]

/-- **A name is read** up to what cannot belong to it. -/
theorem readName_append {name : String} (h : isBindingName name) {rest : List Char}
    (hrest : ∀ c ∈ rest.head?, ¬ isIdentifierPart c) :
    readName (name.toList ++ rest) = some (name, skipGap rest) := by
  rw [readName, readWord_append (forall_isIdentifierPart h).2 hrest, if_pos h]

/-- No gap stands in front of a word. -/
theorem skipGap_word {word : List Char} (hne : word ≠ []) (h : ∀ c ∈ word, isIdentifierPart c)
    (rest : List Char) : skipGap (word ++ rest) = word ++ rest := by
  obtain ⟨c, l, rfl⟩ := List.exists_cons_of_ne_nil hne
  rw [List.cons_append, skipGap, List.dropWhile_cons_of_neg]
  rw [not_isGap_of_isIdentifierPart (h c (.head _))]
  exact Bool.false_ne_true

/-- Before a name there is no gap left to skip. -/
theorem skipGap_append {name : String} (h : isBindingName name) (rest : List Char) :
    skipGap (name.toList ++ rest) = name.toList ++ rest :=
  skipGap_word (forall_isIdentifierPart h).1 (forall_isIdentifierPart h).2 rest

theorem skipGap_space (l : List Char) : skipGap (' ' :: l) = skipGap l :=
  List.dropWhile_cons_of_pos (by decide)

/-- A name with a blank in front, and perhaps one behind. -/
theorem readOnly_name {name : String} (h : isBindingName name) {after : List Char}
    (hafter : after = [] ∨ after = [' ']) :
    readOnly (' ' :: (name.toList ++ after)) = some name := by
  have hrest : ∀ c ∈ after.head?, ¬ isIdentifierPart c := by
    rcases hafter with rfl | rfl
    · simp
    · simpa using by decide
  have hskip : skipGap after = [] := by
    rcases hafter with rfl | rfl
    · rfl
    · exact skipGap_space []
  rw [readOnly, skipGap_space, skipGap_append h, readName_append h hrest, hskip]

/-- **The pieces between the commas** are the names. -/
theorem mapM_readOnly_join {names : List String} (hne : names ≠ [])
    (h : ∀ name ∈ names, isBindingName name) :
    (Text.splitWhere (· == ',') (' ' :: ((Text.join ", " names).toList ++ [' ']))).mapM readOnly =
      some names := by
  induction names with
  | nil => exact absurd rfl hne
  | cons name names ih =>
    obtain ⟨hname, hnames⟩ := List.forall_mem_cons.1 h
    have hcomma : ',' ∉ name.toList := not_mem_of_isBindingName hname (by decide)
    cases names with
    | nil =>
      have hpiece : ',' ∉ ' ' :: (name.toList ++ [' ']) := by simp [hcomma]
      rw [Text.join, Text.splitWhere_of_not_mem hpiece, List.mapM_cons, List.mapM_nil,
        readOnly_name hname (.inr rfl)]
      rfl
    | cons next names =>
      have hpiece : ',' ∉ ' ' :: name.toList := by simp [hcomma]
      have htext : ' ' :: ((Text.join ", " (name :: next :: names)).toList ++ [' ']) =
          (' ' :: name.toList) ++
            ',' :: (' ' :: ((Text.join ", " (next :: names)).toList ++ [' '])) := by
        rw [Text.toList_join_cons _ _ (List.cons_ne_nil _ _)]
        simp
      have hread := readOnly_name hname (.inl rfl)
      rw [List.append_nil] at hread
      rw [htext, Text.splitWhere_append rfl, Text.splitWhere_of_not_mem hpiece,
        List.singleton_append, List.mapM_cons, hread, ih (by simp) hnames]
      rfl

/-- Between the names of a list stand commas and spaces. -/
theorem mem_join {c : Char} {names : List String} (h : c ∈ (Text.join ", " names).toList) :
    (∃ name ∈ names, c ∈ name.toList) ∨ c = ',' ∨ c = ' ' := by
  rcases Text.mem_toList_join h with hsep | hname
  · right
    simpa using hsep
  · exact .inl hname

/-- **Names in braces are read,** up to the gap behind the brace. -/
theorem readNamed_join {names : List String} (hne : names ≠ [])
    (h : ∀ name ∈ names, isBindingName name) (rest : List Char) :
    readNamed (' ' :: ((Text.join ", " names).toList ++ ' ' :: '\x7d' :: rest)) =
      some (names, skipGap rest) := by
  have hbrace : '\x7d' ∉ ' ' :: ((Text.join ", " names).toList ++ [' ']) := by
    simp only [List.mem_cons, List.mem_append, List.not_mem_nil, or_false, not_or]
    refine ⟨by decide, fun hc => ?_, by decide⟩
    rcases mem_join hc with ⟨name, hn, hc⟩ | hc | hc
    · exact not_mem_of_isBindingName (h name hn) (by decide) hc
    · cases hc
    · cases hc
  have htext : ' ' :: ((Text.join ", " names).toList ++ ' ' :: '\x7d' :: rest) =
      (' ' :: ((Text.join ", " names).toList ++ [' '])) ++ '\x7d' :: rest := by
    simp
  rw [htext, readNamed, Text.splitFirst?_append hbrace]
  simp only [Option.bind_eq_bind, Option.bind_some, mapM_readOnly_join hne h]

/-! ## The statement -/

/-- **A keyword is read** up to what cannot go on with it. -/
theorem readKeyword_append {word : String} {rest : List Char}
    (hword : ∀ c ∈ word.toList, isIdentifierPart c)
    (hrest : ∀ c ∈ rest.head?, ¬ isIdentifierPart c) :
    readKeyword word (word.toList ++ rest) = some (skipGap rest) := by
  rw [readKeyword, readWord_append hword hrest, if_pos rfl]

/-- **A keyword is read** with the blank behind it. -/
theorem readKeyword_space {word : String} (hword : word.toList.all isIdentifierPart)
    (rest : List Char) : readKeyword word (word.toList ++ ' ' :: rest) = some (skipGap rest) := by
  rw [readKeyword_append (List.all_eq_true.1 hword) (by simpa using by decide), skipGap_space]

/-- **Named ones** are read as a clause, up to the gap behind the brace. -/
theorem readClause_named {names : List String} (hne : names ≠ [])
    (h : ∀ name ∈ names, isBindingName name) (rest : List Char) :
    readClause ('\x7b' :: ' ' :: ((Text.join ", " names).toList ++ ' ' :: '\x7d' :: rest)) =
      some (none, names, skipGap rest) := by
  rw [readClause, readNamed_join hne h, Option.map_some]

/-- **A clause that begins with a name** goes on with a comma or ends there. -/
theorem readClause_name {name : String} (h : isBindingName name) {rest : List Char}
    (hrest : ∀ c ∈ rest.head?, ¬ isIdentifierPart c) :
    readClause (name.toList ++ rest) =
      match skipGap rest with
      | ',' :: l =>
        match skipGap l with
        | '\x7b' :: l => (readNamed l).map fun found => (some name, found)
        | _ => none
      | l => some (some name, [], l) := by
  rw [readClause.eq_def]
  split
  · next hbrace =>
    -- A name does not begin with a brace.
    obtain ⟨hne, hparts⟩ := forall_isIdentifierPart h
    obtain ⟨c, l, hname⟩ := List.exists_cons_of_ne_nil hne
    rw [hname, List.cons_append] at hbrace
    rw [hname] at hparts
    obtain rfl := (List.cons.inj hbrace).1
    exact absurd (hparts _ (List.mem_cons_self ..)) (by decide)
  · rw [readName_append h hrest]
    rfl

theorem skipGap_from (rest : List Char) :
    skipGap (" from ".toList ++ rest) = "from ".toList ++ rest := rfl

/-- The three forms of what a statement imports, in front of a text. -/
theorem toList_clause_named (module name : String) (names : List String) (rest : List Char) :
    (Import.clause ⟨module, none, name :: names⟩).toList ++ rest =
      '\x7b' :: ' ' :: ((Text.join ", " (name :: names)).toList ++
        ' ' :: '\x7d' :: (" from ".toList ++ rest)) := by
  simp [Import.clause, String.toList_append]

/-- A clause with a default name only. -/
theorem toList_clause_default (module d : String) (rest : List Char) :
    (Import.clause ⟨module, some d, []⟩).toList ++ rest =
      d.toList ++ (" from ".toList ++ rest) := by
  simp [Import.clause, String.toList_append]

/-- A clause with a default name and names in braces. -/
theorem toList_clause_both (module d name : String) (names : List String) (rest : List Char) :
    (Import.clause ⟨module, some d, name :: names⟩).toList ++ rest =
      d.toList ++ ',' :: ' ' :: '\x7b' :: ' ' :: ((Text.join ", " (name :: names)).toList ++
        ' ' :: '\x7d' :: (" from ".toList ++ rest)) := by
  simp [Import.clause, String.toList_append]

/-- What a statement imports is read as a clause in front of the keyword that follows it. -/
theorem readClause_clause {i : Import} (h : ∀ name ∈ i.bound, isBindingName name)
    (hnames : i.bound ≠ []) (rest : List Char) :
    readClause (i.clause.toList ++ rest) = some (i.default, i.named, "from ".toList ++ rest) := by
  obtain ⟨module, default, named⟩ := i
  rw [Import.bound, List.forall_mem_append] at h
  cases default with
  | none =>
    cases named with
    | nil => exact absurd rfl hnames
    | cons name names =>
      rw [toList_clause_named, readClause_named (by simp) h.2, skipGap_from]
  | some d =>
    have hd : isBindingName d := h.1 d (by simp)
    cases named with
    | nil =>
      rw [toList_clause_default, readClause_name hd (by simpa using by decide), skipGap_from]
      rfl
    | cons name names =>
      rw [toList_clause_both, readClause_name hd (by simpa using by decide)]
      change (readNamed (' ' :: ((Text.join ", " (name :: names)).toList ++
        ' ' :: '\x7d' :: (" from ".toList ++ rest)))).map _ = _
      rw [readNamed_join (by simp) h.2, skipGap_from]
      rfl

/-- It starts with a brace or a name, so neither with a gap nor with a quote. -/
theorem exists_clause_eq_cons {i : Import} (h : ∀ name ∈ i.bound, isBindingName name)
    (hnames : i.bound ≠ []) (rest : List Char) :
    ∃ c l, i.clause.toList ++ rest = c :: l ∧ isGap c = false ∧ c ≠ '"' := by
  obtain ⟨module, default, named⟩ := i
  cases default with
  | none =>
    cases named with
    | nil => exact absurd rfl hnames
    | cons name names => exact ⟨_, _, toList_clause_named .., by decide, by decide⟩
  | some d =>
    obtain ⟨hne, hparts⟩ := forall_isIdentifierPart (h d (.head _))
    obtain ⟨c, l, hd⟩ := List.exists_cons_of_ne_nil hne
    have hc : isIdentifierPart c := hparts c (hd ▸ List.mem_cons_self ..)
    have hquote : c ≠ '"' := by
      rintro rfl
      exact absurd hc (by decide)
    cases named with
    | nil =>
      rw [toList_clause_default, hd, List.cons_append]
      exact ⟨c, _, rfl, not_isGap_of_isIdentifierPart hc, hquote⟩
    | cons name names =>
      rw [toList_clause_both, hd, List.cons_append]
      exact ⟨c, _, rfl, not_isGap_of_isIdentifierPart hc, hquote⟩

/-- **A statement is a declaration up to its module,** if its names are identifiers: it is
read as the declaration of the same names. -/
theorem readImport_statement {i : Import} (h : ∀ name ∈ i.bound, isBindingName name) :
    readImport i.statement.toList =
      (readModule (quoted i.module)).map fun module => { i with module := module } := by
  have htext : i.statement.toList =
      "import".toList ++ ' ' :: (i.clause.toList ++ quoted i.module) := by
    simp [Import.statement, quoted, String.toList_append]
  rw [htext, readImport, readKeyword_space rfl]
  by_cases hnames : i.bound = []
  · obtain ⟨module, default, named⟩ := i
    rw [Import.bound, List.append_eq_nil_iff, Option.toList_eq_nil_iff] at hnames
    obtain ⟨rfl, rfl⟩ := hnames
    rfl
  · have hclause := readClause_clause h hnames (quoted i.module)
    obtain ⟨c, l, hcons, hgap, hquote⟩ := exists_clause_eq_cons h hnames (quoted i.module)
    have hskip : skipGap (c :: l) = c :: l :=
      List.dropWhile_cons_of_neg (by rw [hgap]; exact Bool.false_ne_true)
    rw [hcons, hskip, Option.bind_eq_bind, Option.bind_some]
    rw [hcons] at hclause
    split
    · next heq => exact absurd (List.cons.inj heq).1 hquote
    · have hfrom : readKeyword "from" ("from ".toList ++ quoted i.module) =
          some (quoted i.module) :=
        readKeyword_space rfl (quoted i.module)
      rw [hclause]
      simp only [Option.bind_eq_bind, Option.bind_some, hfrom]

/-- **When a statement says what it is made from:** if its names are identifiers, exactly if
its module is plain. -/
theorem readImport_statement_eq_some_iff {i : Import} (h : ∀ name ∈ i.bound, isBindingName name) :
    readImport i.statement.toList = some i ↔ IsPlain i.module := by
  rw [readImport_statement h, ← readModule_quoted_eq_some_iff]
  obtain ⟨module, default, named⟩ := i
  simp

/-- A backslash has to be escaped to be read as itself. -/
example : readImport "import \x7b Card \x7d from \"lib\\\\cards\";".toList =
    some (.names "lib\\cards" ["Card"]) := by
  cbv

end Script
end Pagewright
