/-
# What a text between tags is read as

A line between two tags is read by the rules of JSX (`readText`). A JSON string in braces stands
for the text that it denotes. Any other line stands for itself, but for these:

| in the line | stands for |
| --- | --- |
| `&name;`, the name of a character | the character |
| `&#d;`, decimal digits | the character of this code point |
| `&#xh;`, hexadecimal digits | the character of this code point |
| a line feed, a carriage return | nothing |

An ampersand in front of anything else stands for itself. All of these are shorter when they are
read, so a line is read as itself exactly if it holds none of them (`readLine_eq_self_iff`).
-/

import Pagewright.Proofs.Script.Evaluation

namespace Pagewright
namespace Script

/-! ## Names of characters -/

/-- The names of characters, in runs of consecutive code points. -/
def nameRuns : List (Nat × List String) := [
  (0x22, ["quot"]), (0x26, ["amp", "apos"]), (0x3C, ["lt"]), (0x3E, ["gt"]),
  (0xA0, ["nbsp", "iexcl", "cent", "pound", "curren", "yen", "brvbar", "sect",
    "uml", "copy", "ordf", "laquo", "not", "shy", "reg", "macr",
    "deg", "plusmn", "sup2", "sup3", "acute", "micro", "para", "middot",
    "cedil", "sup1", "ordm", "raquo", "frac14", "frac12", "frac34", "iquest",
    "Agrave", "Aacute", "Acirc", "Atilde", "Auml", "Aring", "AElig", "Ccedil",
    "Egrave", "Eacute", "Ecirc", "Euml", "Igrave", "Iacute", "Icirc", "Iuml",
    "ETH", "Ntilde", "Ograve", "Oacute", "Ocirc", "Otilde", "Ouml", "times",
    "Oslash", "Ugrave", "Uacute", "Ucirc", "Uuml", "Yacute", "THORN", "szlig",
    "agrave", "aacute", "acirc", "atilde", "auml", "aring", "aelig", "ccedil",
    "egrave", "eacute", "ecirc", "euml", "igrave", "iacute", "icirc", "iuml",
    "eth", "ntilde", "ograve", "oacute", "ocirc", "otilde", "ouml", "divide",
    "oslash", "ugrave", "uacute", "ucirc", "uuml", "yacute", "thorn", "yuml"]),
  (0x152, ["OElig", "oelig"]), (0x160, ["Scaron", "scaron"]), (0x178, ["Yuml"]),
  (0x192, ["fnof"]), (0x2C6, ["circ"]), (0x2DC, ["tilde"]),
  (0x391, ["Alpha", "Beta", "Gamma", "Delta", "Epsilon", "Zeta", "Eta", "Theta", "Iota",
    "Kappa", "Lambda", "Mu", "Nu", "Xi", "Omicron", "Pi", "Rho"]),
  (0x3A3, ["Sigma", "Tau", "Upsilon", "Phi", "Chi", "Psi", "Omega"]),
  (0x3B1, ["alpha", "beta", "gamma", "delta", "epsilon", "zeta", "eta", "theta", "iota",
    "kappa", "lambda", "mu", "nu", "xi", "omicron", "pi", "rho", "sigmaf",
    "sigma", "tau", "upsilon", "phi", "chi", "psi", "omega"]),
  (0x3D1, ["thetasym", "upsih"]), (0x3D6, ["piv"]),
  (0x2002, ["ensp", "emsp"]), (0x2009, ["thinsp"]), (0x200C, ["zwnj", "zwj", "lrm", "rlm"]),
  (0x2013, ["ndash", "mdash"]), (0x2018, ["lsquo", "rsquo", "sbquo"]),
  (0x201C, ["ldquo", "rdquo", "bdquo"]), (0x2020, ["dagger", "Dagger", "bull"]),
  (0x2026, ["hellip"]), (0x2030, ["permil"]), (0x2032, ["prime", "Prime"]),
  (0x2039, ["lsaquo", "rsaquo"]), (0x203E, ["oline"]), (0x2044, ["frasl"]),
  (0x20AC, ["euro"]), (0x2111, ["image"]), (0x2118, ["weierp"]), (0x211C, ["real"]),
  (0x2122, ["trade"]), (0x2135, ["alefsym"]),
  (0x2190, ["larr", "uarr", "rarr", "darr", "harr"]), (0x21B5, ["crarr"]),
  (0x21D0, ["lArr", "uArr", "rArr", "dArr", "hArr"]),
  (0x2200, ["forall"]), (0x2202, ["part", "exist"]), (0x2205, ["empty"]), (0x2207, ["nabla", "isin",
    "notin"]), (0x220B, ["ni"]), (0x220F, ["prod"]), (0x2211, ["sum", "minus"]),
  (0x2217, ["lowast"]), (0x221A, ["radic"]), (0x221D, ["prop", "infin"]), (0x2220, ["ang"]),
  (0x2227, ["and", "or", "cap", "cup", "int"]), (0x2234, ["there4"]), (0x223C, ["sim"]),
  (0x2245, ["cong"]), (0x2248, ["asymp"]), (0x2260, ["ne", "equiv"]), (0x2264, ["le", "ge"]),
  (0x2282, ["sub", "sup", "nsub"]), (0x2286, ["sube", "supe"]), (0x2295, ["oplus"]),
  (0x2297, ["otimes"]), (0x22A5, ["perp"]), (0x22C5, ["sdot"]),
  (0x2308, ["lceil", "rceil", "lfloor", "rfloor"]), (0x2329, ["lang", "rang"]),
  (0x25CA, ["loz"]), (0x2660, ["spades"]), (0x2663, ["clubs"]), (0x2665, ["hearts", "diams"])]

/-- The character of a name. -/
def named? (name : String) : Option Char :=
  nameRuns.findSome? fun run => (run.2.idxOf? name).map fun i => Char.ofNat (run.1 + i)

/-! ## References -/

/-- The value of a decimal digit. -/
def decimalValue? (c : Char) : Option Nat := if c.isDigit then some (Text.digitValue c) else none

/-- The number that digits denote, most significant digit first. -/
def number? (base : Nat) (digit? : Char → Option Nat) (digits : List Char) : Option Nat :=
  if digits.isEmpty then none
  else digits.foldlM (fun n d => (digit? d).map fun value => base * n + value) 0

/-- The character of a code point; a surrogate has none. -/
def character? (n : Nat) : Option Char :=
  if n < 0xD800 ∨ 0xDFFF < n ∧ n < 0x110000 then some (Char.ofNat n) else none

/-- The character that stands between an ampersand and a semicolon. -/
def referenced? : List Char → Option Char
  | '#' :: 'x' :: digits => (number? 16 Json.hexValue? digits).bind character?
  | '#' :: digits => (number? 10 decimalValue? digits).bind character?
  | name => named? (String.ofList name)

/-- The character that a reference stands for, read after its ampersand, and the text after it. -/
def readReference (l : List Char) : Option (Char × List Char) :=
  (Text.splitFirst? ';' l).bind fun (body, rest) => (referenced? body).map fun c => (c, rest)

/-- A reference is read up to the first semicolon. -/
theorem readReference_eq_some_iff {l rest : List Char} {c : Char} :
    readReference l = some (c, rest) ↔
      ∃ body, l = body ++ ';' :: rest ∧ ';' ∉ body ∧ referenced? body = some c := by
  constructor
  · intro h
    obtain ⟨⟨body, rest'⟩, hsplit, h⟩ := Option.bind_eq_some_iff.1 h
    obtain ⟨c', hc, heq⟩ := Option.map_eq_some_iff.1 h
    cases heq
    exact ⟨body, (Text.splitFirst?_eq_some hsplit).1, (Text.splitFirst?_eq_some hsplit).2, hc⟩
  · rintro ⟨body, rfl, hbody, hc⟩
    simp only [readReference, Text.splitFirst?_append hbody, Option.bind_some, hc, Option.map_some]

/-- A reference takes something of the text. -/
theorem readReference_shortens {l rest : List Char} {c : Char}
    (h : readReference l = some (c, rest)) : rest.length < l.length := by
  obtain ⟨body, rfl, -, -⟩ := readReference_eq_some_iff.1 h
  rw [List.length_append, List.length_cons]
  omega

/-- A reference stands somewhere in a text. -/
def HasReference (l : List Char) : Prop :=
  ∃ before body rest c,
    l = before ++ '&' :: (body ++ ';' :: rest) ∧ ';' ∉ body ∧ referenced? body = some c

/-- There is no reference in the empty text. -/
theorem hasReference_nil : ¬ HasReference [] := by
  rintro ⟨before, body, rest, c, h, -, -⟩
  cases before <;> cases h

/-- A reference stands at the front of a text or behind its first character. -/
theorem hasReference_cons_iff {d : Char} {l : List Char} :
    HasReference (d :: l) ↔ (d = '&' ∧ readReference l ≠ none) ∨ HasReference l := by
  simp only [Option.ne_none_iff_exists', Prod.exists, readReference_eq_some_iff]
  constructor
  · rintro ⟨before, body, rest, c, h, hbody, hc⟩
    cases before with
    | nil =>
      obtain ⟨rfl, rfl⟩ := List.cons.inj h
      exact .inl ⟨rfl, c, rest, body, rfl, hbody, hc⟩
    | cons e before =>
      obtain ⟨rfl, rfl⟩ := List.cons.inj h
      exact .inr ⟨before, body, rest, c, rfl, hbody, hc⟩
  · rintro (⟨rfl, c, rest, body, rfl, hbody, hc⟩ | ⟨before, body, rest, c, rfl, hbody, hc⟩)
    · exact ⟨[], body, rest, c, rfl, hbody, hc⟩
    · exact ⟨d :: before, body, rest, c, rfl, hbody, hc⟩

/-! ## Lines -/

/-- Whether a character ends a line, and is folded away. -/
def isFolded (c : Char) : Bool := c = '\n' || c = '\r'

/-- A line between tags, with the characters in the place of the references and without its line
breaks. -/
def readLine : List Char → List Char
  | [] => []
  | c :: rest =>
    if isFolded c then readLine rest
    else if c = '&' then
      match h : readReference rest with
      | some (x, rest') =>
        have := readReference_shortens h
        x :: readLine rest'
      | none => c :: readLine rest
    else c :: readLine rest
termination_by l => l.length

/-- The end of a line is folded away. -/
theorem readLine_folded {c : Char} (h : isFolded c) (l : List Char) :
    readLine (c :: l) = readLine l := by
  rw [readLine, if_pos h]

/-- A reference is read as its character. -/
theorem readLine_reference {l rest : List Char} {x : Char}
    (h : readReference l = some (x, rest)) : readLine ('&' :: l) = x :: readLine rest := by
  rw [readLine, if_neg (by decide), if_pos rfl]
  split
  · next h' =>
    cases h.symm.trans h'
    rfl
  · next h' => cases h.symm.trans h'

/-- **A character stands for itself** if it ends no line and begins no reference. -/
theorem readLine_cons {c : Char} {l : List Char} (hfolded : ¬ isFolded c)
    (hreference : c = '&' → readReference l = none) : readLine (c :: l) = c :: readLine l := by
  rw [readLine, if_neg hfolded]
  split
  · next h =>
    split
    · next h' => cases (hreference h).symm.trans h'
    · rfl
  · rfl

/-- Characters that are neither folded nor an ampersand are read as they are. -/
theorem readLine_append {a : List Char} (h : a.all fun c => !isFolded c && c != '&')
    (l : List Char) : readLine (a ++ l) = a ++ readLine l := by
  induction a with
  | nil => rfl
  | cons c a ih =>
    simp only [List.all_cons, Bool.and_eq_true, Bool.not_eq_true', bne_iff_ne] at h
    obtain ⟨⟨hfolded, hamp⟩, hrest⟩ := h
    have hcons := readLine_cons (l := a ++ l) (Bool.eq_false_iff.1 hfolded) fun hc => absurd hc hamp
    rw [List.cons_append, hcons, ih (by simpa using hrest), List.cons_append]

/-- **Reading makes nothing longer.** -/
theorem length_readLine_le (l : List Char) : (readLine l).length ≤ l.length := by
  induction l using readLine.induct with
  | case1 => simp [readLine]
  | case2 c l hfolded ih =>
    rw [readLine_folded hfolded]
    exact Nat.le_succ_of_le ih
  | case3 l x rest h hshorter _ ih =>
    rw [readLine_reference h, List.length_cons, List.length_cons]
    omega
  | case4 l h hfolded ih =>
    rw [readLine_cons hfolded fun _ => h]
    exact Nat.succ_le_succ ih
  | case5 c l hfolded hamp ih =>
    rw [readLine_cons hfolded fun h => absurd h hamp]
    exact Nat.succ_le_succ ih

/-- **A line is read as itself** exactly if it has no line break and no reference. -/
theorem readLine_eq_self_iff (l : List Char) :
    readLine l = l ↔ (∀ c ∈ l, ¬ isFolded c) ∧ ¬ HasReference l := by
  have hne {l l' : List Char} {c : Char} (h : l'.length ≤ l.length) : l' ≠ c :: l := by
    rintro rfl
    exact absurd h (Nat.not_succ_le_self _)
  induction l using readLine.induct with
  | case1 => simp [readLine, hasReference_nil]
  | case2 c l hfolded ih =>
    rw [readLine_folded hfolded]
    exact iff_of_false (hne (length_readLine_le l)) fun hself => hself.1 c (.head _) hfolded
  | case3 l x rest h hshorter _ ih =>
    have hreference : HasReference ('&' :: l) :=
      hasReference_cons_iff.2 (.inl ⟨rfl, by rw [h]; exact Option.some_ne_none _⟩)
    rw [readLine_reference h]
    refine iff_of_false (hne ?_) fun hself => hself.2 hreference
    exact Nat.le_trans (Nat.succ_le_succ (length_readLine_le rest)) hshorter
  | case4 l h hfolded ih =>
    rw [readLine_cons hfolded fun _ => h, List.cons_inj_right, List.forall_mem_cons,
      hasReference_cons_iff]
    simp [hfolded, h, ih]
  | case5 c l hfolded hamp ih =>
    rw [readLine_cons hfolded fun h => absurd h hamp, List.cons_inj_right, List.forall_mem_cons,
      hasReference_cons_iff]
    simp [hfolded, hamp, ih]

/-- What a line between tags is read as: the text of a JSON string in braces, or else the line by
the rules for text. -/
def readText (line : String) : String :=
  match line.toList with
  | '\x7b' :: rest =>
    match readScalar rest with
    | some (.string s, ['\x7d']) => s
    | _ => String.ofList (readLine line.toList)
  | _ => String.ofList (readLine line.toList)

end Script
end Pagewright
