/-
# What is a length

A length is a number with a unit behind it, and nothing around them. A number has four parts:

| part | |
| --- | --- |
| sign | a minus or nothing |
| whole | digits of any script, or none |
| point | a point or nothing |
| last | digits, at least one |

A unit is made of letters of ASCII and percent signs. So a number ends with a digit and there is no
digit behind it, and a text is a length in one way only (`IsNumber.append_inj`). Reading a length
finds exactly that way (`Length.parse?_eq_some_iff`).
-/

import Pagewright.Proofs.Text.Digits
import Pagewright.Style.Policy

namespace Pagewright
namespace Style

/-- Digits of any script. -/
def AreDigits (s : List Char) : Prop := ∀ c ∈ s, Text.isDecimal c

/-- **A number of a length:** an optional minus, digits, an optional point, and at least one digit
behind it. -/
def IsNumber (s : List Char) : Prop :=
  ∃ sign whole point last : List Char, s = sign ++ (whole ++ (point ++ last)) ∧
    (sign = [] ∨ sign = ['-']) ∧ AreDigits whole ∧ (point = [] ∨ point = ['.']) ∧
    AreDigits last ∧ last ≠ []

/-- Letters of ASCII and percent signs. -/
def IsUnitWord (s : List Char) : Prop := ∀ c ∈ s, isUnitChar c

instance : DecidablePred AreDigits := fun s =>
  decidable_of_iff (s.all Text.isDecimal) List.all_eq_true

instance : DecidablePred IsUnitWord := fun s =>
  decidable_of_iff (s.all isUnitChar) List.all_eq_true

variable {s sign body number word : List Char}

theorem AreDigits.append {a b : List Char} (ha : AreDigits a) (hb : AreDigits b) :
    AreDigits (a ++ b) := List.forall_mem_append.2 ⟨ha, hb⟩

theorem areDigits_takeWhile (s : List Char) : AreDigits (s.takeWhile Text.isDecimal) :=
  List.all_eq_true.1 List.all_takeWhile

/-- A letter of a unit is no digit. -/
theorem not_isDecimal_of_isUnitChar {c : Char} (h : isUnitChar c) : ¬ Text.isDecimal c := by
  rcases Bool.or_eq_true_iff.1 h with h | h
  · exact Text.not_isDecimal_of_isAlpha h
  · rw [beq_iff_eq.1 h]
    decide

/-- There is no digit in a unit. -/
theorem IsUnitWord.not_isDecimal (h : IsUnitWord word) : ∀ c ∈ word, ¬ Text.isDecimal c :=
  fun c hc => not_isDecimal_of_isUnitChar (h c hc)

/-! ## One way to read a length -/

/-- **A number ends with a digit.** -/
theorem IsNumber.exists_getLast? (h : IsNumber s) :
    ∃ digit, s.getLast? = some digit ∧ Text.isDecimal digit := by
  obtain ⟨sign, whole, point, last, rfl, -, -, -, hlast, hne⟩ := h
  refine ⟨last.getLast hne, ?_, hlast _ (List.getLast_mem hne)⟩
  simp [List.getLast?_append, List.getLast?_eq_some_getLast hne]

/-- A number ends with a digit. -/
theorem IsNumber.getLast?_ne {c : Char} (h : IsNumber s) (hc : ¬ Text.isDecimal c) :
    s.getLast? ≠ some c := by
  obtain ⟨digit, hlast, hdigit⟩ := h.exists_getLast?
  rw [hlast]
  rintro ⟨⟩
  exact hc hdigit

/-- Texts that end with a digit, each in front of a text without digits, are the same if the whole
texts are. -/
theorem append_inj_of_getLast? {a b u v : List Char} {digit digit' : Char}
    (ha : a.getLast? = some digit) (hdigit : Text.isDecimal digit)
    (hb : b.getLast? = some digit') (hdigit' : Text.isDecimal digit')
    (hu : ∀ c ∈ u, ¬ Text.isDecimal c) (hv : ∀ c ∈ v, ¬ Text.isDecimal c)
    (h : a ++ u = b ++ v) : a = b ∧ u = v := by
  -- what one of the two has more would end with a digit and have none
  have hnil {d : Char} {t w more : List Char} (hlast : (t ++ more).getLast? = some d)
      (hd : Text.isDecimal d) (hw : ∀ c ∈ more ++ w, ¬ Text.isDecimal c) : more = [] := by
    by_contra hne
    rw [List.getLast?_append_of_ne_nil _ hne] at hlast
    exact hw d (List.mem_append_left _ (List.mem_of_getLast? hlast)) hd
  rcases List.append_eq_append_iff.1 h with ⟨more, rfl, rfl⟩ | ⟨more, rfl, rfl⟩
  · obtain rfl := hnil hb hdigit' hu
    simp
  · obtain rfl := hnil ha hdigit hv
    simp

/-- **A text is a length in one way:** what stands behind its number has no digits. -/
theorem IsNumber.append_inj {a b u v : List Char} (ha : IsNumber a) (hb : IsNumber b)
    (hu : ∀ c ∈ u, ¬ Text.isDecimal c) (hv : ∀ c ∈ v, ¬ Text.isDecimal c)
    (h : a ++ u = b ++ v) : a = b ∧ u = v := by
  obtain ⟨digit, halast, hdigit⟩ := ha.exists_getLast?
  obtain ⟨digit', hblast, hdigit'⟩ := hb.exists_getLast?
  exact append_inj_of_getLast? halast hdigit hblast hdigit' hu hv h

/-! ## Reading -/

namespace Length

/-- The length of a text behind its sign. -/
def ofBody? (sign body : List Char) : Option Length :=
  let whole := body.takeWhile Text.isDecimal
  let close (number unit : List Char) : Option Length :=
    if unit.all isUnitChar then some ⟨sign ++ number, unit⟩ else none
  match body.dropWhile Text.isDecimal with
  | '.' :: rest =>
    let fraction := rest.takeWhile Text.isDecimal
    if fraction.isEmpty then none
    else close (whole ++ '.' :: fraction) (rest.dropWhile Text.isDecimal)
  | unit => if whole.isEmpty then none else close whole unit

theorem parse?_minus (body : List Char) : parse? ('-' :: body) = ofBody? ['-'] body := rfl

/-- Without a minus in front a length has no sign. -/
theorem parse?_of_head?_ne (h : s.head? ≠ some '-') : parse? s = ofBody? [] s := by
  unfold parse?
  split
  next sign body hsign =>
  split at hsign
  · exact absurd rfl h
  · cases hsign
    rfl

/-- A number without sign begins with a digit or a point. -/
theorem head?_body_ne {whole point last : List Char} (hwhole : AreDigits whole)
    (hpoint : point = [] ∨ point = ['.']) (hlast : AreDigits last) (hne : last ≠ [])
    (word : List Char) : (whole ++ (point ++ last) ++ word).head? ≠ some '-' := by
  have hdigits {ds : List Char} (h : AreDigits ds) : '-' ∉ ds := fun hmem =>
    absurd (h '-' hmem) (by decide)
  have hminus : '-' ∉ whole ++ (point ++ last) := by
    simp only [List.mem_append, not_or]
    refine ⟨hdigits hwhole, ?_, hdigits hlast⟩
    rcases hpoint with rfl | rfl <;> decide
  rw [List.head?_append_of_ne_nil _ (by simp [hne])]
  exact fun hhead => hminus (List.mem_of_mem_head? hhead)

/-- **A length that is read** has a number and a unit, one behind the other. -/
theorem exists_of_ofBody? {l : Length} (h : ofBody? sign body = some l) :
    ∃ whole point last : List Char, body = whole ++ (point ++ last) ++ l.unit ∧
      l.number = sign ++ (whole ++ (point ++ last)) ∧ AreDigits whole ∧
      (point = [] ∨ point = ['.']) ∧ AreDigits last ∧ last ≠ [] ∧ IsUnitWord l.unit := by
  unfold ofBody? at h
  dsimp only at h
  have hbody := List.takeWhile_append_dropWhile (p := Text.isDecimal) (l := body)
  split at h
  · next rest hrest =>
    have hfraction := List.takeWhile_append_dropWhile (p := Text.isDecimal) (l := rest)
    split_ifs at h with hempty hunit
    obtain rfl := Option.some.inj h
    refine ⟨body.takeWhile Text.isDecimal, ['.'], rest.takeWhile Text.isDecimal, ?_, rfl,
      areDigits_takeWhile body, .inr rfl, areDigits_takeWhile rest,
      fun hnil => hempty (List.isEmpty_iff.2 hnil), List.all_eq_true.1 hunit⟩
    rw [List.append_assoc, List.append_assoc, hfraction, List.singleton_append, ← hrest, hbody]
  · split_ifs at h with hempty hunit
    obtain rfl := Option.some.inj h
    exact ⟨[], [], body.takeWhile Text.isDecimal, hbody.symm, rfl, List.forall_mem_nil _, .inl rfl,
      areDigits_takeWhile body, fun hnil => hempty (List.isEmpty_iff.2 hnil),
      List.all_eq_true.1 hunit⟩

/-- **A number and a unit,** one behind the other, are read as a length. -/
theorem ofBody?_append {whole point last : List Char} (hwhole : AreDigits whole)
    (hpoint : point = [] ∨ point = ['.']) (hlast : AreDigits last) (hne : last ≠ [])
    (hunit : IsUnitWord word) :
    ofBody? sign (whole ++ (point ++ last) ++ word) =
      some ⟨sign ++ (whole ++ (point ++ last)), word⟩ := by
  have hstop : ∀ c ∈ word.head?, Text.isDecimal c = false := fun c hc =>
    Bool.eq_false_iff.2 (hunit.not_isDecimal c (List.mem_of_mem_head? hc))
  have hall : word.all isUnitChar = true := List.all_eq_true.2 hunit
  unfold ofBody?
  dsimp only
  rcases hpoint with rfl | rfl
  · obtain ⟨htake, hdrop⟩ := Text.takeWhile_append_stop (hwhole.append hlast) hstop
    rw [List.nil_append, htake, hdrop]
    split
    · next rest =>
      -- no unit begins with a point
      exact absurd (hunit '.' (.head _)) (by decide)
    · rw [if_neg (by simp [hne]), if_pos hall]
  · have hpoint : ∀ c ∈ ('.' :: (last ++ word)).head?, Text.isDecimal c = false := by
      rintro c ⟨⟩
      decide
    obtain ⟨htake, hdrop⟩ := Text.takeWhile_append_stop hwhole hpoint
    obtain ⟨htake', hdrop'⟩ := Text.takeWhile_append_stop hlast hstop
    rw [List.singleton_append, List.append_assoc, List.cons_append, htake, hdrop]
    split
    · next rest hrest =>
      obtain rfl := (List.cons.inj hrest).2
      rw [htake', hdrop', if_neg (by simpa using hne), if_pos hall]
    · next hother => exact absurd rfl (hother _)

/-- **Reading a length** finds its number and its unit, and nothing else is read. -/
theorem parse?_eq_some_iff {l : Length} :
    parse? s = some l ↔ s = l.number ++ l.unit ∧ IsNumber l.number ∧ IsUnitWord l.unit := by
  constructor
  · intro h
    obtain ⟨sign, body, hsign, rfl, hbody⟩ : ∃ sign body, (sign = [] ∨ sign = ['-']) ∧
        s = sign ++ body ∧ ofBody? sign body = some l := by
      by_cases hhead : s.head? = some '-'
      · obtain ⟨body, rfl⟩ := List.head?_eq_some_iff.1 hhead
        exact ⟨['-'], body, .inr rfl, rfl, h⟩
      · exact ⟨[], s, .inl rfl, rfl, parse?_of_head?_ne hhead ▸ h⟩
    obtain ⟨whole, point, last, rfl, hnumber, hwhole, hpoint, hlast, hne, hunit⟩ :=
      exists_of_ofBody? hbody
    refine ⟨?_, ⟨sign, whole, point, last, hnumber, hsign, hwhole, hpoint, hlast, hne⟩, hunit⟩
    rw [hnumber]
    simp only [List.append_assoc]
  · obtain ⟨number, word⟩ := l
    rintro ⟨rfl, ⟨sign, whole, point, last, rfl, hsign, hwhole, hpoint, hlast, hne⟩, hunit⟩
    dsimp only at hunit ⊢
    have hbody : ofBody? sign (whole ++ (point ++ last) ++ word) =
        some ⟨sign ++ (whole ++ (point ++ last)), word⟩ :=
      ofBody?_append hwhole hpoint hlast hne hunit
    rw [List.append_assoc]
    rcases hsign with rfl | rfl
    · rw [List.nil_append, parse?_of_head?_ne (head?_body_ne hwhole hpoint hlast hne word), hbody]
    · exact hbody

/-- **A number with a unit** is read as the two. -/
theorem parse?_append (hnumber : IsNumber number) (hunit : IsUnitWord word) :
    parse? (number ++ word) = some ⟨number, word⟩ :=
  parse?_eq_some_iff.2 ⟨rfl, hnumber, hunit⟩

end Length

/-! ## Rescaling -/

variable {p : Platform} {v : Json}

/-- The unit that a platform replaces by its own. -/
def replacedUnit (p : Platform) : String :=
  match p.family with
  | .miniProgram => "px"
  | .browser => "rpx"
  | .native => ""

/-- A platform that is not native is a mini program or a browser. -/
theorem isMiniProgram_or_eq_h5 (hp : p ≠ .rn) : p.isMiniProgram ∨ p = .h5 := by
  cases p
  case rn => exact absurd rfl hp
  case h5 => exact .inr rfl
  all_goals exact .inl rfl

/-- Mini programs replace `px` by `rpx`. -/
theorem units_of_isMiniProgram (hp : p.isMiniProgram) :
    replacedUnit p = "px" ∧ unit p = "rpx" := by
  have hfamily : p.family = .miniProgram := beq_iff_eq.1 hp
  unfold replacedUnit unit
  rw [hfamily]
  exact ⟨rfl, rfl⟩

/-- A platform that is not native has a unit. -/
theorem unit_ne_empty (hp : p ≠ .rn) : unit p ≠ "" := by
  rcases isMiniProgram_or_eq_h5 hp with hmini | rfl
  · rw [(units_of_isMiniProgram hmini).2]
    decide
  · decide

/-- The unit that is replaced is a word of letters. -/
theorem isUnit_replacedUnit (p : Platform) : IsUnitWord (replacedUnit p).toList := by
  unfold replacedUnit
  cases p.family <;> decide

/-- **Where numbers take a unit,** a length in the replaced unit is rescaled and no other text. -/
theorem rescale?_eq_some_iff (hp : unit p ≠ "") :
    rescale? p s = some v ↔ ∃ number, IsNumber number ∧ s = number ++ (replacedUnit p).toList ∧
      v = .string (String.ofList (number ++ (unit p).toList)) := by
  have hread : rescale? p s = some v ↔ ∃ l, Length.parse? s = some l ∧
      l.unit = (replacedUnit p).toList ∧
      v = .string (String.ofList (l.number ++ (unit p).toList)) := by
    rw [rescale?, Option.bind_eq_some_iff]
    refine exists_congr fun l => and_congr_right fun _ => ?_
    unfold unit at hp ⊢
    unfold replacedUnit
    cases hfamily : p.family with
    | miniProgram | browser =>
      dsimp only
      rw [Option.ite_none_right_eq_some, Option.some.injEq]
      exact and_congr_right fun _ => eq_comm
    | native =>
      rw [hfamily] at hp
      exact absurd rfl hp
  rw [hread]
  constructor
  · rintro ⟨⟨number, word⟩, hparse, rfl, rfl⟩
    obtain ⟨hs, hnumber, -⟩ := Length.parse?_eq_some_iff.1 hparse
    exact ⟨number, hnumber, hs, rfl⟩
  · rintro ⟨number, hnumber, rfl, rfl⟩
    exact ⟨_, Length.parse?_append hnumber (isUnit_replacedUnit p), rfl, rfl⟩

/-- **Where numbers take no unit,** a length is replaced by its number, if that can be read, unless
its unit is the percent sign. -/
theorem rescale?_eq_some_iff_of_native (hp : p.family = .native) :
    rescale? p s = some v ↔ ∃ number word, IsNumber number ∧ IsUnitWord word ∧ s = number ++ word ∧
      word ≠ ['%'] ∧ ∃ n, bareNumber? number = some n ∧ v = .number n := by
  have hread : rescale? p s = some v ↔ ∃ l, Length.parse? s = some l ∧ l.unit ≠ ['%'] ∧
      ∃ n, bareNumber? l.number = some n ∧ v = .number n := by
    rw [rescale?, Option.bind_eq_some_iff]
    refine exists_congr fun l => and_congr_right fun _ => ?_
    rw [hp]
    dsimp only
    rw [Option.ite_none_left_eq_some, Option.map_eq_some_iff]
    simp only [eq_comm]
  rw [hread]
  constructor
  · rintro ⟨⟨number, word⟩, hparse, hpercent, hvalue⟩
    obtain ⟨hs, hnumber, hunit⟩ := Length.parse?_eq_some_iff.1 hparse
    exact ⟨number, word, hnumber, hunit, hs, hpercent, hvalue⟩
  · rintro ⟨number, word, hnumber, hunit, rfl, hpercent, hvalue⟩
    exact ⟨_, Length.parse?_append hnumber hunit, hpercent, hvalue⟩

end Style
end Pagewright
