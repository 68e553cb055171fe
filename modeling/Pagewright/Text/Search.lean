/-
# Searching and cutting text

Functions on lists of characters, each by recursion on the text:

| function | result |
| --- | --- |
| `before? p s` | what stands before the first occurrence of `p` in `s` |
| `replaceAll p r s` | `s` with every occurrence of `p`, from the left and without overlap, replaced by `r` |
| `splitWhere f s` | the pieces between the characters with `f`, the empty ones too |
| `linesOf s` | the lines of `s`; a line ends with a line feed, a carriage return before it belongs to the end |
| `join sep l` | the texts of `l` with `sep` between neighbours |
-/

namespace Pagewright
namespace Text

/-- What stands before the first occurrence of a pattern. -/
def before? (p : List Char) : List Char → Option (List Char)
  | [] => if p.isEmpty then some [] else none
  | c :: s => if p.isPrefixOf (c :: s) then some [] else (before? p s).map (c :: ·)

/-- Whether a pattern occurs. -/
def occurs (p s : List Char) : Bool := (before? p s).isSome

/-- Replaces a pattern, after `skip` characters that belong to an occurrence. -/
def replaceFrom (p r : List Char) : Nat → List Char → List Char
  | _, [] => []
  | skip + 1, _ :: s => replaceFrom p r skip s
  | 0, c :: s =>
    if p.isPrefixOf (c :: s) then r ++ replaceFrom p r (p.length - 1) s
    else c :: replaceFrom p r 0 s

/-- Replaces every occurrence of a non-empty pattern. -/
def replaceAll (p r s : List Char) : List Char := replaceFrom p r 0 s

/-- The pieces between the characters that satisfy a test. -/
def splitWhere (f : Char → Bool) : List Char → List (List Char)
  | [] => [[]]
  | c :: s =>
    match splitWhere f s with
    | [] => [[c]]
    | piece :: rest => if f c then [] :: piece :: rest else (c :: piece) :: rest

/-- What stands before and after the first `c`. -/
def splitFirst? (c : Char) : List Char → Option (List Char × List Char)
  | [] => none
  | d :: s => if d = c then some ([], s) else (splitFirst? c s).map fun (a, b) => (d :: a, b)

/-- What stands before and after the last `c`. -/
def splitLast? (c : Char) (s : List Char) : Option (List Char × List Char) :=
  (splitFirst? c s.reverse).map fun (a, b) => (b.reverse, a.reverse)

/-- A line without the carriage return that belongs to its end. -/
def dropReturn (line : List Char) : List Char :=
  if line.getLast? = some '\r' then line.dropLast else line

/-- The lines of a text; an empty piece after the last line feed is no line. -/
def linesOf (s : List Char) : List (List Char) :=
  let pieces := splitWhere (· == '\n') s
  pieces.dropLast.map dropReturn ++ (pieces.getLast?.toList.filter (!·.isEmpty))

/-- The number of bytes of a text in UTF-8. -/
def utf8Length : List Char → Nat
  | [] => 0
  | c :: s => c.utf8Size + utf8Length s

/-- The texts of a list with a separator between neighbours. -/
def join (sep : String) : List String → String
  | [] => ""
  | [a] => a
  | a :: b :: rest => a ++ sep ++ join sep (b :: rest)

theorem join_cons_cons (sep a b : String) (l : List String) :
    join sep (a :: b :: l) = a ++ sep ++ join sep (b :: l) := rfl

/-- The first of several texts, with what the others are joined to. -/
theorem toList_join_cons (sep s : String) {l : List String} (h : l ≠ []) :
    (join sep (s :: l)).toList = s.toList ++ (sep.toList ++ (join sep l).toList) := by
  obtain ⟨t, l, rfl⟩ := List.exists_cons_of_ne_nil h
  rw [join_cons_cons, String.toList_append, String.toList_append, List.append_assoc]

/-- What stands in a joined text stands in the separator or in one of the texts. -/
theorem mem_toList_join {c : Char} {sep : String} {l : List String}
    (h : c ∈ (join sep l).toList) : c ∈ sep.toList ∨ ∃ s ∈ l, c ∈ s.toList := by
  induction l with
  | nil => cases h
  | cons a l ih =>
    cases l with
    | nil => exact .inr ⟨a, .head _, h⟩
    | cons b l =>
      rw [join_cons_cons, String.toList_append, String.toList_append, List.mem_append,
        List.mem_append] at h
      rcases h with (h | h) | h
      · exact .inr ⟨a, .head _, h⟩
      · exact .inl h
      · exact (ih h).imp_right fun ⟨s, hs, hc⟩ => ⟨s, .tail _ hs, hc⟩

@[simp] theorem replaceAll_nil (p r : List Char) : replaceAll p r [] = [] := rfl

/-- A character in front of which the pattern does not stand stays. -/
theorem replaceAll_cons_of_not_prefix {p r s : List Char} {c : Char}
    (h : ¬ p.isPrefixOf (c :: s)) : replaceAll p r (c :: s) = c :: replaceAll p r s := by
  rw [replaceAll, replaceFrom, if_neg h]
  rfl

/-- A pattern of one character is replaced character by character. -/
theorem replaceAll_singleton (a : Char) (r s : List Char) :
    replaceAll [a] r s = s.flatMap fun c => if c = a then r else [c] := by
  induction s with
  | nil => rfl
  | cons c s ih =>
    rw [List.flatMap_cons, ← ih]
    by_cases h : c = a
    · subst h
      rw [if_pos rfl, replaceAll, replaceFrom, if_pos (by simp [List.isPrefixOf])]
      rfl
    · rw [if_neg h, replaceAll_cons_of_not_prefix (by simp [List.isPrefixOf, Ne.symm h])]
      rfl

/-- A text has at least one piece. -/
theorem splitWhere_ne_nil (f : Char → Bool) (s : List Char) : splitWhere f s ≠ [] := by
  induction s with
  | nil => simp [splitWhere]
  | cons c s ih =>
    unfold splitWhere
    split
    · simp
    · split <;> simp

/-- A text without a separator is one piece. -/
theorem splitWhere_of_forall_not {f : Char → Bool} {s : List Char} (h : ∀ c ∈ s, ¬ f c) :
    splitWhere f s = [s] := by
  induction s with
  | nil => rfl
  | cons c s ih =>
    obtain ⟨hc, hs⟩ := List.forall_mem_cons.1 h
    simp only [splitWhere, ih hs, if_neg hc]

/-- A text without a character is one piece when it is cut at the character. -/
theorem splitWhere_of_not_mem {c : Char} {s : List Char} (h : c ∉ s) :
    splitWhere (· == c) s = [s] :=
  splitWhere_of_forall_not fun _ hd heq => h (beq_iff_eq.1 heq ▸ hd)

/-- **A piece** is made of characters of the text, none of which cuts it. -/
theorem of_mem_splitWhere {f : Char → Bool} {s piece : List Char} (h : piece ∈ splitWhere f s) :
    ∀ c ∈ piece, c ∈ s ∧ ¬ f c := by
  induction s generalizing piece with
  | nil =>
    obtain rfl := List.mem_singleton.1 h
    exact List.forall_mem_nil _
  | cons d s ih =>
    obtain ⟨first, rest, hpieces⟩ := List.exists_cons_of_ne_nil (splitWhere_ne_nil f s)
    have hs : ∀ piece ∈ first :: rest, ∀ c ∈ piece, c ∈ d :: s ∧ ¬ f c := fun piece hpiece c hc =>
      (ih (hpieces ▸ hpiece) c hc).imp_left (List.mem_cons_of_mem d)
    rw [splitWhere, hpieces] at h
    dsimp only at h
    split at h
    · rcases List.mem_cons.1 h with rfl | h
      · exact List.forall_mem_nil _
      · exact hs piece h
    · next hd =>
      rcases List.mem_cons.1 h with rfl | h
      · exact List.forall_mem_cons.2 ⟨⟨.head _, hd⟩, hs first (.head _)⟩
      · exact hs piece (.tail _ h)

/-- No piece has the character at which the text is cut. -/
theorem not_mem_of_mem_splitWhere {c : Char} {s piece : List Char}
    (h : piece ∈ splitWhere (· == c) s) : c ∉ piece :=
  fun hc => (of_mem_splitWhere h c hc).2 (beq_self_eq_true c)

/-- **Pieces on both sides:** a text is cut at a character by itself. -/
theorem splitWhere_append {f : Char → Bool} {c : Char} (hc : f c) (a b : List Char) :
    splitWhere f (a ++ c :: b) = splitWhere f a ++ splitWhere f b := by
  induction a with
  | nil =>
    obtain ⟨piece, rest, hb⟩ := List.exists_cons_of_ne_nil (splitWhere_ne_nil f b)
    simp [splitWhere, hb, hc]
  | cons d a ih =>
    obtain ⟨piece, rest, ha⟩ := List.exists_cons_of_ne_nil (splitWhere_ne_nil f a)
    rw [List.cons_append, splitWhere, splitWhere, ih, ha, List.cons_append]
    dsimp only
    split <;> rfl

/-- **The first piece** ends where the text does or where it is cut first. -/
theorem splitWhere_eq_cons_iff {c : Char} {s piece : List Char} {rest : List (List Char)} :
    splitWhere (· == c) s = piece :: rest ↔
      c ∉ piece ∧ (s = piece ∧ rest = [] ∨
        ∃ u, s = piece ++ c :: u ∧ splitWhere (· == c) u = rest) := by
  constructor
  · intro h
    refine ⟨not_mem_of_mem_splitWhere (h ▸ List.mem_cons_self ..), ?_⟩
    by_cases hc : c ∈ s
    · obtain ⟨a, u, rfl, ha⟩ := List.eq_append_cons_of_mem hc
      rw [splitWhere_append (f := (· == c)) (beq_self_eq_true c), splitWhere_of_not_mem ha] at h
      obtain ⟨rfl, hrest⟩ := List.cons.inj h
      exact .inr ⟨u, rfl, hrest⟩
    · rw [splitWhere_of_not_mem hc] at h
      obtain ⟨rfl, rfl⟩ := List.cons.inj h
      exact .inl ⟨rfl, rfl⟩
  · rintro ⟨hpiece, ⟨rfl, rfl⟩ | ⟨u, rfl, rfl⟩⟩
    · exact splitWhere_of_not_mem hpiece
    · rw [splitWhere_append (f := (· == c)) (beq_self_eq_true c), splitWhere_of_not_mem hpiece]
      rfl

/-- A text is cut at a character that does not stand before. -/
theorem splitFirst?_append {c : Char} {a : List Char} (h : c ∉ a) (b : List Char) :
    splitFirst? c (a ++ c :: b) = some (a, b) := by
  induction a with
  | nil => simp [splitFirst?]
  | cons d a ih =>
    rw [List.mem_cons, not_or] at h
    rw [List.cons_append, splitFirst?, if_neg (Ne.symm h.1), ih h.2]
    rfl

/-- A text is cut at a character that does not stand behind. -/
theorem splitLast?_append {c : Char} {b : List Char} (h : c ∉ b) (a : List Char) :
    splitLast? c (a ++ c :: b) = some (a, b) := by
  have hr : (a ++ c :: b).reverse = b.reverse ++ c :: a.reverse := by simp
  rw [splitLast?, hr, splitFirst?_append (by simpa using h)]
  simp

/-- **Nothing is lost by a cut:** the parts and the separator give the text back. -/
theorem splitFirst?_eq_some {c : Char} {s a b : List Char} (h : splitFirst? c s = some (a, b)) :
    s = a ++ c :: b ∧ c ∉ a := by
  induction s generalizing a b with
  | nil => simp [splitFirst?] at h
  | cons d s ih =>
    unfold splitFirst? at h
    split at h
    · next hd => simp only [Option.some.injEq, Prod.mk.injEq] at h; simp [← h.1, ← h.2, hd]
    · next hd =>
      obtain ⟨⟨a', b'⟩, h', he⟩ := Option.map_eq_some_iff.1 h
      simp only [Prod.mk.injEq] at he
      obtain ⟨rfl, rfl⟩ := he
      obtain ⟨h1, h2⟩ := ih h'
      exact ⟨by simp [h1], by simp [h2, Ne.symm hd]⟩

/-- **A text is cut** exactly if the separator stands in it. -/
theorem splitFirst?_eq_none_iff {c : Char} {s : List Char} : splitFirst? c s = none ↔ c ∉ s := by
  constructor
  · intro hnone hmem
    obtain ⟨a, b, rfl, ha⟩ := List.eq_append_cons_of_mem hmem
    rw [splitFirst?_append ha] at hnone
    cases hnone
  · refine fun h => Option.eq_none_iff_forall_ne_some.2 fun (a, b) hsome => h ?_
    rw [(splitFirst?_eq_some hsome).1]
    exact List.mem_append_right _ (.head _)

/-- **A run ends** at the first character without the property. -/
theorem takeWhile_append_stop {p : Char → Bool} {s rest : List Char} (h : ∀ c ∈ s, p c)
    (hrest : ∀ c ∈ rest.head?, p c = false) :
    (s ++ rest).takeWhile p = s ∧ (s ++ rest).dropWhile p = rest := by
  rw [List.takeWhile_append_of_pos h, List.dropWhile_append_of_pos h]
  cases rest with
  | nil => simp
  | cons c rest => simp [hrest c rfl]

end Text
end Pagewright
