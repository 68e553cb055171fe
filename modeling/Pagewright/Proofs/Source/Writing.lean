/-
# What a writer writes

A step of a writer appends a text to what is written, and the text depends on the unit
of indentation and the level alone (`Writes`). Steps that do so can be put one after the
other (`Writes.andThen`), repeated over a list (`writes_foldl`) and put into a block
(`Writes.block`); the smallest is a line (`writes_line`).
-/

import Pagewright.Source.Fragment

namespace Pagewright
namespace Source

/-- A step writes a text at a level: it appends the text to any other and stays at the level. -/
def Writes (i : Indent) (n : Nat) (step : Writer → Writer) (s : String) : Prop :=
  ∀ text, step ⟨i, n, text⟩ = ⟨i, n, text ++ s⟩

/-- A line of text at a level. -/
def lineAt (i : Indent) (n : Nat) (s : String) : String :=
  String.join (List.replicate n i.text) ++ s ++ "\n"

variable {i : Indent} {n : Nat} {s t : String}

/-- A line that is not empty is written with its indentation. -/
theorem writes_line (h : s ≠ "") : Writes i n (·.line s) (lineAt i n s) := by
  intro text
  change Writer.line ⟨i, n, text⟩ s = _
  rw [Writer.line, if_neg (by simpa using h)]
  rfl

theorem Writes.of_eq {f : Writer → Writer} (h : Writes i n f s) (he : s = t) : Writes i n f t :=
  he ▸ h

/-- **One writer after the other** writes one text behind the other. -/
theorem Writes.andThen {f g : Writer → Writer} (hf : Writes i n f s) (hg : Writes i n g t) :
    Writes i n (fun w => g (f w)) (s ++ t) := by
  intro text
  dsimp only
  rw [hf, hg, String.append_assoc]

/-- **A step for each member of a list** writes what the steps write, in order. -/
theorem writes_foldl {α : Type u} {f : Writer → α → Writer} {g : α → String}
    (h : ∀ a, Writes i n (f · a) (g a)) (l : List α) :
    Writes i n (fun w => l.foldl f w) (String.join (l.map g)) := by
  intro text
  induction l generalizing text with
  | nil => simp [String.join]
  | cons a l ih =>
    have ha : f ⟨i, n, text⟩ a = ⟨i, n, text ++ g a⟩ := h a text
    dsimp only at ih ⊢
    rw [List.foldl_cons, ha, ih, List.map_cons, String.join_cons, String.append_assoc]

/-- **A block** writes its header, what its body writes one level deeper, and its close. -/
theorem Writes.block {body : Writer → Writer} {header close : String} (hh : header ≠ "")
    (hc : close ≠ "") (hb : Writes i (n + 1) body s) :
    Writes i n (·.block header close body) (lineAt i n header ++ s ++ lineAt i n close) := by
  intro text
  have hheader := writes_line (i := i) (n := n) hh text
  have hclose := writes_line (i := i) (n := n) hc (text ++ lineAt i n header ++ s)
  dsimp only at hheader hclose ⊢
  rw [Writer.block, hheader, Writer.deeper, hb, Writer.shallower, Nat.add_sub_cancel, hclose]
  simp only [String.append_assoc]

end Source
end Pagewright
