/-
# Transforms at once and in emitted code

A transform is applied to a literal at once, and around code it is written into the emitted
source. Both agree on a value if the code that is written around the source text of the value
evaluates to what the literal becomes (`Agrees`).

They agree on null, the booleans and every string for a choice between such values, for the
negation and for the wrapping under any key. For a template they agree exactly if the template
is faithful: it has no backslash, no carriage return and no `${` but in `${}`
(`agrees_iff`). Only backticks are escaped in the template literal, so a template such as `C:\{}`
becomes another text in emitted code (`not_agrees_backslash`).
-/

import Pagewright.Proofs.Mapping.Templates

namespace Pagewright
namespace Transform

open Script (Scalar)

/-- A transform that is declared, with constants that are null, a boolean or a string. -/
inductive Declarative where
  | choose (equals thenValue otherwise : Scalar)
  | template (text : String)
  | not
  | wrap (key : String)

/-- The transform that is declared. -/
def Declarative.transform : Declarative → Transform
  | .choose equals thenValue otherwise => .choose equals.toJson thenValue.toJson otherwise.toJson
  | .template text => .template text
  | .not => .not
  | .wrap key => .wrap key

/-- The value that a prop value has when the emitted code runs. -/
def valueOf : PropValue → Option Json
  | .literal v => some v
  | .expression code => Script.evaluate code.toList

/-- The transform makes of the source text of a value code that evaluates to what it makes of
the value. -/
def Agrees (t : Transform) (v : Scalar) : Prop :=
  valueOf (t.run (.expression (PropValue.literal v.toJson).source)) =
    valueOf (t.run (.literal v.toJson))

/-! ## Values at once and in code -/

/-- Two values are the same as JSON exactly if they are equal. -/
theorem same_toJson (v a : Scalar) : v.toJson.same a.toJson = decide (v = a) := by
  cases v <;> cases a <;> simp [Scalar.toJson, Json.same, beq_eq_decide]

/-- A value counts as true in JSON as it does by itself. -/
theorem isTruthy_toJson (v : Scalar) : (PropValue.literal v.toJson).isTruthy = v.isTruthy := by
  cases v <;> simp [Scalar.toJson, PropValue.isTruthy, Scalar.isTruthy, bne, beq_eq_decide]

/-- A value has the same text in JSON as by itself. -/
theorem literalText_toJson (v : Scalar) : (literalText v.toJson).toList = v.text := by
  cases v with
  | null => rfl
  | bool b => cases b <;> rfl
  | string s => rfl

/-! ## Each transform -/

/-- A transform agrees exactly if its code evaluates to what it makes at once. -/
theorem agrees_iff_evaluate {t : Transform} {v : Scalar} {code : String} {w : Json}
    (hcode : t.run (.expression (PropValue.literal v.toJson).source) = .expression code)
    (hvalue : t.run (.literal v.toJson) = .literal w) :
    Agrees t v ↔ Script.evaluate code.toList = some w := by
  rw [Agrees, hcode, hvalue, valueOf, valueOf]

/-- A choice agrees for every value. -/
theorem agrees_choose (v a b c : Scalar) : Agrees (.choose a.toJson b.toJson c.toJson) v := by
  have hcode : ("(" ++ v.toJson.compact ++ ") === " ++ a.toJson.compact ++ " ? " ++
      b.toJson.compact ++ " : " ++ c.toJson.compact).toList =
      '(' :: (v.source ++ (") === ".toList ++ (a.source ++ (" ? ".toList ++ (b.source ++
        (" : ".toList ++ c.source)))))) := by
    simp [Scalar.source]
  refine (agrees_iff_evaluate rfl rfl).2 ?_
  rw [PropValue.source, hcode, Script.evaluate_choice, same_toJson]
  by_cases h : v = a <;> simp [h]

/-- A negation agrees for every value. -/
theorem agrees_not (v : Scalar) : Agrees .not v := by
  have hcode : ("!(" ++ v.toJson.compact ++ ")").toList = '!' :: '(' :: (v.source ++ [')']) := by
    simp [Scalar.source]
  refine (agrees_iff_evaluate rfl rfl).2 ?_
  rw [PropValue.source, hcode, Script.evaluate_negation, isTruthy_toJson]

/-- Wrapping under a key agrees for every value. -/
theorem agrees_wrap (key : String) (v : Scalar) : Agrees (.wrap key) v := by
  have hcode : ("\x7b " ++ Json.quote key ++ ": " ++ v.toJson.compact ++ " \x7d").toList =
      '\x7b' :: ' ' ::
        ((Scalar.string key).source ++ (':' :: ' ' :: (v.source ++ [' ', '\x7d']))) := by
    simp [Scalar.source, Scalar.toJson, Json.compact]
  refine (agrees_iff_evaluate rfl rfl).2 ?_
  rw [PropValue.source, hcode, Script.evaluate_object]

/-- A template agrees exactly if its template literal is its text with the holes filled. -/
theorem agrees_template_iff (text : String) (v : Scalar) :
    Agrees (.template text) v ↔
      Script.evaluate ('\x60' :: written v.source (parts text.toList)) =
        some (.string (String.ofList ((parts text.toList).flatMap (fillPart v.text)))) := by
  have hslot : ("$\x7b" ++ v.toJson.compact ++ "\x7d").toList =
      '$' :: '\x7b' :: (v.source ++ ['\x7d']) := by
    simp [Scalar.source]
  have hcode (body : List Char) : ("\x60" ++ String.ofList body ++ "\x60").toList =
      '\x60' :: (body ++ ['\x60']) := by
    simp
  rw [agrees_iff_evaluate rfl rfl, hcode, PropValue.source, hslot, fill_escaped_eq,
    fill_eq_flatMap, literalText_toJson, written]

/-- **A template agrees with its template literal** on every value exactly if it is faithful;
otherwise not on a backtick. -/
theorem forall_agrees_template_iff (text : String) :
    (∀ v, Agrees (.template text) v) ↔ IsFaithful text.toList := by
  simp only [isFaithful_iff_plainParts, agrees_template_iff, Script.evaluate_template_eq_some_iff]
  constructor
  · intro h
    obtain ⟨pieces, hcook, hassemble⟩ := h tick
    exact (bounded _ pieces hcook).2 hassemble
  · intro h v
    exact ⟨_, cook_written v h, Json.assemble_map_plain _⟩

/-- **Which transforms agree with the code they are written into:** all declared ones but
templates that are not faithful. -/
theorem agrees_iff (t : Declarative) :
    (∀ v, Agrees t.transform v) ↔ ∀ text, t = .template text → IsFaithful text.toList := by
  cases t with
  | choose a b c => exact ⟨fun _ => nofun, fun _ v => agrees_choose v a b c⟩
  | template text =>
    simp only [Declarative.template.injEq, forall_eq']
    exact forall_agrees_template_iff text
  | not => exact ⟨fun _ => nofun, fun _ v => agrees_not v⟩
  | wrap key => exact ⟨fun _ => nofun, fun _ v => agrees_wrap key v⟩

/-- **A backslash is lost in emitted code:** the template `C:\{}` makes `C:\x` of the text `x`,
and around its source text a template literal in which the backslash escapes the substitution. -/
theorem not_agrees_backslash :
    (Transform.template "C:\\\x7b\x7d").run (.literal (.string "x")) = .literal (.string "C:\\x") ∧
      (Transform.template "C:\\\x7b\x7d").run (.expression "\"x\"") =
        .expression "`C:\\$\x7b\"x\"\x7d`" ∧
      Script.evaluate "`C:\\$\x7b\"x\"\x7d`".toList = some (.string "C:$\x7b\"x\"\x7d") ∧
      ¬ Agrees (.template "C:\\\x7b\x7d") (.string "x") := by
  have hescape : Script.readEscape "$\x7b\"x\"\x7d`".toList =
      some ([.plain '$'], "\x7b\"x\"\x7d`".toList) := rfl
  have hcook : Script.cook ('C' :: ':' :: '\\' :: "$\x7b\"x\"\x7d`".toList) =
      some ("C:$\x7b\"x\"\x7d".toList.map .plain) := by
    rw [Script.cook_cons_of_isInert (by simp [Script.IsInert]) (by decide),
      Script.cook_cons_of_isInert (by simp [Script.IsInert]) (by decide),
      Script.cook_escape, hescape]
    simp [Script.cook]
  have hvalue : Script.evaluate "`C:\\$\x7b\"x\"\x7d`".toList =
      some (.string (String.ofList "C:$\x7b\"x\"\x7d".toList)) :=
    Script.evaluate_template_eq_some_iff.2 ⟨_, hcook, rfl⟩
  refine ⟨rfl, rfl, hvalue, fun hagrees => ?_⟩
  have hx : Script.evaluate "`C:\\$\x7b\"x\"\x7d`".toList = some (.string "C:\\x") :=
    (agrees_iff_evaluate rfl rfl).1 hagrees
  exact absurd (hvalue.symm.trans hx) (by decide)

end Transform
end Pagewright
