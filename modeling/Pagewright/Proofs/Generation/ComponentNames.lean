/-
# The component of a page

The directory of a page is named for the page, with a number behind the name where it is taken, and
the component of the page is named for the directory:

| page | directory | component |
| --- | --- | --- |
| `Über uns!` | `beruns` | `Beruns` |
| `3D` | `page-3d` | `Page3d` |
| `_2x` | `_2x` | `Page2x` |
| `--`, the second one | `---2` | `Page2` |

A directory name has no digit in front and otherwise its own few characters, and these names are
exactly those that stay as they are (`directoryName_eq_self_iff`). What is between the separators of
such a name are letters and digits, and a word of these, capitalized, has a capital or a digit in
front; so has a text of such words (`isCapital_pascalChars`), and a digit gets `Page` in front of
it. A component therefore begins with a capital, which no reserved word does, and its name can be
declared (`componentName_declared`). Whether the page imports something under the same name is
another matter.
-/

import Pagewright.Proofs.Generation.Preview
import Pagewright.Proofs.Generation.Routes
import Pagewright.Proofs.Generation.Statements

namespace Pagewright

namespace Naming

open Generation (IsSegment isSegment_directoryName)

variable {s : List Char} {name : String}

/-! ## Directory names -/

/-- A name that a directory gets: small letters, digits, `_` and `-`, no digit in front. -/
def IsDirectoryName (name : String) : Prop :=
  ∃ c rest, name.toList = c :: rest ∧ (isAsciiLower c ∨ c = '_' ∨ c = '-') ∧
    ∀ d ∈ rest, isAsciiLower d ∨ isAsciiDigit d ∨ d = '_' ∨ d = '-'

/-- A directory name is a segment without a digit in front. -/
theorem isDirectoryName_iff :
    IsDirectoryName name ↔ IsSegment name ∧ ∀ c ∈ name.toList.head?, ¬ isAsciiDigit c := by
  have hfront {c : Char} (hc : isAsciiLower c ∨ c = '_' ∨ c = '-') :
      isDirectoryChar c ∧ ¬ isAsciiDigit c := by
    rcases hc with hc | rfl | rfl
    · refine ⟨isDirectoryChar_iff.2 (.inl hc), fun hd => ?_⟩
      rw [isAsciiLower_iff_toNat] at hc
      rw [isAsciiDigit_iff_toNat] at hd
      omega
    · decide
    · decide
  constructor
  · rintro ⟨c, rest, hname, hc, hrest⟩
    refine ⟨⟨?_, ?_⟩, ?_⟩
    · rintro rfl
      cases hname
    · rw [hname]
      exact List.forall_mem_cons.2
        ⟨(hfront hc).1, fun d hd => isDirectoryChar_iff.2 (hrest d hd)⟩
    · rw [hname]
      rintro _ ⟨⟩
      exact (hfront hc).2
  · rintro ⟨hsegment, hhead⟩
    cases hname : name.toList with
    | nil => exact absurd (String.toList_eq_nil_iff.1 hname) hsegment.ne_empty
    | cons c rest =>
      have hchars := hsegment.chars
      rw [hname] at hchars hhead
      obtain ⟨hc, hrest⟩ := List.forall_mem_cons.1 hchars
      have hc' := (isDirectoryChar_iff.1 hc).imp_right (Or.resolve_left · (hhead c rfl))
      exact ⟨c, rest, hname, hc', fun d hd => isDirectoryChar_iff.1 (hrest d hd)⟩

/-- **Any name is made a directory name.** -/
theorem isDirectoryName_directoryName (name : String) : IsDirectoryName (directoryName name) := by
  refine isDirectoryName_iff.2 ⟨isSegment_directoryName name, ?_⟩
  unfold directoryName
  split
  · simp [isAsciiDigit]
  · split
    · simp [isAsciiDigit]
    · next hc => simpa using hc

/-- **Lower case keeps** the characters of ASCII that are no capitals. -/
theorem lowercaseAfter_eq_self (before : List Char)
    (h : ∀ c ∈ s, c.toNat < 128 ∧ ¬ isAsciiUpper c) : Text.lowercaseAfter before s = s := by
  induction s generalizing before with
  | nil => rfl
  | cons c s ih =>
    obtain ⟨⟨hascii, hsmall⟩, hs⟩ := List.forall_mem_cons.1 h
    -- Only a capital sigma looks at its neighbours.
    have hsigma : c ≠ 'Σ' := by
      rintro rfl
      exact absurd hascii (by decide)
    rw [Text.lowercaseAfter, ih (c :: before) hs, if_neg hsigma, Text.lower, if_pos hascii,
      (toLower_eq_self_iff c).2 hsmall]
    rfl

/-- A directory name has no capitals to lower. -/
theorem lowercase_eq_self (h : ∀ c ∈ name.toList, isDirectoryChar c) :
    Text.lowercase name = name := by
  have hsmall : ∀ c ∈ name.toList, c.toNat < 128 ∧ ¬ isAsciiUpper c := by
    intro c hc
    have hc := isDirectoryChar_iff.1 (h c hc)
    rw [isAsciiUpper_iff_toNat]
    rw [isAsciiLower_iff_toNat, isAsciiDigit_iff_toNat] at hc
    rcases hc with hc | hc | rfl | rfl
    · omega
    · omega
    · decide
    · decide
  rw [Text.lowercase, lowercaseAfter_eq_self [] hsmall, String.ofList_toList]

/-- **The names that stay as they are** are the directory names. -/
theorem directoryName_eq_self_iff : directoryName name = name ↔ IsDirectoryName name := by
  constructor
  · intro h
    exact h ▸ isDirectoryName_directoryName name
  · intro h
    obtain ⟨hsegment, hhead⟩ := isDirectoryName_iff.1 h
    have hkept : (Text.lowercase name).toList.filter isDirectoryChar = name.toList := by
      rw [lowercase_eq_self hsegment.chars]
      exact List.filter_eq_self.2 hsegment.chars
    obtain ⟨c, rest, hname, -, -⟩ := h
    rw [hname] at hkept hhead
    rw [directoryName, hkept]
    dsimp only
    rw [if_neg (hhead c rfl), ← hname, String.ofList_toList]

/-! ## Component names -/

/-- A name that a component gets: a capital, then letters and digits. -/
def IsComponentName (name : String) : Prop :=
  ∃ c rest, name.toList = c :: rest ∧ isAsciiUpper c ∧ ∀ d ∈ rest, isAsciiAlphanumeric d

/-- Letters and digits without a small letter in front. -/
structure IsCapital (s : List Char) : Prop where
  chars : ∀ c ∈ s, isAsciiAlphanumeric c
  head : ∀ c ∈ s.head?, isAsciiUpper c ∨ isAsciiDigit c

theorem isCapital_nil : IsCapital [] := ⟨List.forall_mem_nil _, by simp⟩

/-- Two such texts are one. -/
theorem IsCapital.append {s t : List Char} (hs : IsCapital s) (ht : IsCapital t) :
    IsCapital (s ++ t) where
  chars := List.forall_mem_append.2 ⟨hs.chars, ht.chars⟩
  head := by
    cases s with
    | nil => exact ht.head
    | cons c s => exact hs.head

/-- So are any number of them. -/
theorem isCapital_flatMap {f : List Char → List Char} {pieces : List (List Char)}
    (h : ∀ piece ∈ pieces, IsCapital (f piece)) : IsCapital (pieces.flatMap f) := by
  induction pieces with
  | nil => exact isCapital_nil
  | cons piece pieces ih =>
    obtain ⟨hpiece, hpieces⟩ := List.forall_mem_cons.1 h
    exact hpiece.append (ih hpieces)

/-- A capital or a digit may stand in front of letters and digits. -/
theorem isCapital_cons {c : Char} (hc : isAsciiUpper c ∨ isAsciiDigit c)
    (hs : ∀ d ∈ s, isAsciiAlphanumeric d) : IsCapital (c :: s) where
  chars := by
    refine List.forall_mem_cons.2 ⟨?_, hs⟩
    rw [isAsciiAlphanumeric, isAsciiLetter, Bool.or_eq_true, Bool.or_eq_true]
    exact hc.imp_left .inr
  head := by
    rintro _ ⟨⟩
    exact hc

/-- In upper case a letter is a capital, and a digit stays one. -/
theorem exists_upper {c : Char} (h : isAsciiAlphanumeric c) :
    ∃ d, Text.upper c = [d] ∧ (isAsciiUpper d ∨ isAsciiDigit d) := by
  have hall : ∀ n < 128, isAsciiAlphanumeric (Char.ofNat n) →
      isAsciiUpper (Char.ofNat n).toUpper ∨ isAsciiDigit (Char.ofNat n).toUpper := by
    decide
  have hascii : c.toNat < 128 :=
    Nat.lt_of_le_of_lt (range_of_isAsciiAlphanumeric h).2 (by decide)
  have hupper := hall c.toNat hascii
  rw [Char.ofNat_toNat] at hupper
  exact ⟨c.toUpper, if_pos hascii, hupper h⟩

/-- **A word of letters and digits**, capitalized. -/
theorem isCapital_capitalize (h : ∀ c ∈ s, isAsciiAlphanumeric c) : IsCapital (capitalize s) := by
  cases s with
  | nil => exact isCapital_nil
  | cons c rest =>
    obtain ⟨hc, hrest⟩ := List.forall_mem_cons.1 h
    obtain ⟨d, hupper, hd⟩ := exists_upper hc
    rw [capitalize, hupper]
    exact isCapital_cons hd hrest

/-- **The words of a name** of letters, digits and separators, joined. -/
theorem isCapital_pascalChars (h : ∀ c ∈ s, isAsciiAlphanumeric c ∨ isSeparator c) :
    IsCapital (pascalChars s) := by
  refine isCapital_flatMap fun piece hpiece => isCapital_capitalize fun c hc => ?_
  obtain ⟨hmem, hcut⟩ := Text.of_mem_splitWhere hpiece c hc
  exact (h c hmem).resolve_right hcut

/-- **A component** of a name of letters, digits and separators, even of none, has a component
name. -/
theorem isComponentName_componentName
    (h : ∀ c ∈ name.toList, isAsciiAlphanumeric c ∨ isSeparator c) :
    IsComponentName (componentName name) := by
  have hcapital := isCapital_pascalChars h
  have hpage : ∀ c ∈ "age".toList, isAsciiAlphanumeric c := by
    simp [isAsciiAlphanumeric, isAsciiLetter, isAsciiLower]
  unfold componentName
  split
  · exact ⟨'P', "age".toList, rfl, by decide, hpage⟩
  · next c rest hname =>
    rw [hname] at hcapital
    split
    · refine ⟨'P', "age".toList ++ c :: rest, by simp, by decide, ?_⟩
      exact List.forall_mem_append.2 ⟨hpage, hcapital.chars⟩
    · next hc =>
      exact ⟨c, rest, String.toList_ofList, (hcapital.head c rfl).resolve_right hc,
        (List.forall_mem_cons.1 hcapital.chars).2⟩

/-- **The component of a segment** has a component name. -/
theorem isComponentName_of_isSegment (h : IsSegment name) :
    IsComponentName (componentName name) := by
  refine isComponentName_componentName fun c hc => ?_
  rcases isDirectoryChar_iff.1 (h.chars c hc) with hc | hc | rfl | rfl
  · exact .inl (by simp [isAsciiAlphanumeric, isAsciiLetter, hc])
  · exact .inl (by simp [isAsciiAlphanumeric, hc])
  · exact .inr (by decide)
  · exact .inr (by decide)

example :
    ["Über uns!", "3D", "_2x", "--"].map (fun name =>
      (directoryName name, componentName (directoryName name))) =
      [("beruns", "Beruns"), ("page-3d", "Page3d"), ("_2x", "Page2x"), ("--", "Page")] := by
  decide

/-- **No reserved word** begins with a capital. -/
theorem isCapitalized_of_reserved :
    ∀ word ∈ Manifest.reservedWords, Manifest.isCapitalized word = false := by
  decide

/-- A component name may be a tag. -/
theorem IsComponentName.isReference (h : IsComponentName name) : Manifest.IsReference name := by
  obtain ⟨c, rest, hname, hc, hrest⟩ := h
  refine ⟨⟨c, rest, hname, hc, fun d hd => .inl (hrest d hd)⟩, fun hreserved => ?_⟩
  have hsmall := isCapitalized_of_reserved name hreserved
  rw [Manifest.isCapitalized, hname, List.head?_cons, Option.any_some, hc] at hsmall
  cases hsmall

/-- A component name may be bound. -/
theorem IsComponentName.isBindingName (h : IsComponentName name) : Script.isBindingName name :=
  h.isReference.isBindingName

end Naming

/-! ## Function declarations -/

namespace Script

open Source.Jsx (isIdentifierPart)

/-- The text behind a mark and the gap that follows it. -/
def readMark (mark : Char) : List Char → Option (List Char)
  | [] => none
  | c :: l => if c = mark then some (skipGap l) else none

/-- The name of a function without parameters that a text declares as the default export, and
what is behind the brace that opens the function's body. -/
def readFunction (l : List Char) : Option (String × List Char) := do
  let l ← readKeyword "export" l
  let l ← readKeyword "default" l
  let l ← readKeyword "function" l
  let (name, l) ← readName l
  let l ← readMark '(' l
  let l ← readMark ')' l
  let l ← readMark '\x7b' l
  some (name, l)

/-- A function without parameters as the default export. -/
def functionText (name body : String) : String :=
  "export default function " ++ name ++ "() \x7b\n" ++ body ++ "\x7d\n"

/-- A name that is read may be bound. -/
theorem isBindingName_of_readName {l rest : List Char} {name : String}
    (h : readName l = some (name, rest)) : isBindingName name := by
  rw [readName] at h
  split at h
  · next hname =>
    rw [Option.some.inj h] at hname
    exact hname
  · cases h

/-- The declaration of a function, word by word. -/
theorem toList_functionText (name body : String) :
    (functionText name body).toList =
      "export".toList ++ ' ' :: ("default".toList ++ ' ' :: ("function".toList ++
        ' ' :: (name.toList ++ '(' :: ')' :: ' ' :: '\x7b' :: '\n' ::
          (body ++ "\x7d\n").toList))) := by
  have hwords : "export default function ".toList =
      "export".toList ++ ' ' :: ("default".toList ++ ' ' :: ("function".toList ++ [' '])) := rfl
  have hbrace : "() \x7b\n".toList = ['(', ')', ' ', '\x7b', '\n'] := rfl
  unfold functionText
  simp only [String.toList_append, hwords, hbrace, List.append_assoc, List.cons_append,
    List.nil_append]

/-- **When a function is declared:** its name is read exactly if it may be bound. -/
theorem readFunction_functionText_iff {name body : String} :
    readFunction (functionText name body).toList =
        some (name, skipGap (body ++ "\x7d\n").toList) ↔
      isBindingName name := by
  have hkeyword (word : String) (hne : word.toList ≠ [])
      (hword : word.toList.all isIdentifierPart) (rest : List Char) :
      readKeyword word (skipGap (word.toList ++ ' ' :: rest)) = some (skipGap rest) := by
    rw [skipGap_word hne (List.all_eq_true.1 hword), readKeyword_space hword]
  have hdefault := hkeyword "default" (by simp) rfl
  have hfunction := hkeyword "function" (by simp) rfl
  rw [toList_functionText, readFunction, readKeyword_space rfl]
  simp only [Option.bind_eq_bind, Option.bind_some, hdefault, hfunction]
  constructor
  · -- Whatever is read as the name may be bound.
    intro h
    obtain ⟨⟨word, l⟩, hword, h⟩ := Option.bind_eq_some_iff.1 h
    obtain ⟨_, -, h⟩ := Option.bind_eq_some_iff.1 h
    obtain ⟨_, -, h⟩ := Option.bind_eq_some_iff.1 h
    obtain ⟨_, -, h⟩ := Option.bind_eq_some_iff.1 h
    obtain rfl := congrArg Prod.fst (Option.some.inj h)
    exact isBindingName_of_readName hword
  · intro h
    rw [skipGap_append h, readName_append h (by simpa using by decide)]
    rfl

end Script

namespace Generation

open Naming (IsComponentName IsDirectoryName componentName directoryName)
open Script (functionText isBindingName readFunction skipGap)
open Source (Import importLines)

/-! ## The components of pages -/

/-- The directories that a page may get for its name: the name itself as a directory name, or with
a number behind it. -/
def IsDirectoryFor (name dir : String) : Prop :=
  dir = directoryName name ∨ ∃ n, dir = numbered (directoryName name) n

/-- A directory for a page is a segment of a path. -/
theorem IsDirectoryFor.isSegment {name dir : String} (h : IsDirectoryFor name dir) :
    IsSegment dir := by
  rcases h with rfl | ⟨n, rfl⟩
  · exact isSegment_directoryName name
  · exact (isSegment_directoryName name).numbered n

/-- The directory that a page is assigned is one for its name. -/
theorem Assigned.isDirectoryFor {taken : List String} {name dir : String}
    (h : Assigned taken (directoryName name) dir) : IsDirectoryFor name dir := by
  rcases h with ⟨-, hdir⟩ | ⟨-, n, -, -, hdir, -⟩
  · exact .inl hdir
  · exact .inr ⟨n, hdir⟩

variable {r : Registry} {p : Platform} {pages : List Page} {config : Project.Config}
  {placed : List Placed} {code : Project.Sources}

/-- A page file ends with the function of its component. -/
theorem exists_render_pageFile (name : String) (imports : Imports) (root : Markup) :
    ∃ body, (Source.pageFile name imports root).render =
      importLines (Import.ofImports imports) ++
        (if (Import.ofImports imports).isEmpty then "" else "\n") ++
        functionText (componentName name) body := by
  refine ⟨"  return (\n" ++ Source.textOfAll default 2 (Source.Jsx.fragments root) ++ "  );\n", ?_⟩
  rw [Source.pageFile_render_eq, Source.textOfAll_functionComponent]
  unfold functionText
  simp only [String.append_assoc]

/-- **The code of a page** is its import statements, a blank line if there are any, and the
function of its component. -/
theorem Placing.exists_functionText (h : Placing r p pages placed) {e : Placed} (he : e ∈ placed) :
    ∃ body, e.source.code = importLines (Import.ofImports e.source.imports) ++
      (if (Import.ofImports e.source.imports).isEmpty then "" else "\n") ++
      functionText (componentName e.name) body := by
  obtain ⟨root, -, houtput⟩ := h.exists_pageOf he
  rw [Placed.source, houtput]
  exact exists_render_pageFile ..

/-- **Every page declares its component.** Whatever a page is called, its name as a directory name
is small letters, digits, `_` and `-` without a digit in front, and a name is its own directory
name exactly if it is like this; the component of each directory that the page may get is named by
a capital and letters and digits behind it, so this is an identifier and no reserved word.

A project that is generated has its pages under such directories. The code of each page consists of
the import statements, a blank line if there are any, and a text that is read as the function
declaration of this component. -/
theorem componentName_declared :
    (∀ name, IsDirectoryName (directoryName name) ∧
      directoryName (directoryName name) = directoryName name ∧
      (directoryName name = name ↔ IsDirectoryName name)) ∧
    (∀ name dir, IsDirectoryFor name dir →
      IsComponentName (componentName dir) ∧ isBindingName (componentName dir)) ∧
    ∀ r pages p config code, generateProject r pages p config = .ok code →
      ∃ placed : List Placed,
        placed.map Placed.page = pages ∧
        code.pages.entries = placed.map (fun e => (e.route, e.source)) ∧
        ∀ e ∈ placed, IsDirectoryFor e.page.name e.name ∧
          ∃ body,
            e.source.code = importLines (Import.ofImports e.source.imports) ++
              (if (Import.ofImports e.source.imports).isEmpty then "" else "\n") ++
              functionText (componentName e.name) body ∧
            readFunction (functionText (componentName e.name) body).toList =
              some (componentName e.name, skipGap (body ++ "\x7d\n").toList) := by
  have hdirectory (name : String) := Naming.isDirectoryName_directoryName name
  have hcomponent : ∀ name dir, IsDirectoryFor name dir →
      IsComponentName (componentName dir) ∧ isBindingName (componentName dir) := by
    intro name dir h
    have hname := Naming.isComponentName_of_isSegment h.isSegment
    exact ⟨hname, hname.isBindingName⟩
  refine ⟨fun name => ⟨hdirectory name, Naming.directoryName_eq_self_iff.2 (hdirectory name),
    Naming.directoryName_eq_self_iff⟩, hcomponent, fun r pages p config code h => ?_⟩
  obtain ⟨placed, hplacing, rfl⟩ := generateProject_eq_ok_iff.1 h
  refine ⟨placed, hplacing.map_page, hplacing.entries_pages, fun e he => ?_⟩
  obtain ⟨before, after, hsplit⟩ := List.append_of_mem he
  have hfor := (hplacing.assigned hsplit).isDirectoryFor
  obtain ⟨body, hcode⟩ := hplacing.exists_functionText he
  exact ⟨hfor, body, hcode, Script.readFunction_functionText_iff.2 (hcomponent _ _ hfor).2⟩

/-- The hypotheses of `componentName_declared` are satisfiable: by a name that begins with a digit
and gets a number, and by three pages of which the second is in the way of the third. -/
theorem homePages_declared :
    IsDirectoryFor "3D" "page-3d-2" ∧ IsComponentName "Page3d2" ∧ isBindingName "Page3d2" ∧
      ∃ code, generateProject .standard homePages .h5 (.new "site" .h5) = .ok code ∧
        ∃ placed : List Placed, placed.map Placed.page = homePages ∧
        ∀ e ∈ placed, ∃ body,
          readFunction (functionText (componentName e.name) body).toList =
            some (componentName e.name, skipGap (body ++ "\x7d\n").toList) := by
  obtain ⟨code, hcode⟩ := exists_homePages
  obtain ⟨-, hcomponent, hproject⟩ := componentName_declared
  have hdir : IsDirectoryFor "3D" "page-3d-2" := .inr ⟨2, by decide⟩
  have hname : componentName "page-3d-2" = "Page3d2" := by decide
  obtain ⟨hshape, hbinding⟩ := hcomponent "3D" "page-3d-2" hdir
  obtain ⟨placed, hpages, -, hdeclared⟩ := hproject _ _ _ _ _ hcode
  rw [hname] at hshape hbinding
  refine ⟨hdir, hshape, hbinding, code, hcode, placed, hpages, fun e he => ?_⟩
  obtain ⟨-, body, -, hread⟩ := hdeclared e he
  exact ⟨body, hread⟩

end Generation
end Pagewright
