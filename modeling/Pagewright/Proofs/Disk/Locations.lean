/-
# Where paths lead on a disk

A path leads through its names, which are its components but `.` (`Path.names`), to one location
below the working directory, whether the directories on the way are looked up (`follow?_eq_some`)
or made (`makeWay_eq_some`). The directory of a file is made from the parent of its path, which has
the components of what the name of the file was joined with (`components_parent?_join`). So a file
is written where the names of its path lead (`files_write_join`). It is found there as long as
everything on the disk is in a directory (`isTaken_of_isThere`), which is so at the start and after
every write (`rooted_ofTexts`, `extends_write`).

Paths that lead up with `..` are left aside: a directory that is missing in front of it stops the
look-up, but is made for a write.
-/

import Pagewright.Proofs.Disk.Places
import Pagewright.Proofs.Disk.Written
import Mathlib.Data.List.Induction

namespace Pagewright

namespace Path

variable {base path name : String}

/-- **What says nothing at the end of a path** can be taken away. -/
theorem components_dropIdle (s : List Char) :
    components (String.ofList (dropIdle s).reverse) = components (String.ofList s.reverse) := by
  have hne (c : Char) (s : List Char) : String.ofList (c :: s).reverse ≠ "" := fun h => by
    simpa using congrArg String.toList h
  fun_induction dropIdle s with
  | case1 c s ih =>
    have hcut : String.ofList ('/' :: c :: s).reverse = String.ofList (c :: s).reverse ++ "/" := by
      rw [List.reverse_cons, String.ofList_append]
    rw [ih, hcut, components_separator (hne c s)]
  | case2 c s ih =>
    have hcut : String.ofList ('.' :: '/' :: c :: s).reverse =
        String.ofList (c :: s).reverse ++ "/" ++ "." := by
      rw [List.reverse_cons, List.reverse_cons, String.ofList_append, String.ofList_append]
    have hidle : ["."].filter isComponent = [] := rfl
    rw [ih, hcut, components_append _ (by decide), components_separator (hne c s), hidle,
      List.append_nil]
  | case3 => decide
  | case4 => rfl

/-- Nothing at the end of a path that ends with a name is idle. -/
theorem dropIdle_of_isName (hname : IsName name) (before : List Char) :
    dropIdle (name.toList.reverse ++ before) = name.toList.reverse ++ before := by
  have hslash : '/' ∉ name.toList.reverse := by simpa using hname.separator
  have hdot : name.toList.reverse ≠ ['.'] := fun h => by
    have hlist : name.toList = ['.'] := by simpa using congrArg List.reverse h
    have hcomponent := hname.component
    rw [← String.ofList_toList (s := name), hlist] at hcomponent
    exact absurd hcomponent (by decide)
  obtain ⟨c, rest, hlist⟩ : ∃ c rest, name.toList.reverse = c :: rest :=
    List.exists_cons_of_ne_nil (by simpa using hname.ne_empty)
  rw [hlist] at hslash hdot ⊢
  have hsecond {s : List Char} (h : rest ++ before = '/' :: s) (hfirst : c = '.') : False := by
    cases rest with
    | nil => exact hdot (by rw [hfirst])
    | cons d rest => exact hslash (.tail _ ((List.cons.inj h).1 ▸ .head _))
  unfold dropIdle
  split
  · next h => exact absurd ((List.cons.inj h).1 ▸ .head _) hslash
  · next h => exact (hsecond (List.cons.inj h).2 (List.cons.inj h).1).elim
  · next h => exact (hsecond (List.cons.inj h).2 (List.cons.inj h).1).elim
  · rfl

/-- **The parent of a path that ends with a name** is what stands in front of the name, without
what is idle. -/
theorem parent?_of_toList (hname : IsName name) {before : List Char}
    (hpath : path.toList = before ++ name.toList)
    (hbefore : before.getLast? = none ∨ before.getLast? = some '/') :
    parent? path = some (String.ofList (dropIdle before.reverse).reverse) := by
  have hreverse : path.toList.reverse = name.toList.reverse ++ before.reverse := by
    rw [hpath, List.reverse_append]
  have hslash : ∀ c ∈ name.toList.reverse, (c != '/') = true := fun c hc => by
    rw [bne_iff_ne]
    rintro rfl
    exact hname.separator (List.mem_reverse.1 hc)
  have hrest : before.reverse.dropWhile (· != '/') = before.reverse := by
    have hhead : before.reverse.head? = before.getLast? := List.head?_reverse
    cases hlist : before.reverse with
    | nil => rfl
    | cons c rest =>
      rw [hlist, List.head?_cons] at hhead
      rcases hbefore with h | h
      · cases hhead.trans h
      · obtain rfl := Option.some.inj (hhead.trans h)
        rfl
  have hdrop : (name.toList.reverse ++ before.reverse).dropWhile (· != '/') = before.reverse := by
    rw [List.dropWhile_append_of_pos hslash, hrest]
  obtain ⟨c, rest, hlist⟩ : ∃ c rest, name.toList.reverse = c :: rest :=
    List.exists_cons_of_ne_nil (by simpa using hname.ne_empty)
  unfold parent?
  rw [hreverse, dropIdle_of_isName hname]
  split
  · next h =>
    rw [hlist] at h
    cases h
  · next h =>
    rw [hlist] at h hslash
    exact absurd (List.cons.inj h).1 (by simpa using hslash c (.head _))
  · rw [hdrop]

/-- **The parent of a path that a name was joined with** has the same components as the path. -/
theorem components_parent?_join (hname : IsName name) (base : String) :
    components ((parent? (join base name)).getD "") = components base := by
  rcases join_cases hname base with ⟨rfl, hjoin⟩ | ⟨front, hjoin, hfront⟩
  · have hpath : name.toList = [] ++ name.toList := rfl
    rw [hjoin, parent?_of_toList hname hpath (.inl rfl)]
    rfl
  · have hpath : (front ++ "/" ++ name).toList = (front ++ "/").toList ++ name.toList :=
      String.toList_append
    have hlast : (front ++ "/").toList.getLast? = some '/' := by
      rw [String.toList_append]
      exact List.getLast?_concat
    rw [hjoin, parent?_of_toList hname hpath (.inr hlast), Option.getD_some, components_dropIdle,
      List.reverse_reverse, String.ofList_toList, hfront]

/-! ## The names of a path -/

/-- The names that a path leads through: its components but `.`. -/
def names (path : String) : List String := (components path).filter (· != here)

/-- The names of a relative path are its segments that name something. -/
theorem names_eq (h : isAbsolute path = false) :
    names path = (segments path).filter isComponent := by
  obtain ⟨first, rest, hfirst⟩ := segments_eq_cons path
  have hrest : (rest.filter isComponent).filter (· != here) = rest.filter isComponent :=
    List.filter_eq_self.2 fun s hs => (Bool.and_eq_true_iff.1 (List.mem_filter.1 hs).2).2
  rw [names, components_eq hfirst, h, hfirst, List.filter_append, hrest, List.filter_cons]
  cases hempty : first.isEmpty with
  | true => simp [isComponent, hempty]
  | false =>
    by_cases hhere : first = "."
    · simp [isComponent, hhere, here]
    · simp [isComponent, hempty, hhere, here]

/-- The name that a path was joined with is behind its names. -/
theorem names_join (hname : IsName name) (base : String) :
    names (join base name) = names base ++ [name] := by
  have hkept : [name].filter (· != here) = [name] :=
    List.filter_cons_of_pos (Bool.and_eq_true_iff.1 hname.component).2
  rw [names, components_join hname, List.filter_append, hkept, names]

end Path

namespace Disk

variable {d : Disk} {location dir : List String} {segments : List String}

/-- Whether there is a file or directory at a location. -/
def isThere (d : Disk) (location : List String) : Bool :=
  d.isFile location || d.isDirectory location

/-- Every file and directory is in a directory, and so is the working directory. -/
structure Rooted (d : Disk) : Prop where
  here : d.isDirectory d.here
  parent : ∀ location name, d.isThere (location ++ [name]) → d.isDirectory location

/-- What has something below it is a directory. -/
theorem Rooted.isDirectory_of_append (h : d.Rooted) {below : List String} (hne : below ≠ [])
    (hthere : d.isThere (location ++ below)) : d.isDirectory location := by
  induction below using List.reverseRecOn with
  | nil => exact absurd rfl hne
  | append_singleton before name ih =>
    rw [← List.append_assoc] at hthere
    have hparent := h.parent _ _ hthere
    cases before with
    | nil => rwa [List.append_nil] at hparent
    | cons first rest => exact ih (by simp) (Bool.or_eq_true_iff.2 (.inr hparent))

/-! ## Looking up -/

section Follow

variable {segment : String} {rest : List String}

/-- A segment that names nothing leads nowhere else. -/
theorem follow?_cons_of_idle (h : Path.isComponent segment = false) :
    d.follow? location (segment :: rest) =
      if d.isDirectory location then d.follow? location rest else none := by
  have hidle : (segment.isEmpty || segment = ".") = true := by
    cases hempty : segment.isEmpty <;> simp_all [Path.isComponent]
  rw [follow?, if_pos hidle]
  cases d.isDirectory location <;> rfl

/-- A name leads on below a directory. -/
theorem follow?_cons_of_component (h : Path.isComponent segment) (hup : segment ≠ "..") :
    d.follow? location (segment :: rest) =
      if d.isDirectory location then d.follow? (location ++ [segment]) rest else none := by
  have hname : (segment.isEmpty || segment = ".") = false := by
    cases hempty : segment.isEmpty <;> simp_all [Path.isComponent]
  rw [follow?, hname, if_neg Bool.false_ne_true, if_neg hup]
  cases d.isDirectory location <;> rfl

end Follow

/-- **Segments that do not lead up** lead through the names among them. -/
theorem follow?_eq_some (hup : ".." ∉ segments) (h : d.follow? location segments = some dir) :
    dir = location ++ segments.filter Path.isComponent := by
  induction segments generalizing location with
  | nil => simpa [follow?] using h.symm
  | cons segment rest ih =>
    rw [List.mem_cons, not_or] at hup
    cases hcomponent : Path.isComponent segment with
    | true =>
      rw [follow?_cons_of_component hcomponent (Ne.symm hup.1)] at h
      split at h
      · rw [ih hup.2 h, List.filter_cons_of_pos hcomponent, List.append_assoc,
          List.singleton_append]
      · cases h
    | false =>
      rw [follow?_cons_of_idle hcomponent] at h
      split at h
      · rw [ih hup.2 h, List.filter_cons_of_neg (by rw [hcomponent]; exact Bool.false_ne_true)]
      · cases h

/-- **What is there is found,** if the last of the segments is a name. -/
theorem follow?_of_isThere (hd : d.Rooted) {init : List String} {name : String}
    (hname : Path.isComponent name) (hup : ".." ∉ init ++ [name])
    (hthere : d.isThere (location ++ (init ++ [name]).filter Path.isComponent)) :
    d.follow? location (init ++ [name]) =
      some (location ++ (init ++ [name]).filter Path.isComponent) := by
  have hlast : [name].filter Path.isComponent = [name] := List.filter_cons_of_pos hname
  have hdirectory : d.isDirectory location :=
    hd.isDirectory_of_append (by rw [List.filter_append, hlast]; simp) hthere
  induction init generalizing location with
  | nil =>
    rw [List.nil_append, hlast, follow?_cons_of_component hname (by simpa [eq_comm] using hup),
      if_pos hdirectory]
    rfl
  | cons segment init ih =>
    rw [List.cons_append, List.mem_cons, not_or] at hup
    rw [List.cons_append] at hthere ⊢
    have hcons := List.append_cons location segment ((init ++ [name]).filter Path.isComponent)
    cases hcomponent : Path.isComponent segment with
    | true =>
      rw [List.filter_cons_of_pos hcomponent, hcons] at hthere ⊢
      have hnext : d.isDirectory (location ++ [segment]) :=
        hd.isDirectory_of_append (by rw [List.filter_append, hlast]; simp) hthere
      rw [follow?_cons_of_component hcomponent (Ne.symm hup.1), if_pos hdirectory,
        ih hup.2 hthere hnext]
    | false =>
      rw [List.filter_cons_of_neg (by rw [hcomponent]; exact Bool.false_ne_true)] at hthere ⊢
      rw [follow?_cons_of_idle hcomponent, if_pos hdirectory, ih hup.2 hthere hdirectory]

/-- Segments of which the last says nothing lead to a directory. -/
theorem isDirectory_of_follow? {init : List String} {idle : String}
    (hidle : Path.isComponent idle = false) (h : d.follow? location (init ++ [idle]) = some dir) :
    d.isDirectory dir := by
  induction init generalizing location with
  | nil =>
    rw [List.nil_append, follow?_cons_of_idle hidle] at h
    split at h
    · next hdirectory =>
      obtain rfl := Option.some.inj h
      exact hdirectory
    · cases h
  | cons segment init ih =>
    rw [List.cons_append, follow?] at h
    split at h
    · cases h
    · split at h
      · exact ih h
      · split at h
        · split at h
          · cases h
          · exact ih h
        · exact ih h

/-! ## Making directories -/

/-- A disk with more on it: the working directory is the same, no directory is lost, and everything
is still in a directory. -/
structure Extends (d after : Disk) : Prop where
  here : after.here = d.here
  directories : ∀ location, d.isDirectory location → after.isDirectory location
  rooted : after.Rooted

/-- A disk extends itself. -/
theorem Extends.refl (hd : d.Rooted) : Extends d d := ⟨rfl, fun _ h => h, hd⟩

/-- A disk extends what the disk that it extends does. -/
theorem Extends.trans {between after : Disk} (h : Extends d between) (h' : Extends between after) :
    Extends d after where
  here := h'.here.trans h.here
  directories location hlocation := h'.directories location (h.directories location hlocation)
  rooted := h'.rooted

/-- What making directories comes to: the disk only gets more, and what is reached is a
directory. -/
structure Way (d : Disk) (made : Disk × Option (List String)) : Prop where
  extends_made : Extends d made.1
  reached : ∀ dir, made.2 = some dir → made.1.isDirectory dir

/-- Making no way leaves the disk. -/
theorem Way.nowhere (hd : d.Rooted) : Way d (d, none) := ⟨.refl hd, fun _ h => nomatch h⟩

/-- A directory that is there is reached. -/
theorem Way.already (hd : d.Rooted) (hlocation : d.isDirectory location) :
    Way d (d, some location) :=
  ⟨.refl hd, fun _ h => Option.some.inj h ▸ hlocation⟩

/-- A directory is in a directory. -/
theorem Rooted.isDirectory_dropLast (hd : d.Rooted) (hlocation : d.isDirectory location)
    (hne : location ≠ []) : d.isDirectory location.dropLast := by
  refine hd.parent _ (location.getLast hne) ?_
  rw [List.dropLast_concat_getLast hne]
  exact Bool.or_eq_true_iff.2 (.inr hlocation)

/-- One more directory. -/
def addDirectory (d : Disk) (location : List String) : Disk :=
  { d with directories := d.directories ++ [location] }

/-- One more directory is there, and no other. -/
theorem isDirectory_addDirectory {other : List String} :
    (d.addDirectory location).isDirectory other ↔ d.isDirectory other ∨ other = location := by
  simp [isDirectory, addDirectory, or_assoc]

/-- A disk with one more directory in a directory extends the disk. -/
theorem extends_addDirectory (hd : d.Rooted) (hlocation : d.isDirectory location) (name : String) :
    Extends d (d.addDirectory (location ++ [name])) where
  here := rfl
  directories _ h := isDirectory_addDirectory.2 (.inl h)
  rooted := by
    refine ⟨isDirectory_addDirectory.2 (.inl hd.here), fun place last hthere => ?_⟩
    refine isDirectory_addDirectory.2 (.inl ?_)
    rcases Bool.or_eq_true_iff.1 hthere with hfile | hdirectory
    · exact hd.parent place last (Bool.or_eq_true_iff.2 (.inl hfile))
    · rcases isDirectory_addDirectory.1 hdirectory with hold | hnew
      · exact hd.parent place last (Bool.or_eq_true_iff.2 (.inr hold))
      · obtain rfl := List.append_inj_left' hnew rfl
        exact hlocation

/-- **Making directories on the way** extends the disk, and reaches a directory. -/
theorem way_makeWay (hd : d.Rooted) (hlocation : d.isDirectory location) :
    Way d (d.makeWay location segments) := by
  induction segments generalizing d location with
  | nil => exact .already hd hlocation
  | cons segment rest ih =>
    rw [makeWay]
    split
    · exact ih hd hlocation
    · split
      · split
        · exact .nowhere hd
        · next hne => exact ih hd (hd.isDirectory_dropLast hlocation (by simpa using hne))
      · split
        · next hnext => exact ih hd hnext
        · split
          · exact .nowhere hd
          · have hnew := extends_addDirectory hd hlocation segment
            have hway := ih hnew.rooted (isDirectory_addDirectory.2 (.inr rfl))
            exact ⟨hnew.trans hway.extends_made, hway.reached⟩

/-- **Directories are made** where the names among the segments lead. -/
theorem makeWay_eq_some (hup : ".." ∉ segments) (h : (d.makeWay location segments).2 = some dir) :
    dir = location ++ segments.filter (· != Path.here) := by
  induction segments generalizing d location with
  | nil => simpa [makeWay] using h.symm
  | cons segment rest ih =>
    rw [List.mem_cons, not_or] at hup
    rw [makeWay] at h
    split at h
    · next hhere =>
      subst hhere
      rw [ih hup.2 h]
      rfl
    · next hhere =>
      have hkept : (segment :: rest).filter (· != Path.here) =
          segment :: rest.filter (· != Path.here) :=
        List.filter_cons_of_pos (bne_iff_ne.2 hhere)
      rw [if_neg (Ne.symm hup.1)] at h
      rw [hkept, List.append_cons]
      split at h
      · exact ih hup.2 h
      · split at h
        · cases h
        · exact ih hup.2 h

/-! ## Making the directory of a path -/

variable {path : String}

/-- The last segment of a path that ends with `.` is no component. -/
theorem exists_idle_of_endsInHere (h : Path.endsInHere path) :
    ∃ init idle, Path.segments path = init ++ [idle] ∧ Path.isComponent idle = false := by
  obtain ⟨init, idle, hlast⟩ := Path.segments_eq_concat path
  refine ⟨init, idle, hlast, ?_⟩
  cases hempty : idle.isEmpty with
  | true => rw [Path.isComponent, hempty]; rfl
  | false =>
    rw [Path.endsInHere, hlast, List.filter_append, List.filter_cons_of_pos (by simpa using hempty),
      List.filter_nil, List.getLast?_concat] at h
    obtain rfl := Option.some.inj (beq_iff_eq.1 h)
    decide

/-- **Making a directory** extends the disk, and reaches a directory. -/
theorem way_makeDirectory (hd : d.Rooted) (path : String) : Way d (d.makeDirectory path) := by
  unfold makeDirectory
  dsimp only
  split
  · exact .already hd hd.here
  · split
    · exact .nowhere hd
    · split
      · next hend =>
        have hway : Way d (d.makeWay d.here (Path.components path).dropLast) :=
          way_makeWay hd hd.here
        refine ⟨hway.extends_made, fun dir hdir => ?_⟩
        obtain ⟨init, idle, hlast, hidle⟩ := exists_idle_of_endsInHere hend
        unfold locate? at hdir
        split at hdir
        · cases hdir
        · rw [hlast] at hdir
          exact isDirectory_of_follow? hidle hdir
      · exact way_makeWay hd hd.here

/-- A path whose names do not lead up has no component that does. -/
theorem up_not_mem_components (hup : ".." ∉ Path.names path) : ".." ∉ Path.components path :=
  fun h => hup (List.mem_filter.2 ⟨h, by decide⟩)

/-- Nor has a relative one a segment that does. -/
theorem up_not_mem_segments (hrelative : Path.isAbsolute path = false)
    (hup : ".." ∉ Path.names path) : ".." ∉ Path.segments path := by
  rw [Path.names_eq hrelative] at hup
  exact fun h => hup (List.mem_filter.2 ⟨h, by decide⟩)

/-- **A path that does not lead up** is located by its names. -/
theorem locate?_eq_some (hup : ".." ∉ Path.names path) (h : d.locate? path = some dir) :
    dir = d.here ++ Path.names path := by
  unfold locate? at h
  split at h
  · cases h
  · next hpath =>
    have hrelative : Path.isAbsolute path = false := by simp_all
    rw [Path.names_eq hrelative]
    exact follow?_eq_some (up_not_mem_segments hrelative hup) h

/-- **The directory that is made** is where the names of its path lead. -/
theorem makeDirectory_eq_some (hd : d.Rooted) (hup : ".." ∉ Path.names path)
    (h : (d.makeDirectory path).2 = some dir) : dir = d.here ++ Path.names path := by
  unfold makeDirectory at h
  dsimp only at h
  split at h
  · next hempty =>
    obtain rfl : path = "" := by simpa using hempty
    obtain rfl := Option.some.inj h
    exact (List.append_nil _).symm
  · split at h
    · cases h
    · split at h
      · have hway : Way d (d.makeWay d.here (Path.components path).dropLast) :=
          way_makeWay hd hd.here
        rw [locate?_eq_some hup h, hway.extends_made.here]
      · exact makeWay_eq_some (up_not_mem_components hup) h

/-! ## A file with a name -/

section File

variable {base name : String} {content : Content}

/-- One more file, in place of what is there. -/
def addFile (d : Disk) (location : List String) (content : Content) : Disk :=
  { d with files := d.files.insert location content }

/-- A disk with one more file in a directory extends the disk. -/
theorem extends_addFile (hd : d.Rooted) (hlocation : d.isDirectory location) (name : String)
    (content : Content) : Extends d (d.addFile (location ++ [name]) content) where
  here := rfl
  directories _ h := h
  rooted := by
    refine ⟨hd.here, fun place last hthere => ?_⟩
    rcases Bool.or_eq_true_iff.1 hthere with hfile | hdirectory
    · rcases Dict.mem_keys_insert.1 (Dict.contains_iff.1 hfile) with hnew | hold
      · obtain rfl := List.append_inj_left' hnew rfl
        exact hlocation
      · exact hd.parent place last (Bool.or_eq_true_iff.2 (.inl (Dict.contains_iff.2 hold)))
    · exact hd.parent place last (Bool.or_eq_true_iff.2 (.inr hdirectory))

/-- **Whatever a write comes to,** the disk only gets more. -/
theorem extends_write (hd : d.Rooted) (path : String) (content : Content) :
    Extends d (d.write path content).1 := by
  unfold write
  split
  · exact .refl hd
  · have hway := way_makeDirectory hd ((Path.parent? path).getD "")
    dsimp only
    split
    · next dir name hdir _ =>
      split
      · unfold writeIn
        dsimp only
        split
        · exact hway.extends_made
        · have hreached := hway.reached dir hdir
          exact hway.extends_made.trans
            (extends_addFile hway.extends_made.rooted hreached name content)
      · exact hway.extends_made
    · exact hway.extends_made

/-- **What a write needs to succeed,** and what it comes to then. -/
theorem write_eq_of_done (hdone : (d.write path content).2 = true) :
    Path.isAbsolute path = false ∧ isPath path ∧
      ∃ dir name, (d.makeDirectory ((Path.parent? path).getD "")).2 = some dir ∧
        (Path.segments path).getLast? = some name ∧
        (d.write path content).1 =
          (d.makeDirectory ((Path.parent? path).getD "")).1.addFile (dir ++ [name]) content := by
  unfold write at hdone ⊢
  split at hdone
  · cases hdone
  · next hrelative =>
    rw [if_neg hrelative]
    dsimp only at hdone ⊢
    split at hdone
    · next dir name hdir hname =>
      rw [hdir, hname]
      split at hdone
      · next hpath =>
        unfold writeIn at hdone ⊢
        dsimp only at hdone ⊢
        split at hdone
        · cases hdone
        · next hfree =>
          rw [if_pos hpath, if_neg hfree]
          exact ⟨by simpa using hrelative, hpath, dir, name, rfl, rfl, rfl⟩
      · cases hdone
    · cases hdone

/-- **A file is written** where the names of its path lead. -/
theorem files_write_join (hd : d.Rooted) (hname : Path.IsName name) (hup : ".." ∉ Path.names base)
    (hdone : (d.write (Path.join base name) content).2 = true) :
    (d.write (Path.join base name) content).1.files =
      d.files.insert (d.here ++ Path.names base ++ [name]) content := by
  have hparent : Path.names ((Path.parent? (Path.join base name)).getD "") = Path.names base := by
    rw [Path.names, Path.components_parent?_join hname, Path.names]
  obtain ⟨-, -, dir, last, hdir, hlast, hwrite⟩ := write_eq_of_done hdone
  obtain rfl : name = last :=
    Option.some.inj ((Path.getLast?_segments_join hname.separator base).symm.trans hlast)
  have hplace : dir = d.here ++ Path.names base := by
    rw [← hparent] at hup ⊢
    exact makeDirectory_eq_some hd hup hdir
  rw [hwrite, addFile, files_makeDirectory, hplace]

/-- A path that is taken leads to what is there. -/
theorem isThere_of_isTaken (hup : ".." ∉ Path.names path) (htaken : d.isTaken path) :
    d.isThere (d.here ++ Path.names path) := by
  rw [isTaken] at htaken
  cases hlocate : d.locate? path with
  | none =>
    rw [hlocate] at htaken
    cases htaken
  | some dir =>
    rw [hlocate] at htaken
    rwa [locate?_eq_some hup hlocate] at htaken

/-- **What is there is found:** the path of a file or directory is taken. -/
theorem isTaken_of_isThere (hd : d.Rooted) (hname : Path.IsName name)
    (hup : ".." ∉ Path.names (Path.join base name))
    (hrelative : Path.isAbsolute (Path.join base name) = false)
    (hpath : isPath (Path.join base name))
    (hthere : d.isThere (d.here ++ Path.names (Path.join base name))) :
    d.isTaken (Path.join base name) := by
  have hsegments := up_not_mem_segments hrelative hup
  obtain ⟨init, hinit⟩ := List.getLast?_eq_some_iff.1
    (Path.getLast?_segments_join hname.separator base)
  have hempty : (Path.join base name).isEmpty = false := by
    have hne : Path.join base name ≠ "" := fun h => by
      have hcomponents := Path.components_join hname base
      rw [h] at hcomponents
      exact absurd hcomponents.symm (List.append_ne_nil_of_right_ne_nil _ (List.cons_ne_nil _ _))
    simpa using hne
  rw [Path.names_eq hrelative, hinit] at hthere
  rw [hinit] at hsegments
  have hfollow := follow?_of_isThere hd hname.component hsegments hthere
  rw [isTaken, locate?, hempty, hpath, hrelative, hinit]
  change ((d.follow? d.here (init ++ [name])).any _) = true
  rw [hfollow]
  exact hthere

end File

/-! ## Disks that are made of texts -/

/-- On an empty disk everything is in a directory. -/
theorem rooted_empty (name : String) : (empty name).Rooted where
  here := by simp [isDirectory, empty]
  parent location last hthere := by
    have hlocation : location = [] := by
      have hnone : (empty name).isFile (location ++ [last]) = false := rfl
      rw [isThere, hnone, Bool.false_or] at hthere
      have hname : location ++ [last] = [] ++ [name] := by simpa [isDirectory, empty] using hthere
      exact List.append_inj_left' hname rfl
    rw [hlocation]
    rfl

/-- **Everything is in a directory** on a disk with texts written on it. -/
theorem rooted_ofTexts (name : String) (texts : List (String × String)) :
    (ofTexts name texts).Rooted := by
  have hfold : ∀ d : Disk, d.Rooted →
      (texts.foldl (fun d e => (d.write e.1 (.text e.2)).1) d).Rooted := by
    induction texts with
    | nil => exact fun d hd => hd
    | cons e texts ih => exact fun d hd => ih _ (extends_write hd e.1 (.text e.2)).rooted
  exact hfold _ (rooted_empty name)

end Disk
end Pagewright
