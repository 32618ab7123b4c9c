import TapeMachine.Demo.Numbering
import TapeMachine.Proofs.FileSystem.Making
import TapeMachine.Proofs.Text.Digit

/-!
# What numbered directories are made

Numbers name directories by the decimal digits of any script (`Numbers`, `Highest`).  A call makes
the directory of the number after the greatest if all names that count as numerals can be read and
there can be a directory of that number (`makeNext_isOk_iff`, `exists_makeNext`), and so does every
further one (`makeNext_afresh`).  What can be in the way is a digit that is not decimal, a file that
has the name, or a name or path that is too long.
-/

namespace TapeMachine.Demo.Numbering

open TapeMachine.FileSystem
open TapeMachine.Text

variable {files files' : FileSystem} {top : Path} {es : List (String × FileTree)}
  {e : String × FileTree} {g k n : Nat}

/-! ### Numbers as names -/

theorem toList_integer (n : Nat) : (integer n).toList = decimal n := String.toList_ofList

theorem isAsciiDigit_of_mem_integer {c : Char} (h : c ∈ (integer n).toList) : isAsciiDigit c :=
  isAsciiDigit_of_mem_decimal (toList_integer n ▸ h)

theorem isName_integer (n : Nat) : IsName (integer n) := by
  have hdigit {c : Char} (hc : ¬ isAsciiDigit c) : c ∉ (integer n).toList :=
    fun hmem => hc (isAsciiDigit_of_mem_integer hmem)
  refine ⟨?_, ?_, hdigit (by decide)⟩
  · intro he
    exact decimal_ne_nil n (by rw [← toList_integer, he]; rfl)
  · intro he
    exact hdigit (show ¬ isAsciiDigit '.' by decide) (by rw [he]; decide)

theorem integer_ne_up (n : Nat) : integer n ≠ ".." := by
  intro he
  have hmem : '.' ∈ (integer n).toList := by
    rw [he]
    decide
  exact absurd (isAsciiDigit_of_mem_integer hmem) (by decide)

theorem standsFor_integer (n : Nat) : StandsFor (integer n).toList n := by
  rw [toList_integer]
  exact standsFor_decimal n

theorem isNumeral_of_standsFor {name : String} (h : StandsFor name.toList n) : isNumeral name := by
  obtain ⟨hne, hall⟩ := exists_standsFor_iff.1 ⟨n, h⟩
  have hempty : name.isEmpty = false := by simpa using hne
  have hdigits : name.toList.all isDigit := by
    rw [List.all_eq_true]
    intro c hc
    obtain ⟨v, hv⟩ := hall c hc
    rw [isDigit, hv]
    rfl
  rw [isNumeral, hempty, hdigits]
  rfl

/-- A numeral has digits, none of which is an underscore. -/
theorem of_isNumeral {name : String} (h : isNumeral name) :
    name.toList ≠ [] ∧ '_' ∉ name.toList := by
  obtain ⟨hempty, hdigits⟩ := Bool.and_eq_true_iff.1 h
  refine ⟨by simpa using hempty, fun hmem => ?_⟩
  exact absurd (List.all_eq_true.1 hdigits '_' hmem) (by decide)

/-! ### The greatest number -/

/-- A number names a directory: the digits of its name stand for it. -/
structure Numbers (k : Nat) (e : String × FileTree) : Prop where
  directory : e.2.isDirectory
  standsFor : StandsFor e.1.toList k

/-- The name of a directory can be read if it is a numeral: all its digits are decimal, and there
are not too many of them. -/
def CanRead (e : String × FileTree) : Prop :=
  e.2.isDirectory → isNumeral e.1 →
    (∀ c ∈ e.1.toList, ∃ v, decimalValue? c = some v) ∧ e.1.toList.length ≤ maxDigits

/-- The names of all directories that are numerals can be read. -/
def Readable (es : List (String × FileTree)) : Prop := ∀ e ∈ es, CanRead e

theorem Numbers.canRead (h : Numbers k e) (hlength : e.1.toList.length ≤ maxDigits) : CanRead e :=
  fun _ _ => ⟨(exists_standsFor_iff.1 ⟨k, h.standsFor⟩).2, hlength⟩

/-- The greatest number that names a directory among entries, or zero. -/
structure Highest (es : List (String × FileTree)) (g : Nat) : Prop where
  le : ∀ e ∈ es, ∀ k, Numbers k e → k ≤ g
  reached : g = 0 ∨ ∃ e ∈ es, Numbers g e

theorem Highest.unique {g' : Nat} (h : Highest es g) (h' : Highest es g') : g = g' := by
  apply Nat.le_antisymm
  · rcases h.reached with rfl | ⟨e, he, hg⟩
    · exact Nat.zero_le _
    · exact h'.le e he g hg
  · rcases h'.reached with rfl | ⟨e, he, hg⟩
    · exact Nat.zero_le _
    · exact h.le e he g' hg

theorem highest_nil : Highest [] 0 := ⟨nofun, .inl rfl⟩

theorem Highest.cons (h : Highest es g) (hk : Numbers k e) : Highest (e :: es) (max k g) := by
  constructor
  · intro e' he' k' hk'
    rcases List.mem_cons.1 he' with rfl | he'
    · rw [hk'.standsFor.unique hk.standsFor]
      exact Nat.le_max_left k g
    · exact (h.le e' he' k' hk').trans (Nat.le_max_right k g)
  · rcases Nat.le_total k g with hle | hle
    · rw [Nat.max_eq_right hle]
      exact h.reached.imp_right fun ⟨e', he', hg⟩ => ⟨e', List.mem_cons_of_mem e he', hg⟩
    · rw [Nat.max_eq_left hle]
      exact .inr ⟨e, List.mem_cons_self, hk⟩

theorem Highest.cons_of_not (h : Highest es g) (he : ∀ k, ¬ Numbers k e) :
    Highest (e :: es) g := by
  constructor
  · intro e' he' k' hk'
    rcases List.mem_cons.1 he' with rfl | he'
    · exact absurd hk' (he k')
    · exact h.le e' he' k' hk'
  · exact h.reached.imp_right fun ⟨e', he', hg⟩ => ⟨e', List.mem_cons_of_mem e he', hg⟩

theorem greatest_cons_of_not (h : (e.2.isDirectory && isNumeral e.1) = false) :
    greatest (e :: es) = greatest es := by
  obtain ⟨name, t⟩ := e
  rw [greatest, h]
  rfl

theorem greatest_cons_of_numbers (hk : Numbers k e) (hlength : e.1.toList.length ≤ maxDigits) :
    greatest (e :: es) = (greatest es).map (max k) := by
  have hnumeral := isNumeral_of_standsFor hk.standsFor
  obtain ⟨hne, hline⟩ := of_isNumeral hnumeral
  have hread := (readNumeral?_eq_some_iff hne hline).2 ⟨hk.standsFor, hlength⟩
  obtain ⟨name, t⟩ := e
  rw [greatest, if_pos (Bool.and_eq_true_iff.2 ⟨hk.directory, hnumeral⟩), hread]

theorem exists_greatest (h : Readable es) : ∃ g, greatest es = .ok g := by
  induction es with
  | nil => exact ⟨0, rfl⟩
  | cons e es ih =>
    obtain ⟨he, hes⟩ := List.forall_mem_cons.1 h
    obtain ⟨g, hg⟩ := ih hes
    cases hnamed : e.2.isDirectory && isNumeral e.1 with
    | false => exact ⟨g, (greatest_cons_of_not hnamed).trans hg⟩
    | true =>
      obtain ⟨hdirectory, hnumeral⟩ := Bool.and_eq_true_iff.1 hnamed
      obtain ⟨hall, hlength⟩ := he hdirectory hnumeral
      obtain ⟨k, hk⟩ := exists_standsFor_iff.2 ⟨(of_isNumeral hnumeral).1, hall⟩
      refine ⟨max k g, ?_⟩
      rw [greatest_cons_of_numbers ⟨hdirectory, hk⟩ hlength, hg]
      rfl

theorem greatest_spec (h : greatest es = .ok g) : Readable es ∧ Highest es g := by
  induction es generalizing g with
  | nil =>
    obtain rfl := Except.ok.inj h
    exact ⟨nofun, highest_nil⟩
  | cons e es ih =>
    cases hnamed : e.2.isDirectory && isNumeral e.1 with
    | false =>
      have hnot : ¬ (e.2.isDirectory ∧ isNumeral e.1) := by
        rw [← Bool.and_eq_true_iff, hnamed]
        exact Bool.false_ne_true
      rw [greatest_cons_of_not hnamed] at h
      obtain ⟨hread, hg⟩ := ih h
      refine ⟨List.forall_mem_cons.2 ⟨?_, hread⟩, hg.cons_of_not fun k hk => ?_⟩
      · exact fun hdirectory hnumeral => absurd ⟨hdirectory, hnumeral⟩ hnot
      · exact hnot ⟨hk.directory, isNumeral_of_standsFor hk.standsFor⟩
    | true =>
      obtain ⟨hdirectory, hnumeral⟩ := Bool.and_eq_true_iff.1 hnamed
      obtain ⟨hne, hline⟩ := of_isNumeral hnumeral
      cases hk : readNumeral? e.1.toList with
      | none =>
        rw [greatest, if_pos hnamed, hk] at h
        cases h
      | some k =>
        obtain ⟨hstands, hlength⟩ := (readNumeral?_eq_some_iff hne hline).1 hk
        have hnumbers : Numbers k e := ⟨hdirectory, hstands⟩
        rw [greatest_cons_of_numbers hnumbers hlength] at h
        obtain ⟨g', hg', rfl⟩ := map_eq_ok_iff.1 h
        obtain ⟨hread, hhighest⟩ := ih hg'
        exact ⟨List.forall_mem_cons.2 ⟨hnumbers.canRead hlength, hread⟩, hhighest.cons hnumbers⟩

/-- **The greatest number is found** if the names can be read. -/
theorem greatest_eq_ok_iff : greatest es = .ok g ↔ Readable es ∧ Highest es g := by
  refine ⟨greatest_spec, fun ⟨hread, hg⟩ => ?_⟩
  obtain ⟨g', hg'⟩ := exists_greatest hread
  rw [hg', hg.unique (greatest_spec hg').2]

/-! ### What a directory holds -/

/-- A path is that of a directory with some entries, or of one without any that is missing but can
be made. -/
inductive Holds (files : FileSystem) (top : Path) : List (String × FileTree) → Prop
  | there {p : Place} {es : List (String × FileTree)} (hp : files.locate top.text = .ok p)
      (hhere : p.here = .directory es) : Holds files top es
  | missing {names rest : List String} {name : String} {p : Place}
      (hnames : top.names = names ++ name :: rest) (hp : files.reach ⟨top.slashes, names⟩ = .ok p)
      (hmissing : p.here.lookUp name = .error .missing) (hcan : ∀ n ∈ name :: rest, CanName n)
      (hshort : top.text.utf8ByteSize < maxPathBytes) : Holds files top []

theorem ensure_eq_ok_iff {path : Path} (hnul : hasNul path.text = false) :
    ensure files path = .ok files' ↔ files.makeDirectories path = .ok files' := by
  rw [ensure, hnul]
  exact mapError_eq_ok_iff

theorem Holds.exists_ensure (h : Holds files top es) (htop : top.IsProper)
    (hnul : hasNul top.text = false) :
    ∃ files₁ p, ensure files top = .ok files₁ ∧ files₁.locate top.text = .ok p ∧
      p.here = .directory es ∧ files.Keeps p.names files₁ := by
  cases h with
  | @there p es hp hhere =>
    have hdirectory := FileTree.isDirectory_of_eq hhere
    exact ⟨files, p, (ensure_eq_ok_iff hnul).2 (makeDirectories_of_there htop hp hdirectory), hp,
      hhere, .refl _ _⟩
  | @missing names rest name q hnames hp hmissing hcan hshort =>
    obtain ⟨slashes, topNames⟩ := top
    obtain rfl : topNames = names ++ name :: rest := hnames
    obtain ⟨files₁, p, hmake, hreach, hempty, hkeeps⟩ :=
      exists_makeDirectories htop hshort hcan hp hmissing
    exact ⟨files₁, p, (ensure_eq_ok_iff hnul).2 hmake,
      locate_text htop hshort hreach (FileTree.isDirectory_of_eq hempty), hempty, hkeeps⟩

/-- The directory of a number. -/
def numbered (top : Path) (n : Nat) : Path := top.child (integer n)

theorem isProper_numbered (htop : top.IsProper) (n : Nat) : (numbered top n).IsProper :=
  htop.child (isName_integer n)

theorem hasNul_numbered (htop : top.IsProper) (hnul : hasNul top.text = false) (n : Nat) :
    hasNul (numbered top n).text = false := by
  refine hasNul_child (isProper_numbered htop n) hnul fun hmem => ?_
  exact absurd (isAsciiDigit_of_mem_integer hmem) (by decide)

/-- There can be a directory of a number: nothing but a directory has its name, and neither its name
nor its path is too long. -/
structure CanMake (top : Path) (es : List (String × FileTree)) (n : Nat) : Prop where
  free : ∀ bytes, (integer n, FileTree.file bytes) ∉ es
  name_le : (integer n).utf8ByteSize ≤ FileTree.maxNameBytes
  path_lt : (numbered top n).text.utf8ByteSize < maxPathBytes

theorem numbers_integer (n : Nat) (es' : List (String × FileTree)) :
    Numbers n (integer n, .directory es') := ⟨rfl, standsFor_integer n⟩

theorem length_toList_le (s : String) : s.toList.length ≤ s.utf8ByteSize := by
  rw [← String.utf8Len_toList]
  induction s.toList with
  | nil => exact Nat.zero_le _
  | cons c cs ih => exact Nat.add_le_add ih c.utf8Size_pos

theorem CanMake.length_le (h : CanMake top es n) : (integer n).toList.length ≤ maxDigits :=
  (length_toList_le _).trans (h.name_le.trans (by decide))

/-- Beyond the greatest number, nothing has the name of a directory that can be made. -/
theorem CanMake.entry?_eq_none (h : CanMake top es n) (hg : Highest es g) (hn : g < n) :
    FileTree.entry? (.directory es) (integer n) = none := by
  rw [FileTree.entry?_eq_none_iff]
  intro e he hnamed
  obtain ⟨name, t⟩ := e
  obtain rfl : name = integer n := hnamed
  cases t with
  | file bytes => exact h.free bytes he
  | directory es' => exact absurd (hg.le _ he n (numbers_integer n es')) (not_le.2 hn)

theorem CanMake.lookUp (h : CanMake top es n) (hg : Highest es g) (hn : g < n) :
    (FileTree.directory es).lookUp (integer n) = .error .missing :=
  FileTree.lookUp_eq_missing_iff.2 ⟨rfl, h.name_le, h.entry?_eq_none hg hn⟩

/-- There can be a directory of the number after the greatest if nothing but a directory is found
under its name, and neither that nor the path is too long. -/
theorem canMake_succ_iff (hg : Highest es g) :
    CanMake top es (g + 1) ↔
      (numbered top (g + 1)).text.utf8ByteSize < maxPathBytes ∧
        (integer (g + 1 : Nat)).utf8ByteSize ≤ FileTree.maxNameBytes ∧
        ∀ t, FileTree.entry? (.directory es) (integer (g + 1 : Nat)) = some t → t.isDirectory := by
  constructor
  · intro h
    refine ⟨h.path_lt, h.name_le, fun t ht => ?_⟩
    rw [h.entry?_eq_none hg (Nat.lt_succ_self g)] at ht
    cases ht
  · rintro ⟨hshort, hname, hentry⟩
    refine ⟨fun bytes hmem => ?_, hname, hshort⟩
    cases ht : FileTree.entry? (.directory es) (integer (g + 1 : Nat)) with
    | none => exact FileTree.entry?_eq_none_iff.1 ht _ hmem rfl
    | some t =>
      have hmem' := FileTree.mem_entries_of_eq_some ht
      cases t with
      | file bytes => exact absurd (hentry _ ht) Bool.false_ne_true
      | directory es' =>
        exact absurd (hg.le _ hmem' (g + 1) (numbers_integer (g + 1) es')) (Nat.not_succ_le_self g)

/-- Nothing is where a directory can be made. -/
theorem Holds.locate_numbered (h : Holds files top es) (htop : top.IsProper) (hg : Highest es g)
    (hcan : CanMake top es n) (hn : g < n) :
    files.locate (numbered top n).text = .error .missing := by
  have hproper := isProper_numbered htop n
  refine locate_text_error hproper hcan.path_lt (by simp [numbered, Path.child]) ?_
  cases h with
  | @there p es hp hhere =>
    rw [numbered, reach_child_of_reach hproper (integer_ne_up n) (reach_of_locate htop hp), hhere,
      hcan.lookUp hg hn]
    rfl
  | @missing names rest name p hnames hp hmissing hcan' hshort =>
    have hmissing' : files.reach top = .error .missing := by
      obtain ⟨slashes, topNames⟩ := top
      obtain rfl : topNames = names ++ name :: rest := hnames
      exact reach_eq_missing htop (hcan' name List.mem_cons_self).not_up hp hmissing
    rw [numbered, reach_child hproper, hmissing']
    rfl

/-! ### One call -/

theorem makeNext_eq {files₁ : FileSystem} {p : Place} (hnul : hasNul top.text = false)
    (hensure : ensure files top = .ok files₁) (hp : files₁.locate top.text = .ok p)
    (hhere : p.here = .directory es) :
    makeNext files top = greatest es >>= fun g =>
      (ensure files₁ (numbered top (g + 1))).map fun files₂ =>
        (files₂, numbered top (g + 1), g + 1) := by
  have hentries : entriesAt files₁ top = .ok es := by
    rw [entriesAt, hnul, hp]
    show (if p.here.isDirectory then _ else _) = _
    rw [hhere]
    rfl
  rw [makeNext, hensure, ok_bind, hentries, ok_bind]
  rfl

/-- **When a directory is made**: the names of those that are there can be read, and there can be
one of the number after the greatest. -/
theorem makeNext_isOk_iff (htop : top.IsProper) (hnul : hasNul top.text = false)
    (h : Holds files top es) :
    (∃ r, makeNext files top = .ok r) ↔
      Readable es ∧ ∃ g, Highest es g ∧ CanMake top es (g + 1) := by
  obtain ⟨files₁, p, hensure, hp, hhere, -⟩ := h.exists_ensure htop hnul
  have hreach := reach_of_locate htop hp
  have hchild {g : Nat} (hg : Highest es g) :
      (∃ files₂, ensure files₁ (numbered top (g + 1)) = .ok files₂) ↔ CanMake top es (g + 1) := by
    rw [canMake_succ_iff hg, ← hhere]
    refine Iff.trans (exists_congr fun _ => ensure_eq_ok_iff (hasNul_numbered htop hnul (g + 1))) ?_
    exact makeDirectories_child_isOk_iff (isProper_numbered htop (g + 1)) (integer_ne_up (g + 1))
      hreach (FileTree.isDirectory_of_eq hhere)
  rw [makeNext_eq hnul hensure hp hhere]
  constructor
  · rintro ⟨r, hr⟩
    obtain ⟨g, hgreatest, hr⟩ := bind_eq_ok_iff.1 hr
    obtain ⟨files₂, hfiles₂, -⟩ := map_eq_ok_iff.1 hr
    obtain ⟨hread, hg⟩ := greatest_spec hgreatest
    exact ⟨hread, g, hg, (hchild hg).1 ⟨files₂, hfiles₂⟩⟩
  · rintro ⟨hread, g, hg, hcan⟩
    obtain ⟨files₂, hfiles₂⟩ := (hchild hg).2 hcan
    rw [greatest_eq_ok_iff.2 ⟨hread, hg⟩, ok_bind, hfiles₂]
    exact ⟨_, rfl⟩

/-- **A call makes the directory of the number after the greatest.**  Nothing was there; now an
empty directory is, which is the last of the entries, and the others are as they were. -/
theorem exists_makeNext (htop : top.IsProper) (hnul : hasNul top.text = false)
    (h : Holds files top es) (hread : Readable es) (hg : Highest es g)
    (hcan : CanMake top es (g + 1)) :
    ∃ files' p r, makeNext files top = .ok (files', numbered top (g + 1), g + 1) ∧
      files.locate (numbered top (g + 1)).text = .error .missing ∧
      files'.locate (numbered top (g + 1)).text = .ok r ∧ r.here = .empty ∧
      files'.locate top.text = .ok p ∧
      p.here = .directory (es ++ [(integer (g + 1 : Nat), .empty)]) ∧
      files.Keeps p.names files' := by
  obtain ⟨files₁, p, hensure, hp, hhere, hkeeps⟩ := h.exists_ensure htop hnul
  have hproper := isProper_numbered htop (g + 1)
  have hreach := reach_of_locate htop hp
  have hmissing := hcan.lookUp hg (Nat.lt_succ_self g)
  rw [← hhere] at hmissing
  obtain ⟨files₂, hmake, hgains⟩ := exists_makeDirectories_child hproper hcan.path_lt
    (integer_ne_up (g + 1)) hreach hmissing
  obtain ⟨⟨p', hp', hnames, hhere'⟩, r, hr, -, hempty⟩ :=
    hgains.exists_new hproper (integer_ne_up (g + 1)) hcan.name_le hreach
  rw [hhere] at hhere'
  refine ⟨files₂, p', r, ?_, ?_, ?_, hempty, ?_, hhere', ?_⟩
  · rw [makeNext_eq hnul hensure hp hhere, greatest_eq_ok_iff.2 ⟨hread, hg⟩, ok_bind,
      (ensure_eq_ok_iff (hasNul_numbered htop hnul (g + 1))).2 hmake]
    rfl
  · exact h.locate_numbered htop hg hcan (Nat.lt_succ_self g)
  · exact locate_text hproper hcan.path_lt hr (FileTree.isDirectory_of_eq hempty)
  · exact locate_text htop ((length_text_le hproper).trans_lt hcan.path_lt) hp'
      (FileTree.isDirectory_of_eq hhere')
  · rw [hnames]
    exact hkeeps.trans hgains.keeps

/-! ### Several calls -/

/-- The entries of the directories of so many numbers after one. -/
def numberedEntries (g times : Nat) : List (String × FileTree) :=
  (List.range' (g + 1) times).map fun (n : Nat) => (integer n, .empty)

theorem numberedEntries_succ (g times : Nat) :
    numberedEntries g (times + 1)
      = numberedEntries g times ++ [(integer (g + times + 1 : Nat), .empty)] := by
  have hlast : g + 1 + 1 * times = g + times + 1 := by omega
  rw [numberedEntries, List.range'_concat, List.map_append, hlast]
  rfl

theorem Highest.concat (h : Highest es g) (hk : Numbers k e) (hgk : g ≤ k) :
    Highest (es ++ [e]) k := by
  have hcons := h.cons hk
  rw [Nat.max_eq_left hgk] at hcons
  have hmem (e') : e' ∈ es ++ [e] ↔ e' ∈ e :: es := by
    rw [List.mem_append, List.mem_singleton, List.mem_cons, or_comm]
  exact ⟨fun e' he' => hcons.le e' ((hmem e').1 he'),
    hcons.reached.imp_right fun ⟨e', he', hk⟩ => ⟨e', (hmem e').2 he', hk⟩⟩

/-- The directories that are made have the greatest numbers. -/
theorem highest_numberedEntries (hread : Readable es) (hg : Highest es g) (times : Nat)
    (hcan : ∀ n, g < n → n ≤ g + times → CanMake top es n) :
    Readable (es ++ numberedEntries g times) ∧
      Highest (es ++ numberedEntries g times) (g + times) := by
  induction times with
  | zero =>
    rw [numberedEntries, List.range'_zero, List.map_nil, List.append_nil]
    exact ⟨hread, hg⟩
  | succ times ih =>
    obtain ⟨hread', hg'⟩ := ih fun n hn hle => hcan n hn (by omega)
    have hnumbers := numbers_integer (g + times + 1) []
    have hlength := (hcan (g + times + 1) (by omega) (by omega)).length_le
    rw [numberedEntries_succ, ← List.append_assoc]
    refine ⟨List.forall_mem_append.2 ⟨hread', ?_⟩, hg'.concat hnumbers (by omega)⟩
    exact List.forall_mem_singleton.2 (hnumbers.canRead hlength)

theorem CanMake.append_numberedEntries (h : CanMake top es n) (g times : Nat) :
    CanMake top (es ++ numberedEntries g times) n := by
  refine ⟨fun bytes hmem => ?_, h.name_le, h.path_lt⟩
  rcases List.mem_append.1 hmem with hmem | hmem
  · exact h.free bytes hmem
  · obtain ⟨m, -, he⟩ := List.mem_map.1 hmem
    have hfile : FileTree.empty = .file bytes := congrArg Prod.snd he
    cases hfile

/-- One call more after several. -/
theorem makeSeveral_concat {times : Nat} {files₁ files₂ : FileSystem} {made : List (Path × Nat)}
    {path : Path} (h : makeSeveral top times files = .ok (files₁, made))
    (hnext : makeNext files₁ top = .ok (files₂, path, n)) :
    makeSeveral top (times + 1) files = .ok (files₂, made ++ [(path, n)]) := by
  induction times generalizing files made with
  | zero =>
    obtain ⟨rfl, rfl⟩ := Prod.mk.inj (Except.ok.inj h)
    rw [makeSeveral, hnext]
    rfl
  | succ times ih =>
    obtain ⟨⟨files', path', n'⟩, hfirst, h⟩ := bind_eq_ok_iff.1 h
    obtain ⟨⟨files'', made'⟩, hrest, h⟩ := bind_eq_ok_iff.1 h
    obtain ⟨rfl, rfl⟩ := Prod.mk.inj (Except.ok.inj h)
    rw [makeSeveral, hfirst, ok_bind]
    dsimp only
    rw [ih hrest]
    rfl

/-- **Every call makes a new directory of a higher number.**  After any number of calls, one more
makes the directory of the next number, where nothing was before.  In the end the directories that
were made are there, each of them empty, behind the entries that were there before; and nothing has
changed elsewhere. -/
theorem makeNext_afresh (htop : top.IsProper) (hnul : hasNul top.text = false)
    (h : Holds files top es) (hread : Readable es) (hg : Highest es g) (times : Nat)
    (hcan : ∀ n, g < n → n ≤ g + times + 1 → CanMake top es n) :
    ∃ files₁ files₂ p r,
      makeSeveral top times files
          = .ok (files₁, (List.range' (g + 1) times).map fun n => (numbered top n, n)) ∧
        makeNext files₁ top = .ok (files₂, numbered top (g + times + 1), g + times + 1) ∧
        files₁.locate (numbered top (g + times + 1)).text = .error .missing ∧
        files₂.locate (numbered top (g + times + 1)).text = .ok r ∧ r.here = .empty ∧
        files₂.locate top.text = .ok p ∧
        p.here = .directory (es ++ numberedEntries g (times + 1)) ∧
        files.Keeps p.names files₂ := by
  induction times with
  | zero =>
    obtain ⟨files', p, r, hmade, hrest⟩ := exists_makeNext htop hnul h hread hg
      (hcan (g + 1) (by omega) (by omega))
    exact ⟨files, files', p, r, rfl, hmade, hrest⟩
  | succ times ih =>
    obtain ⟨files₁, files₂, p, r, hseveral, hnext, -, -, -, hp, hhere, hkeeps⟩ :=
      ih fun n hn hle => hcan n hn (by omega)
    obtain ⟨hread', hg'⟩ := highest_numberedEntries hread hg (times + 1)
      fun n hn hle => hcan n hn (by omega)
    obtain ⟨files₃, p', r', hmade, hmissing, hr', hempty, hp', hhere', hkeeps'⟩ :=
      exists_makeNext htop hnul (.there hp hhere) hread' hg'
        ((hcan (g + (times + 1) + 1) (by omega) le_rfl).append_numberedEntries g (times + 1))
    -- What is made is made in the same directory.
    have hnames : p'.names = p.names := by
      obtain ⟨q, hq, hnames, -⟩ := hkeeps' _ p hp
      obtain rfl := Except.ok.inj (hp'.symm.trans hq)
      exact hnames
    refine ⟨files₂, files₃, p', r', ?_, hmade, hmissing, hr', hempty, hp', ?_, ?_⟩
    · have hlast : g + 1 + 1 * times = g + times + 1 := by omega
      rw [makeSeveral_concat hseveral hnext, List.range'_concat, List.map_append, hlast]
      rfl
    · rw [hhere', numberedEntries_succ g (times + 1), List.append_assoc]
    · rw [hnames] at hkeeps' ⊢
      exact hkeeps.trans hkeeps'

/-- Files of which a directory named `top` has some. -/
def withTop (es : List (String × FileTree)) : FileSystem :=
  ⟨.directory [("top", .directory es)], []⟩

/-- The path of that directory. -/
def topPath : Path := ⟨"", ["top"]⟩

theorem isProper_topPath : topPath.IsProper := by
  refine ⟨.inl rfl, fun name hname => ?_⟩
  obtain rfl := List.mem_singleton.1 hname
  exact ⟨by decide, by decide, by decide⟩

theorem hasNul_topPath : hasNul topPath.text = false := by decide

theorem holds_withTop (es : List (String × FileTree)) : Holds (withTop es) topPath es := by
  have hreach : (withTop es).reach topPath
      = .ok ⟨["top"], .directory es, [([], .directory [("top", .directory es)])]⟩ := by
    rfl
  exact .there (locate_text isProper_topPath (by decide) hreach rfl) rfl

/-- Beside a directory whose name is read as seven and a file, the next ones are eight and nine. -/
theorem makeNext_afresh_of_leading_zeros :
    ∃ files₁ files₂ p,
      makeSeveral topPath 1 (withTop [("007", .empty), ("10", .file [])])
          = .ok (files₁, [(numbered topPath 8, 8)]) ∧
        makeNext files₁ topPath = .ok (files₂, numbered topPath 9, 9) ∧
        files₂.locate topPath.text = .ok p ∧
        p.here = .directory [("007", .empty), ("10", .file []), ("8", .empty), ("9", .empty)] := by
  have hgreatest : greatest [("007", .empty), ("10", .file [])] = .ok 7 := by decide +kernel
  obtain ⟨hread, hg⟩ := greatest_eq_ok_iff.1 hgreatest
  have height : integer (8 : Nat) = "8" := by decide +kernel
  have hnine : integer (9 : Nat) = "9" := by decide +kernel
  have hcan : ∀ n, 7 < n → n ≤ 7 + 1 + 1 →
      CanMake topPath [("007", .empty), ("10", .file [])] n := by
    intro n hn hle
    obtain rfl | rfl : n = 8 ∨ n = 9 := by omega
    · exact ⟨fun bytes => by rw [height]; simp, by decide +kernel, by decide +kernel⟩
    · exact ⟨fun bytes => by rw [hnine]; simp, by decide +kernel, by decide +kernel⟩
  obtain ⟨files₁, files₂, p, r, hseveral, hnext, -, -, -, hp, hhere, -⟩ :=
    makeNext_afresh isProper_topPath hasNul_topPath (holds_withTop _) hread hg 1 hcan
  have hentries : numberedEntries 7 2
      = [(integer (8 : Nat), .empty), (integer (9 : Nat), .empty)] := rfl
  rw [hentries, height, hnine] at hhere
  exact ⟨files₁, files₂, p, hseveral, hnext, hp, hhere⟩

/-- **Not every call makes a directory**: a directory whose name is a superscript, which counts as a
digit but not as a number, and a file whose name is the next number are in its way. -/
theorem makeNext_fails :
    makeNext (withTop [("²", .empty)]) topPath = .error (.notANumber "²") ∧
      ¬ ∃ r, makeNext (withTop [("1", .file [])]) topPath = .ok r := by
  constructor
  · have hgreatest : greatest [("²", .empty)] = .error (.notANumber "²") := by decide +kernel
    obtain ⟨files₁, p, hensure, hp, hhere, -⟩ :=
      (holds_withTop [("²", .empty)]).exists_ensure isProper_topPath hasNul_topPath
    rw [makeNext_eq hasNul_topPath hensure hp hhere, hgreatest]
    rfl
  · have hgreatest : greatest [("1", .file [])] = .ok 0 := by decide +kernel
    rw [makeNext_isOk_iff isProper_topPath hasNul_topPath (holds_withTop _)]
    rintro ⟨-, g, hg, hcan⟩
    obtain rfl := hg.unique (greatest_spec hgreatest).2
    have hone : integer (0 + 1 : Nat) = "1" := by decide +kernel
    exact hcan.free [] (hone ▸ List.mem_cons_self)

end TapeMachine.Demo.Numbering
